import CislunarDtn.HardyFiles
import CislunarDtn.IonDeclarations

/-!
# Listening sides of the links

Every link has a local side of its own, with an engine and a port or a port
alone. The files have one LTP listener, taken from the first link, and inducts
of TCP and UDP links at the remote host, so that a change of that host changes
what the node listens to.
-/

namespace CislunarDtn.ListeningSides

open DecimalTexts NetworkConfigurations IonScripts IonDeclarations HardyFiles

section listeners

variable (config : NetworkConfiguration)

/-- Port of the LTP listener that a command starts. -/
def listenerIn : Command → Option UInt16
  | .startLtp port => some port
  | _ => none

/-- The LTP listener of an .ltprc file: the engine of the first span, which leads back to the node
itself, and the port of the listener that is started. -/
def ltprcListener (lines : List Line) : Option (UInt64 × UInt16) :=
  match declared spanIn lines, declared listenerIn lines with
  | (engineId, _) :: _, [port] => some (engineId, port)
  | _, _ => none

theorem listeners_ltprcLines :
    declared listenerIn (ltprcLines config) = [findLocalLtpPort config] := by
  have hspan (link : ConvergenceLayerLink) : declared listenerIn (writeLtprcSpan link) = [] := by
    cases link <;> rfl
  simp [ltprcLines, flatMap_links, declared_command_cons, hspan, listenerIn, loopbackSpan]

theorem ltprcListener_ltprcLines : ltprcListener (ltprcLines config) =
    some (config.localNode.nodeNumber, findLocalLtpPort config) := by
  rw [ltprcListener, spans_ltprcLines, listeners_ltprcLines]

/-- The listener of Hardy's LTP server. -/
def claListener (cla : LtpCla) : UInt64 × UInt16 := (cla.localEngineId, cla.localPort)

/-- The first of the links that are kept is the first with a local LTP side. -/
theorem localSide_filter (pairs : List (Neighbor × ConvergenceLayerLink)) :
    ((pairs.filter fun (_, l) => isLtpUdp l).head?.bind fun pair => localSide pair.2) =
      (pairs.map Prod.snd).findSome? localSide := by
  induction pairs with
  | nil => rfl
  | cons pair pairs ih =>
    obtain ⟨neighbor, link⟩ := pair
    cases link with
    | ltpUdp => rfl
    | tcpCl | kiss | udp => exact ih

theorem claListener_ltpCla :
    (ltpCla config).map claListener = config.links.findSome? localSide := by
  have hlinks : (config.neighbors.flatMap fun n => n.links.map fun l => (n, l)).map Prod.snd =
      config.links := by
    simp [List.map_flatMap, NetworkConfiguration.links]
  have hfirst : ((ltpLinks config).head?.bind fun pair => localSide pair.2) =
      config.links.findSome? localSide := by
    rw [ltpLinks, localSide_filter, hlinks]
  rw [← hfirst, ltpCla]
  cases ltpLinks config with
  | nil => rfl
  | cons pair rest =>
    have hside : (localSide pair.2).map id = localSide pair.2 := Option.map_id_apply
    rw [Option.map_map]
    exact hside

/-- ION takes the port of the same link. -/
theorem findLocalLtpPort_eq :
    findLocalLtpPort config = ((config.links.findSome? localSide).map Prod.snd).getD 1113 := by
  have hport : ltpLocalPort = fun link => (localSide link).map Prod.snd := by
    funext link
    cases link <;> rfl
  rw [findLocalLtpPort, hport, List.map_findSome?]
  rfl

end listeners

section erasure

/-- A link without its remote host and port. -/
def eraseRemote : ConvergenceLayerLink → ConvergenceLayerLink
  | .ltpUdp id localEngineId remoteEngineId _ _ localPort mtu =>
    .ltpUdp id localEngineId remoteEngineId [] 0 localPort mtu
  | .tcpCl id _ _ localPort => .tcpCl id [] 0 localPort
  | .kiss id tncDevice localEngineId remoteEngineId frameSize =>
    .kiss id tncDevice localEngineId remoteEngineId frameSize
  | .udp id _ _ localPort => .udp id [] 0 localPort

/-- A configuration whose links are changed one by one. -/
def mapLinks (change : ConvergenceLayerLink → ConvergenceLayerLink)
    (config : NetworkConfiguration) : NetworkConfiguration :=
  { config with
    neighbors := config.neighbors.map fun n => { n with links := n.links.map change } }

/-- A configuration without the remote hosts and ports. -/
def eraseRemotes (config : NetworkConfiguration) : NetworkConfiguration :=
  mapLinks eraseRemote config

/-- Configurations that differ in remote hosts and ports only. -/
def SameButRemotes (config config' : NetworkConfiguration) : Prop :=
  eraseRemotes config = eraseRemotes config'

variable (config : NetworkConfiguration)

theorem links_mapLinks (change : ConvergenceLayerLink → ConvergenceLayerLink) :
    (mapLinks change config).links = config.links.map change := by
  simp [NetworkConfiguration.links, mapLinks, List.flatMap_map, List.map_flatMap]

theorem links_eraseRemotes : (eraseRemotes config).links = config.links.map eraseRemote :=
  links_mapLinks config eraseRemote

theorem localSide_eraseRemote (link : ConvergenceLayerLink) :
    localSide (eraseRemote link) = localSide link := by
  cases link <;> rfl

theorem firstSide_eraseRemotes :
    (eraseRemotes config).links.findSome? localSide = config.links.findSome? localSide := by
  have hside : localSide ∘ eraseRemote = localSide := funext localSide_eraseRemote
  rw [links_eraseRemotes, List.findSome?_map, hside]

/-- The LTP listeners have nothing from remote hosts and ports. -/
theorem ltprcListener_eraseRemotes : ltprcListener (ltprcLines (eraseRemotes config)) =
    ltprcListener (ltprcLines config) := by
  rw [ltprcListener_ltprcLines, ltprcListener_ltprcLines, findLocalLtpPort_eq, findLocalLtpPort_eq,
    firstSide_eraseRemotes]
  rfl

theorem claListener_eraseRemotes : (ltpCla (eraseRemotes config)).map claListener =
    (ltpCla config).map claListener := by
  rw [claListener_ltpCla, claListener_ltpCla, firstSide_eraseRemotes]

/-- Nor have Hardy's TCP listeners. -/
theorem clasEntries_eraseRemotes : clasEntries (eraseRemotes config) = clasEntries config := by
  have hfilter : isTcpCl ∘ eraseRemote = isTcpCl := by
    funext link
    cases link <;> rfl
  have hentry : claEntry ∘ Prod.map eraseRemote id = claEntry := by
    funext ⟨link, idx⟩
    cases link <;> rfl
  rw [clasEntries, links_eraseRemotes, List.filter_map, hfilter, List.zipIdx_map,
    List.filterMap_map, hentry]
  rfl

/-- Inducts of links that use LTP have nothing from them either. -/
theorem inductOf_eraseRemote {link : ConvergenceLayerLink} (h : isLtp link = true) :
    inductOf (eraseRemote link) = inductOf link := by
  cases link with
  | ltpUdp | kiss => rfl
  | tcpCl | udp => exact absurd h Bool.false_ne_true

theorem isLtp_eraseRemote (link : ConvergenceLayerLink) :
    isLtp (eraseRemote link) = isLtp link := by
  cases link <;> rfl

end erasure

section honoured

/-- The duct through which a TCP or UDP link receives at a host. -/
def inductAt (host : Text) : ConvergenceLayerLink → Option Duct
  | .tcpCl _ _ _ localPort => some (.tcp host (localPort.getD 4556))
  | .udp _ _ _ localPort => some (.udp host (localPort.getD 4556))
  | _ => none

/-- The listening side has the local parameters of the links and nothing else. -/
structure Honoured (isLocal : Text → Prop) (config : NetworkConfiguration) : Prop where
  /-- LTP over UDP links have listeners for their engines at their ports. -/
  ltp : ∀ link ∈ config.links, ∀ side, localSide link = some side →
    ltprcListener (ltprcLines config) = some side ∧ (ltpCla config).map claListener = some side
  /-- TCP and UDP links have inducts at local addresses and their ports. -/
  inducts : ∀ link ∈ config.links, isLtp link = false → ∃ host duct, isLocal host ∧
    inductAt host link = some duct ∧ Line.command (.addInduct duct) ∈ bprcLines config
  /-- Remote hosts and ports make no difference. -/
  remotes : ∀ config', SameButRemotes config' config →
    ltprcListener (ltprcLines config') = ltprcListener (ltprcLines config) ∧
      (ltpCla config').map claListener = (ltpCla config).map claListener ∧
      clasEntries config' = clasEntries config ∧
      declared inductIn (bprcLines config') = declared inductIn (bprcLines config)

/-- Links that the one listener of the node can serve. -/
structure OneListener (config : NetworkConfiguration) : Prop where
  /-- The engine is that of the node. -/
  engine : ∀ link ∈ config.links, ∀ side, localSide link = some side →
    side.1 = config.localNode.nodeNumber
  /-- The port is the same for all links. -/
  port : ∀ link ∈ config.links, ∀ link' ∈ config.links, ∀ side side',
    localSide link = some side → localSide link' = some side' → side.2 = side'.2

variable {config : NetworkConfiguration}

/-- All LTP over UDP links are served exactly if one listener can serve them. -/
theorem served_iff : (∀ link ∈ config.links, ∀ side, localSide link = some side →
    ltprcListener (ltprcLines config) = some side ∧
      (ltpCla config).map claListener = some side) ↔ OneListener config := by
  rw [ltprcListener_ltprcLines, claListener_ltpCla]
  constructor
  · intro h
    have hserved {link side} (hl : link ∈ config.links) (hside : localSide link = some side) :
        (config.localNode.nodeNumber, findLocalLtpPort config) = side :=
      Option.some.inj (h link hl side hside).1
    constructor
    · intro link hl side hside
      rw [← hserved hl hside]
    · intro link hl link' hl' side side' hside hside'
      rw [← hserved hl hside, ← hserved hl' hside']
  · intro h link hl side hside
    obtain ⟨first, hfirst⟩ : ∃ first, config.links.findSome? localSide = some first := by
      refine Option.isSome_iff_exists.mp (List.findSome?_isSome_iff.mpr ⟨link, hl, ?_⟩)
      rw [hside]
      rfl
    obtain ⟨link', hl', hside'⟩ := List.exists_of_findSome?_eq_some hfirst
    have hengine := h.engine link hl side hside
    have hengine' := h.engine link' hl' first hside'
    have hport := h.port link hl link' hl' side first hside hside'
    have hsame : first = side := Prod.ext (hengine'.trans hengine.symm) hport.symm
    rw [findLocalLtpPort_eq, hfirst, hsame, ← hengine]
    exact ⟨rfl, rfl⟩

/-- A link with another character before its remote host. -/
def relocated : ConvergenceLayerLink → ConvergenceLayerLink
  | .ltpUdp id localEngineId remoteEngineId remoteHost remotePort localPort mtu =>
    .ltpUdp id localEngineId remoteEngineId ('x' :: remoteHost) remotePort localPort mtu
  | .tcpCl id remoteHost remotePort localPort => .tcpCl id ('x' :: remoteHost) remotePort localPort
  | .kiss id tncDevice localEngineId remoteEngineId frameSize =>
    .kiss id tncDevice localEngineId remoteEngineId frameSize
  | .udp id remoteHost remotePort localPort => .udp id ('x' :: remoteHost) remotePort localPort

theorem sameButRemotes_relocated : SameButRemotes (mapLinks relocated config) config := by
  have herase : eraseRemote ∘ relocated = eraseRemote := by
    funext link
    cases link <;> rfl
  simp [SameButRemotes, eraseRemotes, mapLinks, herase]

/-- An induct that stays when the remote host changes is that of a link which uses LTP. -/
theorem isLtp_of_inductOf_relocated {link : ConvergenceLayerLink}
    (h : inductOf (relocated link) = inductOf link) : isLtp link = true := by
  cases link with
  | ltpUdp | kiss => rfl
  | tcpCl id remoteHost remotePort localPort =>
    exact absurd (Duct.tcp.inj h).1 (List.cons_ne_self 'x' remoteHost)
  | udp id remoteHost remotePort localPort =>
    exact absurd (Duct.udp.inj h).1 (List.cons_ne_self 'x' remoteHost)

/-- The inducts are independent of remote hosts and ports exactly if all links use LTP. -/
theorem inducts_independent_iff : (∀ config', SameButRemotes config' config →
    declared inductIn (bprcLines config') = declared inductIn (bprcLines config)) ↔
      ∀ link ∈ config.links, isLtp link = true := by
  constructor
  · intro h link hl
    have hinducts := h _ sameButRemotes_relocated
    rw [inducts_bprcLines, inducts_bprcLines, links_mapLinks, List.map_map] at hinducts
    exact isLtp_of_inductOf_relocated (List.map_inj_left.mp hinducts link hl)
  · intro h config' hsame
    have hlinks : config'.links.map eraseRemote = config.links.map eraseRemote := by
      rw [← links_eraseRemotes, ← links_eraseRemotes, hsame]
    have h' : ∀ link ∈ config'.links, isLtp link = true := by
      intro link hl
      have hmem : eraseRemote link ∈ config.links.map eraseRemote :=
        hlinks ▸ List.mem_map_of_mem hl
      obtain ⟨other, hother, heq⟩ := List.mem_map.mp hmem
      rw [← isLtp_eraseRemote, ← heq, isLtp_eraseRemote]
      exact h other hother
    have herased (links : List ConvergenceLayerLink) (hltp : ∀ link ∈ links, isLtp link = true) :
        links.map inductOf = (links.map eraseRemote).map inductOf := by
      rw [List.map_map]
      exact List.map_congr_left fun link hl => (inductOf_eraseRemote (hltp link hl)).symm
    rw [inducts_bprcLines, inducts_bprcLines, herased _ h', hlinks, ← herased _ h]

end honoured

end CislunarDtn.ListeningSides
