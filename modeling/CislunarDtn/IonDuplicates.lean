import CislunarDtn.IonDeclarations

/-!
# Repeated declarations in the ION scripts

Services, links and routes are declared one by one and never compared, so that
values which two of them share are declared twice. Validation compares nothing
but node numbers: of the plans for the neighbors, no two have one destination.
-/

namespace CislunarDtn.IonDuplicates

open DecimalTexts TerminatedLines NetworkConfigurations IonScripts IonDeclarations

section names

/-- The texts of ducts of one protocol differ. -/
theorem name_inj {duct duct' : Duct} (hprotocol : duct.protocol = duct'.protocol) :
    duct.name = duct'.name ↔ duct = duct' := by
  have hport (n : ℕ) : ':' ∉ decimal n := notMem_decimal (by decide) n
  cases duct <;> cases duct' <;>
    simp_all [Duct.protocol, Duct.name, decimal_inj, append_cons_inj, UInt64.toNat_inj,
      UInt16.toNat_inj]

theorem protocolName_length (protocol : Protocol) : protocol.name.length = 3 := by
  cases protocol <;> rfl

theorem protocolName_inj {protocol protocol' : Protocol} :
    protocol.name = protocol'.name ↔ protocol = protocol' := by
  cases protocol <;> cases protocol' <;> decide

/-- Ducts are told apart by their texts in a command. -/
theorem ductText_injective (before after : Text) :
    Function.Injective fun duct : Duct => before ++ duct.protocol.name ++ word duct.name ++
      word (duct.protocol.name ++ after) := by
  intro duct duct' h
  simp only [List.append_assoc, List.append_cancel_left_eq] at h
  have hlength : duct.protocol.name.length = duct'.protocol.name.length := by
    rw [protocolName_length, protocolName_length]
  obtain ⟨hname, hrest⟩ := List.append_inj h hlength
  have hprotocol := protocolName_inj.mp hname
  rw [hprotocol, List.append_cancel_right_eq] at hrest
  exact (name_inj hprotocol).mp (List.cons.inj hrest).2

theorem addInduct_text_injective : Function.Injective fun duct => (Command.addInduct duct).text :=
  ductText_injective (chars "a induct ") (chars "cli")

theorem addOutduct_text_injective :
    Function.Injective fun duct => (Command.addOutduct duct).text :=
  ductText_injective (chars "a outduct ") (chars "clo")

theorem addEndpoint_text_inj {eid eid' : EndpointId} :
    (Command.addEndpoint eid).text = (Command.addEndpoint eid').text ↔
      eidText eid = eidText eid' := by
  simp [Command.text]

/-- An endpoint of a node's service is told apart from all others by its text. -/
theorem eidText_ipn_inj {node service : UInt64} {eid : EndpointId} :
    eidText (.ipn node service) = eidText eid ↔ .ipn node service = eid := by
  have hdot (n : ℕ) : '.' ∉ decimal n := notMem_decimal (by decide) n
  cases eid with
  | ipn node' service' =>
    simp only [eidText, append_cons_inj (hdot _) (hdot _), List.append_cancel_left_eq, decimal_inj,
      UInt64.toNat_inj, EndpointId.ipn.injEq]
  | dtn authority path => simp [eidText, chars]

end names

section keys

/-- Engine of an LTP duct. -/
def engineOf : Duct → Option UInt64
  | .ltp engineId => some engineId
  | _ => none

/-- Protocol, host and port of any other duct. -/
def addressOf : Duct → Option (Protocol × Text × UInt16)
  | .ltp _ => none
  | .tcp host port => some (.tcp, host, port)
  | .udp host port => some (.udp, host, port)

theorem engineOf_eq_some_iff {duct : Duct} {engineId : UInt64} :
    engineOf duct = some engineId ↔ duct = .ltp engineId := by
  cases duct <;> simp [engineOf]

theorem addressOf_eq_tcp_iff {duct : Duct} {host : Text} {port : UInt16} :
    addressOf duct = some (.tcp, host, port) ↔ duct = .tcp host port := by
  cases duct <;> simp [addressOf]

theorem addressOf_eq_udp_iff {duct : Duct} {host : Text} {port : UInt16} :
    addressOf duct = some (.udp, host, port) ↔ duct = .udp host port := by
  cases duct <;> simp [addressOf]

/-- Ducts differ exactly if those of LTP have different engines and the others different
addresses. -/
theorem nodup_ducts_iff {ducts : List Duct} :
    ducts.Nodup ↔ (ducts.filterMap engineOf).Nodup ∧ (ducts.filterMap addressOf).Nodup := by
  induction ducts with
  | nil => simp
  | cons duct ducts ih =>
    rw [List.nodup_cons, ih]
    cases duct with
    | ltp engineId =>
      have hmem : engineId ∈ ducts.filterMap engineOf ↔ .ltp engineId ∈ ducts := by
        simp [List.mem_filterMap, engineOf_eq_some_iff]
      simp only [List.filterMap_cons, engineOf, addressOf, List.nodup_cons, hmem]
      rw [and_assoc]
    | tcp host port =>
      have hmem : (.tcp, host, port) ∈ ducts.filterMap addressOf ↔ .tcp host port ∈ ducts := by
        simp [List.mem_filterMap, addressOf_eq_tcp_iff]
      simp only [List.filterMap_cons, engineOf, addressOf, List.nodup_cons, hmem]
      rw [and_left_comm]
    | udp host port =>
      have hmem : (.udp, host, port) ∈ ducts.filterMap addressOf ↔ .udp host port ∈ ducts := by
        simp [List.mem_filterMap, addressOf_eq_udp_iff]
      simp only [List.filterMap_cons, engineOf, addressOf, List.nodup_cons, hmem]
      rw [and_left_comm]

end keys

section duplicates

/-- The engine at this end of a link that uses LTP. -/
def localEngineOf : ConvergenceLayerLink → Option UInt64
  | .ltpUdp _ localEngineId .. => some localEngineId
  | .kiss _ _ localEngineId .. => some localEngineId
  | _ => none

/-- Protocol, remote host and local port of any other link. -/
def listenerOf : ConvergenceLayerLink → Option (Protocol × Text × UInt16)
  | .tcpCl _ remoteHost _ localPort => some (.tcp, remoteHost, localPort.getD 4556)
  | .udp _ remoteHost _ localPort => some (.udp, remoteHost, localPort.getD 4556)
  | _ => none

/-- Protocol, remote host and remote port of any other link. -/
def peerOf : ConvergenceLayerLink → Option (Protocol × Text × UInt16)
  | .tcpCl _ remoteHost remotePort _ => some (.tcp, remoteHost, remotePort)
  | .udp _ remoteHost remotePort _ => some (.udp, remoteHost, remotePort)
  | _ => none

/-- Numbers of the administrative endpoint and of the services. -/
def endpointNumbers (node : NodeDefinition) : List UInt64 :=
  0 :: node.services.map ServiceDemux.serviceNumber

/-- Nothing is declared twice. -/
structure NoDuplicates (config : NetworkConfiguration) : Prop where
  /-- No two inducts have one text. -/
  inducts : ((declared inductIn (bprcLines config)).map fun duct =>
    (Command.addInduct duct).text).Nodup
  /-- No two outducts have one text. -/
  outducts : ((declared outductIn (bprcLines config)).map fun duct =>
    (Command.addOutduct duct).text).Nodup
  /-- No two endpoints have one text. -/
  endpoints : ((declared endpointIn (bprcLines config)).map fun eid =>
    (Command.addEndpoint eid).text).Nodup
  /-- No engine has two spans. -/
  spans : ((declared spanIn (ltprcLines config)).map Prod.fst).Nodup
  /-- No destination has two plans. -/
  plans : ((declared planIn (ipnrcLines config)).map Prod.fst).Nodup

/-- What is declared is told apart in the configuration. -/
structure Distinct (config : NetworkConfiguration) : Prop where
  /-- Links that use LTP have different local engines. -/
  localEngines : (config.links.filterMap localEngineOf).Nodup
  /-- Other links differ in the remote host or the local port. -/
  listeners : (config.links.filterMap listenerOf).Nodup
  /-- Links that use LTP have different remote engines, none with the local node's number. -/
  remoteEngines : (config.localNode.nodeNumber :: config.links.filterMap remoteEngineOf).Nodup
  /-- Other links differ in the remote host or the remote port. -/
  peers : (config.links.filterMap peerOf).Nodup
  /-- Services have different numbers, none zero. -/
  services : (endpointNumbers config.localNode).Nodup
  /-- The callsign's endpoint is none of these. -/
  callsign : ∀ number ∈ endpointNumbers config.localNode,
    config.localNode.callsignEid ≠ some (.ipn config.localNode.nodeNumber number)
  /-- Static routes have different destinations. -/
  destinations : ((plannedRoutes config).map StaticRoute.destinationNode).Nodup
  /-- Neighbors with links are no destinations of static routes. -/
  neighbors : ∀ route ∈ plannedRoutes config, ∀ neighbor ∈ config.neighbors,
    neighbor.links ≠ [] → neighbor.nodeNumber ≠ route.destinationNode

variable {config : NetworkConfiguration}

theorem nodup_inducts_iff : ((declared inductIn (bprcLines config)).map fun duct =>
    (Command.addInduct duct).text).Nodup ↔
      (config.links.filterMap localEngineOf).Nodup ∧ (config.links.filterMap listenerOf).Nodup := by
  have hengine : engineOf ∘ inductOf = localEngineOf := by
    funext link
    cases link <;> rfl
  have haddress : addressOf ∘ inductOf = listenerOf := by
    funext link
    cases link <;> rfl
  rw [List.nodup_map_iff addInduct_text_injective, inducts_bprcLines, nodup_ducts_iff,
    List.filterMap_map, List.filterMap_map, hengine, haddress]

theorem nodup_outducts_iff : ((declared outductIn (bprcLines config)).map fun duct =>
    (Command.addOutduct duct).text).Nodup ↔
      (config.links.filterMap remoteEngineOf).Nodup ∧ (config.links.filterMap peerOf).Nodup := by
  have hengine : engineOf ∘ outductOf = remoteEngineOf := by
    funext link
    cases link <;> rfl
  have haddress : addressOf ∘ outductOf = peerOf := by
    funext link
    cases link <;> rfl
  rw [List.nodup_map_iff addOutduct_text_injective, outducts_bprcLines, nodup_ducts_iff,
    List.filterMap_map, List.filterMap_map, hengine, haddress]

/-- Endpoints of the services, then the callsign's. -/
theorem endpoints_bprcLines : declared endpointIn (bprcLines config) =
    (endpointNumbers config.localNode).map (.ipn config.localNode.nodeNumber) ++
      config.localNode.callsignEid.toList := by
  have hcallsign : (config.localNode.callsignEid.bind fun eid =>
      endpointIn (.addEndpoint eid)) = config.localNode.callsignEid := by
    cases config.localNode.callsignEid <;> rfl
  have hlinks : (config.links.flatMap fun link =>
      (endpointIn (.addInduct (inductOf link))).toList ++
        (endpointIn (.addOutduct (outductOf link))).toList) = [] := by
    simp [endpointIn]
  rw [declared_bprcLines, declared_bprcHead, declared_writeEndpoints, hcallsign, hlinks]
  simp [endpointIn, endpointNumbers]

theorem nodup_endpoints_iff : ((declared endpointIn (bprcLines config)).map fun eid =>
    (Command.addEndpoint eid).text).Nodup ↔
      (endpointNumbers config.localNode).Nodup ∧ ∀ number ∈ endpointNumbers config.localNode,
        config.localNode.callsignEid ≠ some (.ipn config.localNode.nodeNumber number) := by
  have hinjective : Function.Injective fun number =>
      (Command.addEndpoint (.ipn config.localNode.nodeNumber number)).text := by
    intro number number' h
    exact (EndpointId.ipn.inj (eidText_ipn_inj.mp (addEndpoint_text_inj.mp h))).2
  have hone : (config.localNode.callsignEid.toList.map fun eid =>
      (Command.addEndpoint eid).text).Nodup := by
    cases config.localNode.callsignEid <;> simp
  rw [endpoints_bprcLines, List.map_append, List.map_map, List.nodup_append]
  simp only [Function.comp_def, List.nodup_map_iff hinjective, hone, true_and, List.forall_mem_map,
    Option.mem_toList, ne_eq, addEndpoint_text_inj, eidText_ipn_inj]
  refine and_congr_right fun _ => forall₂_congr fun number _ => ?_
  constructor
  · intro h heid
    exact h _ heid rfl
  · intro h eid heid heq
    exact h (heq ▸ heid)

theorem nodup_spans_iff : ((declared spanIn (ltprcLines config)).map Prod.fst).Nodup ↔
    (config.localNode.nodeNumber :: config.links.filterMap remoteEngineOf).Nodup := by
  have hspan (link : ConvergenceLayerLink) :
      (declared spanIn (writeLtprcSpan link)).map Prod.fst = (remoteEngineOf link).toList := by
    cases link <;> rfl
  rw [spans_ltprcLines, List.map_cons, List.map_flatMap, List.filterMap_eq_flatMap_toList]
  simp only [hspan]

/-- Neighbors with links have plans. -/
theorem destinations_neighbors (neighbors : List Neighbor) :
    (neighbors.filterMap planOf).map Prod.fst =
      (neighbors.filter fun neighbor => neighbor.links ≠ []).map Neighbor.nodeNumber := by
  induction neighbors with
  | nil => rfl
  | cons neighbor neighbors ih =>
    cases hlinks : neighbor.links <;> simp_all [planOf]

theorem nodup_plans_iff (hneighbors : (config.neighbors.map Neighbor.nodeNumber).Nodup) :
    ((declared planIn (ipnrcLines config)).map Prod.fst).Nodup ↔
      ((plannedRoutes config).map StaticRoute.destinationNode).Nodup ∧
        ∀ route ∈ plannedRoutes config, ∀ neighbor ∈ config.neighbors,
          neighbor.links ≠ [] → neighbor.nodeNumber ≠ route.destinationNode := by
  have hsublist := List.Nodup.sublist
    (List.Sublist.map Neighbor.nodeNumber (List.filter_sublist
      (p := fun neighbor => neighbor.links ≠ []))) hneighbors
  rw [ipnrcLines, declared_append, plans_ipnrcHead, plans_neighbors, List.map_append,
    destinations_neighbors, List.map_map, List.nodup_append]
  simp only [Function.comp_def, hsublist, true_and, List.forall_mem_map, List.mem_filter,
    decide_eq_true_eq]
  refine and_congr_right fun _ => forall₂_congr fun route _ => ?_
  constructor
  · intro h neighbor hn hlinks
    exact (h neighbor ⟨hn, hlinks⟩).symm
  · rintro h neighbor ⟨hn, hlinks⟩
    exact (h neighbor hn hlinks).symm

/-- Two neighbors behind LTP links. -/
def twoNeighbors (localEngineId localEngineId' : UInt64) : NetworkConfiguration :=
  ⟨chars "ion-dtn", ⟨10, some (.dtn (chars "w1abc") (chars "relay")), [⟨1, none⟩, ⟨2, none⟩]⟩,
    [⟨20, [.ltpUdp [] localEngineId 20 (chars "10.0.0.20") 1113 1113 none]⟩,
      ⟨30, [.ltpUdp [] localEngineId' 30 (chars "10.0.0.30") 1113 1113 none,
        .tcpCl [] (chars "10.0.0.30") 4556 none]⟩],
    ⟨[], []⟩, ⟨.static, [⟨10, 20⟩]⟩, none, []⟩

end duplicates

end CislunarDtn.IonDuplicates
