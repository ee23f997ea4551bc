import CislunarDtn.IonScripts

/-!
# Declarations of the ION scripts

What the scripts of a node declare: protocols, ducts, spans and plans. The four
generators walk the same neighbors and links, so that ducts have protocols,
LTP outducts have spans and plans have outducts. The plan of a static route
alone names a duct after the next hop, whatever the ducts of that neighbor are.
-/

namespace CislunarDtn.IonDeclarations

open NetworkConfigurations IonScripts

section objects

/-- The protocol that a command declares. -/
def protocolOf : Command → Option Protocol
  | .addProtocol protocol => some protocol
  | _ => none

/-- The induct that a command declares. -/
def inductIn : Command → Option Duct
  | .addInduct duct => some duct
  | _ => none

/-- The outduct that a command declares. -/
def outductIn : Command → Option Duct
  | .addOutduct duct => some duct
  | _ => none

/-- The endpoint that a command declares. -/
def endpointIn : Command → Option EndpointId
  | .addEndpoint eid => some eid
  | _ => none

/-- Engine and output of the span that a command declares. -/
def spanIn : Command → Option (UInt64 × SpanOutput)
  | .addSpan engineId _ output => some (engineId, output)
  | _ => none

/-- Destination and duct of the plan that a command declares. -/
def planIn : Command → Option (UInt64 × Duct)
  | .addPlan node duct => some (node, duct)
  | _ => none

/-- What a line declares. -/
def onLine {α : Type*} (object : Command → Option α) : Line → Option α
  | .command c => object c
  | _ => none

/-- What a script declares, in order. -/
def declared {α : Type*} (object : Command → Option α) (lines : List Line) : List α :=
  lines.filterMap (onLine object)

variable {α β : Type*} (object : Command → Option α)

@[simp] theorem declared_nil : declared object [] = [] := rfl

@[simp] theorem declared_append (lines rest : List Line) :
    declared object (lines ++ rest) = declared object lines ++ declared object rest :=
  List.filterMap_append

@[simp] theorem declared_comment_cons (text : DecimalTexts.Text) (lines : List Line) :
    declared object (.comment text :: lines) = declared object lines := rfl

@[simp] theorem declared_blank_cons (lines : List Line) :
    declared object (.blank :: lines) = declared object lines := rfl

theorem declared_command_cons (c : Command) (lines : List Line) :
    declared object (.command c :: lines) = (object c).toList ++ declared object lines := by
  cases hc : object c <;> simp [declared, onLine, hc]

@[simp] theorem declared_flatMap (l : List β) (write : β → List Line) :
    declared object (l.flatMap write) = l.flatMap fun b => declared object (write b) :=
  List.filterMap_flatMap

@[simp] theorem declared_map (l : List β) (write : β → Command) :
    declared object (l.map fun b => .command (write b)) = l.filterMap fun b => object (write b) :=
  List.filterMap_map

/-- Whatever is declared is declared by some command. -/
theorem mem_declared_iff {a : α} {lines : List Line} :
    a ∈ declared object lines ↔ ∃ c, object c = some a ∧ Line.command c ∈ lines := by
  constructor
  · intro h
    obtain ⟨line, hline, ha⟩ := List.mem_filterMap.mp h
    cases line with
    | command c => exact ⟨c, ha, hline⟩
    | comment text => exact absurd ha (by simp [onLine])
    | blank => exact absurd ha (by simp [onLine])
  · rintro ⟨c, hc, hline⟩
    exact List.mem_filterMap.mpr ⟨_, hline, hc⟩

/-- A command is in a script exactly if its object is declared there. -/
theorem command_mem_iff {c : Command} {a : α} (h : ∀ c', object c' = some a ↔ c' = c)
    {lines : List Line} : Line.command c ∈ lines ↔ a ∈ declared object lines := by
  rw [mem_declared_iff]
  constructor
  · intro hline
    exact ⟨c, (h c).mpr rfl, hline⟩
  · rintro ⟨c', hc', hline⟩
    exact (h c').mp hc' ▸ hline

theorem protocolOf_eq_some_iff {protocol : Protocol} {c : Command} :
    protocolOf c = some protocol ↔ c = .addProtocol protocol := by
  cases c <;> simp [protocolOf]

theorem inductIn_eq_some_iff {duct : Duct} {c : Command} :
    inductIn c = some duct ↔ c = .addInduct duct := by
  cases c <;> simp [inductIn]

theorem outductIn_eq_some_iff {duct : Duct} {c : Command} :
    outductIn c = some duct ↔ c = .addOutduct duct := by
  cases c <;> simp [outductIn]

end objects

section bprc

variable {α : Type*} (object : Command → Option α) (config : NetworkConfiguration)

theorem flatMap_links (write : ConvergenceLayerLink → List Line) :
    (config.neighbors.flatMap fun neighbor => neighbor.links.flatMap write) =
      config.links.flatMap write := by
  rw [NetworkConfiguration.links, List.flatMap_assoc]

/-- Lines of the .bprc file before those of the links. -/
def bprcHead : List Line :=
  [Line.comment (DecimalTexts.chars "File: bpadmin configuration for node " ++
      DecimalTexts.decimal config.localNode.nodeNumber.toNat),
    .comment (DecimalTexts.chars "Generated by radiant-dtn-abstraction (ION adapter)"),
    .comment (DecimalTexts.chars "Amateur radio compliant: no BPSec directives"), .blank,
    .command .initializeBp, .blank, .command .addScheme, .blank] ++
    writeEndpoints config.localNode ++ [Line.comment (DecimalTexts.chars "Protocols")] ++
    ((collectProtocols config.neighbors).map fun protocol =>
      Line.command (.addProtocol protocol)) ++
    [Line.blank, .comment (DecimalTexts.chars "Inducts and Outducts")]

theorem bprcLines_eq : bprcLines config = bprcHead config ++
    (config.links.flatMap writeBprcLinkEntries ++ [.blank, .command .start]) := by
  rw [bprcLines, bprcHead, flatMap_links, List.append_assoc]

theorem declared_writeEndpoints (node : NodeDefinition) :
    declared object (writeEndpoints node) =
      (object (.addEndpoint (.ipn node.nodeNumber 0))).toList ++
        node.services.filterMap (fun service =>
          object (.addEndpoint (.ipn node.nodeNumber service.serviceNumber))) ++
        (node.callsignEid.bind fun eid => object (.addEndpoint eid)).toList := by
  unfold writeEndpoints
  cases node.callsignEid <;> simp [declared_command_cons]

theorem declared_bprcHead : declared object (bprcHead config) =
    (object .initializeBp).toList ++ (object .addScheme).toList ++
      declared object (writeEndpoints config.localNode) ++
      (collectProtocols config.neighbors).filterMap fun protocol =>
        object (.addProtocol protocol) := by
  simp [bprcHead, declared_command_cons]

theorem declared_bprcLines : declared object (bprcLines config) =
    declared object (bprcHead config) ++
      config.links.flatMap (fun link => (object (.addInduct (inductOf link))).toList ++
        (object (.addOutduct (outductOf link))).toList) ++ (object .start).toList := by
  simp [bprcLines_eq, writeBprcLinkEntries, declared_command_cons]

/-- Nothing before the entries of the links is a duct. -/
theorem ducts_bprcHead :
    declared inductIn (bprcHead config) = [] ∧ declared outductIn (bprcHead config) = [] := by
  simp [declared_bprcHead, declared_writeEndpoints, inductIn, outductIn]

/-- One induct for each link, in order. -/
theorem inducts_bprcLines : declared inductIn (bprcLines config) = config.links.map inductOf := by
  rw [declared_bprcLines, (ducts_bprcHead config).1]
  simp [inductIn, List.map_eq_flatMap]

/-- One outduct for each link, in order. -/
theorem outducts_bprcLines :
    declared outductIn (bprcLines config) = config.links.map outductOf := by
  rw [declared_bprcLines, (ducts_bprcHead config).2]
  simp [outductIn, List.map_eq_flatMap]

/-- The protocols are those collected from the links. -/
theorem protocols_bprcLines :
    declared protocolOf (bprcLines config) = collectProtocols config.neighbors := by
  simp [declared_bprcLines, declared_bprcHead, declared_writeEndpoints, protocolOf]

/-- Both ducts of a link have the same protocol. -/
theorem protocol_inductOf (link : ConvergenceLayerLink) :
    (inductOf link).protocol = (outductOf link).protocol := by
  cases link <;> rfl

/-- The links that use a protocol. -/
def usesProtocol : Protocol → ConvergenceLayerLink → Bool
  | .ltp => isLtp
  | .tcp => isTcp
  | .udp => isUdp

theorem usesProtocol_iff {protocol : Protocol} {link : ConvergenceLayerLink} :
    usesProtocol protocol link = true ↔ (outductOf link).protocol = protocol := by
  cases protocol <;> cases link <;>
    simp [usesProtocol, isLtp, isTcp, isUdp, outductOf, Duct.protocol]

/-- A protocol is collected exactly if some link's ducts have it. -/
theorem mem_collectProtocols_iff {protocol : Protocol} :
    protocol ∈ collectProtocols config.neighbors ↔
      ∃ link ∈ config.links, (outductOf link).protocol = protocol := by
  have hcollected : protocol ∈ collectProtocols config.neighbors ↔
      (config.neighbors.any fun n => n.links.any (usesProtocol protocol)) = true := by
    cases protocol <;> simp [collectProtocols, usesProtocol]
  rw [hcollected, NetworkConfiguration.links]
  simp only [List.any_eq_true, List.mem_flatMap, usesProtocol_iff]
  constructor
  · rintro ⟨neighbor, hn, link, hl, hprotocol⟩
    exact ⟨link, ⟨neighbor, hn, hl⟩, hprotocol⟩
  · rintro ⟨link, ⟨neighbor, hn, hl⟩, hprotocol⟩
    exact ⟨neighbor, hn, link, hl, hprotocol⟩

/-- The protocols of all links are declared before the links' entries. -/
theorem addProtocol_mem_bprcHead {link : ConvergenceLayerLink} (h : link ∈ config.links) :
    Line.command (.addProtocol (outductOf link).protocol) ∈ bprcHead config := by
  have hmem : (outductOf link).protocol ∈ declared protocolOf (bprcHead config) := by
    rw [declared_bprcHead, declared_writeEndpoints]
    simpa [protocolOf] using (mem_collectProtocols_iff config).mpr ⟨link, h, rfl⟩
  exact (command_mem_iff protocolOf fun _ => protocolOf_eq_some_iff).mpr hmem

end bprc

section ltprc

variable (config : NetworkConfiguration)

/-- The span to the node itself, then those of the links. -/
theorem spans_ltprcLines : declared spanIn (ltprcLines config) =
    (config.localNode.nodeNumber,
      .udplso (DecimalTexts.chars "127.0.0.1") (findLocalLtpPort config)) ::
        config.links.flatMap fun link => declared spanIn (writeLtprcSpan link) := by
  simp [ltprcLines, flatMap_links, declared_command_cons, spanIn, loopbackSpan]

/-- A link has an LTP outduct exactly if it has a span, to the same engine and with the link's own
host and port or device. -/
theorem outduct_iff_span {link : ConvergenceLayerLink} {engineId : UInt64} :
    .ltp engineId ∈ declared outductIn (writeBprcLinkEntries link) ↔
      ∃ output, spanOutputOf link = some output ∧
        (engineId, output) ∈ declared spanIn (writeLtprcSpan link) := by
  cases link <;> simp [writeBprcLinkEntries, writeLtprcSpan, declared_command_cons, outductIn,
    outductOf, spanIn, spanOutputOf]

end ltprc

section ipnrc

variable (config : NetworkConfiguration)

/-- The plan of a neighbor with links: the outduct of the first one. -/
def planOf (neighbor : Neighbor) : Option (UInt64 × Duct) :=
  neighbor.links.head?.map fun link => (neighbor.nodeNumber, outductOf link)

/-- The duct expression of a link is its outduct. -/
theorem linkToDuctExpression_eq (link : ConvergenceLayerLink) :
    linkToDuctExpression link = outductOf link := by
  cases link <;> rfl

theorem plans_writeIpnrcPlan (neighbor : Neighbor) :
    declared planIn (writeIpnrcPlan neighbor) = (planOf neighbor).toList := by
  unfold writeIpnrcPlan planOf
  cases neighbor.links with
  | nil => rfl
  | cons link rest => simp [declared_command_cons, planIn, linkToDuctExpression_eq]

/-- One plan for each neighbor with links, in order. -/
theorem plans_neighbors : declared planIn (config.neighbors.flatMap writeIpnrcPlan) =
    config.neighbors.filterMap planOf := by
  rw [declared_flatMap, List.filterMap_eq_flatMap_toList]
  simp only [plans_writeIpnrcPlan]

/-- The static routes that have plans. -/
def plannedRoutes : List StaticRoute :=
  if config.routing.strategy = .static then config.routing.staticRoutes else []

/-- One plan for each static route, in order. -/
theorem plans_ipnrcHead : declared planIn (ipnrcHead config) =
    (plannedRoutes config).map fun route => (route.destinationNode, .ltp route.nextHopNode) := by
  have hplans (routes : List StaticRoute) :
      (routes.filterMap fun route => planIn (staticPlan route)) =
        routes.map fun route => (route.destinationNode, .ltp route.nextHopNode) := by
    simp [planIn, staticPlan]
  cases hstrategy : config.routing.strategy <;>
    simp [ipnrcHead, writeRoutingConfig, plannedRoutes, hstrategy, hplans]

end ipnrc

section consistency

variable {config : NetworkConfiguration}

/-- The declarations of the scripts fit together. -/
structure Consistent (config : NetworkConfiguration) : Prop where
  /-- Ducts come after their protocols. -/
  protocolBefore : ∀ (pre post : List Line) (duct : Duct),
    bprcLines config = pre ++ .command (.addInduct duct) :: post ∨
      bprcLines config = pre ++ .command (.addOutduct duct) :: post →
    Line.command (.addProtocol duct.protocol) ∈ pre
  /-- Protocols are used. -/
  protocolUsed : ∀ protocol, Line.command (.addProtocol protocol) ∈ bprcLines config →
    ∃ duct, duct.protocol = protocol ∧ Line.command (.addOutduct duct) ∈ bprcLines config
  /-- The outducts are those of the links. -/
  outducts : declared outductIn (bprcLines config) =
    config.links.flatMap fun link => declared outductIn (writeBprcLinkEntries link)
  /-- The spans are the one to the node itself and those of the links. -/
  spans : declared spanIn (ltprcLines config) =
    (config.localNode.nodeNumber,
      .udplso (DecimalTexts.chars "127.0.0.1") (findLocalLtpPort config)) ::
        config.links.flatMap fun link => declared spanIn (writeLtprcSpan link)
  /-- A link has an LTP outduct exactly if it has the span of that engine. -/
  outductIffSpan : ∀ link ∈ config.links, ∀ engineId,
    .ltp engineId ∈ declared outductIn (writeBprcLinkEntries link) ↔
      ∃ output, spanOutputOf link = some output ∧
        (engineId, output) ∈ declared spanIn (writeLtprcSpan link)
  /-- Neighbors with links have one plan each, through the outduct of the first link. -/
  plans : ∃ section', ipnrcLines config = ipnrcHead config ++ section' ∧
    declared planIn section' = config.neighbors.filterMap planOf
  /-- Plans of neighbors lead through outducts that are declared. -/
  planned : ∀ plan ∈ config.neighbors.filterMap planOf,
    Line.command (.addOutduct plan.2) ∈ bprcLines config

/-- What comes after a list that does not hold it comes after the whole list. -/
theorem subset_of_notMem {α : Type*} {head tail pre post : List α} {a : α}
    (h : head ++ tail = pre ++ a :: post) (ha : a ∉ head) : head ⊆ pre := by
  rcases List.append_eq_append_iff.mp h with ⟨middle, hpre, -⟩ | ⟨middle, hhead, htail⟩
  · rw [hpre]
    exact List.subset_append_left head middle
  · cases middle with
    | nil =>
      rw [hhead, List.append_nil]
      exact List.Subset.refl pre
    | cons b middle =>
      rw [List.cons_append, List.cons.injEq] at htail
      refine absurd ?_ ha
      rw [hhead, htail.1]
      exact List.mem_append_right _ List.mem_cons_self

theorem addInduct_mem_iff {duct : Duct} :
    Line.command (.addInduct duct) ∈ bprcLines config ↔
      ∃ link ∈ config.links, inductOf link = duct := by
  rw [command_mem_iff inductIn fun _ => inductIn_eq_some_iff, inducts_bprcLines, List.mem_map]

theorem addOutduct_mem_iff {duct : Duct} :
    Line.command (.addOutduct duct) ∈ bprcLines config ↔
      ∃ link ∈ config.links, outductOf link = duct := by
  rw [command_mem_iff outductIn fun _ => outductIn_eq_some_iff, outducts_bprcLines, List.mem_map]

theorem addInduct_notMem_bprcHead (duct : Duct) :
    Line.command (.addInduct duct) ∉ bprcHead config := by
  rw [command_mem_iff inductIn fun _ => inductIn_eq_some_iff, (ducts_bprcHead config).1]
  exact List.not_mem_nil

theorem addOutduct_notMem_bprcHead (duct : Duct) :
    Line.command (.addOutduct duct) ∉ bprcHead config := by
  rw [command_mem_iff outductIn fun _ => outductIn_eq_some_iff, (ducts_bprcHead config).2]
  exact List.not_mem_nil

/-- Whatever comes only with the links' entries comes after the protocols of all links. -/
theorem protocol_mem_before {pre post : List Line} {c : Command}
    (h : bprcLines config = pre ++ .command c :: post) (hc : Line.command c ∉ bprcHead config)
    {link : ConvergenceLayerLink} (hl : link ∈ config.links) :
    Line.command (.addProtocol (outductOf link).protocol) ∈ pre := by
  rw [bprcLines_eq] at h
  exact subset_of_notMem h hc (addProtocol_mem_bprcHead config hl)

theorem protocol_mem_of_duct {pre post : List Line} {duct : Duct}
    (h : bprcLines config = pre ++ .command (.addInduct duct) :: post ∨
      bprcLines config = pre ++ .command (.addOutduct duct) :: post) :
    Line.command (.addProtocol duct.protocol) ∈ pre := by
  rcases h with h | h
  · have hmem : Line.command (.addInduct duct) ∈ bprcLines config := by simp [h]
    obtain ⟨link, hl, rfl⟩ := addInduct_mem_iff.mp hmem
    rw [protocol_inductOf]
    exact protocol_mem_before h (addInduct_notMem_bprcHead _) hl
  · have hmem : Line.command (.addOutduct duct) ∈ bprcLines config := by simp [h]
    obtain ⟨link, hl, rfl⟩ := addOutduct_mem_iff.mp hmem
    exact protocol_mem_before h (addOutduct_notMem_bprcHead _) hl

/-- The plan of a neighbor leads through the outduct of one of its links. -/
theorem exists_link_of_planOf {neighbor : Neighbor} {plan : UInt64 × Duct}
    (h : planOf neighbor = some plan) : ∃ link ∈ neighbor.links, outductOf link = plan.2 := by
  unfold planOf at h
  cases hlinks : neighbor.links with
  | nil => simp [hlinks] at h
  | cons link rest =>
    simp only [hlinks, List.head?_cons, Option.map_some, Option.some.injEq] at h
    exact ⟨link, List.mem_cons_self, congrArg Prod.snd h⟩

end consistency

section routes

/-- The engine at the other end of a link that uses LTP. -/
def remoteEngineOf : ConvergenceLayerLink → Option UInt64
  | .ltpUdp _ _ remoteEngineId .. => some remoteEngineId
  | .kiss _ _ _ remoteEngineId _ => some remoteEngineId
  | _ => none

theorem outductOf_eq_ltp_iff {link : ConvergenceLayerLink} {engineId : UInt64} :
    outductOf link = .ltp engineId ↔ remoteEngineOf link = some engineId := by
  cases link <;> simp [outductOf, remoteEngineOf]

/-- The plans that the .ipnrc file has for static routes lead through outducts that the .bprc file
declares and that belong to links of the next hop. -/
def RoutesLead (config : NetworkConfiguration) : Prop :=
  ∀ route ∈ config.routing.staticRoutes, ∀ duct,
    staticPlan route = .addPlan route.destinationNode duct →
    Line.command (staticPlan route) ∈ ipnrcHead config →
      Line.command (.addOutduct duct) ∈ bprcLines config ∧
        ∃ neighbor ∈ config.neighbors, neighbor.nodeNumber = route.nextHopNode ∧
          ∃ link ∈ neighbor.links, outductOf link = duct

/-- Static routes have plans under the static strategy. -/
theorem staticPlan_mem_iff {config : NetworkConfiguration} {route : StaticRoute}
    (h : route ∈ config.routing.staticRoutes) :
    Line.command (staticPlan route) ∈ ipnrcHead config ↔ config.routing.strategy = .static := by
  have hobject : ∀ c, planIn c = some (route.destinationNode, .ltp route.nextHopNode) ↔
      c = staticPlan route := by
    intro c
    cases c <;> simp [planIn, staticPlan]
  rw [command_mem_iff planIn hobject, plans_ipnrcHead, plannedRoutes]
  split
  next hstatic => exact iff_of_true (List.mem_map.mpr ⟨route, h, rfl⟩) hstatic
  next hother => simp [hother]

/-- Static routes lead to their next hops exactly if each next hop is a neighbor with an LTP link
whose remote engine has the number of the node. -/
theorem routesLead_iff (config : NetworkConfiguration) :
    RoutesLead config ↔ (config.routing.strategy = .static →
      ∀ route ∈ config.routing.staticRoutes, ∃ neighbor ∈ config.neighbors,
        neighbor.nodeNumber = route.nextHopNode ∧
          ∃ link ∈ neighbor.links, remoteEngineOf link = some route.nextHopNode) := by
  constructor
  · intro h hstatic route hroute
    have hline := (staticPlan_mem_iff hroute).mpr hstatic
    obtain ⟨-, neighbor, hn, hnumber, link, hl, hduct⟩ := h route hroute _ rfl hline
    exact ⟨neighbor, hn, hnumber, link, hl, outductOf_eq_ltp_iff.mp hduct⟩
  · intro h route hroute duct hplan hline
    obtain ⟨neighbor, hn, hnumber, link, hl, hengine⟩ :=
      h ((staticPlan_mem_iff hroute).mp hline) route hroute
    have hduct : outductOf link = duct := by
      rw [outductOf_eq_ltp_iff.mpr hengine]
      exact (Command.addPlan.inj hplan).2
    have hlink : link ∈ config.links := List.mem_flatMap.mpr ⟨neighbor, hn, hl⟩
    exact ⟨addOutduct_mem_iff.mpr ⟨link, hlink, hduct⟩, neighbor, hn, hnumber, link, hl, hduct⟩

/-- The plan of a route through a neighbor with a TCP link names an LTP duct. -/
theorem route_without_outduct :
    ¬ ∀ (config : NetworkConfiguration), validate config = .ok () →
      config.routing.strategy = .static → RoutesLead config := by
  intro h
  let link : ConvergenceLayerLink := .tcpCl [] (DecimalTexts.chars "10.0.0.20") 4556 none
  let config : NetworkConfiguration :=
    ⟨DecimalTexts.chars "ion-dtn", ⟨10, none, []⟩, [⟨20, [link]⟩], ⟨[], []⟩,
      ⟨.static, [⟨20, 20⟩]⟩, none, []⟩
  have hvalid : validate config = .ok () := by decide +kernel
  have hroutes := h config hvalid rfl ⟨20, 20⟩ List.mem_cons_self (.ltp 20) rfl (by decide +kernel)
  exact absurd hroutes.1 (by decide +kernel)

end routes

end CislunarDtn.IonDeclarations
