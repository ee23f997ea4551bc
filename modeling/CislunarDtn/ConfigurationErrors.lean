import CislunarDtn.NetworkConfigurations

/-!
# The errors of validation

A violation is a rule and the index of the element that breaks it. Validation
succeeds exactly on the configurations without violations, and otherwise its
error list has one entry for each violation, with the path of the element: the
passes have no rule in common, and no pass reports an element twice.
-/

namespace CislunarDtn.ConfigurationErrors

open DecimalTexts NetworkConfigurations

/-- Rules of validation, one for each field that is checked. -/
inductive Rule where
  /-- A neighbor has the local node's number. -/
  | duplicatesLocal
  /-- A neighbor has the number of an earlier one. -/
  | duplicatesEarlier
  /-- A contact's source is not defined. -/
  | contactSource
  /-- A contact's destination is not defined. -/
  | contactDest
  /-- A range's source is not defined. -/
  | rangeSource
  /-- A range's destination is not defined. -/
  | rangeDest
  /-- A contact does not start before it ends. -/
  | contactTimes
  /-- A static route's destination is not defined. -/
  | routeDestination
  /-- A static route's next hop is not defined. -/
  | routeNextHop
  deriving DecidableEq

/-- A rule broken by the element at an index of the list that it is about. -/
structure Violation where
  /-- The rule. -/
  rule : Rule
  /-- The index of the element. -/
  index : ℕ
  deriving DecidableEq

/-- Path of a field that refers to a node. -/
def fieldPath (list field : String) (i : ℕ) : Text := chars s!"{list}[{i}].{field}"

/-- Path of the violating element. -/
def Violation.path (v : Violation) : Text :=
  match v.rule with
  | .duplicatesLocal => chars s!"neighbors[{v.index}].node_number"
  | .duplicatesEarlier => chars s!"neighbors[{v.index}].node_number"
  | .contactSource => fieldPath "contact_plan.contacts" "source_node" v.index
  | .contactDest => fieldPath "contact_plan.contacts" "dest_node" v.index
  | .rangeSource => fieldPath "contact_plan.ranges" "source_node" v.index
  | .rangeDest => fieldPath "contact_plan.ranges" "dest_node" v.index
  | .contactTimes => chars s!"contact_plan.contacts[{v.index}]"
  | .routeDestination => fieldPath "routing.static_routes" "destination_node" v.index
  | .routeNextHop => fieldPath "routing.static_routes" "next_hop_node" v.index

/-- Whether a configuration has a violation. -/
def Occurs (config : NetworkConfiguration) (v : Violation) : Prop :=
  match v.rule with
  | .duplicatesLocal => ∃ neighbor, config.neighbors[v.index]? = some neighbor ∧
      neighbor.nodeNumber = config.localNode.nodeNumber
  | .duplicatesEarlier => ∃ neighbor, config.neighbors[v.index]? = some neighbor ∧
      ∃ earlier ∈ config.neighbors.take v.index, earlier.nodeNumber = neighbor.nodeNumber
  | .contactSource => ∃ contact, config.contactPlan.contacts[v.index]? = some contact ∧
      contact.sourceNode ∉ definedNodes config
  | .contactDest => ∃ contact, config.contactPlan.contacts[v.index]? = some contact ∧
      contact.destNode ∉ definedNodes config
  | .rangeSource => ∃ range, config.contactPlan.ranges[v.index]? = some range ∧
      range.sourceNode ∉ definedNodes config
  | .rangeDest => ∃ range, config.contactPlan.ranges[v.index]? = some range ∧
      range.destNode ∉ definedNodes config
  | .contactTimes => ∃ contact, config.contactPlan.contacts[v.index]? = some contact ∧
      contact.startTime ≥ contact.endTime
  | .routeDestination => config.routing.strategy = .static ∧
      ∃ route, config.routing.staticRoutes[v.index]? = some route ∧
        route.destinationNode ∉ definedNodes config
  | .routeNextHop => config.routing.strategy = .static ∧
      ∃ route, config.routing.staticRoutes[v.index]? = some route ∧
        route.nextHopNode ∉ definedNodes config

/-- An error list that has one entry for each violation of a kind, with its
path, and no other entry. -/
def Exact (errors : List ValidationDetail) (occurs : Violation → Prop) : Prop :=
  ∃ violations : List Violation, violations.Nodup ∧ (∀ v, v ∈ violations ↔ occurs v) ∧
    errors.map ValidationDetail.path = violations.map Violation.path

section passes

variable {errors first second : List ValidationDetail} {occurs other : Violation → Prop}

theorem Exact.congr (h : Exact errors occurs) (hiff : ∀ v, occurs v ↔ other v) :
    Exact errors other := by
  obtain ⟨violations, hnodup, hmem, hpaths⟩ := h
  exact ⟨violations, hnodup, fun v => (hmem v).trans (hiff v), hpaths⟩

theorem exact_nil : Exact [] fun _ => False := ⟨[], List.nodup_nil, by simp, rfl⟩

/-- Passes that have no violation in common report each of theirs once. -/
theorem Exact.append (h : Exact first occurs) (ho : Exact second other)
    (hdisjoint : ∀ v, occurs v → ¬other v) :
    Exact (first ++ second) fun v => occurs v ∨ other v := by
  obtain ⟨violations, hnodup, hmem, hpaths⟩ := h
  obtain ⟨others, hnodup', hmem', hpaths'⟩ := ho
  refine ⟨violations ++ others, ?_, ?_, ?_⟩
  · refine List.nodup_append.mpr ⟨hnodup, hnodup', ?_⟩
    intro v hv w hw hvw
    rw [hvw] at hv
    exact hdisjoint w ((hmem w).mp hv) ((hmem' w).mp hw)
  · intro v
    rw [List.mem_append, hmem, hmem']
  · rw [List.map_append, List.map_append, hpaths, hpaths']

/-- One entry under a condition. -/
theorem exact_ite (p : Prop) [Decidable p] {detail : ValidationDetail} (rule : Rule) (i : ℕ)
    (hpath : detail.path = Violation.path ⟨rule, i⟩) :
    Exact (if p then [detail] else []) fun v => v.index = i ∧ v.rule = rule ∧ p := by
  by_cases hp : p
  · rw [if_pos hp]
    refine ⟨[⟨rule, i⟩], by simp, ?_, by simp [hpath]⟩
    intro v
    cases v
    simp only [List.mem_singleton, Violation.mk.injEq]
    tauto
  · rw [if_neg hp]
    exact exact_nil.congr fun v => by simp [hp]

/-- A loop with indices is exact when it is exact at every element. -/
theorem exact_flatMap_zipIdx {α : Type*} {l : List α} {f : α × ℕ → List ValidationDetail}
    (breaks : α → Rule → Prop)
    (h : ∀ a i, Exact (f (a, i)) fun v => v.index = i ∧ breaks a v.rule) (k : ℕ) :
    Exact ((l.zipIdx k).flatMap f) fun v =>
      k ≤ v.index ∧ ∃ a, l[v.index - k]? = some a ∧ breaks a v.rule := by
  induction l generalizing k with
  | nil => exact exact_nil.congr fun v => by simp
  | cons a l ih =>
    rw [List.zipIdx_cons, List.flatMap_cons]
    have happend := (h a k).append (ih (k + 1)) fun v hv hlater => by omega
    refine happend.congr fun v => ?_
    by_cases hv : v.index = k
    · simp [hv]
    · by_cases hle : k ≤ v.index
      · have hlater : k + 1 ≤ v.index := by omega
        have hnext : v.index - k = v.index - (k + 1) + 1 := by omega
        simp [hv, hle, hlater, hnext]
      · have hlater : ¬k + 1 ≤ v.index := by omega
        simp [hv, hle, hlater]

theorem exact_enumerate {α : Type*} {l : List α} {f : α × ℕ → List ValidationDetail}
    (breaks : α → Rule → Prop)
    (h : ∀ a i, Exact (f (a, i)) fun v => v.index = i ∧ breaks a v.rule) :
    Exact (l.zipIdx.flatMap f) fun v => ∃ a, l[v.index]? = some a ∧ breaks a v.rule :=
  (exact_flatMap_zipIdx breaks h 0).congr fun v => by simp

/-- The fields of a list whose entries refer to two nodes each. -/
theorem exact_checkNodeReferences {defined : List UInt64} {list label field₁ field₂ : String}
    {rule₁ rule₂ : Rule} (hne : rule₁ ≠ rule₂)
    (hpath₁ : ∀ i, fieldPath list field₁ i = Violation.path ⟨rule₁, i⟩)
    (hpath₂ : ∀ i, fieldPath list field₂ i = Violation.path ⟨rule₂, i⟩)
    (references : List (UInt64 × UInt64)) :
    Exact (checkNodeReferences defined list label field₁ field₂ references) fun v =>
      ∃ nodes, references[v.index]? = some nodes ∧
        (v.rule = rule₁ ∧ nodes.1 ∉ defined ∨ v.rule = rule₂ ∧ nodes.2 ∉ defined) := by
  have hone : ∀ {field : String} {rule : Rule} (i : ℕ) (node : UInt64),
      fieldPath list field i = Violation.path ⟨rule, i⟩ →
        Exact (checkNodeReference defined list label field i node) fun v =>
          v.index = i ∧ v.rule = rule ∧ node ∉ defined := by
    intro field rule i node hpath
    rw [checkNodeReference, ← ite_not]
    exact exact_ite _ rule i hpath
  have hpair : ∀ (nodes : UInt64 × UInt64) i,
      Exact (checkNodeReference defined list label field₁ i nodes.1 ++
        checkNodeReference defined list label field₂ i nodes.2) fun v => v.index = i ∧
          (v.rule = rule₁ ∧ nodes.1 ∉ defined ∨ v.rule = rule₂ ∧ nodes.2 ∉ defined) := by
    intro nodes i
    refine ((hone i nodes.1 (hpath₁ i)).append (hone i nodes.2 (hpath₂ i)) ?_).congr ?_
    · intro v hv hother
      exact hne (hv.2.1.symm.trans hother.2.1)
    · intro v
      tauto
  exact exact_enumerate
    (fun (nodes : UInt64 × UInt64) rule =>
      rule = rule₁ ∧ nodes.1 ∉ defined ∨ rule = rule₂ ∧ nodes.2 ∉ defined) hpair

/-- Neighbors whose number is among those seen, or is that of an earlier one. -/
theorem exact_duplicatesAmong (seen : List UInt64) (i : ℕ) (neighbors : List Neighbor) :
    Exact (duplicatesAmong seen i neighbors) fun v =>
      v.rule = .duplicatesEarlier ∧ i ≤ v.index ∧
        ∃ neighbor, neighbors[v.index - i]? = some neighbor ∧
          (neighbor.nodeNumber ∈ seen ∨
            ∃ earlier ∈ neighbors.take (v.index - i),
              earlier.nodeNumber = neighbor.nodeNumber) := by
  induction neighbors generalizing seen i with
  | nil => exact exact_nil.congr fun v => by simp
  | cons neighbor rest ih =>
    have hsplit : duplicatesAmong seen i (neighbor :: rest) =
        (if neighbor.nodeNumber ∈ seen then
          [⟨chars s!"neighbors[{i}].node_number", chars "duplicate_node_number",
            chars (s!"Duplicate neighbor node_number {neighbor.nodeNumber} " ++
              "(already defined by another neighbor)")⟩] else []) ++
          duplicatesAmong
            (if neighbor.nodeNumber ∈ seen then seen else neighbor.nodeNumber :: seen) (i + 1)
            rest := by
      rw [duplicatesAmong]
      split <;> rfl
    rw [hsplit]
    refine ((exact_ite _ .duplicatesEarlier i rfl).append (ih _ (i + 1)) ?_).congr ?_
    · intro v hv hlater
      omega
    intro v
    by_cases hv : v.index = i
    · simp [hv]
    · by_cases hle : i ≤ v.index
      · have hlater : i + 1 ≤ v.index := by omega
        have hnext : v.index - i = v.index - (i + 1) + 1 := by omega
        have hseen : ∀ n, n ∈ (if neighbor.nodeNumber ∈ seen then seen
            else neighbor.nodeNumber :: seen) ↔ n = neighbor.nodeNumber ∨ n ∈ seen := by
          intro n
          split <;> simp_all
        simp only [hv, hle, hlater, hnext, hseen, false_and, false_or, true_and,
          List.getElem?_cons_succ, List.take_succ_cons, List.mem_cons, exists_eq_or_imp]
        refine and_congr_right fun _ => exists_congr fun n => and_congr_right fun _ => ?_
        rw [@eq_comm _ n.nodeNumber]
        tauto
      · have hlater : ¬i + 1 ≤ v.index := by omega
        simp [hv, hle, hlater]

end passes

section validation

variable {config : NetworkConfiguration}

/-- The violations of some rules are reported exactly. -/
def ExactFor (config : NetworkConfiguration) (rules : List Rule)
    (errors : List ValidationDetail) : Prop :=
  Exact errors fun v => v.rule ∈ rules ∧ Occurs config v

theorem ExactFor.append {rules others : List Rule} {first second : List ValidationDetail}
    (h : ExactFor config rules first) (ho : ExactFor config others second)
    (hdisjoint : rules.Disjoint others) :
    ExactFor config (rules ++ others) (first ++ second) := by
  have happend := Exact.append h ho fun v hv hother => hdisjoint hv.1 hother.1
  exact happend.congr fun v => by rw [List.mem_append, or_and_right]

theorem exactFor_checkDuplicateLocalNode (config : NetworkConfiguration) :
    ExactFor config [.duplicatesLocal] (checkDuplicateLocalNode config) := by
  have hpass : Exact (checkDuplicateLocalNode config) fun v => ∃ neighbor,
      config.neighbors[v.index]? = some neighbor ∧ v.rule = .duplicatesLocal ∧
        neighbor.nodeNumber = config.localNode.nodeNumber :=
    exact_enumerate (fun (neighbor : Neighbor) rule => rule = .duplicatesLocal ∧
      neighbor.nodeNumber = config.localNode.nodeNumber) fun _ i => exact_ite _ _ i rfl
  refine hpass.congr fun v => ?_
  cases v with
  | mk rule index => cases rule <;> simp [Occurs]

theorem exactFor_checkDuplicateNeighborNodes (config : NetworkConfiguration) :
    ExactFor config [.duplicatesEarlier] (checkDuplicateNeighborNodes config) := by
  refine (exact_duplicatesAmong [] 0 config.neighbors).congr fun v => ?_
  cases v with
  | mk rule index => cases rule <;> simp [Occurs]

theorem exactFor_checkContactNodeReferences (config : NetworkConfiguration) :
    ExactFor config [.contactSource, .contactDest] (checkContactNodeReferences config) := by
  have hne : Rule.contactSource ≠ Rule.contactDest := by simp
  refine (exact_checkNodeReferences hne (fun _ => rfl) (fun _ => rfl) _).congr fun v => ?_
  cases v with
  | mk rule index => cases rule <;> simp [Occurs]

theorem exactFor_checkRangeNodeReferences (config : NetworkConfiguration) :
    ExactFor config [.rangeSource, .rangeDest] (checkRangeNodeReferences config) := by
  have hne : Rule.rangeSource ≠ Rule.rangeDest := by simp
  refine (exact_checkNodeReferences hne (fun _ => rfl) (fun _ => rfl) _).congr fun v => ?_
  cases v with
  | mk rule index => cases rule <;> simp [Occurs]

theorem exactFor_checkContactTemporalConstraints (config : NetworkConfiguration) :
    ExactFor config [.contactTimes] (checkContactTemporalConstraints config) := by
  have hpass : Exact (checkContactTemporalConstraints config) fun v => ∃ contact,
      config.contactPlan.contacts[v.index]? = some contact ∧ v.rule = .contactTimes ∧
        contact.startTime ≥ contact.endTime :=
    exact_enumerate (fun (contact : Contact) rule => rule = .contactTimes ∧
      contact.startTime ≥ contact.endTime) fun _ i => exact_ite _ _ i rfl
  refine hpass.congr fun v => ?_
  cases v with
  | mk rule index => cases rule <;> simp [Occurs]

theorem exactFor_checkStaticRouteReferences (config : NetworkConfiguration) :
    ExactFor config [.routeDestination, .routeNextHop] (checkStaticRouteReferences config) := by
  unfold checkStaticRouteReferences
  split
  · rename_i hstrategy
    refine exact_nil.congr fun v => ?_
    cases v with
    | mk rule index => cases rule <;> simp [Occurs, hstrategy]
  · rename_i hstrategy
    have hne : Rule.routeDestination ≠ Rule.routeNextHop := by simp
    refine (exact_checkNodeReferences hne (fun _ => rfl) (fun _ => rfl) _).congr fun v => ?_
    cases v with
    | mk rule index => cases rule <;> simp [Occurs, not_not.mp hstrategy]

end validation

/-- What a valid configuration guarantees, with its nodes in one list. -/
theorem validate_eq_ok_iff_definedNodes {config : NetworkConfiguration} :
    validate config = .ok () ↔ (definedNodes config).Nodup ∧
      (∀ contact ∈ config.contactPlan.contacts,
        contact.sourceNode ∈ definedNodes config ∧ contact.destNode ∈ definedNodes config) ∧
      (∀ range ∈ config.contactPlan.ranges,
        range.sourceNode ∈ definedNodes config ∧ range.destNode ∈ definedNodes config) ∧
      (config.routing.strategy = .static → ∀ route ∈ config.routing.staticRoutes,
        route.destinationNode ∈ definedNodes config ∧
          route.nextHopNode ∈ definedNodes config) ∧
      ∀ contact ∈ config.contactPlan.contacts, contact.startTime < contact.endTime := by
  have hnodup : (definedNodes config).Nodup ↔
      (∀ neighbor ∈ config.neighbors, neighbor.nodeNumber ≠ config.localNode.nodeNumber) ∧
        (config.neighbors.map Neighbor.nodeNumber).Nodup := by
    rw [definedNodes, List.nodup_cons]
    simp
  rw [validate_eq_ok_iff, hnodup]
  constructor
  · intro h
    exact ⟨⟨h.localDistinct, h.neighborsDistinct⟩, h.contacts, h.ranges, h.routes, h.times⟩
  · rintro ⟨⟨hlocal, hneighbors⟩, hcontacts, hranges, hroutes, htimes⟩
    exact ⟨hlocal, hneighbors, hcontacts, hranges, htimes, hroutes⟩

/-- The errors of all passes. -/
def allErrors (config : NetworkConfiguration) : List ValidationDetail :=
  checkDuplicateLocalNode config ++ checkDuplicateNeighborNodes config ++
    checkContactNodeReferences config ++ checkRangeNodeReferences config ++
    checkContactTemporalConstraints config ++ checkStaticRouteReferences config

/-- All passes together report each violation once. -/
theorem exact_allErrors (config : NetworkConfiguration) :
    Exact (allErrors config) (Occurs config) := by
  have hall := ((((exactFor_checkDuplicateLocalNode config).append
    (exactFor_checkDuplicateNeighborNodes config) (by simp)).append
    (exactFor_checkContactNodeReferences config) (by simp)).append
    (exactFor_checkRangeNodeReferences config) (by simp)).append
    (exactFor_checkContactTemporalConstraints config) (by simp) |>.append
    (exactFor_checkStaticRouteReferences config) (by simp)
  refine Exact.congr hall fun v => ?_
  cases v with
  | mk rule index => cases rule <;> simp

theorem validate_eq (config : NetworkConfiguration) :
    validate config = if allErrors config = [] then .ok () else .error (allErrors config) := by
  by_cases hnone : allErrors config = []
  · rw [if_pos hnone]
    exact if_pos (List.isEmpty_iff.mpr hnone)
  · rw [if_neg hnone]
    exact if_neg fun hempty => hnone (List.isEmpty_iff.mp hempty)

/-- Validation succeeds exactly where the node numbers are distinct, what is
referred to is defined and contacts start before they end. Otherwise the error
list has one entry for each violation, with the path of its element. -/
theorem validate_exact (config : NetworkConfiguration) :
    (validate config = .ok () ↔ (definedNodes config).Nodup ∧
        (∀ contact ∈ config.contactPlan.contacts,
          contact.sourceNode ∈ definedNodes config ∧ contact.destNode ∈ definedNodes config) ∧
        (∀ range ∈ config.contactPlan.ranges,
          range.sourceNode ∈ definedNodes config ∧ range.destNode ∈ definedNodes config) ∧
        (config.routing.strategy = .static → ∀ route ∈ config.routing.staticRoutes,
          route.destinationNode ∈ definedNodes config ∧
            route.nextHopNode ∈ definedNodes config) ∧
        ∀ contact ∈ config.contactPlan.contacts, contact.startTime < contact.endTime) ∧
      ∃ violations : List Violation, violations.Nodup ∧
        (∀ v, v ∈ violations ↔ Occurs config v) ∧
        match validate config with
        | .ok () => violations = []
        | .error errors =>
          errors.map ValidationDetail.path = violations.map Violation.path := by
  refine ⟨validate_eq_ok_iff_definedNodes, ?_⟩
  obtain ⟨violations, hnodup, hmem, hpaths⟩ := exact_allErrors config
  refine ⟨violations, hnodup, hmem, ?_⟩
  rw [validate_eq]
  by_cases hnone : allErrors config = []
  · rw [if_pos hnone]
    rw [hnone] at hpaths
    exact List.map_eq_nil_iff.mp hpaths.symm
  · rw [if_neg hnone]
    exact hpaths

end CislunarDtn.ConfigurationErrors
