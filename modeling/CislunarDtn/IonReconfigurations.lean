import CislunarDtn.IonDatabases

/-!
# Neighbors added at run time

A neighbor that is added to a running engine gets outducts and a plan for its
LTP links and nothing else. The scripts of the configuration with that neighbor
declare inducts, spans and the ducts of all links, and the plan leads through
the first link whatever it is.
-/

namespace CislunarDtn.IonReconfigurations

open CommandSequences DecimalTexts IonDatabases IonDeclarations IonScripts NetworkConfigurations

section agreement

variable {ε : Type*} {config : NetworkConfiguration} {neighbor : Neighbor}

/-- A configuration with one more neighbor. -/
def withNeighbor (config : NetworkConfiguration) (neighbor : Neighbor) : NetworkConfiguration :=
  { config with neighbors := config.neighbors ++ [neighbor] }

/-- Two databases have the same ducts and spans and the same plan for a neighbor. -/
structure Agrees (neighbor : Neighbor) (runtime static : EngineDatabase) : Prop where
  /-- The same outducts. -/
  outducts : runtime.outducts = static.outducts
  /-- The same inducts. -/
  inducts : runtime.inducts = static.inducts
  /-- The same spans. -/
  spans : runtime.spans = static.spans
  /-- The same plan for the neighbor. -/
  plan : (runtime.plans.filter fun plan => plan.1 = neighbor.nodeNumber) =
    static.plans.filter fun plan => plan.1 = neighbor.nodeNumber

/-- The engine knows all that a neighbor needs besides the outducts of its LTP links, and the first
link of the neighbor is such a link. -/
structure Covered (config : NetworkConfiguration) (neighbor : Neighbor) : Prop where
  /-- The first link uses LTP. -/
  first : ∀ link ∈ neighbor.links.head?, isLtp link = true
  /-- Other links have outducts in common with links of the configuration. -/
  outducts : ∀ link ∈ neighbor.links, isLtp link = false →
    ∃ known ∈ config.links, outductOf known = outductOf link
  /-- All links have inducts in common with links of the configuration. -/
  inducts : ∀ link ∈ neighbor.links, ∃ known ∈ config.links, inductOf known = inductOf link
  /-- Spans are those of links of the configuration, or lead back to the node. -/
  spans : ∀ link ∈ neighbor.links, ∀ entry, spanEntryOf link = some entry →
    entry = loopbackEntry config ∨ ∃ known ∈ config.links, spanEntryOf known = some entry
  /-- The neighbor leaves the port of LTP as it is. -/
  port : findLocalLtpPort (withNeighbor config neighbor) = findLocalLtpPort config

theorem links_withNeighbor :
    (withNeighbor config neighbor).links = config.links ++ neighbor.links := by
  simp [withNeighbor, NetworkConfiguration.links]

theorem mem_engineIds {engineId : UInt64} :
    engineId ∈ engineIds neighbor ↔ ∃ link ∈ neighbor.links, extractEngineId link = some engineId :=
  List.mem_filterMap

theorem extractEngineId_eq (link : ConvergenceLayerLink) :
    extractEngineId link = remoteEngineOf link := by
  cases link <;> rfl

theorem isLtp_eq_true_iff {link : ConvergenceLayerLink} :
    isLtp link = true ↔ ∃ engineId, outductOf link = .ltp engineId := by
  cases link <;> simp [isLtp, outductOf]

/-- Outducts of LTP links are added, others must be known. -/
theorem outducts_eq_iff :
    (addNeighbor (allSucceed : ℕ → Except ε Unit) (databaseOf config) neighbor).1.outducts =
        (databaseOf (withNeighbor config neighbor)).outducts ↔
      ∀ link ∈ neighbor.links, isLtp link = false →
        ∃ known ∈ config.links, outductOf known = outductOf link := by
  rw [addNeighbor_allSucceed, Finset.ext_iff]
  simp only [Finset.mem_union, List.mem_toFinset, List.mem_map, mem_outducts_databaseOf,
    mem_engineIds, links_withNeighbor, List.mem_append]
  constructor
  · intro h link hl hother
    rcases (h (outductOf link)).mpr ⟨link, Or.inr hl, rfl⟩ with hknown | ⟨engineId, -, hduct⟩
    · exact hknown
    · have hltp := isLtp_eq_true_iff.mpr ⟨engineId, hduct.symm⟩
      rw [hother] at hltp
      exact absurd hltp Bool.false_ne_true
  · intro h duct
    constructor
    · rintro (⟨link, hl, rfl⟩ | ⟨engineId, ⟨link, hl, hengine⟩, rfl⟩)
      · exact ⟨link, Or.inl hl, rfl⟩
      · rw [extractEngineId_eq] at hengine
        exact ⟨link, Or.inr hl, outductOf_eq_ltp_iff.mpr hengine⟩
    · rintro ⟨link, hl | hl, rfl⟩
      · exact Or.inl ⟨link, hl, rfl⟩
      · cases hltp : isLtp link with
        | false => exact Or.inl (h link hl hltp)
        | true =>
          obtain ⟨engineId, hduct⟩ := isLtp_eq_true_iff.mp hltp
          have hengine := outductOf_eq_ltp_iff.mp hduct
          rw [← extractEngineId_eq] at hengine
          exact Or.inr ⟨engineId, ⟨link, hl, hengine⟩, hduct.symm⟩

/-- Inducts are not added, so that all must be known. -/
theorem inducts_eq_iff :
    (addNeighbor (allSucceed : ℕ → Except ε Unit) (databaseOf config) neighbor).1.inducts =
        (databaseOf (withNeighbor config neighbor)).inducts ↔
      ∀ link ∈ neighbor.links, ∃ known ∈ config.links, inductOf known = inductOf link := by
  rw [addNeighbor_allSucceed, Finset.ext_iff]
  simp only [mem_inducts_databaseOf, links_withNeighbor, List.mem_append]
  constructor
  · intro h link hl
    exact (h (inductOf link)).mpr ⟨link, Or.inr hl, rfl⟩
  · intro h duct
    constructor
    · rintro ⟨link, hl, rfl⟩
      exact ⟨link, Or.inl hl, rfl⟩
    · rintro ⟨link, hl | hl, rfl⟩
      · exact ⟨link, hl, rfl⟩
      · exact h link hl

/-- The first LTP over UDP link of the configuration keeps deciding the port. -/
theorem findLocalLtpPort_withNeighbor {link : ConvergenceLayerLink} (hl : link ∈ config.links)
    {engineId : UInt64} {segmentSize : UInt32} {host : Text} {port : UInt16}
    (hentry : spanEntryOf link = some (engineId, segmentSize, .udplso host port)) :
    findLocalLtpPort (withNeighbor config neighbor) = findLocalLtpPort config := by
  have hport : (ltpLocalPort link).isSome = true := by
    cases link <;> simp_all [spanEntryOf, ltpLocalPort]
  obtain ⟨first, hfirst⟩ := Option.isSome_iff_exists.mp
    (List.findSome?_isSome_iff.mpr ⟨link, hl, hport⟩)
  rw [findLocalLtpPort, findLocalLtpPort, links_withNeighbor, List.findSome?_append, hfirst]
  rfl

/-- Spans are not added either, and the one that leads back to the node must not change. -/
theorem spans_eq_iff :
    (addNeighbor (allSucceed : ℕ → Except ε Unit) (databaseOf config) neighbor).1.spans =
        (databaseOf (withNeighbor config neighbor)).spans ↔
      (∀ link ∈ neighbor.links, ∀ entry, spanEntryOf link = some entry →
        entry = loopbackEntry config ∨ ∃ known ∈ config.links, spanEntryOf known = some entry) ∧
      findLocalLtpPort (withNeighbor config neighbor) = findLocalLtpPort config := by
  rw [addNeighbor_allSucceed, Finset.ext_iff]
  simp only [mem_spans_databaseOf, links_withNeighbor, List.mem_append]
  constructor
  · intro h
    refine ⟨fun link hl entry hentry => (h entry).mpr (Or.inr ⟨link, Or.inr hl, hentry⟩), ?_⟩
    rcases (h (loopbackEntry (withNeighbor config neighbor))).mpr (Or.inl rfl) with
      hsame | ⟨link, hl, hentry⟩
    · simp only [loopbackEntry, Prod.mk.injEq, SpanOutput.udplso.injEq] at hsame
      exact hsame.2.2.2
    · exact findLocalLtpPort_withNeighbor hl hentry
  · rintro ⟨h, hport⟩ entry
    have hloopback : loopbackEntry (withNeighbor config neighbor) = loopbackEntry config := by
      rw [loopbackEntry, hport]
      rfl
    rw [hloopback]
    constructor
    · rintro (hback | ⟨link, hl, hentry⟩)
      · exact Or.inl hback
      · exact Or.inr ⟨link, Or.inl hl, hentry⟩
    · rintro (hback | ⟨link, hl | hl, hentry⟩)
      · exact Or.inl hback
      · exact Or.inr ⟨link, hl, hentry⟩
      · exact h link hl entry hentry

/-- No plan of a valid configuration is for a node that can still be added. -/
theorem plans_ne_of_valid (hconfig : validate config = .ok ())
    (hadded : validate (withNeighbor config neighbor) = .ok ()) {plan : UInt64 × Duct}
    (h : plan ∈ (databaseOf config).plans) : plan.1 ≠ neighbor.nodeNumber := by
  have hnew : neighbor.nodeNumber ∉ definedNodes config := by
    have hvalid := validate_eq_ok_iff.mp hadded
    have hlocal := hvalid.localDistinct neighbor (by simp [withNeighbor])
    have hdistinct := hvalid.neighborsDistinct
    simp only [withNeighbor, List.map_append, List.map_cons, List.map_nil,
      List.nodup_append, List.mem_singleton] at hdistinct
    simp only [definedNodes, List.mem_cons, not_or]
    exact ⟨hlocal, fun hmem => hdistinct.2.2 _ hmem _ rfl rfl⟩
  have hdefined : plan.1 ∈ definedNodes config := by
    rcases mem_plans_databaseOf.mp h with ⟨route, hroute, rfl⟩ | ⟨known, hknown, hplan⟩
    · unfold plannedRoutes at hroute
      split at hroute
      next hstatic => exact ((validate_eq_ok_iff.mp hconfig).routes hstatic route hroute).1
      next => exact absurd hroute List.not_mem_nil
    · obtain ⟨link, -, rfl⟩ := Option.map_eq_some_iff.mp hplan
      exact List.mem_cons_of_mem _ (List.mem_map_of_mem hknown)
  exact fun heq => hnew (heq ▸ hdefined)

theorem mem_plans_withNeighbor {plan : UInt64 × Duct} :
    plan ∈ (databaseOf (withNeighbor config neighbor)).plans ↔
      plan ∈ (databaseOf config).plans ∨ planOf neighbor = some plan := by
  have hroutes : plannedRoutes (withNeighbor config neighbor) = plannedRoutes config := rfl
  rw [mem_plans_databaseOf, mem_plans_databaseOf, hroutes]
  simp only [withNeighbor, List.mem_append, List.mem_singleton, or_and_right, exists_or,
    exists_eq_left, or_assoc]

/-- The plan that is added is that of the scripts if the first link uses LTP, or there is none. -/
theorem runtimePlan_eq_iff :
    runtimePlan neighbor = planOf neighbor ↔ ∀ link ∈ neighbor.links.head?, isLtp link = true := by
  unfold runtimePlan planOf engineIds
  cases neighbor.links with
  | nil => simp
  | cons link rest =>
    cases hengine : extractEngineId link with
    | some engineId =>
      have hduct : outductOf link = .ltp engineId := by
        rw [outductOf_eq_ltp_iff, ← extractEngineId_eq, hengine]
      simp [hengine, hduct, isLtp_eq_true_iff]
    | none =>
      have hduct (engineId : UInt64) : Duct.ltp engineId ≠ outductOf link := by
        rw [ne_comm, ne_eq, outductOf_eq_ltp_iff, ← extractEngineId_eq, hengine]
        simp
      have hother : isLtp link = false := by
        rw [← Bool.not_eq_true, isLtp_eq_true_iff]
        exact fun ⟨engineId, h⟩ => hduct engineId h.symm
      refine iff_of_false (fun h => ?_) (by simp [hother])
      obtain ⟨engineId, -, hplan⟩ := Option.map_eq_some_iff.mp h
      exact hduct engineId (Prod.mk.inj hplan).2

/-- The plan of a neighbor leads through the first LTP link at run time and through the first link
in the scripts. -/
theorem plan_eq_iff (hconfig : validate config = .ok ())
    (hadded : validate (withNeighbor config neighbor) = .ok ()) :
    ((addNeighbor (allSucceed : ℕ → Except ε Unit) (databaseOf config) neighbor).1.plans.filter
        fun plan => plan.1 = neighbor.nodeNumber) =
        ((databaseOf (withNeighbor config neighbor)).plans.filter
          fun plan => plan.1 = neighbor.nodeNumber) ↔
      ∀ link ∈ neighbor.links.head?, isLtp link = true := by
  -- What the engine knew before is for other nodes.
  have hknown (plan : UInt64 × Duct) (added : Option (UInt64 × Duct))
      (hadd : ∀ plan, added = some plan → plan.1 = neighbor.nodeNumber) :
      (plan ∈ (databaseOf config).plans ∨ added = some plan) ∧ plan.1 = neighbor.nodeNumber ↔
        added = some plan := by
    constructor
    · rintro ⟨hplan | hplan, hnode⟩
      · exact absurd hnode (plans_ne_of_valid hconfig hadded hplan)
      · exact hplan
    · intro hplan
      exact ⟨Or.inr hplan, hadd plan hplan⟩
  have hruntime : ∀ plan, runtimePlan neighbor = some plan → plan.1 = neighbor.nodeNumber := by
    intro plan hplan
    obtain ⟨engineId, -, rfl⟩ := Option.map_eq_some_iff.mp hplan
    rfl
  have hstatic : ∀ plan, planOf neighbor = some plan → plan.1 = neighbor.nodeNumber := by
    intro plan hplan
    obtain ⟨link, -, rfl⟩ := Option.map_eq_some_iff.mp hplan
    rfl
  rw [← runtimePlan_eq_iff, addNeighbor_allSucceed, Finset.ext_iff, Option.ext_iff]
  simp only [Finset.mem_filter, Finset.mem_union, Option.mem_toFinset, Option.mem_def,
    mem_plans_withNeighbor, hknown _ _ hruntime, hknown _ _ hstatic]

/-- Adding a neighbor to a running engine amounts to starting the engine with the neighbor exactly
if the engine knows all that the runtime path leaves out. -/
theorem agrees_iff (hconfig : validate config = .ok ())
    (hadded : validate (withNeighbor config neighbor) = .ok ()) :
    Agrees neighbor
        (addNeighbor (allSucceed : ℕ → Except ε Unit) (databaseOf config) neighbor).1
        (databaseOf (withNeighbor config neighbor)) ↔
      Covered config neighbor := by
  constructor
  · intro h
    obtain ⟨hspans, hport⟩ := spans_eq_iff.mp h.spans
    exact ⟨(plan_eq_iff hconfig hadded).mp h.plan, outducts_eq_iff.mp h.outducts,
      inducts_eq_iff.mp h.inducts, hspans, hport⟩
  · intro h
    exact ⟨outducts_eq_iff.mpr h.outducts, inducts_eq_iff.mpr h.inducts,
      spans_eq_iff.mpr ⟨h.spans, h.port⟩, (plan_eq_iff hconfig hadded).mpr h.first⟩

/-- A node on its own. -/
def loneNode : NetworkConfiguration :=
  ⟨chars "ion-dtn", ⟨10, none, []⟩, [], ⟨[], []⟩, ⟨.cgr, []⟩, none, []⟩

/-- A neighbor behind the engine of a gateway. -/
def behindGateway (node : UInt64) : Neighbor :=
  ⟨node, [.ltpUdp [] 10 20 (chars "10.0.0.20") 1113 1113 none]⟩

/-- A second neighbor behind the same gateway. -/
theorem agrees_behind_gateway :
    let config := withNeighbor loneNode (behindGateway 20)
    Agrees (behindGateway 30)
      (addNeighbor (allSucceed : ℕ → Except Unit Unit) (databaseOf config) (behindGateway 30)).1
      (databaseOf (withNeighbor config (behindGateway 30))) := by
  intro config
  have hlinks : config.links = (behindGateway 30).links := rfl
  refine (agrees_iff (by decide +kernel) (by decide +kernel)).mpr
    ⟨by decide, by decide +kernel, ?_, ?_, by decide +kernel⟩
  · intro link hl
    exact ⟨link, hlinks ▸ hl, rfl⟩
  · intro link hl entry hentry
    exact Or.inr ⟨link, hlinks ▸ hl, hentry⟩

/-- The first neighbor of a node gets neither an induct nor a span at run time. -/
theorem span_missing_at_runtime :
    ¬ ∀ (config : NetworkConfiguration) (neighbor : Neighbor), validate config = .ok () →
      validate (withNeighbor config neighbor) = .ok () → Agrees neighbor
        (addNeighbor (allSucceed : ℕ → Except Unit Unit) (databaseOf config) neighbor).1
        (databaseOf (withNeighbor config neighbor)) := by
  intro h
  have hspans := (h loneNode (behindGateway 20) (by decide +kernel) (by decide +kernel)).spans
  exact absurd hspans (by decide +kernel)

end agreement

end CislunarDtn.IonReconfigurations
