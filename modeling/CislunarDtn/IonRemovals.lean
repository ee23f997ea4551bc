import CislunarDtn.IonDatabases

/-!
# Additions of neighbors that are undone or fail

A removal is given the node number alone, and takes it for the engine of the
outduct as well. Commands that were performed before one that fails stay
performed, and the caller learns of the failure alone.
-/

namespace CislunarDtn.IonRemovals

open CommandSequences DecimalTexts IonDatabases IonScripts NetworkConfigurations

section restoration

variable {ε : Type*} {db : EngineDatabase} {neighbor : Neighbor}

/-- A database has the outducts and the plans of another. -/
structure SameRoutes (before after : EngineDatabase) : Prop where
  /-- The same outducts. -/
  outducts : after.outducts = before.outducts
  /-- The same plans. -/
  plans : after.plans = before.plans

/-- The removal takes the plan of a new neighbor away again. -/
theorem plans_restored (hplans : ∀ plan ∈ db.plans, plan.1 ≠ neighbor.nodeNumber) :
    ((db.plans ∪ (runtimePlan neighbor).toFinset).filter
      fun plan => plan.1 ≠ neighbor.nodeNumber) = db.plans := by
  ext plan
  rw [Finset.mem_filter, Finset.mem_union, Option.mem_toFinset]
  constructor
  · rintro ⟨hplan | hplan, hnode⟩
    · exact hplan
    · obtain ⟨engineId, -, rfl⟩ := Option.map_eq_some_iff.mp hplan
      exact absurd rfl hnode
  · intro hplan
    exact ⟨Or.inl hplan, hplans plan hplan⟩

/-- Removing a new neighbor undoes its addition exactly if all its engines have its node number and
no other neighbor's engine has it. -/
theorem restored_iff (hplans : ∀ plan ∈ db.plans, plan.1 ≠ neighbor.nodeNumber)
    (hengines : ∀ engineId ∈ engineIds neighbor, .ltp engineId ∉ db.outducts) :
    SameRoutes db (removeNeighbor (allSucceed : ℕ → Except ε Unit)
        (addNeighbor (allSucceed : ℕ → Except ε Unit) db neighbor).1 neighbor.nodeNumber).1 ↔
      (∀ engineId ∈ engineIds neighbor, engineId = neighbor.nodeNumber) ∧
        .ltp neighbor.nodeNumber ∉ db.outducts := by
  have houtducts : SameRoutes db (removeNeighbor (allSucceed : ℕ → Except ε Unit)
      (addNeighbor (allSucceed : ℕ → Except ε Unit) db neighbor).1 neighbor.nodeNumber).1 ↔
        (db.outducts ∪ ((engineIds neighbor).map Duct.ltp).toFinset).erase
          (.ltp neighbor.nodeNumber) = db.outducts := by
    rw [addNeighbor_allSucceed, removeNeighbor_allSucceed]
    constructor
    · exact SameRoutes.outducts
    · intro h
      exact ⟨h, plans_restored hplans⟩
  rw [houtducts, Finset.ext_iff]
  simp only [Finset.mem_erase, Finset.mem_union, List.mem_toFinset, List.mem_map]
  constructor
  · intro h
    constructor
    · intro engineId hengine
      by_contra hother
      have hleft : Duct.ltp engineId ∈ db.outducts :=
        (h _).mp ⟨fun heq => hother (Duct.ltp.inj heq), Or.inr ⟨engineId, hengine, rfl⟩⟩
      exact hengines engineId hengine hleft
    · intro hknown
      exact ((h _).mpr hknown).1 rfl
  · rintro ⟨hnumber, hfree⟩ duct
    constructor
    · rintro ⟨hne, hknown | ⟨engineId, hengine, rfl⟩⟩
      · exact hknown
      · rw [hnumber engineId hengine] at hne
        exact absurd rfl hne
    · intro hknown
      exact ⟨fun heq => hfree (heq ▸ hknown), Or.inl hknown⟩

theorem restored_of_same_number : SameRoutes .empty
    (removeNeighbor (allSucceed : ℕ → Except Unit Unit)
      (addNeighbor (allSucceed : ℕ → Except Unit Unit) .empty
        ⟨20, [.ltpUdp [] 10 20 (chars "10.0.0.20") 1113 1113 none]⟩).1 20).1 :=
  (restored_iff (by simp [EngineDatabase.empty]) (by simp [EngineDatabase.empty])).mpr
    (by simp [engineIds, extractEngineId, EngineDatabase.empty])

/-- The outduct to an engine that is numbered otherwise than its node stays behind. -/
theorem outduct_left_behind :
    ¬ ∀ (db : EngineDatabase) (neighbor : Neighbor),
      (∀ plan ∈ db.plans, plan.1 ≠ neighbor.nodeNumber) →
      (∀ engineId ∈ engineIds neighbor, .ltp engineId ∉ db.outducts) →
      SameRoutes db (removeNeighbor (allSucceed : ℕ → Except Unit Unit)
        (addNeighbor (allSucceed : ℕ → Except Unit Unit) db neighbor).1 neighbor.nodeNumber).1 := by
  intro h
  let neighbor : Neighbor := ⟨20, [.ltpUdp [] 10 21 (chars "10.0.0.20") 1113 1113 none]⟩
  have hroutes :=
    h .empty neighbor (by simp [EngineDatabase.empty]) (by simp [EngineDatabase.empty])
  exact absurd hroutes.outducts (by decide)

end restoration

section failures

variable {ε : Type*} (db : EngineDatabase) (neighbor : Neighbor) (node : UInt64) (k : ℕ) (e : ε)

/-- The commands before the plan are those of the first engines. -/
theorem take_addNeighborCommands (h : k ≤ (engineIds neighbor).length) :
    (addNeighborCommands neighbor).take k = ((engineIds neighbor).take k).map outductCommand := by
  rw [addNeighborCommands_eq, List.take_append_of_le_length (by simpa using h), List.map_take]

theorem length_addNeighborCommands : (addNeighborCommands neighbor).length =
    if engineIds neighbor = [] then 0 else (engineIds neighbor).length + 1 := by
  rw [addNeighborCommands_eq, runtimePlan]
  cases engineIds neighbor <;> simp

/-- An addition that fails has declared the outducts of the engines before the failure. -/
theorem addNeighbor_failAt (h : k ≤ (engineIds neighbor).length) (hne : engineIds neighbor ≠ []) :
    addNeighbor (failAt k e) db neighbor =
      ({ db with outducts := db.outducts ∪ (((engineIds neighbor).take k).map Duct.ltp).toFinset },
        .error e) := by
  have hlength : k < (addNeighborCommands neighbor).length := by
    rw [length_addNeighborCommands, if_neg hne]
    omega
  rw [addNeighbor, perform_failAt, if_pos hlength, take_addNeighborCommands neighbor k h,
    foldl_outductCommands]

/-- An addition whose commands are fewer than the position of the failure succeeds. -/
theorem addNeighbor_failAt_snd (h : (engineIds neighbor).length < k ∨ engineIds neighbor = []) :
    (addNeighbor (failAt k e) db neighbor).2 = .ok () := by
  have hlength : ¬k < (addNeighborCommands neighbor).length := by
    rw [length_addNeighborCommands]
    split
    · omega
    next hne =>
      have hlt := h.resolve_right hne
      omega
  rw [addNeighbor, perform_failAt, if_neg hlength]

/-- A failing addition changes nothing exactly if the outducts before the failure were there. -/
theorem addNeighbor_unchanged_iff :
    ((addNeighbor (failAt k e) db neighbor).2 ≠ .ok () →
        SameRoutes db (addNeighbor (failAt k e) db neighbor).1) ↔
      (k ≤ (engineIds neighbor).length →
        ∀ engineId ∈ (engineIds neighbor).take k, .ltp engineId ∈ db.outducts) := by
  by_cases hfails : k ≤ (engineIds neighbor).length ∧ engineIds neighbor ≠ []
  · obtain ⟨hk, hne⟩ := hfails
    have hsame : SameRoutes db { db with
        outducts := db.outducts ∪ (((engineIds neighbor).take k).map Duct.ltp).toFinset } ↔
          ∀ engineId ∈ (engineIds neighbor).take k, .ltp engineId ∈ db.outducts := by
      have hsubset : SameRoutes db { db with
          outducts := db.outducts ∪ (((engineIds neighbor).take k).map Duct.ltp).toFinset } ↔
            (((engineIds neighbor).take k).map Duct.ltp).toFinset ⊆ db.outducts := by
        rw [← Finset.union_eq_left]
        exact ⟨SameRoutes.outducts, fun h => ⟨h, rfl⟩⟩
      rw [hsubset]
      simp only [Finset.subset_iff, List.mem_toFinset, List.mem_map, forall_exists_index, and_imp,
        forall_apply_eq_imp_iff₂]
    rw [addNeighbor_failAt db neighbor k e hk hne, ← hsame]
    constructor
    · intro h _
      exact h (by simp)
    · intro h _
      exact h hk
  · have hrange : (engineIds neighbor).length < k ∨ engineIds neighbor = [] := by
      by_cases hk : k ≤ (engineIds neighbor).length
      · exact Or.inr (not_not.mp fun hne => hfails ⟨hk, hne⟩)
      · exact Or.inl (Nat.lt_of_not_le hk)
    refine iff_of_true ?_ ?_
    · intro herror
      exact absurd (addNeighbor_failAt_snd db neighbor k e hrange) herror
    · intro hk
      rcases hrange with hlt | hnil
      · omega
      · simp [hnil]

/-- A failing removal changes nothing exactly if it fails at once or there was no plan. -/
theorem removeNeighbor_unchanged_iff :
    ((removeNeighbor (failAt k e) db node).2 ≠ .ok () →
        SameRoutes db (removeNeighbor (failAt k e) db node).1) ↔
      (k = 1 → ∀ plan ∈ db.plans, plan.1 ≠ node) := by
  rw [removeNeighbor, perform_failAt]
  cases k with
  | zero => simpa [removeNeighborCommands] using (⟨rfl, rfl⟩ : SameRoutes db db)
  | succ k =>
    cases k with
    | zero =>
      have hsame : SameRoutes db { db with plans := db.plans.filter fun plan => plan.1 ≠ node } ↔
          ∀ plan ∈ db.plans, plan.1 ≠ node := by
        rw [← Finset.filter_eq_self]
        exact ⟨SameRoutes.plans, fun h => ⟨rfl, h⟩⟩
      simpa [removeNeighborCommands, EngineDatabase.execute] using hsame
    | succ k =>
      have hpast : ¬k + 1 + 1 < 2 := by omega
      simp [removeNeighborCommands, hpast]

/-- A call that returns an error has changed nothing exactly if the commands before the failure had
nothing to change. -/
theorem unchanged_iff :
    (((addNeighbor (failAt k e) db neighbor).2 ≠ .ok () →
        SameRoutes db (addNeighbor (failAt k e) db neighbor).1) ↔
      (k ≤ (engineIds neighbor).length →
        ∀ engineId ∈ (engineIds neighbor).take k, .ltp engineId ∈ db.outducts)) ∧
    (((removeNeighbor (failAt k e) db node).2 ≠ .ok () →
        SameRoutes db (removeNeighbor (failAt k e) db node).1) ↔
      (k = 1 → ∀ plan ∈ db.plans, plan.1 ≠ node)) :=
  ⟨addNeighbor_unchanged_iff db neighbor k e, removeNeighbor_unchanged_iff db node k e⟩

/-- The outduct of the first link stays when ipnadmin fails. -/
theorem outduct_added_by_failure :
    ¬ ∀ (db : EngineDatabase) (neighbor : Neighbor) (k : ℕ) (e : Unit),
      (addNeighbor (failAt k e) db neighbor).2 ≠ .ok () →
        SameRoutes db (addNeighbor (failAt k e) db neighbor).1 := by
  intro h
  let neighbor : Neighbor := ⟨20, [.ltpUdp [] 10 20 (chars "10.0.0.20") 1113 1113 none]⟩
  have hroutes := h .empty neighbor 1 () (by
    simp [neighbor, addNeighbor, addNeighborCommands, extractEngineId, perform, failAt])
  exact absurd hroutes.outducts (by decide)

end failures

end CislunarDtn.IonRemovals
