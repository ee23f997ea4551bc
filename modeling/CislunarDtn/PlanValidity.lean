import CislunarDtn.PlanUpdates

/-!
# Whether updates keep a plan valid

A plan is validated before it is loaded, but only after it has been updated,
and nothing is undone. Updates whose windows fit the plan keep it valid and
report no error; the first update whose windows do not fit leaves an invalid
plan behind its error. Predicting again adds the same windows again.
-/

namespace CislunarDtn.PlanValidity

open Bundles ContactPlans ContactPlanManager PassPredictions PlanUpdates LabelledRuns

variable (predictLEOPasses : PassPredictor)

section steps

variable {predictLEOPasses : PassPredictor} {cpm : ContactPlanManager}

/-- An operation keeps a valid plan valid exactly if its windows fit. -/
theorem nilOrValid_planStep_iff (hvalid : NilOrValid cpm) (op : PlanOp) :
    NilOrValid (planStep predictLEOPasses cpm op) ↔ WindowsFit predictLEOPasses cpm op := by
  cases op with
  | loadPlan plan =>
    refine iff_of_true ?_ trivial
    intro plan' hplan
    rw [planStep, PlanOp.apply, ContactPlanManager.loadPlan] at hplan
    cases hv : plan.validate with
    | some err =>
      rw [hv] at hplan
      exact hvalid plan' hplan
    | none =>
      rw [hv] at hplan
      obtain rfl := Option.some.inj hplan
      exact hv
  | updatePlan contact =>
    cases hp : cpm.plan with
    | none => simp [planStep, PlanOp.apply, updatePlan, WindowsFit, NilOrValid, hp]
    | some plan =>
      have hiff := validate_withContact (hvalid plan hp) contact
      simpa [planStep, PlanOp.apply, updatePlan, WindowsFit, NilOrValid, hp] using hiff
  | updateWithPredictions params stations fromTime toTime =>
    cases hpredict : predictLEOPasses params stations fromTime toTime 30 with
    | error err =>
      simpa [planStep, PlanOp.apply, updateContactPlanWithPredictions, WindowsFit, hpredict]
        using hvalid
    | ok predicted =>
      cases hp : cpm.plan with
      | none =>
        simp [planStep, PlanOp.apply, updateContactPlanWithPredictions, WindowsFit, NilOrValid,
          hpredict, hp]
      | some plan =>
        have hiff := validate_withPredictions (hvalid plan hp) params predicted
        simpa [planStep, PlanOp.apply, updateContactPlanWithPredictions, WindowsFit, NilOrValid,
          hpredict, hp] using hiff

/-- While windows fit, an error means that nothing has been changed. -/
theorem errorsChangeNothing_of_windowsFit (hvalid : NilOrValid cpm) {op : PlanOp}
    (hfit : WindowsFit predictLEOPasses cpm op) :
    ErrorsChangeNothing predictLEOPasses cpm op := by
  have hnext := (nilOrValid_planStep_iff hvalid op).mpr hfit
  intro herr
  cases op with
  | loadPlan plan =>
    rw [planStep]
    rw [PlanOp.apply, ContactPlanManager.loadPlan] at herr ⊢
    cases hv : plan.validate with
    | some err => rfl
    | none =>
      rw [hv] at herr
      exact absurd rfl herr
  | updatePlan contact =>
    cases hp : cpm.plan with
    | none => simp [planStep, PlanOp.apply, updatePlan, planContents, hp]
    | some plan =>
      simp only [planStep, PlanOp.apply, updatePlan, hp] at herr hnext
      exact absurd (hnext _ rfl) herr
  | updateWithPredictions params stations fromTime toTime =>
    cases hpredict : predictLEOPasses params stations fromTime toTime 30 with
    | error err =>
      simp [planStep, PlanOp.apply, updateContactPlanWithPredictions, planContents, hpredict]
    | ok predicted =>
      cases hp : cpm.plan with
      | none =>
        simp [planStep, PlanOp.apply, updateContactPlanWithPredictions, planContents, hpredict,
          hp]
      | some plan =>
        simp only [planStep, PlanOp.apply, updateContactPlanWithPredictions, hpredict, hp]
          at herr hnext
        exact absurd (hnext _ rfl) herr

end steps

/-- Along a run from a new manager the plan is always absent or valid, and an
error always means that the plan is as it was, exactly if the windows of every
update fit the plan they meet. -/
theorem plan_valid_iff_windowsFit (ops : List PlanOp) :
    ((∀ first, first <+: ops →
        NilOrValid (run (planStep predictLEOPasses) newContactPlanManager first)) ∧
      Along (planStep predictLEOPasses) (ErrorsChangeNothing predictLEOPasses)
        newContactPlanManager ops) ↔
    Along (planStep predictLEOPasses) (WindowsFit predictLEOPasses)
      newContactPlanManager ops := by
  have hstart : NilOrValid newContactPlanManager := by
    intro plan hp
    cases hp
  have hstep : ∀ cpm op, NilOrValid cpm → True →
      (NilOrValid (planStep predictLEOPasses cpm op) ↔ WindowsFit predictLEOPasses cpm op) :=
    fun _ op hcpm _ => nilOrValid_planStep_iff hcpm op
  have herrors : ∀ cpm op, NilOrValid cpm → WindowsFit predictLEOPasses cpm op →
      (True ↔ ErrorsChangeNothing predictLEOPasses cpm op) :=
    fun _ _ hcpm hfit => iff_of_true trivial (errorsChangeNothing_of_windowsFit hcpm hfit)
  rw [forall_prefix_iff_along hstep (along_true ops) hstart]
  refine ⟨fun h => h.1, fun h => ⟨h, ?_⟩⟩
  have hnext : ∀ cpm op, NilOrValid cpm → WindowsFit predictLEOPasses cpm op → True →
      NilOrValid (planStep predictLEOPasses cpm op) :=
    fun cpm op hcpm hfit _ => (hstep cpm op hcpm trivial).mpr hfit
  exact (along_iff_along herrors hnext h hstart).mp (along_true ops)

/-- No passes are ever predicted. -/
def noPasses : PassPredictor := fun _ _ _ _ _ => .ok []

/-- A plan is loaded, and a window is added that overlaps the one it has. -/
def overlappingUpdates : List PlanOp :=
  [.loadPlan ⟨0, 2000, [specimenWindow], [], none⟩,
    .updatePlan { specimenWindow with contactID := 2 }]

/-- After the failed update the loaded plan is invalid and has the window. -/
theorem overlapping_update_stays :
    ¬((∀ first, first <+: overlappingUpdates →
        NilOrValid (run (planStep noPasses) newContactPlanManager first)) ∧
      Along (planStep noPasses) (ErrorsChangeNothing noPasses)
        newContactPlanManager overlappingUpdates) := by
  rintro ⟨hvalid, -⟩
  have hlast := hvalid overlappingUpdates (List.prefix_refl _)
    ⟨0, 2000, [specimenWindow, { specimenWindow with contactID := 2 }], [], none⟩
    (by decide +kernel)
  exact absurd hlast (by decide +kernel)

/-- If the first prediction found passes, the second one reports that the
contacts overlap. -/
theorem predicting_twice_fails {cpm : ContactPlanManager} {params : OrbitalParameters}
    {stations : List GroundStationLocation} {fromTime toTime : ℤ}
    {predicted : List PredictedContact}
    (hfirst : (updateContactPlanWithPredictions predictLEOPasses cpm params stations fromTime
      toTime).2 = none)
    (hpredict : predictLEOPasses params stations fromTime toTime 30 = .ok predicted)
    (hne : predicted ≠ []) :
    (updateContactPlanWithPredictions predictLEOPasses
      (updateContactPlanWithPredictions predictLEOPasses cpm params stations fromTime
        toTime).1 params stations fromTime toTime).2 ≠ none := by
  cases hp : cpm.plan with
  | none => simp [updateContactPlanWithPredictions, hpredict, hp] at hfirst
  | some plan =>
    simp only [updateContactPlanWithPredictions, hpredict, hp] at hfirst ⊢
    rw [Ne, validate_withPredictions hfirst]
    rintro ⟨hfit, -⟩
    obtain ⟨pc, rest, rfl⟩ := List.exists_cons_of_ne_nil hne
    -- the window of the first prediction meets itself
    obtain ⟨⟨⟨-, -, htimes, -⟩, hbeside⟩, -⟩ := hfit pc List.mem_cons_self
    have hself := hbeside pc.window (by simp [withPredictions])
    simp [ContactWindow.overlaps, htimes] at hself

/-- Predicting the passes of an interval once more succeeds and changes neither
contacts nor predictions exactly if the first prediction found no pass. -/
theorem predicting_twice_iff (cpm : ContactPlanManager) (params : OrbitalParameters)
    (stations : List GroundStationLocation) (fromTime toTime : ℤ)
    (hfirst : (updateContactPlanWithPredictions predictLEOPasses cpm params stations fromTime
      toTime).2 = none) :
    (∃ plan again, (updateContactPlanWithPredictions predictLEOPasses cpm params stations
          fromTime toTime).1.plan = some plan ∧
        updateContactPlanWithPredictions predictLEOPasses
          (updateContactPlanWithPredictions predictLEOPasses cpm params stations fromTime
            toTime).1 params stations fromTime toTime = (⟨some again⟩, none) ∧
        again.contacts = plan.contacts ∧ again.predictedContacts = plan.predictedContacts) ↔
      predictLEOPasses params stations fromTime toTime 30 = .ok [] := by
  cases hpredict : predictLEOPasses params stations fromTime toTime 30 with
  | error err => simp [updateContactPlanWithPredictions, hpredict] at hfirst
  | ok predicted =>
    cases hp : cpm.plan with
    | none => simp [updateContactPlanWithPredictions, hpredict, hp] at hfirst
    | some plan =>
      have hfails := predicting_twice_fails predictLEOPasses hfirst hpredict
      simp only [updateContactPlanWithPredictions, hpredict, hp] at hfirst hfails ⊢
      constructor
      · rintro ⟨first, again, -, hagain, -⟩
        by_contra hne
        have hpasses : predicted ≠ [] := by
          rintro rfl
          exact hne rfl
        exact hfails hpasses (Prod.mk.inj hagain).2
      · intro hnone
        obtain rfl := Except.ok.inj hnone
        have htwice : withPredictions (withPredictions plan params []) params [] =
            withPredictions plan params [] := by
          simp [withPredictions]
        refine ⟨withPredictions plan params [], withPredictions plan params [], rfl, ?_, rfl, rfl⟩
        rw [htwice, hfirst]

/-- One pass over Earth, whatever is asked. -/
def onePass : PassPredictor := fun _ _ _ _ _ =>
  .ok [⟨specimenWindow, .finite 45, .finite 0, .finite 1⟩]

/-- A manager whose plan has no window. -/
def emptyPlanner : ContactPlanManager :=
  (newContactPlanManager.loadPlan ⟨0, 2000, [], [], none⟩).1

/-- Predicting one pass succeeds the first time and fails the second time. -/
theorem predicting_twice_counterexample :
    (updateContactPlanWithPredictions onePass emptyPlanner specimenOrbit [] 0 2000).2 = none ∧
      (updateContactPlanWithPredictions onePass
        (updateContactPlanWithPredictions onePass emptyPlanner specimenOrbit [] 0 2000).1
        specimenOrbit [] 0 2000).2 ≠ none := by
  decide +kernel

theorem predicting_twice_noPasses :
    ∃ plan again, (updateContactPlanWithPredictions noPasses emptyPlanner specimenOrbit []
          0 2000).1.plan = some plan ∧
        updateContactPlanWithPredictions noPasses
          (updateContactPlanWithPredictions noPasses emptyPlanner specimenOrbit [] 0 2000).1
          specimenOrbit [] 0 2000 = (⟨some again⟩, none) ∧
        again.contacts = plan.contacts ∧ again.predictedContacts = plan.predictedContacts :=
  (predicting_twice_iff noPasses emptyPlanner specimenOrbit [] 0 2000
    (by decide +kernel)).mpr rfl

end CislunarDtn.PlanValidity
