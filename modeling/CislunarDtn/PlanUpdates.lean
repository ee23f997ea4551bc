import CislunarDtn.LabelledRuns
import CislunarDtn.PassPredictions

/-!
# Updating a loaded contact plan

Single windows are replaced by identifier or appended; predicted windows are
appended in bulk. Both update the plan in place and validate it afterwards, so
that what an update leaves behind depends on whether its windows fit the plan.
-/

namespace CislunarDtn.PlanUpdates

open Bundles ContactPlans ContactPlanManager PassPredictions LabelledRuns

/-- A predictor of passes: parameters, stations, interval and step. -/
abbrev PassPredictor := OrbitalParameters → List GroundStationLocation → ℤ → ℤ → ℤ →
  Except GoError (List PredictedContact)

/-- The loop that replaces the first contact with the same identifier, none if
there is no such contact. -/
def replaceFirst : List ContactWindow → ContactWindow → Option (List ContactWindow)
  | [], _ => none
  | c :: rest, contact =>
    if c.contactID = contact.contactID then some (contact :: rest)
    else (replaceFirst rest contact).map (c :: ·)

/-- The contacts with one replaced or added. -/
def withContact (contacts : List ContactWindow) (contact : ContactWindow) : List ContactWindow :=
  match replaceFirst contacts contact with
  | some replaced => replaced
  | none => contacts ++ [contact]

/-- Update a contact window in the plan, and validate the plan. -/
def updatePlan (cpm : ContactPlanManager) (contact : ContactWindow) :
    ContactPlanManager × Option GoError :=
  match cpm.plan with
  | none => (cpm, some (.errorf (ascii "no contact plan loaded")))
  | some plan =>
    let plan := { plan with contacts := withContact plan.contacts contact }
    ({ cpm with plan := some plan }, plan.validate)

/-- The plan with predicted passes. -/
def withPredictions (plan : ContactPlan) (params : OrbitalParameters)
    (predicted : List PredictedContact) : ContactPlan :=
  { plan with
    predictedContacts := predicted
    orbitalData := some params
    contacts := plan.contacts ++ predicted.map fun pc => pc.window }

/-- Update the plan with predicted passes, and validate the plan. -/
def updateContactPlanWithPredictions (predictLEOPasses : PassPredictor)
    (cpm : ContactPlanManager) (params : OrbitalParameters)
    (stations : List GroundStationLocation) (fromTime toTime : ℤ) :
    ContactPlanManager × Option GoError :=
  match predictLEOPasses params stations fromTime toTime 30 with
  | .error err => (cpm, some (err.wrap "pass prediction failed"))
  | .ok predicted =>
    match cpm.plan with
    | none => (cpm, some (.errorf (ascii "no contact plan loaded")))
    | some plan =>
      let plan := withPredictions plan params predicted
      ({ cpm with plan := some plan }, plan.validate)

/-- Predicted contact windows, with the step of the orbit's class. -/
def predictContacts (sorter : StartSorter) (leoSky cislunarSky : SkyModel)
    (params : OrbitalParameters) (stations : List GroundStationLocation)
    (fromTime toTime : Int64) : Except GoError (List PredictedContact) :=
  match params.validate with
  | some err => .error (err.wrap "invalid orbital parameters")
  | none =>
    if fromTime ≥ toTime then .error (.errorf (ascii "fromTime must be less than toTime"))
    else
      match stations.findSome? fun station => station.validate with
      | some err => .error (err.wrap "invalid ground station")
      | none =>
        let timeStep := if params.determineOrbitType = .cislunar then 60 else 30
        match predictPasses sorter leoSky cislunarSky params stations fromTime.toInt
            toTime.toInt timeStep with
        | .error err => .error (err.wrap "CGR pass prediction failed")
        | .ok predicted => .ok predicted

/-- Operations on the plan of a manager. -/
inductive PlanOp where
  /-- Load a plan. -/
  | loadPlan (plan : ContactPlan)
  /-- Replace or add a contact. -/
  | updatePlan (contact : ContactWindow)
  /-- Add the predicted passes of an interval. -/
  | updateWithPredictions (params : OrbitalParameters) (stations : List GroundStationLocation)
    (fromTime toTime : ℤ)

/-- A single or a predicted update: no plan is loaded. -/
def PlanOp.IsUpdate : PlanOp → Prop
  | .loadPlan _ => False
  | .updatePlan _ => True
  | .updateWithPredictions _ _ _ _ => True

/-- The manager after an operation, and its error. -/
def PlanOp.apply (predictLEOPasses : PassPredictor) (cpm : ContactPlanManager) :
    PlanOp → ContactPlanManager × Option GoError
  | .loadPlan plan => cpm.loadPlan plan
  | .updatePlan contact => PlanUpdates.updatePlan cpm contact
  | .updateWithPredictions params stations fromTime toTime =>
    updateContactPlanWithPredictions predictLEOPasses cpm params stations fromTime toTime

/-- The manager after an operation. -/
def planStep (predictLEOPasses : PassPredictor) (cpm : ContactPlanManager) (op : PlanOp) :
    ContactPlanManager := (op.apply predictLEOPasses cpm).1

/-- No plan is loaded, or the loaded plan is valid. -/
def NilOrValid (cpm : ContactPlanManager) : Prop :=
  ∀ plan, cpm.plan = some plan → plan.validate = none

/-- The contacts, predictions and orbital elements of the loaded plan. -/
def planContents (cpm : ContactPlanManager) :
    Option (List ContactWindow × List PredictedContact × Option OrbitalParameters) :=
  cpm.plan.map fun plan => (plan.contacts, plan.predictedContacts, plan.orbitalData)

/-- An operation that reports an error leaves the plan's contents as they were. -/
def ErrorsChangeNothing (predictLEOPasses : PassPredictor) (cpm : ContactPlanManager)
    (op : PlanOp) : Prop :=
  (op.apply predictLEOPasses cpm).2 ≠ none →
    planContents (planStep predictLEOPasses cpm op) = planContents cpm

/-- A window that fits a plan beside the contacts that stay. -/
def FitsBeside (plan : ContactPlan) (stay : List ContactWindow) (c : ContactWindow) : Prop :=
  c.Schedulable plan.validFrom plan.validTo ∧ ∀ d ∈ stay, c.overlaps d = false

/-- The windows of an update fit the loaded plan: an updated contact beside the
contacts other than the one it replaces, predicted windows beside all contacts
and each other, with confidences in range. -/
def WindowsFit (predictLEOPasses : PassPredictor) (cpm : ContactPlanManager) : PlanOp → Prop
  | .loadPlan _ => True
  | .updatePlan contact => ∀ plan, cpm.plan = some plan →
    FitsBeside plan (plan.contacts.eraseP fun c => c.contactID = contact.contactID) contact
  | .updateWithPredictions params stations fromTime toTime => ∀ plan predicted,
    cpm.plan = some plan → predictLEOPasses params stations fromTime toTime 30 = .ok predicted →
      (∀ pc ∈ predicted, FitsBeside plan plan.contacts pc.window ∧ pc.Confident) ∧
        predicted.Pairwise fun a b => a.window.overlaps b.window = false

section contacts

/-- What is replaced is the first contact with the identifier. -/
theorem exists_of_replaceFirst {contacts replaced : List ContactWindow} {contact : ContactWindow}
    (h : replaceFirst contacts contact = some replaced) :
    ∃ before c after, contacts = before ++ c :: after ∧ replaced = before ++ contact :: after ∧
      c.contactID = contact.contactID ∧ ∀ d ∈ before, d.contactID ≠ contact.contactID := by
  induction contacts generalizing replaced with
  | nil => cases h
  | cons c rest ih =>
    rw [replaceFirst] at h
    by_cases hid : c.contactID = contact.contactID
    · rw [if_pos hid] at h
      obtain rfl := Option.some.inj h
      exact ⟨[], c, rest, rfl, rfl, hid, fun d hd => absurd hd List.not_mem_nil⟩
    · rw [if_neg hid] at h
      obtain ⟨inner, hinner, rfl⟩ := Option.map_eq_some_iff.mp h
      obtain ⟨before, found, after, rfl, rfl, hfound, hbefore⟩ := ih hinner
      exact ⟨c :: before, found, after, rfl, rfl, hfound, List.forall_mem_cons.mpr ⟨hid, hbefore⟩⟩

theorem replaceFirst_perm {contacts replaced : List ContactWindow} {contact : ContactWindow}
    (h : replaceFirst contacts contact = some replaced) :
    replaced.Perm
      (contact :: contacts.eraseP fun c => c.contactID = contact.contactID) := by
  obtain ⟨before, c, after, rfl, rfl, hid, hbefore⟩ := exists_of_replaceFirst h
  have hskip : ∀ d ∈ before, ¬decide (d.contactID = contact.contactID) = true := by
    intro d hd
    simpa using hbefore d hd
  rw [List.eraseP_append_right _ hskip, List.eraseP_cons_of_pos (by simpa using hid)]
  exact List.perm_middle

theorem replaceFirst_eq_none_iff {contacts : List ContactWindow} {contact : ContactWindow} :
    replaceFirst contacts contact = none ↔ ∀ c ∈ contacts, c.contactID ≠ contact.contactID := by
  induction contacts with
  | nil => simp [replaceFirst]
  | cons c rest ih =>
    rw [replaceFirst]
    by_cases hid : c.contactID = contact.contactID
    · simp [hid]
    · simp [hid, ih]

/-- The updated contacts are the new one and those it does not replace. -/
theorem withContact_perm (contacts : List ContactWindow) (contact : ContactWindow) :
    (withContact contacts contact).Perm
      (contact :: contacts.eraseP fun c => c.contactID = contact.contactID) := by
  unfold withContact
  cases h : replaceFirst contacts contact with
  | some replaced => exact replaceFirst_perm h
  | none =>
    have hnone : ∀ c ∈ contacts, ¬decide (c.contactID = contact.contactID) = true := by
      intro c hc
      simpa using replaceFirst_eq_none_iff.mp h c hc
    rw [List.eraseP_of_forall_not hnone]
    exact List.perm_append_singleton contact contacts

end contacts

section fitting

variable {plan : ContactPlan}

/-- An updated valid plan is valid exactly if the contact fits. -/
theorem validate_withContact (hvalid : plan.validate = none) (contact : ContactWindow) :
    ({ plan with contacts := withContact plan.contacts contact } : ContactPlan).validate =
        none ↔
      FitsBeside plan (plan.contacts.eraseP fun c => c.contactID = contact.contactID)
        contact := by
  obtain ⟨hperiod, hfits, hapart, hconfident⟩ := ContactPlan.validate_eq_none_iff.mp hvalid
  have hperm := withContact_perm plan.contacts contact
  have hsublist := plan.contacts.eraseP_sublist
    (p := fun c => decide (c.contactID = contact.contactID))
  have hsymm : ∀ {c d : ContactWindow}, c.overlaps d = false → d.overlaps c = false := by
    intro c d h
    rw [ContactWindow.overlaps_comm, h]
  rw [ContactPlan.validate_eq_none_iff]
  dsimp only
  rw [hperm.pairwise_iff hsymm, List.pairwise_cons]
  constructor
  · rintro ⟨-, hall, ⟨hbeside, -⟩, -⟩
    exact ⟨hall contact (hperm.mem_iff.mpr List.mem_cons_self), hbeside⟩
  · rintro ⟨hschedulable, hbeside⟩
    refine ⟨hperiod, ?_, ⟨hbeside, hapart.sublist hsublist⟩, hconfident⟩
    intro c hc
    rcases List.mem_cons.mp (hperm.mem_iff.mp hc) with rfl | hc
    · exact hschedulable
    · exact hfits c (hsublist.subset hc)

/-- A valid plan with predicted passes is valid exactly if the passes fit. -/
theorem validate_withPredictions (hvalid : plan.validate = none) (params : OrbitalParameters)
    (predicted : List PredictedContact) :
    (withPredictions plan params predicted).validate = none ↔
      (∀ pc ∈ predicted, FitsBeside plan plan.contacts pc.window ∧ pc.Confident) ∧
        predicted.Pairwise fun a b => a.window.overlaps b.window = false := by
  obtain ⟨hperiod, hfits, hapart, hconfident⟩ := ContactPlan.validate_eq_none_iff.mp hvalid
  rw [ContactPlan.validate_eq_none_iff]
  simp only [withPredictions]
  rw [List.pairwise_append, List.pairwise_map]
  constructor
  · rintro ⟨-, hall, ⟨-, hpassesApart, hbeside⟩, hconf⟩
    refine ⟨fun pc hpc => ⟨⟨?_, fun d hd => ?_⟩, hconf pc hpc⟩, hpassesApart⟩
    · exact hall _ (List.mem_append_right _ (List.mem_map_of_mem hpc))
    · rw [ContactWindow.overlaps_comm]
      exact hbeside d hd _ (List.mem_map_of_mem hpc)
  · rintro ⟨hpasses, hpassesApart⟩
    refine ⟨hperiod, ?_, ⟨hapart, hpassesApart, ?_⟩, fun pc hpc => (hpasses pc hpc).2⟩
    · intro c hc
      rcases List.mem_append.mp hc with hc | hc
      · exact hfits c hc
      · obtain ⟨pc, hpc, rfl⟩ := List.mem_map.mp hc
        exact (hpasses pc hpc).1.1
    · intro d hd c hc
      obtain ⟨pc, hpc, rfl⟩ := List.mem_map.mp hc
      rw [ContactWindow.overlaps_comm]
      exact (hpasses pc hpc).1.2 d hd

end fitting

end CislunarDtn.PlanUpdates
