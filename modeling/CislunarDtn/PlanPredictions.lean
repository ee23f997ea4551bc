import CislunarDtn.PlanUpdates

/-!
# Predicted passes in a plan

An update with predictions always asks the predictor of LEO passes, whatever
the class of the orbit, and numbers the windows it adds from one. What it adds
is what the unified prediction returns for LEO orbits only, and the identifiers
stay distinct only while the plan holds none of the numbers.
-/

namespace CislunarDtn.PlanPredictions

open Bundles ContactPlans ContactPlanManager PassPredictions PlanUpdates LabelledRuns

/-- Node, times, data rate and link of a window. -/
def shape (c : ContactWindow) : NodeID × Int64 × Int64 × Int64 × LinkType :=
  (c.remoteNode, c.startTime, c.endTime, c.dataRate, c.linkType)

section refinement

variable (sorter : StartSorter) {params : OrbitalParameters}
  {stations : List GroundStationLocation}

theorem validateStations_eq_none (hstations : ∀ station ∈ stations, station.validate = none) :
    validateStations stations = none := by
  rw [validateStations, List.findSome?_eq_none_iff]
  intro entry he
  rw [hstations entry.1 (List.fst_mem_of_mem_zipIdx he)]
  rfl

/-- Valid parameters and stations are accepted by every predictor. -/
theorem predictPassesWith_accepts (profile : PassProfile) (hparams : params.validate = none)
    (hstations : ∀ station ∈ stations, station.validate = none) {fromTime toTime : ℤ}
    (hle : fromTime ≤ toTime) (timeStep : ℤ) :
    ∃ predicted, predictPassesWith sorter profile params stations fromTime toTime timeStep =
      .ok predicted := by
  have hnone := validateStations_eq_none hstations
  simp only [predictPassesWith, hparams, hnone, if_neg (Int.not_lt.mpr hle)]
  exact ⟨_, rfl⟩

/-- Accepted arguments of the unified prediction reach the predictor that the
class of the orbit selects, with the step of that class. -/
theorem predictContacts_eq (leoSky cislunarSky : SkyModel) (hparams : params.validate = none)
    (hstations : ∀ station ∈ stations, station.validate = none) {fromTime toTime : Int64}
    (hlt : fromTime < toTime) :
    predictContacts sorter leoSky cislunarSky params stations fromTime toTime =
      match params.determineOrbitType with
      | .leo => predictLEOPasses sorter leoSky params stations fromTime.toInt toTime.toInt 30
      | .cislunar => predictCislunarPasses sorter cislunarSky params stations fromTime.toInt
          toTime.toInt 60 := by
  have hfind : (stations.findSome? fun station => station.validate) = none :=
    List.findSome?_eq_none_iff.mpr hstations
  have hle : fromTime.toInt ≤ toTime.toInt := by
    have := Int64.lt_iff_toInt_lt.mp hlt
    omega
  unfold predictContacts predictPasses
  rw [hparams, hfind]
  simp only [ge_iff_le, Int64.not_le.mpr hlt, if_false]
  cases horbit : params.determineOrbitType with
  | leo =>
    obtain ⟨predicted, hok⟩ := predictPassesWith_accepts sorter (leoProfile leoSky)
      hparams hstations hle 30
    simp [predictLEOPasses, hok]
  | cislunar =>
    obtain ⟨predicted, hok⟩ := predictPassesWith_accepts sorter
      (cislunarProfile cislunarSky) hparams hstations hle 60
    simp [predictCislunarPasses, hok]

end refinement

/-- Windows of different rates have the same shapes only where there are none. -/
theorem map_shape_eq_iff {rate other : Int64} (hne : rate ≠ other)
    {first second : List PredictedContact} (hfirst : ∀ pc ∈ first, pc.window.dataRate = rate)
    (hsecond : ∀ pc ∈ second, pc.window.dataRate = other) :
    first.map (fun pc => shape pc.window) = second.map (fun pc => shape pc.window) ↔
      first = [] ∧ second = [] := by
  constructor
  · intro hsame
    cases first with
    | nil => exact ⟨rfl, by simpa using hsame.symm⟩
    | cons a first =>
      cases second with
      | nil => simp at hsame
      | cons b second =>
        have hrates : a.window.dataRate = b.window.dataRate := by
          simp only [List.map_cons, List.cons.injEq, shape, Prod.mk.injEq] at hsame
          exact hsame.1.2.2.2.1
        rw [hfirst a List.mem_cons_self, hsecond b List.mem_cons_self] at hrates
        exact absurd hrates hne
  · intro h
    rw [h.1, h.2]

/-- For arguments that both accept, an update adds the windows that the unified
prediction returns exactly if the orbit is a LEO one, or if neither the LEO
model in steps of 30 seconds nor the cislunar model in steps of 60 seconds has
a pass. -/
theorem added_eq_predicted_iff (sorter : StartSorter) (leoSky cislunarSky : SkyModel)
    {cpm : ContactPlanManager} {plan : ContactPlan} (hplan : cpm.plan = some plan)
    {params : OrbitalParameters} (hparams : params.validate = none)
    {stations : List GroundStationLocation}
    (hstations : ∀ station ∈ stations, station.validate = none) {fromTime toTime : Int64}
    (hlt : fromTime < toTime) :
    ∃ predicted added,
      predictContacts sorter leoSky cislunarSky params stations fromTime toTime =
        .ok predicted ∧
      (updateContactPlanWithPredictions (predictLEOPasses sorter leoSky) cpm params stations
        fromTime.toInt toTime.toInt).1.plan.map (fun plan => plan.contacts) =
          some (plan.contacts ++ added) ∧
      (added.map shape = predicted.map (fun pc => shape pc.window) ↔
        params.determineOrbitType = .leo ∨
          (¬HasPass (leoProfile leoSky) params stations fromTime.toInt toTime.toInt 30 ∧
            ¬HasPass (cislunarProfile cislunarSky) params stations fromTime.toInt
              toTime.toInt 60)) := by
  have hle : fromTime.toInt ≤ toTime.toInt := by
    have := Int64.lt_iff_toInt_lt.mp hlt
    omega
  obtain ⟨leo, hleo⟩ := predictPassesWith_accepts sorter (leoProfile leoSky)
    hparams hstations hle 30
  obtain ⟨cislunar, hcislunar⟩ := predictPassesWith_accepts sorter
    (cislunarProfile cislunarSky) hparams hstations hle 60
  obtain ⟨-, hleoRate, hleoPass⟩ := predictPassesWith_spec sorter (leoProfile leoSky)
    (by omega) hleo
  obtain ⟨-, hcislunarRate, hcislunarPass⟩ := predictPassesWith_spec sorter
    (cislunarProfile cislunarSky) (by omega) hcislunar
  have hcontacts := predictContacts_eq sorter leoSky cislunarSky hparams hstations hlt
  have hadded : (updateContactPlanWithPredictions (predictLEOPasses sorter leoSky) cpm params
      stations fromTime.toInt toTime.toInt).1.plan.map (fun plan => plan.contacts) =
        some (plan.contacts ++ leo.map fun pc => pc.window) := by
    simp [updateContactPlanWithPredictions, predictLEOPasses, hleo, hplan, withPredictions]
  cases horbit : params.determineOrbitType with
  | leo =>
    rw [horbit] at hcontacts
    refine ⟨leo, _, hcontacts.trans hleo, hadded, ?_⟩
    simp [Function.comp_def]
  | cislunar =>
    rw [horbit] at hcontacts
    refine ⟨cislunar, _, hcontacts.trans hcislunar, hadded, ?_⟩
    have hdiffer : (leoProfile leoSky).dataRate ≠ (cislunarProfile cislunarSky).dataRate := by
      change (9600 : Int64) ≠ 500
      decide
    have hshapes := map_shape_eq_iff hdiffer hleoRate hcislunarRate
    rw [← hleoPass, ← hcislunarPass, List.map_map]
    constructor
    · intro hsame
      exact Or.inr (hshapes.mp hsame)
    · intro h
      rcases h with h | hempty
      · cases h
      · exact hshapes.mpr hempty

/-- A station in London. -/
def specimenStation : GroundStationLocation :=
  ⟨ascii "london", .finite (103 / 2), .finite 0, .finite 0, .finite 10⟩

/-- A sky in which the satellite is visible for one minute from time 0. -/
def specimenSky : SkyModel where
  elevation _ _ t := if 0 ≤ t ∧ t < 60 then .finite 45 else .finite (-45)
  doppler _ _ _ := .finite 0
  confidence _ _ := .finite 1

/-- Orbital elements at the distance of the Moon. -/
def lunarOrbit : OrbitalParameters := { specimenOrbit with semiMajorAxisM := .finite 384400000 }

/-- For a lunar orbit the update adds a LEO pass that is not predicted. -/
theorem lunar_orbit_counterexample :
    ∃ predicted added,
      predictContacts .stable specimenSky specimenSky lunarOrbit [specimenStation] 0 90 =
        .ok predicted ∧
      (updateContactPlanWithPredictions (predictLEOPasses .stable specimenSky) specimenPlanner
        lunarOrbit [specimenStation] 0 90).1.plan.map (fun plan => plan.contacts) =
          some ([specimenWindow] ++ added) ∧
      added.map shape ≠ predicted.map fun pc => shape pc.window :=
  ⟨[], [⟨1, ascii "london", 0, 60, 9600, 3⟩], by decide +kernel⟩

theorem added_eq_predicted_leo :
    ∃ predicted added,
      predictContacts .stable specimenSky specimenSky specimenOrbit [specimenStation] 0 90 =
        .ok predicted ∧
      (updateContactPlanWithPredictions (predictLEOPasses .stable specimenSky) specimenPlanner
        specimenOrbit [specimenStation] 0 90).1.plan.map (fun plan => plan.contacts) =
          some ([specimenWindow] ++ added) ∧
      added.map shape = predicted.map fun pc => shape pc.window := by
  have hplan : specimenPlanner.plan = some ⟨0, 2000, [specimenWindow], [], none⟩ := by
    decide +kernel
  have hparams : specimenOrbit.validate = none := by decide +kernel
  have hstations : ∀ station ∈ [specimenStation], station.validate = none := by decide +kernel
  have hlt : (0 : Int64) < 90 := by decide
  obtain ⟨predicted, added, hpredicted, hadded, hiff⟩ :=
    added_eq_predicted_iff .stable specimenSky specimenSky hplan hparams hstations hlt
  exact ⟨predicted, added, hpredicted, hadded, hiff.mpr (Or.inl (by decide +kernel))⟩

/-- No contact identifier occurs twice in the loaded plan. -/
def DistinctIDs (cpm : ContactPlanManager) : Prop :=
  ∀ plan, cpm.plan = some plan → (plan.contacts.map fun c => c.contactID).Nodup

/-- An update whose identifier is in the plan changes the contacts that have
it, and no others. -/
def ReplacesExactly (cpm : ContactPlanManager) : Prop :=
  ∀ plan contact, cpm.plan = some plan →
    (∃ c ∈ plan.contacts, c.contactID = contact.contactID) →
      withContact plan.contacts contact =
        plan.contacts.map fun c => if c.contactID = contact.contactID then contact else c

/-- The numbers of the windows that an update predicts, from one on, are free
in the loaded plan and do not repeat in 64 bits. -/
def NumbersFree (sorter : StartSorter) (leoSky : SkyModel) (cpm : ContactPlanManager) :
    PlanOp → Prop
  | .updateWithPredictions params stations fromTime toTime => ∀ plan predicted,
    cpm.plan = some plan →
    predictLEOPasses sorter leoSky params stations fromTime toTime 30 = .ok predicted →
      predicted.length ≤ 2 ^ 64 ∧
        ∀ c ∈ plan.contacts, ∀ i < predicted.length, c.contactID ≠ UInt64.ofNat (i + 1)
  | _ => True

section identifiers

/-- Replacing a contact by one with its identifier changes no identifier. -/
theorem map_contactID_replaceFirst {contacts replaced : List ContactWindow}
    {contact : ContactWindow} (h : replaceFirst contacts contact = some replaced) :
    (replaced.map fun c => c.contactID) = contacts.map fun c => c.contactID := by
  obtain ⟨before, c, after, rfl, rfl, hid, -⟩ := exists_of_replaceFirst h
  simp [hid]

/-- Replacing or adding a contact keeps the identifiers distinct. -/
theorem nodup_withContact {contacts : List ContactWindow}
    (h : (contacts.map fun c => c.contactID).Nodup) (contact : ContactWindow) :
    ((withContact contacts contact).map fun c => c.contactID).Nodup := by
  unfold withContact
  cases hr : replaceFirst contacts contact with
  | some replaced =>
    rw [map_contactID_replaceFirst hr]
    exact h
  | none =>
    have hfresh := replaceFirst_eq_none_iff.mp hr
    rw [List.map_append, List.nodup_append]
    refine ⟨h, List.nodup_singleton _, ?_⟩
    intro id hid id' hid'
    obtain ⟨c, hc, rfl⟩ := List.mem_map.mp hid
    obtain rfl := List.mem_singleton.mp hid'
    exact hfresh c hc

/-- With distinct identifiers the first contact with one is the only one. -/
theorem replaceFirst_eq_map {contacts replaced : List ContactWindow} {contact : ContactWindow}
    (hnodup : (contacts.map fun c => c.contactID).Nodup)
    (h : replaceFirst contacts contact = some replaced) :
    replaced = contacts.map fun c => if c.contactID = contact.contactID then contact else c := by
  obtain ⟨before, c, after, rfl, rfl, hid, hbefore⟩ := exists_of_replaceFirst h
  rw [List.map_append, List.map_cons, List.nodup_append, List.nodup_cons] at hnodup
  have hafter : ∀ d ∈ after, d.contactID ≠ contact.contactID := by
    intro d hd hsame
    exact hnodup.2.1.1 (List.mem_map.mpr ⟨d, hd, hsame.trans hid.symm⟩)
  have hkeep : ∀ part : List ContactWindow, (∀ d ∈ part, d.contactID ≠ contact.contactID) →
      part.map (fun d => if d.contactID = contact.contactID then contact else d) = part := by
    intro part hpart
    exact (List.map_congr_left fun d hd => if_neg (hpart d hd)).trans (List.map_id' part)
  rw [List.map_append, List.map_cons, hkeep before hbefore, hkeep after hafter, if_pos hid]

theorem replacesExactly_of_distinct {cpm : ContactPlanManager} (h : DistinctIDs cpm) :
    ReplacesExactly cpm := by
  intro plan contact hplan hex
  unfold withContact
  cases hr : replaceFirst plan.contacts contact with
  | some replaced => exact replaceFirst_eq_map (h plan hplan) hr
  | none =>
    obtain ⟨c, hc, hid⟩ := hex
    exact absurd hid (replaceFirst_eq_none_iff.mp hr c hc)

/-- The numbers from one on are distinct as long as they fit 64 bits. -/
theorem nodup_numbers_iff (n : ℕ) :
    ((List.range n).map fun i => UInt64.ofNat (i + 1)).Nodup ↔ n ≤ 2 ^ 64 := by
  rw [List.nodup_map_iff_inj_on List.nodup_range]
  constructor
  · intro h
    by_contra hn
    have hsame := h 0 (List.mem_range.mpr (by omega)) (2 ^ 64)
      (List.mem_range.mpr (by omega)) (by decide +kernel)
    omega
  · intro hn i hi j hj hij
    have hi' := List.mem_range.mp hi
    have hj' := List.mem_range.mp hj
    have hmod : (i + 1) % 2 ^ 64 = (j + 1) % 2 ^ 64 := by
      have := congrArg UInt64.toNat hij
      simpa using this
    omega

/-- An update keeps the identifiers distinct exactly if the numbers of the
windows it predicts are free. -/
theorem distinctIDs_planStep_iff {sorter : StartSorter} {leoSky : SkyModel}
    {cpm : ContactPlanManager} (h : DistinctIDs cpm) {op : PlanOp} (hop : op.IsUpdate) :
    DistinctIDs (planStep (predictLEOPasses sorter leoSky) cpm op) ↔
      NumbersFree sorter leoSky cpm op := by
  cases op with
  | loadPlan plan => exact hop.elim
  | updatePlan contact =>
    refine iff_of_true ?_ trivial
    cases hp : cpm.plan with
    | none => simpa [planStep, PlanOp.apply, updatePlan, hp] using h
    | some plan =>
      have hnodup := nodup_withContact (h plan hp) contact
      simpa [planStep, PlanOp.apply, updatePlan, hp, DistinctIDs] using hnodup
  | updateWithPredictions params stations fromTime toTime =>
    cases hpredict : predictLEOPasses sorter leoSky params stations fromTime toTime 30 with
    | error err =>
      simpa [planStep, PlanOp.apply, updateContactPlanWithPredictions, NumbersFree, hpredict]
        using h
    | ok predicted =>
      cases hp : cpm.plan with
      | none =>
        simp [planStep, PlanOp.apply, updateContactPlanWithPredictions, NumbersFree,
          DistinctIDs, hpredict, hp]
      | some plan =>
        have hnodup := h plan hp
        have hids := (predictPassesWith_spec sorter (leoProfile leoSky) (by omega) hpredict).1
        have happend : ((plan.contacts ++ predicted.map fun pc => pc.window).map
            fun c => c.contactID).Nodup ↔ predicted.length ≤ 2 ^ 64 ∧
              ∀ c ∈ plan.contacts, ∀ i < predicted.length,
                c.contactID ≠ UInt64.ofNat (i + 1) := by
          have hnumbers := nodup_numbers_iff predicted.length
          rw [← hids.nodup_iff] at hnumbers
          rw [List.map_append, List.map_map, List.nodup_append, and_iff_right hnodup]
          refine and_congr hnumbers ?_
          constructor
          · intro hapart c hc i hi
            refine hapart _ (List.mem_map_of_mem hc) _ ?_
            exact hids.mem_iff.mpr (List.mem_map_of_mem (List.mem_range.mpr hi))
          · intro hfree id hid id' hid'
            obtain ⟨c, hc, rfl⟩ := List.mem_map.mp hid
            obtain ⟨i, hi, rfl⟩ := List.mem_map.mp (hids.mem_iff.mp hid')
            exact hfree c hc i (List.mem_range.mp hi)
        simpa [planStep, PlanOp.apply, updateContactPlanWithPredictions, NumbersFree,
          DistinctIDs, hpredict, hp, withPredictions] using happend

end identifiers

/-- From a plan with distinct identifiers, along a run of updates, identifiers
stay distinct and updates replace what they name, exactly if every update with
predictions finds the numbers of its windows free. -/
theorem identifiers_distinct_iff (sorter : StartSorter) (leoSky : SkyModel)
    (cpm : ContactPlanManager) (hdistinct : DistinctIDs cpm) (ops : List PlanOp)
    (hupdates : ∀ op ∈ ops, op.IsUpdate) :
    (∀ first, first <+: ops →
        DistinctIDs (run (planStep (predictLEOPasses sorter leoSky)) cpm first) ∧
          ReplacesExactly (run (planStep (predictLEOPasses sorter leoSky)) cpm first)) ↔
      Along (planStep (predictLEOPasses sorter leoSky)) (NumbersFree sorter leoSky) cpm ops := by
  have hpremise : Along (planStep (predictLEOPasses sorter leoSky)) (fun _ op => op.IsUpdate)
      cpm ops := along_of_forall_mem (fun op hm _ => hupdates op hm) cpm
  have hboth : ∀ cpm, (DistinctIDs cpm ∧ ReplacesExactly cpm) ↔ DistinctIDs cpm := fun _ =>
    and_iff_left_of_imp replacesExactly_of_distinct
  have hstep : ∀ cpm op, DistinctIDs cpm → op.IsUpdate →
      (DistinctIDs (planStep (predictLEOPasses sorter leoSky) cpm op) ↔
        NumbersFree sorter leoSky cpm op) := fun _ _ h hop => distinctIDs_planStep_iff h hop
  simp only [hboth]
  exact forall_prefix_iff_along hstep hpremise hdistinct

/-- The plan with window 1, and an update that predicts a window. -/
def renumberedUpdates : List PlanOp :=
  [.updateWithPredictions specimenOrbit [specimenStation] 0 90]

/-- After the successful update two contacts have the identifier 1. -/
theorem renumbered_updates_counterexample :
    ¬∀ first, first <+: renumberedUpdates →
      DistinctIDs (run (planStep (predictLEOPasses .stable specimenSky)) specimenPlanner first) ∧
        ReplacesExactly
          (run (planStep (predictLEOPasses .stable specimenSky)) specimenPlanner first) := by
  intro h
  have hlast := (h renumberedUpdates (List.prefix_refl _)).1
    (withPredictions ⟨0, 2000, [specimenWindow], [], none⟩ specimenOrbit
      [⟨⟨1, ascii "london", 0, 60, 9600, 3⟩, .finite 45, .finite 0, .finite 1⟩])
    (by decide +kernel)
  exact absurd hlast (by decide +kernel)

theorem identifiers_distinct_single_update :
    DistinctIDs (run (planStep (predictLEOPasses .stable specimenSky)) specimenPlanner
      [.updatePlan { specimenWindow with remoteNode := ascii "mars" }]) := by
  have hdistinct : DistinctIDs specimenPlanner := by
    intro plan hplan
    obtain rfl := Option.some.inj hplan
    exact List.nodup_singleton _
  have hupdates : ∀ op ∈ [PlanOp.updatePlan { specimenWindow with remoteNode := ascii "mars" }],
      op.IsUpdate := by simp [PlanOp.IsUpdate]
  have hiff := identifiers_distinct_iff .stable specimenSky specimenPlanner hdistinct _ hupdates
  exact (hiff.mpr ⟨trivial, trivial⟩ _ (List.prefix_refl _)).1

end CislunarDtn.PlanPredictions
