import CislunarDtn.ContactPlans
import Mathlib.Data.Int.ConditionallyCompleteOrder
import Mathlib.Data.List.Pairwise
import Mathlib.Order.CompletePartialOrder
import Mathlib.Order.Interval.Set.Basic
import Mathlib.Order.Interval.Set.Disjoint

/-!
# Valid plans and what is looked up in them

Validation stands for a plan whose windows are nonempty half-open intervals
within its period, those of one node disjoint, and whose confidences are
between zero and one. A confidence that is not a number compares with neither
bound and is let through. At any time a valid plan has one active window with a
node at most, and one next window, which three lookups agree on and which does
not depend on the order of the plan.
-/

namespace CislunarDtn.PlanLookups

open Bundles ContactPlans ContactPlanManager SelectionScans

section validity

/-- The seconds of a window. -/
def interval (c : ContactWindow) : Set ℤ := Set.Ico c.startTime.toInt c.endTime.toInt

/-- A number between zero and one. -/
def InUnit (x : Float64) : Prop := ∃ value, x = .finite value ∧ 0 ≤ value ∧ value ≤ 1

/-- What validation stands for. -/
structure SoundPlan (cp : ContactPlan) : Prop where
  /-- The period is not empty. -/
  period : cp.validFrom.toInt < cp.validTo.toInt
  /-- Contacts are within the period. -/
  within : ∀ c ∈ cp.contacts,
    cp.validFrom.toInt ≤ c.startTime.toInt ∧ c.endTime.toInt ≤ cp.validTo.toInt
  /-- Contacts end after they start. -/
  nonempty : ∀ c ∈ cp.contacts, c.startTime.toInt < c.endTime.toInt
  /-- Contacts have a rate. -/
  rate : ∀ c ∈ cp.contacts, 0 < c.dataRate.toInt
  /-- Contacts of one node have no second in common. -/
  disjoint : cp.contacts.Pairwise fun c d =>
    c.remoteNode = d.remoteNode → Disjoint (interval c) (interval d)
  /-- Confidences are between zero and one. -/
  confidence : ∀ pc ∈ cp.predictedContacts, InUnit pc.confidence

/-- The active contacts are those whose seconds include the time, in the order
of the plan, and no two of them are with one node. -/
def ActiveOncePerNode (cp : ContactPlan) : Prop :=
  ∀ (cpm : ContactPlanManager) (t : Int64), cpm.plan = some cp →
    cpm.getActiveContacts t = cp.contacts.filter (fun c =>
        decide (c.startTime.toInt ≤ t.toInt ∧ t.toInt < c.endTime.toInt)) ∧
      (cpm.getActiveContacts t).Pairwise fun c d => c.remoteNode ≠ d.remoteNode

/-- Validation accepts exactly the sound plans, and in an accepted plan a node
is active once at most. -/
def ValidatedExactly (cp : ContactPlan) : Prop :=
  (cp.validate = none ↔ SoundPlan cp) ∧ (cp.validate = none → ActiveOncePerNode cp)

/-- Two windows that are not empty overlap exactly if they have a second in common. -/
theorem overlaps_eq_false_iff {c d : ContactWindow} (hc : c.startTime.toInt < c.endTime.toInt)
    (hd : d.startTime.toInt < d.endTime.toInt) :
    c.overlaps d = false ↔ (c.remoteNode = d.remoteNode → Disjoint (interval c) (interval d)) := by
  have hdisjoint : Disjoint (interval c) (interval d) ↔
      ¬(c.startTime.toInt < d.endTime.toInt ∧ d.startTime.toInt < c.endTime.toInt) := by
    rw [interval, interval, Set.Ico_disjoint_Ico]
    omega
  rw [hdisjoint, ContactWindow.overlaps, decide_eq_false_iff_not]
  simp only [Int64.lt_iff_toInt_lt]
  tauto

/-- A confidence is let through exactly if it is between zero and one or not a number. -/
theorem confident_iff {pc : PredictedContact} :
    pc.Confident ↔ InUnit pc.confidence ∨ pc.confidence = .nan := by
  unfold PredictedContact.Confident InUnit
  cases pc.confidence with
  | nan => simp [Float64.lt, Float64.gt]
  | negInf => simp [Float64.lt]
  | posInf => simp [Float64.gt]
  | finite value => simp [Float64.lt, Float64.gt]

/-- A plan is valid exactly if it is sound up to confidences that are not numbers. -/
theorem validate_eq_none_iff_soundPlan {cp : ContactPlan} :
    cp.validate = none ↔ SoundPlan { cp with
      predictedContacts := cp.predictedContacts.filter fun pc => pc.confidence ≠ .nan } := by
  have hzero : (0 : Int64).toInt = 0 := rfl
  have hconfident : (∀ pc ∈ cp.predictedContacts, pc.Confident) ↔
      ∀ pc ∈ cp.predictedContacts.filter (fun pc => pc.confidence ≠ .nan),
        InUnit pc.confidence := by
    simp only [confident_iff, List.mem_filter, decide_eq_true_iff]
    refine forall_congr' fun pc => ?_
    tauto
  rw [ContactPlan.validate_eq_none_iff, hconfident]
  constructor
  · rintro ⟨hperiod, hfits, hoverlaps, hunit⟩
    simp only [ContactWindow.Schedulable, Int64.lt_iff_toInt_lt, Int64.le_iff_toInt_le,
      hzero] at hperiod hfits
    refine ⟨hperiod, fun c hc => ⟨(hfits c hc).1, (hfits c hc).2.1⟩,
      fun c hc => (hfits c hc).2.2.1, fun c hc => (hfits c hc).2.2.2, ?_, hunit⟩
    refine hoverlaps.imp_of_mem fun {c d} hc hd hfree => ?_
    exact (overlaps_eq_false_iff (hfits c hc).2.2.1 (hfits d hd).2.2.1).mp hfree
  · intro h
    simp only [ContactWindow.Schedulable, Int64.lt_iff_toInt_lt, Int64.le_iff_toInt_le, hzero]
    refine ⟨h.period, fun c hc => ⟨(h.within c hc).1, (h.within c hc).2, h.nonempty c hc,
      h.rate c hc⟩, ?_, h.confidence⟩
    refine h.disjoint.imp_of_mem fun {c d} hc hd hfree => ?_
    exact (overlaps_eq_false_iff (h.nonempty c hc) (h.nonempty d hd)).mpr hfree

/-- The active contacts of any plan are those whose seconds include the time. -/
theorem getActiveContacts_eq {cpm : ContactPlanManager} {cp : ContactPlan}
    (hplan : cpm.plan = some cp) (t : Int64) :
    cpm.getActiveContacts t = cp.contacts.filter fun c =>
      decide (c.startTime.toInt ≤ t.toInt ∧ t.toInt < c.endTime.toInt) := by
  rw [getActiveContacts, hplan]
  refine List.filter_congr fun c _ => ?_
  simp only [ContactWindow.isActive, Int64.le_iff_toInt_le, Int64.lt_iff_toInt_lt]

/-- A valid plan has one active window with a node at most. -/
theorem activeOncePerNode_of_validate {cp : ContactPlan} (h : cp.validate = none) :
    ActiveOncePerNode cp := by
  intro cpm t hplan
  have hactive := getActiveContacts_eq hplan t
  have hsound := validate_eq_none_iff_soundPlan.mp h
  refine ⟨hactive, ?_⟩
  rw [hactive]
  have hboth := (hsound.disjoint.filter
    fun c => decide (c.startTime.toInt ≤ t.toInt ∧ t.toInt < c.endTime.toInt))
  refine hboth.imp_of_mem fun {c d} hc hd hfree hnode => ?_
  have hin : t.toInt ∈ interval c := by simpa [interval] using (List.mem_filter.mp hc).2
  have hin' : t.toInt ∈ interval d := by simpa [interval] using (List.mem_filter.mp hd).2
  exact Set.disjoint_left.mp (hfree hnode) hin hin'

/-- Validation is exact unless a confidence is not a number and the plan is
sound without such predictions. -/
theorem validatedExactly_iff (cp : ContactPlan) :
    ValidatedExactly cp ↔ ¬((∃ pc ∈ cp.predictedContacts, pc.confidence = .nan) ∧
      SoundPlan { cp with
        predictedContacts := cp.predictedContacts.filter fun pc => pc.confidence ≠ .nan }) := by
  rw [ValidatedExactly, and_iff_left activeOncePerNode_of_validate,
    validate_eq_none_iff_soundPlan]
  by_cases hnan : ∃ pc ∈ cp.predictedContacts, pc.confidence = .nan
  · have hunsound : ¬SoundPlan cp := by
      obtain ⟨pc, hpc, hvalue⟩ := hnan
      intro h
      obtain ⟨value, hfinite, -⟩ := h.confidence pc hpc
      rw [hvalue] at hfinite
      cases hfinite
    simp [hnan, hunsound]
  · have hall : cp.predictedContacts.filter (fun pc => pc.confidence ≠ .nan) =
        cp.predictedContacts :=
      List.filter_eq_self.mpr fun pc hpc => decide_eq_true fun h => hnan ⟨pc, hpc, h⟩
    rw [hall]
    simp [hnan]

/-- A plan with a confidence that is not a number is accepted. -/
theorem nan_confidence_accepted : ¬∀ cp : ContactPlan, ValidatedExactly cp := by
  intro h
  let plan : ContactPlan :=
    ⟨0, 2000, [specimenWindow], [⟨specimenWindow, .finite 90, .finite 0, .nan⟩], none⟩
  have hsound := (h plan).1.mp (by decide +kernel)
  obtain ⟨value, hfinite, -⟩ := hsound.confidence _ List.mem_cons_self
  cases hfinite

end validity

section lookups

/-- What the lookups of a next contact say of a plan. -/
structure NextContactLaws (plan : ContactPlan) (node scheme : GoString) (t : Int64) : Prop where
  /-- The lookup by node agrees with that by endpoint. -/
  byNode : ((⟨some plan⟩ : ContactPlanManager).getNextContact node t).toOption =
    (⟨some plan⟩ : ContactPlanManager).getNextContactByEndpoint ⟨scheme, node⟩ t
  /-- The lookup of a direct contact agrees with that by endpoint. -/
  direct : ((⟨some plan⟩ : ContactPlanManager).findDirectContact ⟨scheme, node⟩ t).toOption =
    (⟨some plan⟩ : ContactPlanManager).getNextContactByEndpoint ⟨scheme, node⟩ t
  /-- What is found is a contact with the node that has not started, and no
  contact with the node starts before it. -/
  earliest : ∀ w,
    (⟨some plan⟩ : ContactPlanManager).getNextContactByEndpoint ⟨scheme, node⟩ t = some w →
      (w ∈ plan.contacts ∧ w.remoteNode = node ∧ t.toInt ≤ w.startTime.toInt) ∧
        ∀ c ∈ plan.contacts, c.remoteNode = node →
          ¬(t.toInt ≤ c.startTime.toInt ∧ c.startTime.toInt < w.startTime.toInt)
  /-- Nothing is found exactly if every contact with the node has started. -/
  missing :
    (⟨some plan⟩ : ContactPlanManager).getNextContactByEndpoint ⟨scheme, node⟩ t = none ↔
      ¬∃ c ∈ plan.contacts, c.remoteNode = node ∧ t.toInt ≤ c.startTime.toInt
  /-- In a valid plan the order of the contacts plays no part. -/
  unordered : plan.validate = none → ∀ contacts, contacts.Perm plan.contacts →
    (⟨some { plan with contacts }⟩ : ContactPlanManager).getNextContactByEndpoint
        ⟨scheme, node⟩ t =
      (⟨some plan⟩ : ContactPlanManager).getNextContactByEndpoint ⟨scheme, node⟩ t

variable {contacts : List ContactWindow} {node : NodeID} {t : Int64}

/-- The scan is one for the least start. -/
theorem earliestContact_eq (contacts : List ContactWindow) (node : NodeID) (t : Int64) :
    earliestContact contacts node t = contacts.foldl
      (leastStep (fun c => c.remoteNode = node ∧ c.startTime ≥ t) fun c => c.startTime.toInt)
      none := by
  refine congrArg (fun step => contacts.foldl step none) ?_
  funext candidate c
  unfold leastStep
  by_cases hc : c.remoteNode = node ∧ c.startTime ≥ t
  · rw [if_pos hc, if_pos hc]
    cases candidate with
    | none => rfl
    | some best => simp only [Int64.lt_iff_toInt_lt]
  · rw [if_neg hc, if_neg hc]

theorem earliestContact_eq_none_iff :
    earliestContact contacts node t = none ↔
      ¬∃ c ∈ contacts, c.remoteNode = node ∧ t.toInt ≤ c.startTime.toInt := by
  rw [earliestContact_eq, foldl_leastStep_eq_none_iff]
  simp only [ge_iff_le, Int64.le_iff_toInt_le]
  simp

theorem earliestContact_le {w : ContactWindow} (h : earliestContact contacts node t = some w)
    {c : ContactWindow} (hc : c ∈ contacts) (hnode : c.remoteNode = node)
    (hstart : t.toInt ≤ c.startTime.toInt) : w.startTime.toInt ≤ c.startTime.toInt := by
  rw [earliestContact_eq] at h
  exact (foldl_leastStep_le h).2 c hc ⟨hnode, Int64.le_iff_toInt_le.mpr hstart⟩

/-- In a valid plan a node and a start determine the contact. -/
theorem eq_of_start_eq {plan : ContactPlan} (h : plan.validate = none) {c d : ContactWindow}
    (hc : c ∈ plan.contacts) (hd : d ∈ plan.contacts) (hnode : c.remoteNode = d.remoteNode)
    (hstart : c.startTime.toInt = d.startTime.toInt) : c = d := by
  have hsound := validate_eq_none_iff_soundPlan.mp h
  by_contra hne
  have hsymm : Std.Symm fun c d : ContactWindow =>
      c.remoteNode = d.remoteNode → Disjoint (interval c) (interval d) :=
    ⟨fun c d hcd heq => (hcd heq.symm).symm⟩
  have hfree := hsound.disjoint.forall hc hd hne hnode
  have hin : c.startTime.toInt ∈ interval c := ⟨le_refl _, hsound.nonempty c hc⟩
  have hin' : c.startTime.toInt ∈ interval d := by
    rw [hstart]
    exact ⟨le_refl _, hsound.nonempty d hd⟩
  exact Set.disjoint_left.mp hfree hin hin'

/-- In a valid plan the scan finds the same contact in any order. -/
theorem earliestContact_perm {plan : ContactPlan} (h : plan.validate = none)
    (hperm : contacts.Perm plan.contacts) :
    earliestContact contacts node t = earliestContact plan.contacts node t := by
  cases hfound : earliestContact plan.contacts node t with
  | none =>
    rw [earliestContact_eq_none_iff] at hfound ⊢
    simpa only [hperm.mem_iff] using hfound
  | some w =>
    obtain ⟨hw, hnode, hstart⟩ := earliestContact_spec hfound
    rw [Int64.le_iff_toInt_le] at hstart
    cases hother : earliestContact contacts node t with
    | none =>
      exact absurd ⟨w, hperm.mem_iff.mpr hw, hnode, hstart⟩
        (earliestContact_eq_none_iff.mp hother)
    | some v =>
      obtain ⟨hv, hvnode, hvstart⟩ := earliestContact_spec hother
      rw [Int64.le_iff_toInt_le] at hvstart
      have hle := earliestContact_le hfound (hperm.mem_iff.mp hv) hvnode hvstart
      have hge := earliestContact_le hother (hperm.mem_iff.mpr hw) hnode hstart
      have heq := eq_of_start_eq h (hperm.mem_iff.mp hv) hw (hvnode.trans hnode.symm) (by omega)
      rw [heq]

/-- The three lookups agree and find the earliest contact to come, whatever the
order of a valid plan. -/
theorem nextContactLaws (plan : ContactPlan) (node scheme : GoString) (t : Int64) :
    NextContactLaws plan node scheme t where
  byNode := by
    unfold getNextContact getNextContactByEndpoint
    dsimp only
    cases earliestContact plan.contacts node t <;> rfl
  direct := by
    unfold findDirectContact getNextContactByEndpoint
    dsimp only
    cases earliestContact plan.contacts node t <;> rfl
  earliest := by
    intro w hw
    obtain ⟨hin, hnode, hstart⟩ := earliestContact_spec hw
    refine ⟨⟨hin, hnode, Int64.le_iff_toInt_le.mp hstart⟩, fun c hc hcnode hbefore => ?_⟩
    have hle := earliestContact_le hw hc hcnode hbefore.1
    omega
  missing := earliestContact_eq_none_iff
  unordered := fun h _ hperm => earliestContact_perm h hperm

end lookups

end CislunarDtn.PlanLookups
