import CislunarDtn.KeyedMaps
import CislunarDtn.PlanLookups
import CislunarDtn.PlanPredictions
import CislunarDtn.PlanValidity

/-!
# Contact plans as timetables

What a manager of contact plans is for: a timetable that has one window under
each identifier, the one that was entered last. As long as every window fits
the plan it meets and new identifiers are free, the manager answers from its
list of contacts what the timetable says, after any operations.
-/

namespace CislunarDtn.PlanTimetables

open Bundles ContactPlans ContactPlanManager KeyedMaps LabelledRuns PassPredictions PlanLookups
  PlanPredictions PlanUpdates PlanValidity

section timetables

/-- Windows by identifier. -/
abbrev Timetable := UInt64 → Option ContactWindow

/-- Enter windows, each under its identifier. -/
def Timetable.enter (table : Timetable) (windows : List ContactWindow) : Timetable :=
  windows.foldl (fun table c => Function.update table c.contactID (some c)) table

variable (predictLEOPasses : PassPredictor)

/-- What an operation does to a timetable, if there is one. -/
def timetableStep (table : Option Timetable) : PlanOp → Option Timetable
  | .loadPlan plan =>
    if plan.validate = none then some (Timetable.enter (fun _ => none) plan.contacts) else table
  | .updatePlan contact => table.map fun table => table.enter [contact]
  | .updateWithPredictions params stations fromTime toTime =>
    match predictLEOPasses params stations fromTime toTime 30 with
    | .error _ => table
    | .ok predicted => table.map fun table => table.enter (predicted.map fun pc => pc.window)

/-- The identifiers of windows that an operation adds are new: those of a
loaded plan are distinct, and those of predicted windows are distinct and not
in the plan. -/
def FreshIDs (cpm : ContactPlanManager) : PlanOp → Prop
  | .loadPlan plan => plan.validate = none → (plan.contacts.map fun c => c.contactID).Nodup
  | .updatePlan _ => True
  | .updateWithPredictions params stations fromTime toTime => ∀ plan predicted,
    cpm.plan = some plan → predictLEOPasses params stations fromTime toTime 30 = .ok predicted →
      (predicted.map fun pc => pc.window.contactID).Nodup ∧
        ∀ c ∈ plan.contacts, ∀ pc ∈ predicted, c.contactID ≠ pc.window.contactID

/-- The windows of an operation fit the plan, and their identifiers are new. -/
def Orderly (cpm : ContactPlanManager) (op : PlanOp) : Prop :=
  WindowsFit predictLEOPasses cpm op ∧ FreshIDs predictLEOPasses cpm op

end timetables

section entries

/-- The first contact with an identifier. -/
def entry (contacts : List ContactWindow) : Timetable :=
  fun id => contacts.find? fun c => c.contactID = id

/-- The timetable of a manager's plan. -/
def timetableOf (cpm : ContactPlanManager) : Option Timetable :=
  cpm.plan.map fun plan => entry plan.contacts

variable {contacts : List ContactWindow}

/-- A contact that replaces one or is added is entered. -/
theorem entry_withContact (contacts : List ContactWindow) (contact : ContactWindow) :
    entry (withContact contacts contact) = (entry contacts).enter [contact] := by
  funext id
  have henter : (entry contacts).enter [contact] id =
      if id = contact.contactID then some contact else entry contacts id := by
    rw [Timetable.enter, List.foldl_cons, List.foldl_nil, Function.update_apply]
  rw [henter, withContact]
  cases hr : replaceFirst contacts contact with
  | some replaced =>
    obtain ⟨before, c, after, rfl, rfl, hid, hbefore⟩ := exists_of_replaceFirst hr
    simp only [entry, List.find?_append]
    by_cases h : id = contact.contactID
    · have hnone : before.find? (fun c => c.contactID = id) = none := by
        rw [List.find?_eq_none]
        intro d hd
        simpa [h] using hbefore d hd
      rw [if_pos h, hnone, List.find?_cons_of_pos (by simp [h])]
      rfl
    · have hc : ¬ c.contactID = id := fun heq => h (heq.symm.trans hid)
      have hcontact : ¬ contact.contactID = id := fun heq => h heq.symm
      rw [if_neg h, List.find?_cons_of_neg (by simpa using hcontact),
        List.find?_cons_of_neg (by simpa using hc)]
  | none =>
    have hfresh := replaceFirst_eq_none_iff.mp hr
    simp only [entry, List.find?_append]
    by_cases h : id = contact.contactID
    · have hnone : contacts.find? (fun c => c.contactID = id) = none := by
        rw [List.find?_eq_none]
        intro d hd
        simpa [h] using hfresh d hd
      rw [if_pos h, hnone, List.find?_cons_of_pos (by simp [h])]
      rfl
    · have hcontact : ¬ contact.contactID = id := fun heq => h heq.symm
      rw [if_neg h, List.find?_cons_of_neg (by simpa using hcontact), List.find?_nil,
        Option.or_none]

/-- Windows whose identifiers are new are entered at the end. -/
theorem entry_append {windows : List ContactWindow}
    (hnodup : (windows.map fun c => c.contactID).Nodup)
    (hfresh : ∀ c ∈ contacts, ∀ w ∈ windows, c.contactID ≠ w.contactID) :
    entry (contacts ++ windows) = (entry contacts).enter windows := by
  induction windows generalizing contacts with
  | nil => rw [List.append_nil]; rfl
  | cons w windows ih =>
    obtain ⟨hw, hnodup⟩ := List.nodup_cons.mp hnodup
    have hadded : withContact contacts w = contacts ++ [w] := by
      have hnone : replaceFirst contacts w = none :=
        replaceFirst_eq_none_iff.mpr fun c hc => hfresh c hc w List.mem_cons_self
      rw [withContact, hnone]
    have hfresh' : ∀ c ∈ contacts ++ [w], ∀ v ∈ windows, c.contactID ≠ v.contactID := by
      intro c hc v hv
      rcases List.mem_append.mp hc with hold | hnew
      · exact hfresh c hold v (List.mem_cons_of_mem _ hv)
      · obtain rfl := List.mem_singleton.mp hnew
        intro heq
        exact hw (List.mem_map.mpr ⟨v, hv, heq.symm⟩)
    rw [← List.singleton_append, ← List.append_assoc, ih hnodup hfresh', ← hadded,
      entry_withContact]
    rfl

/-- Contacts with distinct identifiers are the entries. -/
theorem mem_iff_entry (hnodup : (contacts.map fun c => c.contactID).Nodup) {c : ContactWindow} :
    c ∈ contacts ↔ entry contacts c.contactID = some c := by
  have hmap : (⟨contacts, hnodup⟩ : KeyedMap fun c : ContactWindow => c.contactID).lookup
      c.contactID = some c ↔ c ∈ contacts ∧ c.contactID = c.contactID :=
    KeyedMap.lookup_eq_some_iff
  rw [and_iff_left rfl] at hmap
  exact hmap.symm

end entries

section runs

variable {predictLEOPasses : PassPredictor} {cpm : ContactPlanManager}

/-- An operation does to the timetable of the plan what it does to timetables,
if the identifiers it adds are new. -/
theorem timetableOf_planStep {op : PlanOp} (h : FreshIDs predictLEOPasses cpm op) :
    timetableOf (planStep predictLEOPasses cpm op) =
      timetableStep predictLEOPasses (timetableOf cpm) op := by
  cases op with
  | loadPlan plan =>
    simp only [planStep, PlanOp.apply, loadPlan, timetableStep]
    cases hv : plan.validate with
    | some err => simp
    | none =>
      have hentry : entry ([] ++ plan.contacts) = (entry []).enter plan.contacts :=
        entry_append (h hv) fun c hc => absurd hc List.not_mem_nil
      exact congrArg some hentry
  | updatePlan contact =>
    simp only [planStep, PlanOp.apply, updatePlan, timetableStep]
    cases hp : cpm.plan with
    | none => simp [timetableOf, hp]
    | some plan => simp [timetableOf, hp, entry_withContact]
  | updateWithPredictions params stations fromTime toTime =>
    simp only [planStep, PlanOp.apply, updateContactPlanWithPredictions, timetableStep]
    cases hpredict : predictLEOPasses params stations fromTime toTime 30 with
    | error err => rfl
    | ok predicted =>
      cases hp : cpm.plan with
      | none => simp [timetableOf, hp]
      | some plan =>
        obtain ⟨hnodup, hfresh⟩ := h plan predicted hp hpredict
        have hentry : entry (plan.contacts ++ predicted.map fun pc => pc.window) =
            (entry plan.contacts).enter (predicted.map fun pc => pc.window) := by
          refine entry_append ?_ fun c hc w hw => ?_
          · rw [List.map_map]
            exact hnodup
          obtain ⟨pc, hpc, rfl⟩ := List.mem_map.mp hw
          exact hfresh c hc pc hpc
        simp [timetableOf, hp, withPredictions, hentry]

/-- Identifiers stay distinct if new ones are free. -/
theorem distinctIDs_planStep (hdistinct : DistinctIDs cpm) {op : PlanOp}
    (h : FreshIDs predictLEOPasses cpm op) : DistinctIDs (planStep predictLEOPasses cpm op) := by
  cases op with
  | loadPlan plan =>
    simp only [planStep, PlanOp.apply, loadPlan]
    cases hv : plan.validate with
    | some err => exact hdistinct
    | none =>
      intro loaded hloaded
      obtain rfl := Option.some.inj hloaded
      exact h hv
  | updatePlan contact =>
    simp only [planStep, PlanOp.apply, updatePlan]
    cases hp : cpm.plan with
    | none => simpa [hp] using hdistinct
    | some plan =>
      intro updated hupdated
      obtain rfl := Option.some.inj hupdated
      exact nodup_withContact (hdistinct plan hp) contact
  | updateWithPredictions params stations fromTime toTime =>
    simp only [planStep, PlanOp.apply, updateContactPlanWithPredictions]
    cases hpredict : predictLEOPasses params stations fromTime toTime 30 with
    | error err => exact hdistinct
    | ok predicted =>
      cases hp : cpm.plan with
      | none => simpa [hp] using hdistinct
      | some plan =>
        obtain ⟨hnodup, hfresh⟩ := h plan predicted hp hpredict
        intro updated hupdated
        obtain rfl := Option.some.inj hupdated
        rw [withPredictions, List.map_append, List.map_map, List.nodup_append]
        refine ⟨hdistinct plan hp, hnodup, fun id hid id' hid' => ?_⟩
        obtain ⟨c, hc, rfl⟩ := List.mem_map.mp hid
        obtain ⟨pc, hpc, rfl⟩ := List.mem_map.mp hid'
        exact hfresh c hc pc hpc

/-- A valid plan with distinct identifiers, whose timetable is known. -/
structure Kept (cpm : ContactPlanManager) (table : Option Timetable) : Prop where
  /-- The timetable is that of the plan. -/
  table : timetableOf cpm = table
  /-- The plan is valid. -/
  valid : NilOrValid cpm
  /-- Its identifiers are distinct. -/
  distinct : DistinctIDs cpm

theorem Kept.step {table : Option Timetable} (h : Kept cpm table) {op : PlanOp}
    (ho : Orderly predictLEOPasses cpm op) :
    Kept (planStep predictLEOPasses cpm op) (timetableStep predictLEOPasses table op) where
  table := h.table ▸ timetableOf_planStep ho.2
  valid := (nilOrValid_planStep_iff h.valid op).mpr ho.1
  distinct := distinctIDs_planStep h.distinct ho.2

theorem Kept.run {table : Option Timetable} (h : Kept cpm table) {ops : List PlanOp}
    (ho : Along (planStep predictLEOPasses) (Orderly predictLEOPasses) cpm ops) :
    Kept (run (planStep predictLEOPasses) cpm ops)
      (run (timetableStep predictLEOPasses) table ops) := by
  induction ops generalizing cpm table with
  | nil => exact h
  | cons op ops ih => exact ih (h.step ho.1) ho.2

theorem kept_new : Kept newContactPlanManager none where
  table := rfl
  valid := fun plan h => by cases h
  distinct := fun plan h => by cases h

end runs

section answers

/-- A window that a timetable has. -/
def Listed (table : Option Timetable) (c : ContactWindow) : Prop :=
  ∃ windows, table = some windows ∧ windows c.contactID = some c

/-- A manager answers from a timetable: the windows that are active at a time,
of which there is one with a node at most, and the next one with a node. -/
structure Serves (cpm : ContactPlanManager) (table : Option Timetable) : Prop where
  /-- The active contacts are the listed windows that are active. -/
  active : ∀ t c, c ∈ cpm.getActiveContacts t ↔ Listed table c ∧ c.isActive t = true
  /-- At any time there is one with a node. -/
  single : ∀ t, ∀ c ∈ cpm.getActiveContacts t, ∀ d ∈ cpm.getActiveContacts t,
    c.remoteNode = d.remoteNode → c = d
  /-- The next contact is the listed window to come that starts before all others. -/
  next : ∀ node t c, cpm.getNextContact node t = .ok c ↔
    Listed table c ∧ c.remoteNode = node ∧ t ≤ c.startTime ∧
      ∀ d, Listed table d → d.remoteNode = node → t ≤ d.startTime → d ≠ c →
        c.startTime < d.startTime

variable {cpm : ContactPlanManager} {table : Option Timetable}

theorem Kept.mem_iff_listed (h : Kept cpm table) {plan : ContactPlan} (hplan : cpm.plan = some plan)
    {c : ContactWindow} : c ∈ plan.contacts ↔ Listed table c := by
  rw [mem_iff_entry (h.distinct plan hplan), Listed, ← h.table, timetableOf, hplan]
  simp

theorem Kept.not_listed (h : Kept cpm table) (hplan : cpm.plan = none) (c : ContactWindow) :
    ¬ Listed table c := by
  rw [Listed, ← h.table, timetableOf, hplan]
  simp

/-- The scan finds a contact exactly if it is the first one to come with the node. -/
theorem earliestContact_eq_some_iff {plan : ContactPlan} (hvalid : plan.validate = none)
    {node : NodeID} {t : Int64} {c : ContactWindow} :
    earliestContact plan.contacts node t = some c ↔
      c ∈ plan.contacts ∧ c.remoteNode = node ∧ t ≤ c.startTime ∧
        ∀ d ∈ plan.contacts, d.remoteNode = node → t ≤ d.startTime → d ≠ c →
          c.startTime < d.startTime := by
  constructor
  · intro h
    obtain ⟨hc, hnode, hstart⟩ := earliestContact_spec h
    refine ⟨hc, hnode, hstart, fun d hd hdnode hdstart hne => ?_⟩
    have hle := earliestContact_le h hd hdnode (Int64.le_iff_toInt_le.mp hdstart)
    have hdiffer : c.startTime.toInt ≠ d.startTime.toInt := fun heq =>
      hne (eq_of_start_eq hvalid hc hd (hnode.trans hdnode.symm) heq).symm
    rw [Int64.lt_iff_toInt_lt]
    omega
  · rintro ⟨hc, hnode, hstart, hfirst⟩
    have hbefore : t.toInt ≤ c.startTime.toInt := Int64.le_iff_toInt_le.mp hstart
    cases hfound : earliestContact plan.contacts node t with
    | none => exact absurd ⟨c, hc, hnode, hbefore⟩ (earliestContact_eq_none_iff.mp hfound)
    | some w =>
      obtain ⟨hw, hwnode, hwstart⟩ := earliestContact_spec hfound
      by_cases hsame : w = c
      · rw [hsame]
      · have hle := earliestContact_le hfound hc hnode hbefore
        have hlt := Int64.lt_iff_toInt_lt.mp (hfirst w hw hwnode hwstart hsame)
        omega

/-- What is kept track of serves as a timetable. -/
theorem Kept.serves (h : Kept cpm table) : Serves cpm table := by
  cases hplan : cpm.plan with
  | none =>
    have hnone := h.not_listed hplan
    have hactive : ∀ t, cpm.getActiveContacts t = [] := fun t => by rw [getActiveContacts, hplan]
    refine ⟨fun t c => ?_, fun t c hc => ?_, fun node t c => ?_⟩
    · rw [hactive]
      exact iff_of_false List.not_mem_nil fun hc => hnone c hc.1
    · rw [hactive] at hc
      exact absurd hc List.not_mem_nil
    · rw [getNextContact, hplan]
      refine iff_of_false (fun hfound => ?_) fun hc => hnone c hc.1
      cases hfound
  | some plan =>
    have hvalid := h.valid plan hplan
    have hlisted : ∀ c, c ∈ plan.contacts ↔ Listed table c := fun c => h.mem_iff_listed hplan
    refine ⟨fun t c => ?_, fun t c hc d hd hnode => ?_, fun node t c => ?_⟩
    · rw [getActiveContacts, hplan, ← hlisted]
      exact List.mem_filter
    · have honce := (activeOncePerNode_of_validate hvalid cpm t hplan).2
      have hnodup : ((cpm.getActiveContacts t).map fun c => c.remoteNode).Nodup :=
        List.pairwise_map.mpr honce
      exact List.inj_on_of_nodup_map hnodup hc hd hnode
    · have hnext : cpm.getNextContact node t = .ok c ↔
          earliestContact plan.contacts node t = some c := by
        rw [getNextContact, hplan]
        cases hfound : earliestContact plan.contacts node t <;> simp [hfound]
      rw [hnext, earliestContact_eq_some_iff hvalid]
      simp only [hlisted]

/-- From a new manager, after any operations whose windows fit the plan and
whose identifiers are new, the manager serves as the timetable of what they
have entered. -/
theorem serves_timetable (predictLEOPasses : PassPredictor) (ops : List PlanOp)
    (h : Along (planStep predictLEOPasses) (Orderly predictLEOPasses) newContactPlanManager ops) :
    Serves (run (planStep predictLEOPasses) newContactPlanManager ops)
      (run (timetableStep predictLEOPasses) none ops) :=
  (kept_new.run h).serves

/-- A window with Mars, for concrete scenarios. -/
def marsWindow : ContactWindow := { specimenWindow with contactID := 2, remoteNode := ascii "mars" }

/-- A plan with that window, which is then moved, and a predicted window with Earth. -/
def movedAndPredicted : List PlanOp :=
  [.loadPlan ⟨0, 2000, [marsWindow], [], none⟩,
    .updatePlan { marsWindow with startTime := 500, endTime := 1500 },
    .updateWithPredictions specimenOrbit [] 0 2000]

theorem serves_timetable_moved :
    Serves (run (planStep onePass) newContactPlanManager movedAndPredicted)
      (run (timetableStep onePass) none movedAndPredicted) := by
  refine serves_timetable onePass movedAndPredicted ⟨⟨trivial, fun _ => ?_⟩, ⟨?_, trivial⟩,
    ⟨?_, ?_⟩, trivial⟩
  · exact List.nodup_singleton _
  · intro plan hplan
    obtain rfl := Option.some.inj hplan
    exact ⟨⟨by decide, by decide, by decide, by decide⟩, by decide +kernel⟩
  · intro plan predicted hplan hpredicted
    obtain rfl := Option.some.inj hplan
    obtain rfl := Except.ok.inj hpredicted
    refine ⟨List.forall_mem_singleton.mpr ⟨⟨?_, by decide +kernel⟩, ?_⟩,
      List.pairwise_singleton _ _⟩
    · exact ⟨by decide, by decide, by decide, by decide⟩
    · exact ⟨by decide +kernel, by decide +kernel⟩
  · intro plan predicted hplan hpredicted
    obtain rfl := Option.some.inj hplan
    obtain rfl := Except.ok.inj hpredicted
    exact ⟨List.nodup_singleton _, by decide +kernel⟩

end answers

end CislunarDtn.PlanTimetables
