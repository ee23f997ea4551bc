import CislunarDtn.Bundles
import CislunarDtn.SelectionScans
import Mathlib.Algebra.Order.Ring.Rat

/-!
# Contact plans and the plan manager

Scheduled windows, the validation of a plan, and the lookups the node makes:
the windows active at a time, and the earliest future window with a node. The
three lookups of a next contact run the same loop.
-/

namespace CislunarDtn.ContactPlans

open Bundles

/-- Unique node identifier. -/
abbrev NodeID := GoString

/-- Kind of radio link. -/
abbrev LinkType := ℤ

/-- A scheduled communication window. -/
structure ContactWindow where
  /-- Identifier of the contact. -/
  contactID : UInt64
  /-- Node at the other end. -/
  remoteNode : NodeID
  /-- First second, Unix epoch. -/
  startTime : Int64
  /-- First second after the window. -/
  endTime : Int64
  /-- Bits per second. -/
  dataRate : Int64
  /-- Radio used. -/
  linkType : LinkType
  deriving DecidableEq

/-- Whether the window is active: its start is reached and its end is not. -/
def ContactWindow.isActive (cw : ContactWindow) (currentTime : Int64) : Bool :=
  decide (cw.startTime ≤ currentTime ∧ currentTime < cw.endTime)

/-- A double-precision number as far as it is compared. -/
inductive Float64 where
  /-- Not a number: no comparison with it holds. -/
  | nan
  /-- Negative infinity. -/
  | negInf
  /-- A finite value. -/
  | finite (value : ℚ)
  /-- Positive infinity. -/
  | posInf
  deriving DecidableEq

/-- The comparison with a rational constant on the right. -/
def Float64.lt : Float64 → ℚ → Bool
  | .negInf, _ => true
  | .finite value, bound => decide (value < bound)
  | _, _ => false

/-- The comparison with a rational constant on the left. -/
def Float64.gt : Float64 → ℚ → Bool
  | .posInf, _ => true
  | .finite value, bound => decide (bound < value)
  | _, _ => false

/-- The comparison of two numbers, at most. -/
def Float64.le : Float64 → Float64 → Bool
  | .nan, _ => false
  | _, .nan => false
  | .negInf, _ => true
  | _, .posInf => true
  | .finite a, .finite b => decide (a ≤ b)
  | _, _ => false

/-- The comparison of two numbers, less than. -/
def Float64.less (a b : Float64) : Bool := a.le b && !b.le a

/-- Orbital elements from which contacts are predicted. -/
structure OrbitalParameters where
  /-- Reference epoch, Unix epoch seconds. -/
  epoch : Int64
  /-- Semi-major axis in metres. -/
  semiMajorAxisM : Float64
  /-- Zero for a circle, below one for an ellipse. -/
  eccentricity : Float64
  /-- Inclination in degrees. -/
  inclinationDeg : Float64
  /-- Right ascension of the ascending node in degrees. -/
  raanDeg : Float64
  /-- Argument of periapsis in degrees. -/
  argPeriapsisDeg : Float64
  /-- True anomaly at the epoch in degrees. -/
  trueAnomalyDeg : Float64
  deriving DecidableEq

/-- Class of an orbit. -/
inductive OrbitType where
  /-- Semi-major axis below 8000 km. -/
  | leo
  /-- Everything else. -/
  | cislunar
  deriving DecidableEq

/-- Class of the orbit. The source divides by 1000 before it compares with
8000; rounding keeps numbers below 8000000 below 8000. -/
def OrbitalParameters.determineOrbitType (op : OrbitalParameters) : OrbitType :=
  if op.semiMajorAxisM.lt 8000000 then .leo else .cislunar

/-- Whether the orbital elements are valid. -/
def OrbitalParameters.validate (op : OrbitalParameters) : Option GoError :=
  if op.eccentricity.lt 0 || (Float64.finite 1).le op.eccentricity then
    some (.errorf (ascii "eccentricity must be in range [0, 1)"))
  else if op.semiMajorAxisM.le (.finite 6371000) then
    some (.errorf (ascii "semi-major axis must be greater than Earth radius"))
  else if op.inclinationDeg.lt 0 || op.inclinationDeg.gt 180 then
    some (.errorf (ascii "inclination must be in range [0, 180] degrees"))
  else none

/-- A ground station. -/
structure GroundStationLocation where
  /-- Node identifier of the station. -/
  stationID : NodeID
  /-- Geodetic latitude in degrees. -/
  latitudeDeg : Float64
  /-- Geodetic longitude in degrees. -/
  longitudeDeg : Float64
  /-- Altitude in metres. -/
  altitudeM : Float64
  /-- Lowest elevation of a usable contact in degrees. -/
  minElevationDeg : Float64
  deriving DecidableEq

/-- Whether the ground station's location is valid. -/
def GroundStationLocation.validate (gs : GroundStationLocation) : Option GoError :=
  if gs.latitudeDeg.lt (-90) || gs.latitudeDeg.gt 90 then
    some (.errorf (ascii "latitude must be in range [-90, 90] degrees"))
  else if gs.longitudeDeg.lt (-180) || gs.longitudeDeg.gt 180 then
    some (.errorf (ascii "longitude must be in range [-180, 180] degrees"))
  else if gs.minElevationDeg.lt 0 || gs.minElevationDeg.gt 90 then
    some (.errorf (ascii "minimum elevation must be in range [0, 90] degrees"))
  else none

/-- A predicted window. -/
structure PredictedContact where
  /-- The window. -/
  window : ContactWindow
  /-- Peak elevation in degrees. -/
  maxElevationDeg : Float64
  /-- Largest Doppler shift at the carrier frequency. -/
  dopplerShiftHz : Float64
  /-- Between 0 and 1. -/
  confidence : Float64
  deriving DecidableEq

/-- A contact plan. -/
structure ContactPlan where
  /-- Start of validity, Unix epoch seconds. -/
  validFrom : Int64
  /-- End of validity, Unix epoch seconds. -/
  validTo : Int64
  /-- Scheduled windows. -/
  contacts : List ContactWindow
  /-- Predicted windows. -/
  predictedContacts : List PredictedContact
  /-- Orbital elements behind the predictions. -/
  orbitalData : Option OrbitalParameters
  deriving DecidableEq

/-- Decimal rendering of an index, as the verb %d prints it. -/
def formatIndex (i : ℕ) : GoString := ascii (toString i)

/-- The checks on one contact, in the order they are made. -/
def validateContact (cp : ContactPlan) (i : ℕ) (contact : ContactWindow) : Option GoError :=
  if contact.startTime < cp.validFrom ∨ contact.endTime > cp.validTo then
    some (.errorf (ascii "contact " ++ formatIndex i ++ ascii " falls outside valid time range"))
  else if contact.startTime ≥ contact.endTime then
    some (.errorf (ascii "contact " ++ formatIndex i ++ ascii " has invalid time range"))
  else if contact.dataRate ≤ 0 then
    some (.errorf (ascii "contact " ++ formatIndex i ++ ascii " has invalid data rate"))
  else none

/-- Whether two contacts use the same node at overlapping times. -/
def ContactWindow.overlaps (c1 c2 : ContactWindow) : Bool :=
  decide (c1.remoteNode = c2.remoteNode ∧ c1.startTime < c2.endTime ∧ c2.startTime < c1.endTime)

/-- The inner loop over the contacts after the one at index i. -/
def validateAgainst (i : ℕ) (c1 : ContactWindow) (rest : List (ContactWindow × ℕ)) :
    Option GoError :=
  rest.findSome? fun entry =>
    if c1.overlaps entry.1 then
      some (.errorf (ascii "contacts " ++ formatIndex i ++ ascii " and " ++
        formatIndex entry.2 ++ ascii " overlap for node " ++ c1.remoteNode))
    else none

/-- The double loop over pairs of contacts. -/
def validateOverlaps : List (ContactWindow × ℕ) → Option GoError
  | [] => none
  | entry :: rest =>
    match validateAgainst entry.2 entry.1 rest with
    | some err => some err
    | none => validateOverlaps rest

/-- The check on one predicted contact. -/
def validatePredicted (i : ℕ) (pc : PredictedContact) : Option GoError :=
  if pc.confidence.lt 0 || pc.confidence.gt 1 then
    some (.errorf (ascii "predicted contact " ++ formatIndex i ++
      ascii " has invalid confidence value"))
  else none

/-- Whether the plan is valid: the first check that fails decides. -/
def ContactPlan.validate (cp : ContactPlan) : Option GoError :=
  if cp.validFrom ≥ cp.validTo then
    some (.errorf (ascii "validFrom must be less than validTo"))
  else
    (cp.contacts.zipIdx.findSome? fun entry => validateContact cp entry.2 entry.1) <|>
      validateOverlaps cp.contacts.zipIdx <|>
      cp.predictedContacts.zipIdx.findSome? fun entry => validatePredicted entry.2 entry.1

/-- A window that can be scheduled between two times. -/
def ContactWindow.Schedulable (validFrom validTo : Int64) (c : ContactWindow) : Prop :=
  validFrom ≤ c.startTime ∧ c.endTime ≤ validTo ∧ c.startTime < c.endTime ∧ 0 < c.dataRate

/-- A prediction whose confidence is not out of range. -/
def PredictedContact.Confident (pc : PredictedContact) : Prop :=
  pc.confidence.lt 0 = false ∧ pc.confidence.gt 1 = false

section validation

theorem ContactWindow.overlaps_comm (c d : ContactWindow) : c.overlaps d = d.overlaps c := by
  unfold ContactWindow.overlaps
  exact decide_eq_decide.mpr ⟨fun ⟨h1, h2, h3⟩ => ⟨h1.symm, h3, h2⟩,
    fun ⟨h1, h2, h3⟩ => ⟨h1.symm, h3, h2⟩⟩

theorem validateContact_eq_none_iff {cp : ContactPlan} {i : ℕ} {c : ContactWindow} :
    validateContact cp i c = none ↔ c.Schedulable cp.validFrom cp.validTo := by
  have hzero : (0 : Int64).toInt = 0 := rfl
  unfold validateContact ContactWindow.Schedulable
  simp only [Int64.lt_iff_toInt_lt, Int64.le_iff_toInt_le, gt_iff_lt, ge_iff_le, hzero]
  split_ifs <;> simp <;> omega

theorem validateAgainst_eq_none_iff {i : ℕ} {c : ContactWindow}
    {rest : List (ContactWindow × ℕ)} :
    validateAgainst i c rest = none ↔ ∀ entry ∈ rest, c.overlaps entry.1 = false := by
  rw [validateAgainst, List.findSome?_eq_none_iff]
  refine forall₂_congr fun entry _ => ?_
  cases c.overlaps entry.1 <;> simp

theorem validateOverlaps_eq_none_iff {entries : List (ContactWindow × ℕ)} :
    validateOverlaps entries = none ↔
      (entries.map Prod.fst).Pairwise fun c d => c.overlaps d = false := by
  induction entries with
  | nil => simp [validateOverlaps]
  | cons entry rest ih =>
    rw [validateOverlaps, List.map_cons, List.pairwise_cons, ← ih]
    have hagainst := @validateAgainst_eq_none_iff entry.2 entry.1 rest
    cases hv : validateAgainst entry.2 entry.1 rest with
    | some err =>
      rw [hv] at hagainst
      refine iff_of_false (Option.some_ne_none err) fun h => ?_
      have hall : ∀ e ∈ rest, entry.1.overlaps e.1 = false := fun e he =>
        h.1 _ (List.mem_map_of_mem he)
      exact Option.some_ne_none err (hagainst.mpr hall)
    | none =>
      have hall := hagainst.mp hv
      have hfree : ∀ d ∈ rest.map Prod.fst, entry.1.overlaps d = false := by
        intro d hd
        obtain ⟨e, he, rfl⟩ := List.mem_map.mp hd
        exact hall e he
      exact (and_iff_right hfree).symm

/-- A check of every entry with its index that depends on the entry only. -/
theorem findSome?_zipIdx_eq_none_iff {α β : Type} {check : ℕ → α → Option β} {P : α → Prop}
    (hcheck : ∀ i a, check i a = none ↔ P a) {l : List α} :
    (l.zipIdx.findSome? fun entry => check entry.2 entry.1) = none ↔ ∀ a ∈ l, P a := by
  rw [List.findSome?_eq_none_iff]
  constructor
  · intro h a ha
    obtain ⟨i, hi⟩ := List.mem_iff_getElem?.mp ha
    exact (hcheck i a).mp (h (a, i) (List.mem_zipIdx_iff_getElem?.mpr hi))
  · intro h entry he
    exact (hcheck entry.2 entry.1).mpr (h entry.1 (List.fst_mem_of_mem_zipIdx he))

theorem validatePredicted_eq_none_iff {i : ℕ} {pc : PredictedContact} :
    validatePredicted i pc = none ↔ pc.Confident := by
  unfold validatePredicted PredictedContact.Confident
  cases pc.confidence.lt 0 <;> cases pc.confidence.gt 1 <;> simp

/-- A plan is valid if its period is not empty, every contact fits into it, no
two contacts of one node overlap and the confidences are in range. -/
theorem ContactPlan.validate_eq_none_iff {cp : ContactPlan} :
    cp.validate = none ↔ cp.validFrom < cp.validTo ∧
      (∀ c ∈ cp.contacts, c.Schedulable cp.validFrom cp.validTo) ∧
      (cp.contacts.Pairwise fun c d => c.overlaps d = false) ∧
      ∀ pc ∈ cp.predictedContacts, pc.Confident := by
  have hfits := findSome?_zipIdx_eq_none_iff (l := cp.contacts)
    fun i c => @validateContact_eq_none_iff cp i c
  have hoverlaps := @validateOverlaps_eq_none_iff cp.contacts.zipIdx
  rw [List.zipIdx_map_fst] at hoverlaps
  have hconfident := findSome?_zipIdx_eq_none_iff (l := cp.predictedContacts)
    fun i pc => @validatePredicted_eq_none_iff i pc
  rw [ContactPlan.validate, ← hfits, ← hoverlaps, ← hconfident]
  split_ifs with hperiod
  · have hnot : ¬cp.validFrom < cp.validTo := Int64.not_lt.mpr hperiod
    simp [hnot]
  · have hlt : cp.validFrom < cp.validTo := Int64.not_le.mp hperiod
    simp [hlt]

end validation

/-- The manager of scheduled windows. Its map of orbital elements by node is
written and never read, and is left out. -/
structure ContactPlanManager where
  /-- The loaded plan. -/
  plan : Option ContactPlan
  deriving DecidableEq

/-- A manager without a plan. -/
def newContactPlanManager : ContactPlanManager := ⟨none⟩

/-- A window with Earth, for concrete scenarios. -/
def specimenWindow : ContactWindow := ⟨1, ascii "earth", 0, 1000, 500, 4⟩

namespace ContactPlanManager

/-- Load a plan if it is valid. -/
def loadPlan (cpm : ContactPlanManager) (plan : ContactPlan) :
    ContactPlanManager × Option GoError :=
  match plan.validate with
  | some err => (cpm, some (err.wrap "invalid contact plan"))
  | none => ({ cpm with plan := some plan }, none)

/-- The scan shared by the lookups: the first contact with the node, among
those not yet started, whose start is strictly earliest. -/
def earliestContact (contacts : List ContactWindow) (nodeID : NodeID) (currentTime : Int64) :
    Option ContactWindow :=
  contacts.foldl (fun nextContact contact =>
    if contact.remoteNode = nodeID ∧ contact.startTime ≥ currentTime then
      match nextContact with
      | none => some contact
      | some best => if contact.startTime < best.startTime then some contact else some best
    else nextContact) none

/-- Next contact window with a node. -/
def getNextContact (cpm : ContactPlanManager) (nodeID : NodeID) (currentTime : Int64) :
    Except GoError ContactWindow :=
  match cpm.plan with
  | none => .error (.errorf (ascii "no contact plan loaded"))
  | some plan =>
    match earliestContact plan.contacts nodeID currentTime with
    | none => .error (.errorf (ascii "no future contact with node " ++ nodeID))
    | some contact => .ok contact

/-- Next contact window for an endpoint: its scheme-specific part is taken for
the node identifier. -/
def getNextContactByEndpoint (cpm : ContactPlanManager) (destination : EndpointID)
    (currentTime : Int64) : Option ContactWindow :=
  match cpm.plan with
  | none => none
  | some plan => earliestContact plan.contacts destination.ssp currentTime

/-- Next direct contact window with a destination. -/
def findDirectContact (cpm : ContactPlanManager) (destination : EndpointID)
    (currentTime : Int64) : Except GoError ContactWindow :=
  match cpm.plan with
  | none => .error (.errorf (ascii "no contact plan loaded"))
  | some plan =>
    match earliestContact plan.contacts destination.ssp currentTime with
    | none => .error (.errorf (ascii "no direct contact with destination " ++ destination.string))
    | some contact => .ok contact

/-- All windows active at a time, in plan order. -/
def getActiveContacts (cpm : ContactPlanManager) (currentTime : Int64) : List ContactWindow :=
  match cpm.plan with
  | none => []
  | some plan => plan.contacts.filter fun contact => contact.isActive currentTime

/-- A manager whose plan has the window with Earth. -/
def specimenPlanner : ContactPlanManager :=
  (newContactPlanManager.loadPlan ⟨0, 2000, [specimenWindow], [], none⟩).1

/-- What the scan keeps is a contact with the node that has not started. -/
theorem earliestContact_spec {contacts : List ContactWindow} {nodeID : NodeID}
    {currentTime : Int64} {w : ContactWindow}
    (h : earliestContact contacts nodeID currentTime = some w) :
    w ∈ contacts ∧ w.remoteNode = nodeID ∧ currentTime ≤ w.startTime := by
  refine SelectionScans.foldl_select
    (fun contact => contact.remoteNode = nodeID ∧ currentTime ≤ contact.startTime) ?_ h
  intro candidate contact
  by_cases hc : contact.remoteNode = nodeID ∧ contact.startTime ≥ currentTime
  · cases candidate with
    | none => exact Or.inr ⟨by rw [if_pos hc], hc⟩
    | some best =>
      by_cases hlt : contact.startTime < best.startTime
      · exact Or.inr ⟨by simp only [if_pos hc, if_pos hlt], hc⟩
      · exact Or.inl (by simp only [if_pos hc, if_neg hlt])
  · exact Or.inl (if_neg hc)

/-- The window found for an endpoint is planned, and with the node that the
scheme-specific part names. -/
theorem getNextContactByEndpoint_spec {cpm : ContactPlanManager} {destination : EndpointID}
    {currentTime : Int64} {w : ContactWindow}
    (h : cpm.getNextContactByEndpoint destination currentTime = some w) :
    (∃ plan, cpm.plan = some plan ∧ w ∈ plan.contacts) ∧ w.remoteNode = destination.ssp := by
  unfold getNextContactByEndpoint at h
  cases hp : cpm.plan with
  | none =>
    rw [hp] at h
    cases h
  | some plan =>
    rw [hp] at h
    obtain ⟨hin, hnode, -⟩ := earliestContact_spec h
    exact ⟨⟨plan, rfl, hin⟩, hnode⟩

/-- The active contacts are the planned ones that are active. -/
theorem mem_getActiveContacts {cpm : ContactPlanManager} {currentTime : Int64}
    {w : ContactWindow} :
    w ∈ cpm.getActiveContacts currentTime ↔
      (∃ plan, cpm.plan = some plan ∧ w ∈ plan.contacts) ∧ w.isActive currentTime = true := by
  unfold getActiveContacts
  cases hp : cpm.plan with
  | none => simp
  | some plan => simp

end ContactPlanManager

end CislunarDtn.ContactPlans
