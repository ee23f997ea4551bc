import CislunarDtn.ContactPlans
import CislunarDtn.SampledRuns
import Mathlib.Data.List.Sort
import Mathlib.Tactic.Linarith

/-!
# Pass prediction

The two predictors step through an interval and watch each station's
visibility; they differ in the orbit model, the step, the shortest pass, the
data rate and the link. Elevation, Doppler shift and confidence are arbitrary
functions of the model. Times are whole seconds. Propagation fails only on
parameters that have been rejected before the loop. Sorting by start time
leaves the order of equal starts open.
-/

namespace CislunarDtn.PassPredictions

open Bundles ContactPlans SampledRuns

/-- The floating-point functions of an orbit model. -/
structure SkyModel where
  /-- Elevation of the propagated satellite over a station at a time. -/
  elevation : OrbitalParameters → GroundStationLocation → ℤ → Float64
  /-- Magnitude of the Doppler shift at the carrier frequency. -/
  doppler : OrbitalParameters → GroundStationLocation → ℤ → Float64
  /-- Confidence by epoch and start of the pass. -/
  confidence : Int64 → Int64 → Float64

/-- What distinguishes the predictors. -/
structure PassProfile where
  /-- Orbit model. -/
  sky : SkyModel
  /-- Step for a non-positive argument, in seconds. -/
  defaultTimeStep : ℤ
  /-- Shortest pass that is reported, in seconds. -/
  minimumDuration : ℤ
  /-- Data rate of the windows. -/
  dataRate : Int64
  /-- Link of the windows. -/
  linkType : LinkType

/-- Link of LEO passes. -/
def linkTypeUHFIQ : LinkType := 3

/-- Link of cislunar passes. -/
def linkTypeSBandIQ : LinkType := 4

/-- What the predictor knows of a station. -/
structure ContactState where
  /-- Whether the satellite is visible since the start. -/
  inContact : Bool
  /-- Start of the contact. -/
  contactStart : ℤ
  /-- Peak elevation. -/
  maxElevation : Float64
  /-- Peak Doppler shift. -/
  maxDoppler : Float64
  deriving DecidableEq

/-- The variables of the loop. -/
structure Scan where
  /-- State by station identifier. -/
  stationStates : NodeID → ContactState
  /-- Windows found, oldest first. -/
  predictedContacts : List PredictedContact
  /-- Identifier of the next window. -/
  contactID : UInt64

/-- The loop's variables before the first step. -/
def Scan.start : Scan := ⟨fun _ => ⟨false, 0, .finite 0, .finite 0⟩, [], 1⟩

/-- Change the state of one station. -/
def Scan.setState (scan : Scan) (node : NodeID) (state : ContactState) : Scan :=
  { scan with stationStates := Function.update scan.stationStates node state }

/-- The larger of two numbers, the first unless the second compares greater. -/
def Float64.keepMax (a b : Float64) : Float64 := if a.less b then b else a

section loop

variable (profile : PassProfile) (params : OrbitalParameters)

/-- Whether the satellite is above the station's minimum elevation. -/
def visible (station : GroundStationLocation) (currentTime : ℤ) : Bool :=
  station.minElevationDeg.le (profile.sky.elevation params station currentTime)

/-- The window of a pass. -/
def predictedPass (contactID : UInt64) (node : NodeID) (state : ContactState)
    (currentTime : ℤ) : PredictedContact where
  window :=
    { contactID := contactID
      remoteNode := node
      startTime := Int64.ofInt state.contactStart
      endTime := Int64.ofInt currentTime
      dataRate := profile.dataRate
      linkType := profile.linkType }
  maxElevationDeg := state.maxElevation
  dopplerShiftHz := state.maxDoppler
  confidence := profile.sky.confidence params.epoch (Int64.ofInt state.contactStart)

/-- The inner loop's body: one station at one time. -/
def observe (currentTime : ℤ) (scan : Scan) (station : GroundStationLocation) : Scan :=
  let state := scan.stationStates station.stationID
  let elevation := profile.sky.elevation params station currentTime
  let isVisible := visible profile params station currentTime
  let doppler := profile.sky.doppler params station currentTime
  if isVisible && !state.inContact then
    scan.setState station.stationID ⟨true, currentTime, elevation, doppler⟩
  else if isVisible && state.inContact then
    scan.setState station.stationID
      { state with
        maxElevation := Float64.keepMax state.maxElevation elevation
        maxDoppler := Float64.keepMax state.maxDoppler doppler }
  else if !isVisible && state.inContact then
    let scan :=
      if currentTime - state.contactStart ≥ profile.minimumDuration then
        { scan with
          predictedContacts := scan.predictedContacts ++
            [predictedPass profile params scan.contactID station.stationID state currentTime]
          contactID := scan.contactID + 1 }
      else scan
    scan.setState station.stationID ⟨false, state.contactStart, .finite 0, .finite 0⟩
  else scan

/-- The times the outer loop visits: from the first one on, in steps, before
the last one. -/
def stepTimes (fromTime toTime timeStep : ℤ) : List ℤ :=
  if h : fromTime < toTime ∧ 0 < timeStep then
    have : (toTime - (fromTime + timeStep)).toNat < (toTime - fromTime).toNat := by omega
    fromTime :: stepTimes (fromTime + timeStep) toTime timeStep
  else []
termination_by (toTime - fromTime).toNat

/-- Both loops over an interval. -/
def scanInterval (stations : List GroundStationLocation) (times : List ℤ) : Scan :=
  times.foldl (fun scan t => stations.foldl (observe profile params t) scan) Scan.start

end loop

/-- The first invalid station, as the predictors report it. -/
def validateStations (stations : List GroundStationLocation) : Option GoError :=
  stations.zipIdx.findSome? fun entry =>
    entry.1.validate.map fun err =>
      err.wrap ("invalid ground station " ++ toString entry.2)

/-- An implementation of sorting by start time. -/
structure StartSorter where
  /-- The sorted windows. -/
  sort : List PredictedContact → List PredictedContact
  /-- Nothing is lost or added. -/
  sort_perm : ∀ l, (sort l).Perm l
  /-- No window starts before its predecessor. -/
  sort_sorted : ∀ l, (sort l).Pairwise fun a b => a.window.startTime ≤ b.window.startTime

variable (sorter : StartSorter)

/-- The predictor with a profile. -/
def predictPassesWith (profile : PassProfile) (params : OrbitalParameters)
    (stations : List GroundStationLocation) (fromTime toTime timeStepSeconds : ℤ) :
    Except GoError (List PredictedContact) :=
  match params.validate with
  | some err => .error (err.wrap "invalid orbital parameters")
  | none =>
    if fromTime > toTime then .error (.errorf (ascii "fromTime must be before toTime"))
    else
      let timeStep := if timeStepSeconds ≤ 0 then profile.defaultTimeStep else timeStepSeconds
      match validateStations stations with
      | some err => .error err
      | none =>
        .ok (sorter.sort
          (scanInterval profile params stations
            (stepTimes fromTime toTime timeStep)).predictedContacts)

/-- The profile of LEO passes. -/
def leoProfile (sky : SkyModel) : PassProfile := ⟨sky, 30, 60, 9600, linkTypeUHFIQ⟩

/-- The profile of cislunar passes. -/
def cislunarProfile (sky : SkyModel) : PassProfile := ⟨sky, 60, 300, 500, linkTypeSBandIQ⟩

/-- LEO satellite passes over ground stations. -/
def predictLEOPasses (leoSky : SkyModel) : OrbitalParameters → List GroundStationLocation →
    ℤ → ℤ → ℤ → Except GoError (List PredictedContact) :=
  predictPassesWith sorter (leoProfile leoSky)

/-- Cislunar payload passes over ground stations. -/
def predictCislunarPasses (cislunarSky : SkyModel) : OrbitalParameters →
    List GroundStationLocation → ℤ → ℤ → ℤ → Except GoError (List PredictedContact) :=
  predictPassesWith sorter (cislunarProfile cislunarSky)

/-- The predictor that the class of the orbit selects. -/
def predictPasses (leoSky cislunarSky : SkyModel) (params : OrbitalParameters)
    (stations : List GroundStationLocation) (fromTime toTime timeStepSeconds : ℤ) :
    Except GoError (List PredictedContact) :=
  match params.determineOrbitType with
  | .leo => predictLEOPasses sorter leoSky params stations fromTime toTime timeStepSeconds
  | .cislunar =>
    predictCislunarPasses sorter cislunarSky params stations fromTime toTime timeStepSeconds

/-- Sorting that keeps the order of equal starts. -/
def StartSorter.stable : StartSorter where
  sort l := l.mergeSort fun a b => decide (a.window.startTime ≤ b.window.startTime)
  sort_perm l := List.mergeSort_perm l _
  sort_sorted l := by
    have htrans : ∀ a b c : PredictedContact,
        decide (a.window.startTime ≤ b.window.startTime) = true →
          decide (b.window.startTime ≤ c.window.startTime) = true →
            decide (a.window.startTime ≤ c.window.startTime) = true := by
      intro a b c hab hbc
      simp only [decide_eq_true_eq, Int64.le_iff_toInt_le] at hab hbc ⊢
      omega
    have htotal : ∀ a b : PredictedContact,
        (decide (a.window.startTime ≤ b.window.startTime) ||
          decide (b.window.startTime ≤ a.window.startTime)) = true := by
      intro a b
      simp only [Bool.or_eq_true, decide_eq_true_eq, Int64.le_iff_toInt_le]
      omega
    have hsorted := List.pairwise_mergeSort htrans htotal l
    exact hsorted.imp fun h => of_decide_eq_true h

/-- What the loops observe, in order: every station at every time. -/
def observations (stations : List GroundStationLocation) (times : List ℤ) :
    List (ℤ × GroundStationLocation) :=
  times.flatMap fun t => stations.map fun station => (t, station)

/-- The visibility samples of the stations with an identifier. -/
def samplesOf (profile : PassProfile) (params : OrbitalParameters) (node : NodeID)
    (observed : List (ℤ × GroundStationLocation)) : List (ℤ × Bool) :=
  (observed.filter fun o => o.2.stationID = node).map fun o =>
    (o.1, visible profile params o.2 o.1)

/-- Starts and ends of the windows with a node. -/
def passesOf (node : NodeID) (predicted : List PredictedContact) : List (Int64 × Int64) :=
  (predicted.filter fun p => p.window.remoteNode = node).map fun p =>
    (p.window.startTime, p.window.endTime)

/-- The start of the contact that is open. -/
def ContactState.openSince (state : ContactState) : Option ℤ :=
  if state.inContact then some state.contactStart else none

/-- The runs that are long enough, as starts and ends of windows. -/
def reported (profile : PassProfile) (runs : List (ℤ × ℤ)) : List (Int64 × Int64) :=
  (runs.filter fun r => profile.minimumDuration ≤ r.2 - r.1).map fun r =>
    (Int64.ofInt r.1, Int64.ofInt r.2)

section scanning

variable {profile : PassProfile} {params : OrbitalParameters}

theorem scanInterval_eq (stations : List GroundStationLocation) (times : List ℤ) :
    scanInterval profile params stations times =
      (observations stations times).foldl (fun scan o => observe profile params o.1 scan o.2)
        Scan.start := by
  unfold scanInterval
  generalize Scan.start = scan
  induction times generalizing scan with
  | nil => rfl
  | cons t times ih =>
    have hcons : observations stations (t :: times) =
        stations.map (fun station => (t, station)) ++ observations stations times := rfl
    rw [List.foldl_cons, ih, hcons, List.foldl_append, List.foldl_map]

/-- An observation of another station changes nothing of a node. -/
theorem observe_other {currentTime : ℤ} {scan : Scan} {station : GroundStationLocation}
    {node : NodeID} (h : station.stationID ≠ node) :
    (observe profile params currentTime scan station).stationStates node =
        scan.stationStates node ∧
      passesOf node (observe profile params currentTime scan station).predictedContacts =
        passesOf node scan.predictedContacts := by
  have hne : node ≠ station.stationID := Ne.symm h
  unfold observe
  dsimp only
  split_ifs <;> simp [Scan.setState, Function.update_of_ne hne, passesOf, predictedPass, h]

/-- An observation of a node's station is one sample of its signal. -/
theorem observe_same {currentTime : ℤ} {scan : Scan} {station : GroundStationLocation}
    {node : NodeID} (h : station.stationID = node) (rest : List (ℤ × Bool)) :
    passesOf node (observe profile params currentTime scan station).predictedContacts ++
        reported profile (closedRuns ((observe profile params currentTime scan
          station).stationStates node).openSince rest) =
      passesOf node scan.predictedContacts ++
        reported profile (closedRuns (scan.stationStates node).openSince
          ((currentTime, visible profile params station currentTime) :: rest)) := by
  subst h
  unfold observe
  cases hv : visible profile params station currentTime with
  | true =>
    cases hin : (scan.stationStates station.stationID).inContact with
    | false => simp [hin, Scan.setState, ContactState.openSince, closedRuns]
    | true => simp [hin, Scan.setState, ContactState.openSince, closedRuns]
  | false =>
    cases hin : (scan.stationStates station.stationID).inContact with
    | false => simp [hin, ContactState.openSince, closedRuns]
    | true =>
      by_cases hlong : profile.minimumDuration ≤
          currentTime - (scan.stationStates station.stationID).contactStart
      · simp [hin, hlong, Scan.setState, ContactState.openSince, closedRuns, passesOf,
          reported, predictedPass]
      · simp [hin, hlong, Scan.setState, ContactState.openSince, closedRuns, passesOf,
          reported]

/-- The windows with a node are the closed runs of its signal that are long enough. -/
theorem passesOf_foldl (node : NodeID) (observed : List (ℤ × GroundStationLocation))
    (scan : Scan) :
    passesOf node (observed.foldl (fun scan o => observe profile params o.1 scan o.2)
        scan).predictedContacts =
      passesOf node scan.predictedContacts ++
        reported profile (closedRuns (scan.stationStates node).openSince
          (samplesOf profile params node observed)) := by
  induction observed generalizing scan with
  | nil =>
    cases (scan.stationStates node).openSince <;> simp [samplesOf, closedRuns, reported]
  | cons o observed ih =>
    rw [List.foldl_cons, ih]
    by_cases h : o.2.stationID = node
    · have hsamples : samplesOf profile params node (o :: observed) =
          (o.1, visible profile params o.2 o.1) :: samplesOf profile params node observed := by
        simp [samplesOf, h]
      rw [observe_same h, hsamples]
    · obtain ⟨hstates, hpasses⟩ := @observe_other profile params o.1 scan o.2 node h
      have hsamples : samplesOf profile params node (o :: observed) =
          samplesOf profile params node observed := by
        simp [samplesOf, h]
      rw [hstates, hpasses, hsamples]

/-- Windows are numbered from one as they are found, and carry the profile's rate. -/
structure Numbered (profile : PassProfile) (scan : Scan) : Prop where
  contactID : scan.contactID = UInt64.ofNat (scan.predictedContacts.length + 1)
  ids : scan.predictedContacts.map (fun p => p.window.contactID) =
    (List.range scan.predictedContacts.length).map fun i => UInt64.ofNat (i + 1)
  dataRate : ∀ p ∈ scan.predictedContacts, p.window.dataRate = profile.dataRate

theorem observe_numbered {currentTime : ℤ} {scan : Scan} (h : Numbered profile scan)
    (station : GroundStationLocation) :
    Numbered profile (observe profile params currentTime scan station) := by
  obtain ⟨hnext, hids, hrate⟩ := h
  unfold observe
  dsimp only
  split_ifs
  · exact ⟨hnext, hids, hrate⟩
  · exact ⟨hnext, hids, hrate⟩
  · refine ⟨?_, ?_, ?_⟩
    · simp [Scan.setState, hnext]
    · simp [Scan.setState, hids, hnext, predictedPass, List.range_succ]
    · intro p hp
      rcases List.mem_append.mp hp with hp | hp
      · exact hrate p hp
      · obtain rfl := List.mem_singleton.mp hp
        rfl
  · exact ⟨hnext, hids, hrate⟩
  · exact ⟨hnext, hids, hrate⟩

theorem scanInterval_numbered (stations : List GroundStationLocation) (times : List ℤ) :
    Numbered profile (scanInterval profile params stations times) := by
  have hstart : Numbered profile Scan.start := ⟨rfl, rfl, by simp [Scan.start]⟩
  rw [scanInterval_eq]
  generalize Scan.start = scan at hstart
  induction observations stations times generalizing scan with
  | nil => exact hstart
  | cons o observed ih => exact ih _ (observe_numbered hstart o.2)

end scanning

/-- Some station identifier is visible for at least the shortest duration,
sampled in steps, and no longer visible at a step before the end. -/
def HasPass (profile : PassProfile) (params : OrbitalParameters)
    (stations : List GroundStationLocation) (fromTime toTime timeStep : ℤ) : Prop :=
  ∃ node a b, IsClosedRun (samplesOf profile params node
    (observations stations (stepTimes fromTime toTime timeStep))) a b ∧
      profile.minimumDuration ≤ b - a

theorem scanInterval_eq_nil_iff {profile : PassProfile} {params : OrbitalParameters}
    {stations : List GroundStationLocation} {fromTime toTime timeStep : ℤ} :
    (scanInterval profile params stations
        (stepTimes fromTime toTime timeStep)).predictedContacts = [] ↔
      ¬HasPass profile params stations fromTime toTime timeStep := by
  have hpasses : ∀ node, passesOf node (scanInterval profile params stations
        (stepTimes fromTime toTime timeStep)).predictedContacts =
      reported profile (closedRuns none (samplesOf profile params node
        (observations stations (stepTimes fromTime toTime timeStep)))) := by
    intro node
    rw [scanInterval_eq, passesOf_foldl]
    rfl
  constructor
  · rintro hnil ⟨node, a, b, hrun, hlong⟩
    have hempty := hpasses node
    have hmem : (a, b) ∈ (closedRuns none (samplesOf profile params node
        (observations stations (stepTimes fromTime toTime timeStep)))).filter
          fun r => profile.minimumDuration ≤ r.2 - r.1 :=
      List.mem_filter.mpr ⟨hrun.mem_closedRuns, by simpa using hlong⟩
    rw [hnil] at hempty
    have hreported := List.mem_map_of_mem (f := fun r : ℤ × ℤ =>
      (Int64.ofInt r.1, Int64.ofInt r.2)) hmem
    rw [← reported, ← hempty] at hreported
    simp [passesOf] at hreported
  · intro hnone
    by_contra hne
    obtain ⟨p, predicted, hcons⟩ := List.exists_cons_of_ne_nil hne
    have hfound := hpasses p.window.remoteNode
    rw [hcons] at hfound
    have hmem : (p.window.startTime, p.window.endTime) ∈
        passesOf p.window.remoteNode (p :: predicted) := by
      simp [passesOf]
    rw [hfound] at hmem
    obtain ⟨⟨a, b⟩, hr, -⟩ := List.mem_map.mp hmem
    obtain ⟨hclosed, hlong⟩ := List.mem_filter.mp hr
    exact hnone ⟨_, a, b, mem_closedRuns.mp hclosed, by simpa using hlong⟩

/-- A predictor that accepts its arguments sorts the windows of its loops. -/
theorem predictPassesWith_ok {profile : PassProfile} {params : OrbitalParameters}
    {stations : List GroundStationLocation} {fromTime toTime timeStep : ℤ}
    (hstep : 0 < timeStep) {predicted : List PredictedContact}
    (h : predictPassesWith sorter profile params stations fromTime toTime timeStep =
      .ok predicted) :
    predicted = sorter.sort (scanInterval profile params stations
      (stepTimes fromTime toTime timeStep)).predictedContacts := by
  unfold predictPassesWith at h
  rw [if_neg (Int.not_le.mpr hstep)] at h
  dsimp only at h
  split at h
  · cases h
  · split at h
    · cases h
    · split at h
      · cases h
      · exact (Except.ok.inj h).symm

theorem predictPassesWith_perm {profile : PassProfile} {params : OrbitalParameters}
    {stations : List GroundStationLocation} {fromTime toTime timeStep : ℤ}
    (hstep : 0 < timeStep) {predicted : List PredictedContact}
    (h : predictPassesWith sorter profile params stations fromTime toTime timeStep =
      .ok predicted) :
    predicted.Perm (scanInterval profile params stations
      (stepTimes fromTime toTime timeStep)).predictedContacts := by
  rw [predictPassesWith_ok sorter hstep h]
  exact sorter.sort_perm _

/-- A predictor that accepts its arguments: what it returns is numbered from
one, carries the profile's rate, and is empty exactly if there is no pass. -/
theorem predictPassesWith_spec (profile : PassProfile) {params : OrbitalParameters}
    {stations : List GroundStationLocation} {fromTime toTime timeStep : ℤ}
    (hstep : 0 < timeStep) {predicted : List PredictedContact}
    (h : predictPassesWith sorter profile params stations fromTime toTime timeStep =
      .ok predicted) :
    (predicted.map fun p => p.window.contactID).Perm
        ((List.range predicted.length).map fun i => UInt64.ofNat (i + 1)) ∧
      (∀ p ∈ predicted, p.window.dataRate = profile.dataRate) ∧
      (predicted = [] ↔ ¬HasPass profile params stations fromTime toTime timeStep) := by
  have hperm := predictPassesWith_perm sorter hstep h
  have hnumbered := @scanInterval_numbered profile params stations
    (stepTimes fromTime toTime timeStep)
  refine ⟨?_, fun p hp => hnumbered.dataRate p (hperm.mem_iff.mp hp), ?_⟩
  · rw [hperm.length_eq, ← hnumbered.ids]
    exact hperm.map _
  · rw [← scanInterval_eq_nil_iff]
    constructor
    · intro hnil
      rw [hnil] at hperm
      exact hperm.symm.eq_nil
    · intro hnil
      rw [hnil] at hperm
      exact hperm.eq_nil

/-- Orbital elements of a satellite 500 km up. -/
def specimenOrbit : OrbitalParameters :=
  ⟨0, .finite 6871000, .finite 0, .finite 51, .finite 0, .finite 0, .finite 0⟩

end CislunarDtn.PassPredictions
