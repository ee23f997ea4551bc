import CislunarDtn.PlanLookups
import CislunarDtn.PlanPredictions
import Mathlib.Tactic.Ring

/-!
# Passes and visible runs

The predictors look at every station at the steps of an interval. A pass of a
station is a maximal run of steps at which the station sees the satellite. What
a predictor returns is exactly the runs that end before the interval does and
are long enough, each once; a run that lasts to the end is not returned.
-/

namespace CislunarDtn.PassWindows

open Bundles ContactPlans PassPredictions PlanPredictions PlanLookups SampledRuns

/-- The time of a step. -/
def stepAt (fromTime timeStep : ℤ) (k : ℕ) : ℤ := fromTime + k * timeStep

/-- A maximal run of visible steps before the end of an interval, from one step
up to another. -/
structure VisibleRun (seen : ℤ → Bool) (fromTime toTime timeStep : ℤ) (i j : ℕ) : Prop where
  /-- The run is not empty. -/
  lt : i < j
  /-- Its steps are before the end and visible. -/
  inside : ∀ k, i ≤ k → k < j →
    stepAt fromTime timeStep k < toTime ∧ seen (stepAt fromTime timeStep k) = true
  /-- A step before it is not visible. -/
  before : ∀ k, k + 1 = i → seen (stepAt fromTime timeStep k) = false
  /-- The step after it is not visible, unless the interval has ended. -/
  after : stepAt fromTime timeStep j < toTime → seen (stepAt fromTime timeStep j) = false

/-- A window of a station from one step to another. -/
def Spans (fromTime timeStep : ℤ) (station : GroundStationLocation) (i j : ℕ)
    (p : PredictedContact) : Prop :=
  p.window.remoteNode = station.stationID ∧
    p.window.startTime.toInt = stepAt fromTime timeStep i ∧
    p.window.endTime.toInt = stepAt fromTime timeStep j

instance decidableSpans (fromTime timeStep : ℤ) (station : GroundStationLocation) (i j : ℕ) :
    DecidablePred (Spans fromTime timeStep station i j) :=
  fun p => inferInstanceAs (Decidable (p.window.remoteNode = station.stationID ∧
    p.window.startTime.toInt = stepAt fromTime timeStep i ∧
    p.window.endTime.toInt = stepAt fromTime timeStep j))

/-- What windows say of the stations that see a satellite. -/
structure SoundPasses (seen : GroundStationLocation → ℤ → Bool) (minimum : ℤ)
    (stations : List GroundStationLocation) (fromTime toTime : Int64) (timeStep : ℤ)
    (predicted : List PredictedContact) : Prop where
  /-- Windows are sorted by their starts. -/
  sorted : predicted.Pairwise fun p q => p.window.startTime.toInt ≤ q.window.startTime.toInt
  /-- Every window is a visible run of a station that ends before the interval
  does and is long enough. -/
  sound : ∀ p ∈ predicted, ∃ station ∈ stations, ∃ i j,
    Spans fromTime.toInt timeStep station i j p ∧
      VisibleRun (seen station) fromTime.toInt toTime.toInt timeStep i j ∧
      stepAt fromTime.toInt timeStep j < toTime.toInt ∧
      p.window.startTime.toInt < p.window.endTime.toInt ∧
      minimum ≤ p.window.endTime.toInt - p.window.startTime.toInt
  /-- Windows of one station have no second in common. -/
  disjoint : predicted.Pairwise fun p q => p.window.remoteNode = q.window.remoteNode →
    Disjoint (interval p.window) (interval q.window)
  /-- Every such run is exactly one window. -/
  once : ∀ station ∈ stations, ∀ i j,
    VisibleRun (seen station) fromTime.toInt toTime.toInt timeStep i j →
      stepAt fromTime.toInt timeStep j < toTime.toInt →
      minimum ≤ stepAt fromTime.toInt timeStep j - stepAt fromTime.toInt timeStep i →
        predicted.countP (fun p => Spans fromTime.toInt timeStep station i j p) = 1
  /-- A plan of the interval with these contacts is valid, whatever confident
  predictions it keeps. -/
  validated : ∀ kept orbitalData, (∀ pc ∈ kept, pc.Confident) →
    (⟨fromTime, toTime, predicted.map fun pc => pc.window, kept, orbitalData⟩ :
      ContactPlan).validate = none

section steps

variable {fromTime toTime timeStep : ℤ}

theorem stepAt_succ (fromTime timeStep : ℤ) (k : ℕ) :
    stepAt fromTime timeStep (k + 1) = stepAt (fromTime + timeStep) timeStep k := by
  simp only [stepAt, Nat.cast_add, Nat.cast_one]
  ring

theorem stepAt_lt_stepAt (hstep : 0 < timeStep) {i j : ℕ} :
    stepAt fromTime timeStep i < stepAt fromTime timeStep j ↔ i < j := by
  unfold stepAt
  rw [add_lt_add_iff_left, mul_lt_mul_iff_left₀ hstep, Nat.cast_lt]

theorem stepAt_le_stepAt (hstep : 0 < timeStep) {i j : ℕ} :
    stepAt fromTime timeStep i ≤ stepAt fromTime timeStep j ↔ i ≤ j := by
  rw [← not_lt, stepAt_lt_stepAt hstep, not_lt]

theorem le_stepAt (hstep : 0 < timeStep) (k : ℕ) : fromTime ≤ stepAt fromTime timeStep k := by
  have hnonneg : 0 ≤ (k : ℤ) * timeStep := Int.mul_nonneg (Int.natCast_nonneg k) hstep.le
  unfold stepAt
  omega

/-- The loop visits the steps before the end. -/
theorem getElem?_stepTimes (hstep : 0 < timeStep) (k : ℕ) :
    (stepTimes fromTime toTime timeStep)[k]? =
      if stepAt fromTime timeStep k < toTime then some (stepAt fromTime timeStep k)
      else none := by
  fun_induction stepTimes fromTime toTime timeStep generalizing k with
  | case1 fromTime hlt hdecrease ih =>
    cases k with
    | zero => simp [stepAt, hlt.1]
    | succ k => rw [List.getElem?_cons_succ, ih, stepAt_succ]
  | case2 fromTime hge =>
    have hend : ¬stepAt fromTime timeStep k < toTime := by
      have := @le_stepAt fromTime timeStep hstep k
      omega
    rw [if_neg hend, List.getElem?_nil]

theorem pairwise_stepTimes (hstep : 0 < timeStep) :
    (stepTimes fromTime toTime timeStep).Pairwise (· < ·) := by
  rw [List.pairwise_iff_getElem]
  intro i j hi hj hlt
  have htime : ∀ k (hk : k < (stepTimes fromTime toTime timeStep).length),
      (stepTimes fromTime toTime timeStep)[k] = stepAt fromTime timeStep k := by
    intro k hk
    have hget := @getElem?_stepTimes fromTime toTime timeStep hstep k
    rw [List.getElem?_eq_getElem hk] at hget
    split_ifs at hget with hbefore
    exact Option.some.inj hget
  rw [htime i hi, htime j hj, stepAt_lt_stepAt hstep]
  exact hlt

theorem bounds_of_mem_stepTimes (hstep : 0 < timeStep) {t : ℤ}
    (h : t ∈ stepTimes fromTime toTime timeStep) : fromTime ≤ t ∧ t < toTime := by
  obtain ⟨k, hk⟩ := List.mem_iff_getElem?.mp h
  rw [getElem?_stepTimes hstep] at hk
  split_ifs at hk with hbefore
  obtain rfl := Option.some.inj hk
  exact ⟨le_stepAt hstep k, hbefore⟩

/-- The closed runs of the samples of a station are its visible runs that end
before the interval does. -/
theorem closedRunAt_iff (hstep : 0 < timeStep) {seen : ℤ → Bool} {a b : ℤ} {i j : ℕ} :
    ClosedRunAt ((stepTimes fromTime toTime timeStep).map fun t => (t, seen t)) a b i j ↔
      VisibleRun seen fromTime toTime timeStep i j ∧ stepAt fromTime timeStep j < toTime ∧
        a = stepAt fromTime timeStep i ∧ b = stepAt fromTime timeStep j := by
  have hsample : ∀ k x, ((stepTimes fromTime toTime timeStep).map fun t => (t, seen t))[k]? =
      some x ↔ stepAt fromTime timeStep k < toTime ∧
        x = (stepAt fromTime timeStep k, seen (stepAt fromTime timeStep k)) := by
    intro k x
    rw [List.getElem?_map, getElem?_stepTimes hstep]
    split_ifs with hbefore <;> simp [hbefore, eq_comm]
  constructor
  · intro h
    obtain ⟨hend, hstop⟩ := (hsample j _).mp h.stop
    obtain ⟨-, hstart⟩ := (hsample i _).mp h.start
    obtain ⟨hb, hunseen⟩ := Prod.mk.inj hstop
    have hearlier : ∀ k, k < j → stepAt fromTime timeStep k < toTime := by
      intro k hk
      exact ((stepAt_lt_stepAt hstep).mpr hk).trans hend
    refine ⟨⟨h.lt, fun k hik hkj => ⟨hearlier k hkj, ?_⟩, fun k hk => ?_, fun _ => hunseen.symm⟩,
      hend, (Prod.mk.inj hstart).1, hb⟩
    · exact h.inside k _ hik hkj ((hsample k _).mpr ⟨hearlier k hkj, rfl⟩)
    · have hlt := h.lt
      exact h.before k _ hk ((hsample k _).mpr ⟨hearlier k (by omega), rfl⟩)
  · rintro ⟨hrun, hend, rfl, rfl⟩
    obtain ⟨hstart, hseen⟩ := hrun.inside i (le_refl i) hrun.lt
    refine ⟨hrun.lt, (hsample i _).mpr ⟨hstart, by rw [hseen]⟩,
      (hsample j _).mpr ⟨hend, by rw [hrun.after hend]⟩, fun k x hik hkj hx => ?_,
      fun k x hk hx => ?_⟩
    · obtain ⟨-, rfl⟩ := (hsample k x).mp hx
      exact (hrun.inside k hik hkj).2
    · obtain ⟨-, rfl⟩ := (hsample k x).mp hx
      exact hrun.before k hk

end steps

section windows

variable {profile : PassProfile} {params : OrbitalParameters}
  {stations : List GroundStationLocation} {fromTime toTime : Int64} {timeStep : ℤ}

/-- Starts and ends of the windows with a node, as numbers. -/
def spansOf (node : NodeID) (predicted : List PredictedContact) : List (ℤ × ℤ) :=
  (predicted.filter fun p => p.window.remoteNode = node).map fun p =>
    (p.window.startTime.toInt, p.window.endTime.toInt)

theorem mem_spansOf {node : NodeID} {predicted : List PredictedContact} {p : PredictedContact}
    (hp : p ∈ predicted) (hnode : p.window.remoteNode = node) :
    (p.window.startTime.toInt, p.window.endTime.toInt) ∈ spansOf node predicted :=
  List.mem_map.mpr ⟨p, List.mem_filter.mpr ⟨hp, decide_eq_true hnode⟩, rfl⟩

/-- With distinct identifiers a station is the only one with its identifier. -/
theorem filter_stationID (hdistinct : (stations.map fun station => station.stationID).Nodup)
    {station : GroundStationLocation} (hs : station ∈ stations) :
    (stations.filter fun other => other.stationID = station.stationID) = [station] := by
  induction stations with
  | nil => cases hs
  | cons first rest ih =>
    obtain ⟨hfirst, hrest⟩ := List.nodup_cons.mp hdistinct
    rcases List.mem_cons.mp hs with rfl | hin
    · have hnone : (rest.filter fun other => other.stationID = station.stationID) = [] := by
        refine List.filter_eq_nil_iff.mpr fun other hother => ?_
        intro hsame
        exact hfirst (List.mem_map.mpr ⟨other, hother, of_decide_eq_true hsame⟩)
      rw [List.filter_cons_of_pos (by simp), hnone]
    · have hne : first.stationID ≠ station.stationID := by
        intro hsame
        exact hfirst (List.mem_map.mpr ⟨station, hin, hsame.symm⟩)
      rw [List.filter_cons_of_neg (by simpa using hne), ih hrest hin]

/-- The signal of a station is its visibility at the steps. -/
theorem samplesOf_station (hdistinct : (stations.map fun station => station.stationID).Nodup)
    {station : GroundStationLocation} (hs : station ∈ stations) (times : List ℤ) :
    samplesOf profile params station.stationID (observations stations times) =
      times.map fun t => (t, visible profile params station t) := by
  induction times with
  | nil => rfl
  | cons t times ih =>
    have hcons : observations stations (t :: times) =
        stations.map (fun station => (t, station)) ++ observations stations times := rfl
    have hstep : ((stations.map fun station => (t, station)).filter fun o =>
        o.2.stationID = station.stationID) = [(t, station)] := by
      rw [List.filter_map]
      exact congrArg (List.map fun station => (t, station)) (filter_stationID hdistinct hs)
    unfold samplesOf at ih ⊢
    rw [hcons, List.filter_append, List.map_append, hstep, ih]
    rfl

/-- An identifier of no station has no signal. -/
theorem samplesOf_eq_nil {node : NodeID}
    (hnone : ¬∃ station ∈ stations, station.stationID = node) (times : List ℤ) :
    samplesOf profile params node (observations stations times) = [] := by
  unfold samplesOf
  rw [List.map_eq_nil_iff, List.filter_eq_nil_iff]
  intro o ho hsame
  obtain ⟨t, -, hin⟩ := List.mem_flatMap.mp ho
  obtain ⟨station, hs, rfl⟩ := List.mem_map.mp hin
  exact hnone ⟨station, hs, of_decide_eq_true hsame⟩

/-- The times of what is observed are the steps. -/
theorem mem_of_mem_samplesOf {node : NodeID} {times : List ℤ} {x : ℤ × Bool}
    (h : x ∈ samplesOf profile params node (observations stations times)) : x.1 ∈ times := by
  obtain ⟨o, ho, rfl⟩ := List.mem_map.mp h
  obtain ⟨t, ht, hin⟩ := List.mem_flatMap.mp (List.mem_filter.mp ho).1
  obtain ⟨station, -, rfl⟩ := List.mem_map.mp hin
  exact ht

/-- The signal of an identifier, over an interval in steps. -/
def signal (profile : PassProfile) (params : OrbitalParameters)
    (stations : List GroundStationLocation) (fromTime toTime timeStep : ℤ) (node : NodeID) :
    List (ℤ × Bool) :=
  samplesOf profile params node (observations stations (stepTimes fromTime toTime timeStep))

/-- The times of a signal between times of 64 bits have 64 bits. -/
theorem toInt_ofInt_of_mem_signal (hstep : 0 < timeStep) {node : NodeID} {x : ℤ × Bool}
    (h : x ∈ signal profile params stations fromTime.toInt toTime.toInt timeStep node) :
    (Int64.ofInt x.1).toInt = x.1 := by
  have hbounds := bounds_of_mem_stepTimes hstep (mem_of_mem_samplesOf h)
  have hlow := fromTime.le_toInt
  have hhigh := toTime.toInt_lt
  exact Int64.toInt_ofInt_of_le (by omega) (by omega)

section scanned

variable {predicted : List PredictedContact} (hstep : 0 < timeStep)
  (hperm : predicted.Perm (scanInterval profile params stations
    (stepTimes fromTime.toInt toTime.toInt timeStep)).predictedContacts)

include hstep hperm

/-- The windows with a node are the closed runs of its signal that are long
enough, in some order. -/
theorem spansOf_perm (node : NodeID) :
    (spansOf node predicted).Perm
      ((closedRuns none (signal profile params stations fromTime.toInt toTime.toInt timeStep
        node)).filter fun r => profile.minimumDuration ≤ r.2 - r.1) := by
  refine ((hperm.filter _).map _).trans (List.Perm.of_eq ?_)
  have hpasses := @passesOf_foldl profile params node
    (observations stations (stepTimes fromTime.toInt toTime.toInt timeStep)) Scan.start
  rw [← scanInterval_eq] at hpasses
  have hvalues := congrArg (List.map fun r : Int64 × Int64 => (r.1.toInt, r.2.toInt)) hpasses
  simp only [passesOf, List.map_map, Function.comp_def] at hvalues
  refine hvalues.trans ?_
  change List.map _ (reported profile (closedRuns none (signal profile params stations
    fromTime.toInt toTime.toInt timeStep node))) = _
  rw [reported, List.map_map]
  refine (List.map_congr_left fun r hr => ?_).trans (List.map_id _)
  obtain ⟨hfirst, y, hy, hend⟩ := mem_times_of_mem_closedRuns (List.mem_filter.mp hr).1
  rcases hfirst with hopen | ⟨x, hx, hstart⟩
  · cases hopen
  · have hstartInt := toInt_ofInt_of_mem_signal hstep hx
    have hendInt := toInt_ofInt_of_mem_signal hstep hy
    rw [hstart] at hstartInt
    rw [hend] at hendInt
    simp [hstartInt, hendInt]

/-- Windows are of stations. -/
theorem exists_station {p : PredictedContact} (hp : p ∈ predicted) :
    ∃ station ∈ stations, station.stationID = p.window.remoteNode := by
  by_contra hnone
  have hspan := (spansOf_perm hstep hperm _).mem_iff.mp (mem_spansOf hp rfl)
  rw [signal, samplesOf_eq_nil hnone] at hspan
  cases hspan

variable (hdistinct : (stations.map fun station => station.stationID).Nodup)

include hdistinct

/-- The windows of a station are its visible runs that end before the interval
does and are long enough. -/
theorem mem_spansOf_iff {station : GroundStationLocation} (hs : station ∈ stations) {a b : ℤ} :
    (a, b) ∈ spansOf station.stationID predicted ↔
      ∃ i j, VisibleRun (visible profile params station) fromTime.toInt toTime.toInt timeStep i j ∧
        stepAt fromTime.toInt timeStep j < toTime.toInt ∧ a = stepAt fromTime.toInt timeStep i ∧
        b = stepAt fromTime.toInt timeStep j ∧ profile.minimumDuration ≤ b - a := by
  rw [(spansOf_perm hstep hperm station.stationID).mem_iff, List.mem_filter, mem_closedRuns,
    signal, samplesOf_station hdistinct hs, isClosedRun_iff_exists_at, decide_eq_true_iff]
  simp only [closedRunAt_iff hstep]
  constructor
  · rintro ⟨⟨i, j, hrun, hend, ha, hb⟩, hlong⟩
    exact ⟨i, j, hrun, hend, ha, hb, hlong⟩
  · rintro ⟨i, j, hrun, hend, ha, hb, hlong⟩
    exact ⟨⟨i, j, hrun, hend, ha, hb⟩, hlong⟩

/-- The windows of one node follow each other. -/
theorem pairwise_spansOf (node : NodeID) :
    (spansOf node predicted).Pairwise fun r s => r.2 < s.1 ∨ s.2 < r.1 := by
  refine List.Pairwise.perm ?_ (spansOf_perm hstep hperm node).symm fun h => h.symm
  refine List.Pairwise.filter _ ?_
  by_cases hstation : ∃ station ∈ stations, station.stationID = node
  · obtain ⟨station, hs, rfl⟩ := hstation
    rw [signal, samplesOf_station hdistinct hs]
    have htimes : ((stepTimes fromTime.toInt toTime.toInt timeStep).map fun t =>
        (t, visible profile params station t)).Pairwise fun x y => x.1 < y.1 :=
      List.pairwise_map.mpr (pairwise_stepTimes hstep)
    exact (pairwise_closedRuns htimes none).imp fun h => Or.inl h
  · rw [signal, samplesOf_eq_nil hstation]
    exact List.Pairwise.nil

/-- No pass of a station is reported twice. -/
theorem nodup_spansOf {station : GroundStationLocation} (hs : station ∈ stations) :
    (spansOf station.stationID predicted).Nodup := by
  have hnonempty : ∀ r ∈ spansOf station.stationID predicted, r.1 < r.2 := by
    rintro ⟨a, b⟩ hr
    obtain ⟨i, j, hrun, -, rfl, rfl, -⟩ := (mem_spansOf_iff hstep hperm hdistinct hs).mp hr
    exact (stepAt_lt_stepAt hstep).mpr hrun.lt
  refine (pairwise_spansOf hstep hperm hdistinct _).imp_of_mem fun {r s} hr _ hapart hsame => ?_
  have hlt := hnonempty r hr
  rw [← hsame] at hapart
  omega

end scanned

/-- An order that holds within the entries of every key holds of entries with the same key. -/
theorem pairwise_of_filter {α κ : Type} [DecidableEq κ] {key : α → κ} {R : α → α → Prop}
    {l : List α} (h : ∀ k, (l.filter fun a => key a = k).Pairwise R) :
    l.Pairwise fun a b => key a = key b → R a b := by
  rw [List.pairwise_iff_getElem]
  intro i j hi hj hlt hkey
  have hpairs := List.pairwise_filter.mp (h (key l[i]))
  exact List.pairwise_iff_getElem.mp hpairs i j hi hj hlt (decide_eq_true rfl)
    (decide_eq_true hkey.symm)

/-- Windows from one step to another are counted by the spans of their node. -/
theorem countP_spans (station : GroundStationLocation) (fromTime timeStep : ℤ) (i j : ℕ)
    (predicted : List PredictedContact) :
    predicted.countP (fun p => Spans fromTime timeStep station i j p) =
      (spansOf station.stationID predicted).count
        (stepAt fromTime timeStep i, stepAt fromTime timeStep j) := by
  rw [spansOf, List.count, List.countP_map, List.countP_filter]
  refine List.countP_congr fun p _ => ?_
  simp only [Function.comp_apply, Bool.and_eq_true, beq_iff_eq, Prod.mk.injEq,
    decide_eq_true_iff]
  unfold Spans
  tauto

/-- Windows that fit an interval and are apart make a valid plan. -/
theorem validate_passes (hlt : fromTime < toTime) {predicted : List PredictedContact}
    (hfits : ∀ p ∈ predicted, p.window.Schedulable fromTime toTime)
    (hdisjoint : predicted.Pairwise fun p q => p.window.remoteNode = q.window.remoteNode →
      Disjoint (interval p.window) (interval q.window))
    {kept : List PredictedContact} (hkept : ∀ pc ∈ kept, pc.Confident)
    (orbitalData : Option OrbitalParameters) :
    (⟨fromTime, toTime, predicted.map fun pc => pc.window, kept, orbitalData⟩ :
      ContactPlan).validate = none := by
  rw [ContactPlan.validate_eq_none_iff]
  refine ⟨hlt, fun c hc => ?_, List.pairwise_map.mpr ?_, hkept⟩
  · obtain ⟨p, hp, rfl⟩ := List.mem_map.mp hc
    exact hfits p hp
  · refine hdisjoint.imp_of_mem fun {p q} hp hq hfree => ?_
    have hnonempty : ∀ p ∈ predicted, p.window.startTime.toInt < p.window.endTime.toInt := by
      intro p hp
      exact Int64.lt_iff_toInt_lt.mp (hfits p hp).2.2.1
    exact (overlaps_eq_false_iff (hnonempty p hp) (hnonempty q hq)).mpr hfree

/-- What a predictor returns are the runs of its stations, each once. -/
theorem soundPasses_of_ok (sorter : StartSorter) (hrate : 0 < profile.dataRate)
    (hstep : 0 < timeStep) (hlt : fromTime < toTime)
    (hdistinct : (stations.map fun station => station.stationID).Nodup)
    {predicted : List PredictedContact}
    (h : predictPassesWith sorter profile params stations fromTime.toInt toTime.toInt timeStep =
      .ok predicted) :
    SoundPasses (visible profile params) profile.minimumDuration stations fromTime toTime timeStep
      predicted := by
  have hsorted := predictPassesWith_ok sorter hstep h
  have hperm := predictPassesWith_perm sorter hstep h
  have hsound : ∀ p ∈ predicted, ∃ station ∈ stations, ∃ i j,
      Spans fromTime.toInt timeStep station i j p ∧
        VisibleRun (visible profile params station) fromTime.toInt toTime.toInt timeStep i j ∧
        stepAt fromTime.toInt timeStep j < toTime.toInt ∧
        p.window.startTime.toInt < p.window.endTime.toInt ∧
        profile.minimumDuration ≤ p.window.endTime.toInt - p.window.startTime.toInt := by
    intro p hp
    obtain ⟨station, hs, hid⟩ := exists_station hstep hperm hp
    obtain ⟨i, j, hrun, hend, hstart, hstop, hlong⟩ :=
      (mem_spansOf_iff hstep hperm hdistinct hs).mp (mem_spansOf hp hid.symm)
    refine ⟨station, hs, i, j, ⟨hid.symm, hstart, hstop⟩, hrun, hend, ?_, hlong⟩
    rw [hstart, hstop, stepAt_lt_stepAt hstep]
    exact hrun.lt
  have hdisjoint : predicted.Pairwise fun p q => p.window.remoteNode = q.window.remoteNode →
      Disjoint (interval p.window) (interval q.window) := by
    refine pairwise_of_filter fun node => ?_
    refine (List.pairwise_map.mp (pairwise_spansOf hstep hperm hdistinct node)).imp fun hapart => ?_
    rw [interval, interval, Set.Ico_disjoint_Ico]
    dsimp only at hapart
    omega
  refine ⟨?_, hsound, hdisjoint, fun station hs i j hrun hend hlong => ?_,
    fun kept orbitalData hkept => ?_⟩
  · rw [hsorted]
    exact (sorter.sort_sorted _).imp Int64.le_iff_toInt_le.mp
  · have hmem := (mem_spansOf_iff hstep hperm hdistinct hs).mpr
      ⟨i, j, hrun, hend, rfl, rfl, hlong⟩
    rw [countP_spans]
    exact List.count_eq_one_of_mem (nodup_spansOf hstep hperm hdistinct hs) hmem
  · refine validate_passes hlt (fun p hp => ?_) hdisjoint hkept orbitalData
    obtain ⟨station, -, i, j, ⟨-, hstart, hstop⟩, -, hend, hnonempty, -⟩ := hsound p hp
    have hfirst := @le_stepAt fromTime.toInt timeStep hstep i
    have hscan := @scanInterval_numbered profile params stations
      (stepTimes fromTime.toInt toTime.toInt timeStep)
    refine ⟨Int64.le_iff_toInt_le.mpr (by omega), Int64.le_iff_toInt_le.mpr (by omega),
      Int64.lt_iff_toInt_lt.mpr hnonempty, ?_⟩
    rw [hscan.dataRate p (hperm.mem_iff.mp hp)]
    exact hrate

end windows

theorem leoProfile_dataRate_pos (sky : SkyModel) : 0 < (leoProfile sky).dataRate := by
  change (0 : Int64) < 9600
  decide

theorem cislunarProfile_dataRate_pos (sky : SkyModel) : 0 < (cislunarProfile sky).dataRate := by
  change (0 : Int64) < 500
  decide

section coverage

/-- Every visible run that is long enough, up to its end or to that of the
interval, is covered by a window of its station. -/
def EveryRunCovered (seen : GroundStationLocation → ℤ → Bool) (minimum : ℤ)
    (stations : List GroundStationLocation) (fromTime toTime timeStep : ℤ)
    (predicted : List PredictedContact) : Prop :=
  ∀ station ∈ stations, ∀ i j,
    VisibleRun (seen station) fromTime toTime timeStep i j →
      minimum ≤ min (stepAt fromTime timeStep j) toTime - stepAt fromTime timeStep i →
        ∃ p ∈ predicted, p.window.remoteNode = station.stationID ∧
          ∀ k, i ≤ k → k < j → stepAt fromTime timeStep k ∈ interval p.window

/-- Every step from one on is visible, as long as the interval lasts. -/
def SeenToEnd (seen : ℤ → Bool) (fromTime toTime timeStep : ℤ) (i : ℕ) : Prop :=
  ∀ k, i ≤ k → stepAt fromTime timeStep k < toTime → seen (stepAt fromTime timeStep k) = true

/-- Some station sees the satellite from a step on for as long as the interval
lasts, and that is long enough. -/
def OpenAtEnd (seen : GroundStationLocation → ℤ → Bool) (minimum : ℤ)
    (stations : List GroundStationLocation) (fromTime toTime timeStep : ℤ) : Prop :=
  ∃ station ∈ stations, ∃ i, stepAt fromTime timeStep i < toTime ∧
    SeenToEnd (seen station) fromTime toTime timeStep i ∧
    minimum ≤ toTime - stepAt fromTime timeStep i

/-- The interval has a first step that is not before its end. -/
theorem exists_first_end {fromTime toTime timeStep : ℤ} (hstep : 0 < timeStep) :
    ∃ j, toTime ≤ stepAt fromTime timeStep j ∧
      ∀ k, k < j → stepAt fromTime timeStep k < toTime := by
  have hexists : ∃ j, toTime ≤ stepAt fromTime timeStep j := by
    refine ⟨(toTime - fromTime).toNat, ?_⟩
    have hmul : ((toTime - fromTime).toNat : ℤ) * 1 ≤ (toTime - fromTime).toNat * timeStep :=
      mul_le_mul_of_nonneg_left (by omega) (Int.natCast_nonneg _)
    unfold stepAt
    omega
  refine ⟨Nat.find hexists, Nat.find_spec hexists, fun k hk => ?_⟩
  exact Int.not_le.mp (Nat.find_min hexists hk)

/-- A station that sees the satellite to the end has a maximal run that lasts to the end. -/
theorem exists_visibleRun_to_end {seen : ℤ → Bool} {fromTime toTime timeStep : ℤ}
    (hstep : 0 < timeStep) {i : ℕ} (hi : stepAt fromTime timeStep i < toTime)
    (hseen : SeenToEnd seen fromTime toTime timeStep i) :
    ∃ first j, first ≤ i ∧ VisibleRun seen fromTime toTime timeStep first j ∧
      toTime ≤ stepAt fromTime timeStep j := by
  classical
  have hexists : ∃ first, SeenToEnd seen fromTime toTime timeStep first := ⟨i, hseen⟩
  obtain ⟨j, hend, hearlier⟩ := @exists_first_end fromTime toTime timeStep hstep
  have hfirst := Nat.find_spec hexists
  have hle : Nat.find hexists ≤ i := Nat.find_min' hexists hseen
  have hij : i < j := (stepAt_lt_stepAt hstep).mp (hi.trans_le hend)
  refine ⟨Nat.find hexists, j, hle, ⟨by omega, fun k hik hkj => ?_, fun k hk => ?_, fun h => ?_⟩,
    hend⟩
  · exact ⟨hearlier k hkj, hfirst k hik (hearlier k hkj)⟩
  · -- a visible step before the run would have been its start
    by_contra hvisible
    refine Nat.find_min hexists (by omega : k < Nat.find hexists) fun m hm hbefore => ?_
    rcases Nat.lt_or_eq_of_le hm with hlt | rfl
    · exact hfirst m (by omega) hbefore
    · simpa using hvisible
  · omega

/-- Of sound windows every run is covered exactly if no run that is long enough
lasts to the end of the interval. -/
theorem everyRunCovered_iff {seen : GroundStationLocation → ℤ → Bool} {minimum : ℤ}
    {stations : List GroundStationLocation} {fromTime toTime : Int64} {timeStep : ℤ}
    (hstep : 0 < timeStep) {predicted : List PredictedContact}
    (h : SoundPasses seen minimum stations fromTime toTime timeStep predicted) :
    EveryRunCovered seen minimum stations fromTime.toInt toTime.toInt timeStep predicted ↔
      ¬OpenAtEnd seen minimum stations fromTime.toInt toTime.toInt timeStep := by
  constructor
  · rintro hcovered ⟨station, hs, i, hi, hseen, hlong⟩
    obtain ⟨first, j, hfirst, hrun, hend⟩ := exists_visibleRun_to_end hstep hi hseen
    have hstart : stepAt fromTime.toInt timeStep first ≤ stepAt fromTime.toInt timeStep i :=
      (stepAt_le_stepAt hstep).mpr hfirst
    obtain ⟨p, hp, -, hcover⟩ := hcovered station hs first j hrun (by omega)
    obtain ⟨-, -, -, n, ⟨-, -, hstop⟩, -, hbefore, -⟩ := h.sound p hp
    -- the window ends at a step before the end, and so before the last step of the run
    have hlast := (hcover (j - 1) (by have := hrun.lt; omega) (by have := hrun.lt; omega)).2
    rw [hstop, stepAt_lt_stepAt hstep] at hlast
    have hn : n < j := (stepAt_lt_stepAt hstep).mp (hbefore.trans_le hend)
    omega
  · intro hclosed station hs i j hrun hlong
    by_cases hend : stepAt fromTime.toInt timeStep j < toTime.toInt
    · have hcount := h.once station hs i j hrun hend (by omega)
      obtain ⟨p, hp, hspans⟩ := List.countP_pos_iff.mp (by rw [hcount]; exact Nat.one_pos)
      obtain ⟨hnode, hstart, hstop⟩ := of_decide_eq_true hspans
      refine ⟨p, hp, hnode, fun k hik hkj => ⟨?_, ?_⟩⟩
      · rw [hstart]
        exact (stepAt_le_stepAt hstep).mpr hik
      · rw [hstop]
        exact (stepAt_lt_stepAt hstep).mpr hkj
    · refine absurd ⟨station, hs, i, (hrun.inside i (le_refl i) hrun.lt).1, ?_, by omega⟩ hclosed
      intro k hik hbefore
      have hkj : k < j := (stepAt_lt_stepAt hstep).mp (hbefore.trans_le (Int.not_lt.mp hend))
      exact (hrun.inside k hik hkj).2

/-- Before an interval that is not empty there is nothing to cover. -/
theorem everyRunCovered_iff_of_ge {seen : GroundStationLocation → ℤ → Bool} {minimum : ℤ}
    {stations : List GroundStationLocation} {fromTime toTime timeStep : ℤ}
    (hstep : 0 < timeStep) (hge : toTime ≤ fromTime) (predicted : List PredictedContact) :
    EveryRunCovered seen minimum stations fromTime toTime timeStep predicted ↔
      ¬OpenAtEnd seen minimum stations fromTime toTime timeStep := by
  have hnone : ∀ i, ¬stepAt fromTime timeStep i < toTime := by
    intro i
    have := @le_stepAt fromTime timeStep hstep i
    omega
  refine iff_of_true (fun station _ i j hrun _ => ?_) fun ⟨station, _, i, hi, _⟩ => hnone i hi
  exact absurd (hrun.inside i (le_refl i) hrun.lt).1 (hnone i)

/-- A sky in which the satellite is always visible. -/
def clearSky : SkyModel where
  elevation _ _ _ := .finite 45
  doppler _ _ _ := .finite 0
  confidence _ _ := .finite 1

end coverage

end CislunarDtn.PassWindows
