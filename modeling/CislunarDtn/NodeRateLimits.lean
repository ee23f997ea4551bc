import CislunarDtn.NodeAcceptances
import CislunarDtn.RateLimiters

/-!
# The rate of acceptance over runs of the node

The limiter installed on the agent guards ReceiveBundle, which the node does
not call, so no cycle consults it. The node therefore keeps to the limit
exactly when its arrivals do: when a limiter consulted for each admitted
arrival would have allowed all of them. Windows are half open, as the limiter
counts them.
-/

namespace CislunarDtn.NodeRateLimits

open Bundles BundleStorage BundleAgents ContactPlans ConvergenceLayers NodeControllers NodeCycles
  NodeAcceptances LabelledRuns RateLimiters SlidingWindows

/-- The limiter has this maximum and, at any time not before the accepted
ones, remembers those that are still in its window. -/
structure Tracks (rl : RateLimiter) (maxBundles : ℤ) (acceptedSoFar : List ℤ) : Prop where
  /-- The installed maximum. -/
  maximum : rl.maxBundlesPerSecond = maxBundles
  /-- The window is one second. -/
  window : rl.windowSize = second
  /-- What it remembers suffices from now on. -/
  remembered : ∀ now, (∀ a ∈ acceptedSoFar, a ≤ now) →
    (rl.timestamps.filter fun ts => now - second < ts) =
      acceptedSoFar.filter fun ts => now - second < ts

theorem Tracks.start (maxBundles : ℤ) : Tracks (newRateLimiter maxBundles) maxBundles [] :=
  ⟨rfl, rfl, fun _ _ => rfl⟩

/-- A limiter that tracks the accepted times allows a bundle exactly when the
window that ends now holds fewer of them than the maximum. -/
theorem Tracks.allow_iff {rl : RateLimiter} {maxBundles : ℤ} {acceptedSoFar : List ℤ}
    (h : Tracks rl maxBundles acceptedSoFar) {now : ℤ} (hnow : ∀ a ∈ acceptedSoFar, a ≤ now) :
    (rl.allow now).2 = true ↔ countIn second acceptedSoFar now < maxBundles.toNat := by
  rw [RateLimiters.allow_iff, h.window, h.remembered now hnow, h.maximum,
    countIn_eq_length_filter hnow]
  omega

/-- A limiter goes on tracking when it allows a bundle. -/
theorem Tracks.next {rl : RateLimiter} {maxBundles : ℤ} {acceptedSoFar : List ℤ}
    (h : Tracks rl maxBundles acceptedSoFar) {now : ℤ} (hnow : ∀ a ∈ acceptedSoFar, a ≤ now)
    (hallow : (rl.allow now).2 = true) :
    Tracks (rl.allow now).1 maxBundles (acceptedSoFar ++ [now]) := by
  rw [allow_of_allowed hallow]
  refine ⟨h.maximum, h.window, fun later hlater => ?_⟩
  dsimp only
  rw [h.window, h.remembered now hnow]
  have hnext : now ≤ later := hlater now (List.mem_append_right _ (List.mem_singleton_self now))
  rw [List.filter_append, List.filter_append, filter_filter_window second hnext]

section Runs

variable [Sha256] {σ : Type*} (A : ConvergenceLayerAdapter σ)

/-- No cycle consults the limiter: it stays as it was installed. -/
theorem rateLimiter_cycle (nc : NodeController σ) (input : CycleInput) :
    (cycle A nc input).bpa.rateLimiter = nc.bpa.rateLimiter := (cycle_bpa A nc input).2

/-- Whether a cycle accepts a bundle. -/
def acceptsIn (nc : NodeController σ) (input : CycleInput) : Bool :=
  ((runCycle A nc input).2.reception.map fun received => accepted received.2).getD false

/-- Wall-clock times of the acceptances of a run, in order. -/
def acceptedTimes : NodeController σ → List CycleInput → List ℤ
  | _, [] => []
  | nc, input :: inputs =>
    let later := acceptedTimes (cycle A nc input) inputs
    if acceptsIn A nc input then input.now :: later else later

/-- No half-open second of a run has more than this many acceptances. -/
def KeepsRate (maxBundles : ℤ) (nc : NodeController σ) (inputs : List CycleInput) : Prop :=
  ∀ t, (countIn second (acceptedTimes A nc inputs) t : ℤ) ≤ maxBundles

/-- Whether a cycle has an arrival that the node admits. -/
def admitsArrival (nc : NodeController σ) (input : CycleInput) : Bool :=
  ((arrival A nc input).map fun bundle => admits (afterContacts A nc input).1 bundle input).getD
    false

/-- A cycle accepts a bundle exactly when it admits its arrival. -/
theorem acceptsIn_eq (nc : NodeController σ) (input : CycleInput) :
    acceptsIn A nc input = admitsArrival A nc input := by
  unfold acceptsIn admitsArrival
  rw [runCycle_reception]
  rcases afterReception_cases A nc input with
    ⟨harrival, hnone, -⟩ | ⟨bundle, harrival, node, hnode, heq⟩
  · rw [harrival, hnone]
    rfl
  · have hadmits : admits node bundle input = admits (afterContacts A nc input).1 bundle input := by
      rw [hnode]
      rfl
    rw [heq, harrival]
    simp only [Option.map_some, Option.getD_some]
    rw [accepted_handleBundle, hadmits]

/-- A node run beside a limiter that is consulted for every admitted arrival. -/
def limitedStep (s : NodeController σ × RateLimiter) (input : CycleInput) :
    NodeController σ × RateLimiter :=
  (cycle A s.1 input,
    if admitsArrival A s.1 input then (s.2.allow input.now).1 else s.2)

/-- The limiter allows the arrival of a cycle, if the node admits it. -/
def ArrivalAllowed (s : NodeController σ × RateLimiter) (input : CycleInput) : Prop :=
  admitsArrival A s.1 input = true → (s.2.allow input.now).2 = true

theorem acceptedTimes_sublist (nc : NodeController σ) (inputs : List CycleInput) :
    (acceptedTimes A nc inputs).Sublist (inputs.map CycleInput.now) := by
  induction inputs generalizing nc with
  | nil => exact List.Sublist.refl []
  | cons input inputs ih =>
    rw [acceptedTimes, List.map_cons]
    split
    · exact (ih (cycle A nc input)).cons_cons input.now
    · exact (ih (cycle A nc input)).cons input.now

/-- With a limiter that tracks what was accepted so far, the rest of a run is
allowed exactly when its acceptances are spaced. -/
theorem along_allowed_iff_spacedAfter (nc : NodeController σ) {rl : RateLimiter} {maxBundles : ℤ}
    {acceptedSoFar : List ℤ} (h : Tracks rl maxBundles acceptedSoFar) {inputs : List CycleInput}
    (hclock : (inputs.map CycleInput.now).Pairwise (· ≤ ·))
    (hafter : ∀ input ∈ inputs, ∀ a ∈ acceptedSoFar, a ≤ input.now) :
    Along (limitedStep A) (ArrivalAllowed A) (nc, rl) inputs ↔
      SpacedAfter second maxBundles.toNat acceptedSoFar (acceptedTimes A nc inputs) := by
  induction inputs generalizing nc rl acceptedSoFar with
  | nil => exact Iff.rfl
  | cons input inputs ih =>
    rw [List.map_cons, List.pairwise_cons] at hclock
    have hlater : ∀ i ∈ inputs, input.now ≤ i.now :=
      fun i hi => hclock.1 i.now (List.mem_map_of_mem hi)
    have hrest : ∀ i ∈ inputs, ∀ a ∈ acceptedSoFar, a ≤ i.now :=
      fun i hi => hafter i (List.mem_cons_of_mem input hi)
    have hnow := hafter input List.mem_cons_self
    rw [Along, acceptedTimes, acceptsIn_eq]
    unfold ArrivalAllowed limitedStep
    dsimp only
    by_cases hadmits : admitsArrival A nc input = true
    · rw [if_pos hadmits, if_pos hadmits, SpacedAfter, ← h.allow_iff hnow]
      by_cases hallow : (rl.allow input.now).2 = true
      · have hnext := ih (cycle A nc input) (h.next hnow hallow) hclock.2 fun i hi a ha => by
          rcases List.mem_append.mp ha with hold | hnew
          · exact hrest i hi a hold
          · rw [List.mem_singleton.mp hnew]
            exact hlater i hi
        exact and_congr ⟨fun _ => hallow, fun _ _ => hallow⟩ hnext
      · exact ⟨fun hall => absurd (hall.1 hadmits) hallow, fun hall => absurd hall.1 hallow⟩
    · rw [if_neg hadmits, if_neg hadmits, ← ih (cycle A nc input) h hclock.2 hrest]
      exact ⟨fun hall => hall.2, fun hall => ⟨fun hin => absurd hin hadmits, hall⟩⟩

/-- A node with an installed limiter keeps to its rate over a run with a
nondecreasing clock exactly when the limiter, consulted for the admitted
arrivals, would allow them all. -/
theorem keepsRate_iff {maxBundles : ℤ} (hmax : 0 ≤ maxBundles) (bpa : BundleProtocolAgent)
    (store : BundleStore) (planner : ContactPlanManager) (cla : σ) {inputs : List CycleInput}
    (hclock : (inputs.map CycleInput.now).Pairwise (· ≤ ·)) :
    KeepsRate A maxBundles
        (newNodeController (bpa.setRateLimiter (newRateLimiter maxBundles)) store planner cla)
        inputs ↔
      Along (limitedStep A) (ArrivalAllowed A)
        (newNodeController (bpa.setRateLimiter (newRateLimiter maxBundles)) store planner cla,
          newRateLimiter maxBundles) inputs := by
  rw [along_allowed_iff_spacedAfter A _ (Tracks.start maxBundles) hclock
      (fun _ _ a ha => absurd ha List.not_mem_nil),
    spacedAfter_nil, ← forall_countIn_le_iff_spaced (by decide)
      (hclock.sublist (acceptedTimes_sublist A _ inputs))]
  refine forall_congr' fun t => ?_
  omega

end Runs

section Scenarios

attribute [local instance] Sha256.transparent

/-- A node limited to one bundle in a second, in contact with Earth over a link
that cannot be closed and on which these bundles are pending. -/
def limitedNode (bundles : List Bundle) : NodeController ScriptedLink :=
  newNodeController ((newBundleProtocolAgent []).setRateLimiter (newRateLimiter 1))
    (newBundleStore 1000) ContactPlanManager.specimenPlanner ⟨false, bundles, true⟩

/-- One bundle in a second keeps to the rate. -/
theorem keepsRate_of_single_arrival :
    KeepsRate scriptedLink 1 (limitedNode [specimen]) [.plain 200 0, .plain 200 1] := by
  refine (keepsRate_iff scriptedLink (by decide) _ _ _ _ (by decide)).mpr ⟨?_, ?_, trivial⟩
  all_goals
    unfold ArrivalAllowed
    decide +kernel

/-- Two bundles that arrive within a nanosecond are both stored. -/
theorem not_keepsRate_of_two_arrivals :
    ¬∀ (σ : Type) (A : ConvergenceLayerAdapter σ) (maxBundles : ℤ) (bpa : BundleProtocolAgent)
      (store : BundleStore) (planner : ContactPlanManager) (cla : σ) (inputs : List CycleInput),
      0 ≤ maxBundles → (inputs.map CycleInput.now).Pairwise (· ≤ ·) →
      KeepsRate A maxBundles
        (newNodeController (bpa.setRateLimiter (newRateLimiter maxBundles)) store planner cla)
        inputs := by
  intro h
  have hone := h ScriptedLink scriptedLink 1 (newBundleProtocolAgent []) (newBundleStore 1000)
    ContactPlanManager.specimenPlanner
    ⟨false, [specimenNumbered 1 0, specimenNumbered 2 0], true⟩
    [.plain 200 0, .plain 200 1] (by decide) (by decide) 1
  exact absurd hone (by decide +kernel)

end Scenarios

end CislunarDtn.NodeRateLimits
