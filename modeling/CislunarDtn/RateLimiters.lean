import CislunarDtn.BundleAgents
import CislunarDtn.LabelledRuns
import CislunarDtn.SlidingWindows

/-!
# The rate limiter over any sequence of calls

The limiter prunes the times it remembers only when a bundle asks for
acceptance, and a reset forgets them all. What it remembers within the window
that ends now is what it has accepted there since the last reset, so every half
open second without a reset keeps to the maximum, wherever it starts.
-/

namespace CislunarDtn.RateLimiters

open BundleAgents LabelledRuns SlidingWindows

/-- The limiter allows a bundle when its window holds fewer than the maximum. -/
theorem allow_iff (rl : RateLimiter) (now : ℤ) :
    (rl.allow now).2 = true ↔
      ((rl.timestamps.filter fun ts => now - rl.windowSize < ts).length : ℤ) <
        rl.maxBundlesPerSecond := by
  unfold RateLimiter.allow
  dsimp only
  split
  · simp only [Bool.false_eq_true, false_iff]
    omega
  · simp only [true_iff]
    omega

/-- An allowing limiter keeps its window and appends the time. -/
theorem allow_of_allowed {rl : RateLimiter} {now : ℤ} (h : (rl.allow now).2 = true) :
    (rl.allow now).1 = { rl with
      timestamps := (rl.timestamps.filter fun ts => now - rl.windowSize < ts) ++ [now] } := by
  have hlt := (allow_iff rl now).mp h
  unfold RateLimiter.allow
  dsimp only
  rw [if_neg (by omega)]

/-- A limiter that does not allow a bundle still prunes. -/
theorem allow_of_rejected {rl : RateLimiter} {now : ℤ} (h : (rl.allow now).2 = false) :
    (rl.allow now).1 = { rl with
      timestamps := rl.timestamps.filter fun ts => now - rl.windowSize < ts } := by
  have hge : ¬((rl.timestamps.filter fun ts => now - rl.windowSize < ts).length : ℤ) <
      rl.maxBundlesPerSecond := by
    rw [← allow_iff, h]
    simp
  unfold RateLimiter.allow
  dsimp only
  rw [if_pos (by omega)]

/-- Calls of a limiter. -/
inductive Operation where
  /-- Whether a bundle can be accepted. -/
  | allow
  /-- The current acceptance rate. -/
  | getCurrentRate
  /-- Clear the state. -/
  | reset
  deriving DecidableEq

/-- A call at a time of the clock. -/
structure Call where
  /-- Wall clock during the call, in nanoseconds. -/
  now : ℤ
  /-- What is called. -/
  op : Operation
  deriving DecidableEq

/-- What a call leaves of the limiter. -/
def perform (rl : RateLimiter) (c : Call) : RateLimiter :=
  match c.op with
  | .allow => (rl.allow c.now).1
  | .getCurrentRate => rl
  | .reset => rl.reset

/-- Whether a call accepts a bundle. -/
def accepts (rl : RateLimiter) (c : Call) : Bool := decide (c.op = .allow) && (rl.allow c.now).2

/-- Times of the calls that accept a bundle, oldest first. -/
def acceptedTimes : RateLimiter → List Call → List ℤ
  | _, [] => []
  | rl, c :: calls =>
    (if accepts rl c then [c.now] else []) ++ acceptedTimes (perform rl c) calls

theorem acceptedTimes_concat (rl : RateLimiter) (calls : List Call) (c : Call) :
    acceptedTimes rl (calls ++ [c]) = acceptedTimes rl calls ++
      if accepts (run perform rl calls) c then [c.now] else [] := by
  induction calls generalizing rl with
  | nil =>
    rw [List.nil_append, acceptedTimes, acceptedTimes, acceptedTimes, List.append_nil,
      List.nil_append]
    rfl
  | cons d calls ih =>
    rw [List.cons_append, acceptedTimes, acceptedTimes, ih, List.append_assoc]
    rfl

/-- No call resets the limiter within the half-open second that ends at a time. -/
def WithoutReset (calls : List Call) (t : ℤ) : Prop :=
  ∀ c ∈ calls, c.op = .reset → ¬(t - second < c.now ∧ c.now ≤ t)

/-- What a limiter knows after some calls. What they accepted falls into a part
before the last reset and one since, and the limiter remembers the second. -/
structure Remembers (rl : RateLimiter) (maxBundles : ℤ) (calls : List Call)
    (earlier since : List ℤ) : Prop where
  /-- The maximum. -/
  maximum : rl.maxBundlesPerSecond = maxBundles
  /-- The window is one second. -/
  window : rl.windowSize = second
  /-- No more times are kept than the maximum. -/
  bounded : (rl.timestamps.length : ℤ) ≤ maxBundles
  /-- Every accepted time is that of a call. -/
  past : ∀ a ∈ earlier ++ since, ∃ c ∈ calls, c.now = a
  /-- A reset followed the earlier ones. -/
  forgotten : ∀ a ∈ earlier, ∃ c ∈ calls, c.op = .reset ∧ a ≤ c.now
  /-- What is remembered suffices from now on. -/
  remembered : ∀ now, (∀ c ∈ calls, c.now ≤ now) →
    (rl.timestamps.filter fun ts => now - second < ts) =
      since.filter fun ts => now - second < ts

section calls

variable {rl : RateLimiter} {maxBundles : ℤ} {calls : List Call} {earlier since : List ℤ}

theorem Remembers.start (hmax : 0 ≤ maxBundles) :
    Remembers (newRateLimiter maxBundles) maxBundles [] [] [] :=
  ⟨rfl, rfl, by simpa [newRateLimiter] using hmax, by simp, by simp, fun _ _ => rfl⟩

theorem Remembers.past_le (h : Remembers rl maxBundles calls earlier since) {now : ℤ}
    (hnow : ∀ c ∈ calls, c.now ≤ now) : ∀ a ∈ earlier ++ since, a ≤ now := by
  intro a ha
  obtain ⟨c, hc, rfl⟩ := h.past a ha
  exact hnow c hc

/-- A bundle is allowed when less than the maximum was accepted since the last
reset in the window that ends now. -/
theorem Remembers.allow_iff (h : Remembers rl maxBundles calls earlier since) {now : ℤ}
    (hnow : ∀ c ∈ calls, c.now ≤ now) :
    (rl.allow now).2 = true ↔ (countIn second since now : ℤ) < maxBundles := by
  have hsince : ∀ a ∈ since, a ≤ now := fun a ha =>
    h.past_le hnow a (List.mem_append_right earlier ha)
  rw [RateLimiters.allow_iff, h.window, h.remembered now hnow, h.maximum,
    countIn_eq_length_filter hsince]

/-- What a call leaves untouched a limiter goes on remembering. -/
theorem Remembers.keep (h : Remembers rl maxBundles calls earlier since) {rl' : RateLimiter}
    {c : Call} (hmaximum : rl'.maxBundlesPerSecond = maxBundles)
    (hwindow : rl'.windowSize = second) (hbounded : (rl'.timestamps.length : ℤ) ≤ maxBundles)
    (hremembered : ∀ now, c.now ≤ now → (∀ d ∈ calls, d.now ≤ now) →
      (rl'.timestamps.filter fun ts => now - second < ts) =
        since.filter fun ts => now - second < ts) :
    Remembers rl' maxBundles (calls ++ [c]) earlier since := by
  refine ⟨hmaximum, hwindow, hbounded, ?_, ?_, ?_⟩
  · intro a ha
    obtain ⟨d, hd, hda⟩ := h.past a ha
    exact ⟨d, List.mem_append_left _ hd, hda⟩
  · intro a ha
    obtain ⟨d, hd, hreset⟩ := h.forgotten a ha
    exact ⟨d, List.mem_append_left _ hd, hreset⟩
  · intro now hnow
    exact hremembered now (hnow c (by simp)) fun d hd => hnow d (List.mem_append_left _ hd)

theorem Remembers.allowed (h : Remembers rl maxBundles calls earlier since) {c : Call}
    (hop : c.op = .allow) (hnow : ∀ d ∈ calls, d.now ≤ c.now)
    (hallow : (rl.allow c.now).2 = true) :
    Remembers (perform rl c) maxBundles (calls ++ [c]) earlier (since ++ [c.now]) := by
  have hlength := (RateLimiters.allow_iff rl c.now).mp hallow
  rw [h.maximum] at hlength
  simp only [perform, hop, allow_of_allowed hallow]
  refine ⟨h.maximum, h.window, ?_, ?_, ?_, ?_⟩
  · simp only [List.length_append, List.length_singleton]
    omega
  · intro a ha
    rw [← List.append_assoc, List.mem_append, List.mem_singleton] at ha
    rcases ha with ha | rfl
    · obtain ⟨d, hd, hda⟩ := h.past a ha
      exact ⟨d, List.mem_append_left _ hd, hda⟩
    · exact ⟨c, by simp, rfl⟩
  · intro a ha
    obtain ⟨d, hd, hreset⟩ := h.forgotten a ha
    exact ⟨d, List.mem_append_left _ hd, hreset⟩
  · intro later hlater
    have hnext : c.now ≤ later := hlater c (by simp)
    rw [h.window, h.remembered c.now hnow, List.filter_append, List.filter_append,
      filter_filter_window second hnext]

theorem Remembers.rejected (h : Remembers rl maxBundles calls earlier since) {c : Call}
    (hop : c.op = .allow) (hnow : ∀ d ∈ calls, d.now ≤ c.now)
    (hreject : (rl.allow c.now).2 = false) :
    Remembers (perform rl c) maxBundles (calls ++ [c]) earlier since := by
  have hbounded := h.bounded
  have hpruned := List.length_filter_le (fun ts => decide (c.now - rl.windowSize < ts))
    rl.timestamps
  simp only [perform, hop, allow_of_rejected hreject]
  refine h.keep h.maximum h.window (by dsimp only; omega) ?_
  intro later hnext _
  rw [h.window, h.remembered c.now hnow, filter_filter_window second hnext]

theorem Remembers.reset (h : Remembers rl maxBundles calls earlier since) {c : Call}
    (hmax : 0 ≤ maxBundles) (hop : c.op = .reset) (hnow : ∀ d ∈ calls, d.now ≤ c.now) :
    Remembers (perform rl c) maxBundles (calls ++ [c]) (earlier ++ since) [] := by
  simp only [perform, hop, RateLimiter.reset]
  refine ⟨h.maximum, h.window, by simpa using hmax, ?_, ?_, fun _ _ => rfl⟩
  · intro a ha
    rw [List.append_nil] at ha
    obtain ⟨d, hd, hda⟩ := h.past a ha
    exact ⟨d, List.mem_append_left _ hd, hda⟩
  · intro a ha
    exact ⟨c, by simp, hop, h.past_le hnow a ha⟩

theorem Remembers.getCurrentRate (h : Remembers rl maxBundles calls earlier since) {c : Call}
    (hop : c.op = .getCurrentRate) :
    Remembers (perform rl c) maxBundles (calls ++ [c]) earlier since := by
  simp only [perform, hop]
  exact h.keep h.maximum h.window h.bounded fun later _ hlater => h.remembered later hlater

end calls

section histories

variable {maxBundles : ℤ} {calls : List Call}

theorem clock_concat {c : Call} (hclock : ((calls ++ [c]).map Call.now).Pairwise (· ≤ ·)) :
    (calls.map Call.now).Pairwise (· ≤ ·) ∧ ∀ d ∈ calls, d.now ≤ c.now := by
  rw [List.map_append, List.pairwise_append] at hclock
  obtain ⟨hcalls, -, hlast⟩ := hclock
  exact ⟨hcalls, fun d hd => hlast d.now (List.mem_map_of_mem hd) c.now (by simp)⟩

/-- After calls at times that never go back the limiter remembers what was
accepted since the last reset. -/
theorem exists_remembers (hmax : 0 ≤ maxBundles)
    (hclock : (calls.map Call.now).Pairwise (· ≤ ·)) :
    ∃ earlier since, acceptedTimes (newRateLimiter maxBundles) calls = earlier ++ since ∧
      Remembers (run perform (newRateLimiter maxBundles) calls) maxBundles calls earlier
        since := by
  induction calls using List.reverseRecOn with
  | nil => exact ⟨[], [], rfl, .start hmax⟩
  | append_singleton calls c ih =>
    obtain ⟨hcalls, hnow⟩ := clock_concat hclock
    obtain ⟨earlier, since, haccepted, h⟩ := ih hcalls
    rw [acceptedTimes_concat, haccepted, run_append, run_cons, run_nil, accepts]
    cases hop : c.op with
    | allow =>
      cases hallow : ((run perform (newRateLimiter maxBundles) calls).allow c.now).2 with
      | true =>
        exact ⟨earlier, since ++ [c.now], by simp, h.allowed hop hnow hallow⟩
      | false => exact ⟨earlier, since, by simp, h.rejected hop hnow hallow⟩
    | getCurrentRate => exact ⟨earlier, since, by simp, h.getCurrentRate hop⟩
    | reset => exact ⟨earlier ++ since, [], by simp, h.reset hmax hop hnow⟩

/-- A window that ends before a time and has no reset holds nothing accepted
before the last reset, if it holds that time. -/
theorem Remembers.countIn_earlier {rl : RateLimiter} {earlier since : List ℤ}
    (h : Remembers rl maxBundles calls earlier since) {now t : ℤ}
    (hnow : ∀ c ∈ calls, c.now ≤ now) (hend : now ≤ t) (hfree : WithoutReset calls t) :
    countIn second earlier t = 0 := by
  rw [countIn, List.countP_eq_zero]
  intro a ha
  obtain ⟨c, hc, hop, hle⟩ := h.forgotten a ha
  have hpast := hnow c hc
  have hout := hfree c hc hop
  simp only [decide_eq_true_eq]
  omega

/-- No half-open second without a reset has more acceptances than the maximum. -/
theorem countIn_acceptedTimes_le (hmax : 0 ≤ maxBundles)
    (hclock : (calls.map Call.now).Pairwise (· ≤ ·)) {t : ℤ} (hfree : WithoutReset calls t) :
    (countIn second (acceptedTimes (newRateLimiter maxBundles) calls) t : ℤ) ≤ maxBundles := by
  induction calls using List.reverseRecOn with
  | nil => simpa [acceptedTimes, countIn] using hmax
  | append_singleton calls c ih =>
    obtain ⟨hcalls, hnow⟩ := clock_concat hclock
    have hbefore : WithoutReset calls t := fun d hd => hfree d (List.mem_append_left _ hd)
    have hrest := ih hcalls hbefore
    rw [acceptedTimes_concat, countIn_append]
    by_cases haccepts : accepts (run perform (newRateLimiter maxBundles) calls) c = true
    · rw [if_pos haccepts]
      by_cases hin : t - second < c.now ∧ c.now ≤ t
      · -- all that the window holds was accepted since the last reset
        obtain ⟨earlier, since, haccepted, h⟩ := exists_remembers hmax hcalls
        have hallow : ((run perform (newRateLimiter maxBundles) calls).allow c.now).2 = true := by
          rw [accepts, Bool.and_eq_true] at haccepts
          exact haccepts.2
        have hroom := (h.allow_iff hnow).mp hallow
        have hsince : ∀ a ∈ since, a ≤ c.now := fun a ha =>
          h.past_le hnow a (List.mem_append_right earlier ha)
        have hback := countIn_le_of_window second hsince hin.2
        have hone := countIn_singleton_le second t c.now
        rw [haccepted, countIn_append, h.countIn_earlier hnow hin.2 hbefore]
        omega
      · have hzero : countIn second [c.now] t = 0 := by simp [countIn, hin]
        omega
    · have hnone : countIn second [] t = 0 := rfl
      rw [if_neg haccepts, hnone]
      omega

end histories

/-- Whatever the calls, at times that never go back: no half-open second without
a reset has more acceptances than the maximum; a bundle is rejected only when
the second that ends there has as many; and no call finds a higher rate. -/
theorem keeps_window {maxBundles : ℤ} (hmax : 0 ≤ maxBundles) {calls : List Call}
    (hclock : (calls.map Call.now).Pairwise (· ≤ ·)) :
    (∀ t, WithoutReset calls t →
        (countIn second (acceptedTimes (newRateLimiter maxBundles) calls) t : ℤ) ≤ maxBundles) ∧
      ∀ before c after, calls = before ++ c :: after →
        let rl := run perform (newRateLimiter maxBundles) before
        ((rl.allow c.now).2 = false →
            maxBundles ≤ countIn second (acceptedTimes (newRateLimiter maxBundles) before) c.now) ∧
          rl.getCurrentRate c.now ≤ maxBundles := by
  refine ⟨fun t hfree => countIn_acceptedTimes_le hmax hclock hfree, ?_⟩
  intro before c after hcalls rl
  rw [hcalls, List.append_cons, List.map_append] at hclock
  obtain ⟨hbefore, hnow⟩ := clock_concat (List.pairwise_append.mp hclock).1
  obtain ⟨earlier, since, haccepted, h⟩ := exists_remembers hmax hbefore
  constructor
  · intro hreject
    have hfull : ¬(countIn second since c.now : ℤ) < maxBundles := by
      rw [← h.allow_iff hnow, hreject]
      simp
    rw [haccepted, countIn_append]
    omega
  · have hbounded : (rl.timestamps.length : ℤ) ≤ maxBundles := h.bounded
    have hpruned := List.length_filter_le (fun ts => decide (c.now - rl.windowSize < ts))
      rl.timestamps
    rw [RateLimiter.getCurrentRate]
    omega

/-- Two bundles and a third at one time, a reset, and another bundle. -/
def specimenCalls : List Call :=
  [⟨5, .allow⟩, ⟨5, .allow⟩, ⟨5, .allow⟩, ⟨6, .reset⟩, ⟨6, .allow⟩]

theorem keeps_window_specimen :
    acceptedTimes (newRateLimiter 2) specimenCalls = [5, 5, 6] ∧
      countIn second (acceptedTimes (newRateLimiter 2) specimenCalls) 5 ≤ 2 := by
  have hfree : WithoutReset specimenCalls 5 := by
    intro c hc hop
    simp only [specimenCalls, List.mem_cons, List.not_mem_nil, or_false] at hc
    rcases hc with rfl | rfl | rfl | rfl | rfl <;> simp_all
  have hmax : (0 : ℤ) ≤ 2 := by decide
  have hclock : (specimenCalls.map Call.now).Pairwise (· ≤ ·) := by decide
  have hwindow := (keeps_window hmax hclock).1 5 hfree
  exact ⟨by decide, by exact_mod_cast hwindow⟩

end CislunarDtn.RateLimiters
