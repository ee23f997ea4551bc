import CislunarDtn.Bundles
import CislunarDtn.LabelledRuns
import Mathlib.Order.Lattice

/-!
# Stop 2 mode and its wake-up timers

Every sleep starts a goroutine that waits until the sleep's wake-up time, tests
the mode and the wake-up flag, and ends the sleep. It is never cancelled and
does not know which sleep it was started for. A timer may be late by any amount;
the clock never goes back. Wake-up callbacks leave the manager as it is.
-/

namespace CislunarDtn.PowerModes

open Bundles LabelledRuns

/-- Power modes of the controller. -/
inductive PowerMode where
  /-- Normal operation. -/
  | run
  /-- Stop 2. -/
  | stop2
  /-- Standby with real-time clock. -/
  | standby
  /-- Shutdown. -/
  | shutdown
  deriving DecidableEq

/-- Name of a mode. -/
def PowerMode.string : PowerMode → GoString
  | .run => ascii "Run"
  | .stop2 => ascii "Stop2"
  | .standby => ascii "Standby"
  | .shutdown => ascii "Shutdown"

/-- Where a wake-up goroutine is. -/
inductive Stage where
  /-- In its sleep, or waiting for the lock after it. -/
  | sleeping
  /-- Past its test and before its exit. -/
  | exiting
  /-- Returned. -/
  | done
  deriving DecidableEq

/-- A wake-up goroutine. -/
structure Timer where
  /-- End of its sleep, in nanoseconds. -/
  due : ℤ
  /-- Where it is. -/
  stage : Stage
  deriving DecidableEq

/-- The manager, the clock and the calls and goroutines that have begun. -/
structure PowerManager where
  /-- The clock, in nanoseconds. -/
  now : ℤ
  /-- Current mode. -/
  currentMode : PowerMode
  /-- Wake-up time of the last sleep. -/
  wakeupTime : ℤ
  /-- Whether an automatic wake-up is expected. -/
  wakeupEnabled : Bool
  /-- Wake-up goroutines, in the order in which they were started. -/
  timers : List Timer
  /-- Wake-up times of WakeOnContact calls that are past their own check. -/
  entering : List ℤ
  deriving DecidableEq

/-- One step of a caller, a goroutine or the clock. -/
inductive Event where
  /-- Time passes. -/
  | tick (nanoseconds : ℕ)
  /-- EnterStop2 is called. -/
  | enterStop2 (wakeupTime : ℤ)
  /-- ExitStop2 is called by a user of the manager. -/
  | exitStop2
  /-- WakeOnContact is called and compares its wake-up time with the clock. -/
  | wakeOnContact (contactStartTime : ℤ) (prepTime : Int64)
  /-- A WakeOnContact call goes on to EnterStop2. -/
  | enterScheduled (i : ℕ)
  /-- A goroutine whose sleep is over tests flag and mode. -/
  | timerTest (i : ℕ)
  /-- A goroutine calls ExitStop2. -/
  | timerExit (i : ℕ)
  deriving DecidableEq

/-- Whether a step may begin a sleep. -/
def Event.isEnter : Event → Bool
  | .enterStop2 _ => true
  | .enterScheduled _ => true
  | _ => false

namespace PowerManager

/-- The zero value of a time, in nanoseconds of the Unix epoch. -/
def zeroTime : ℤ := -62135596800 * 1000000000

/-- A new manager at this time. -/
def new (now : ℤ) : PowerManager := ⟨now, .run, zeroTime, false, [], []⟩

/-- Time from the clock to a time stamp, kept in the range of a duration. -/
def timeUntil (s : PowerManager) (t : ℤ) : ℤ := max (-2 ^ 63) (min (2 ^ 63 - 1) (t - s.now))

/-- EnterStop2. -/
def enterStop2 (s : PowerManager) (wakeupTime : ℤ) : PowerManager × Option GoError :=
  if s.currentMode ≠ .run then
    (s, some (.errorf (ascii "cannot enter Stop 2 from " ++ s.currentMode.string ++ ascii " mode")))
  else
    ({ s with
        currentMode := .stop2
        wakeupTime := wakeupTime
        wakeupEnabled := true
        timers := s.timers ++ [⟨s.now + s.timeUntil wakeupTime, .sleeping⟩] }, none)

/-- ExitStop2. -/
def exitStop2 (s : PowerManager) : PowerManager × Option GoError :=
  if s.currentMode ≠ .stop2 then (s, some (.errorf (ascii "not in Stop 2 mode")))
  else ({ s with currentMode := .run, wakeupEnabled := false }, none)

/-- The first half of WakeOnContact: the wake-up time, unless it has passed. -/
def wakeOnContact (s : PowerManager) (contactStartTime : ℤ) (prepTime : Int64) :
    PowerManager × Option GoError :=
  let wakeupTime := contactStartTime + (-prepTime).toInt
  if s.now > wakeupTime then (s, some (.errorf (ascii "wakeup time is in the past")))
  else ({ s with entering := s.entering ++ [wakeupTime] }, none)

/-- A goroutine goes on to another point. -/
def goTo (s : PowerManager) (i : ℕ) (due : ℤ) (stage : Stage) : PowerManager :=
  { s with timers := s.timers.set i ⟨due, stage⟩ }

/-- One step. -/
def step (s : PowerManager) : Event → PowerManager
  | .tick nanoseconds => { s with now := s.now + nanoseconds }
  | .enterStop2 wakeupTime => (s.enterStop2 wakeupTime).1
  | .exitStop2 => s.exitStop2.1
  | .wakeOnContact contactStartTime prepTime => (s.wakeOnContact contactStartTime prepTime).1
  | .enterScheduled i =>
    match s.entering[i]? with
    | some wakeupTime => ({ s with entering := s.entering.eraseIdx i }.enterStop2 wakeupTime).1
    | none => s
  | .timerTest i =>
    match s.timers[i]? with
    | some ⟨due, .sleeping⟩ =>
      if due ≤ s.now then
        if s.wakeupEnabled ∧ s.currentMode = .stop2 then s.goTo i due .exiting
        else s.goTo i due .done
      else s
    | _ => s
  | .timerExit i =>
    match s.timers[i]? with
    | some ⟨due, .exiting⟩ => (s.goTo i due .done).exitStop2.1
    | _ => s

/-- Whether a goroutine is about to call ExitStop2. -/
def exits (s : PowerManager) : Event → Bool
  | .timerExit i =>
    match s.timers[i]? with
    | some ⟨_, .exiting⟩ => true
    | _ => false
  | _ => false

/-- The wake-up time with which a step calls EnterStop2. -/
def enters (s : PowerManager) : Event → Option ℤ
  | .enterStop2 wakeupTime => some wakeupTime
  | .enterScheduled i => s.entering[i]?
  | _ => none

/-- A goroutine ends a sleep only when the sleep's wake-up time has come. -/
def Timely (s : PowerManager) (e : Event) : Prop :=
  s.exits e = true → s.currentMode = .stop2 → s.wakeupTime ≤ s.now

instance (s : PowerManager) (e : Event) : Decidable (Timely s e) :=
  inferInstanceAs (Decidable (s.exits e = true → s.currentMode = .stop2 → s.wakeupTime ≤ s.now))

/-- No goroutine that has not returned can end a sleep before this time. -/
def Covers (s : PowerManager) (wakeupTime : ℤ) : Prop :=
  ∀ t ∈ s.timers, t.stage ≠ .done → wakeupTime ≤ max t.due s.now

instance (s : PowerManager) (wakeupTime : ℤ) : Decidable (s.Covers wakeupTime) :=
  inferInstanceAs (Decidable (∀ t ∈ s.timers, t.stage ≠ .done → wakeupTime ≤ max t.due s.now))

/-- A sleep begins only when all goroutines of earlier sleeps have returned or
are due no earlier than the new wake-up time, and that time is less than 2^63
nanoseconds away. -/
def Calm (s : PowerManager) (e : Event) : Prop :=
  ∀ wakeupTime ∈ s.enters e, s.currentMode = .run →
    wakeupTime - s.now < 2 ^ 63 ∧ s.Covers wakeupTime

instance (s : PowerManager) (e : Event) : Decidable (Calm s e) :=
  inferInstanceAs (Decidable (∀ wakeupTime ∈ s.enters e, s.currentMode = .run →
    wakeupTime - s.now < 2 ^ 63 ∧ s.Covers wakeupTime))

/-- No goroutine can end the current sleep early, and those that are about to
end it are due. -/
structure Inv (s : PowerManager) : Prop where
  /-- The current sleep lasts. -/
  covers : s.currentMode = .stop2 → s.Covers s.wakeupTime
  /-- Sleeps of exiting goroutines are over. -/
  exiting : ∀ t ∈ s.timers, t.stage = .exiting → t.due ≤ s.now

variable {s : PowerManager}

section steps

/-- The manager after a sleep has begun. -/
theorem enterStop2_of_run {wakeupTime : ℤ} (h : s.currentMode = .run) :
    (s.enterStop2 wakeupTime).1 =
      { s with
        currentMode := .stop2
        wakeupTime := wakeupTime
        wakeupEnabled := true
        timers := s.timers ++ [⟨s.now + s.timeUntil wakeupTime, .sleeping⟩] } := by
  unfold enterStop2
  rw [if_neg (not_not.mpr h)]

theorem enterStop2_of_ne {wakeupTime : ℤ} (h : s.currentMode ≠ .run) :
    (s.enterStop2 wakeupTime).1 = s := by
  unfold enterStop2
  rw [if_pos h]

/-- The sleep of a goroutine lasts as long as the sleep it is started for,
unless that is longer than a duration can be. -/
theorem le_due_iff (s : PowerManager) (wakeupTime : ℤ) :
    wakeupTime ≤ max (s.now + s.timeUntil wakeupTime) s.now ↔ wakeupTime - s.now < 2 ^ 63 := by
  unfold timeUntil
  omega

/-- The sleep that begins cannot be ended early exactly where the step is calm. -/
theorem covers_enterStop2_iff {wakeupTime : ℤ} (h : s.currentMode = .run) :
    (s.enterStop2 wakeupTime).1.Covers wakeupTime ↔
      wakeupTime - s.now < 2 ^ 63 ∧ s.Covers wakeupTime := by
  rw [enterStop2_of_run h, ← le_due_iff]
  unfold Covers
  dsimp only
  constructor
  · intro hc
    constructor
    · exact hc _ (List.mem_append_right _ List.mem_cons_self) (by simp)
    · intro t ht hlive
      exact hc t (List.mem_append_left _ ht) hlive
  · rintro ⟨hown, hc⟩ t ht hlive
    rcases List.mem_append.mp ht with hold | hnew
    · exact hc t hold hlive
    · rw [List.mem_singleton.mp hnew]
      exact hown

/-- Beginning a sleep calmly keeps the invariant. -/
theorem Inv.enterStop2 (h : Inv s) {wakeupTime : ℤ}
    (hcalm : s.currentMode = .run → wakeupTime - s.now < 2 ^ 63 ∧ s.Covers wakeupTime) :
    Inv (s.enterStop2 wakeupTime).1 := by
  by_cases hrun : s.currentMode = .run
  · have hcovers := (covers_enterStop2_iff hrun).mpr (hcalm hrun)
    rw [enterStop2_of_run hrun] at hcovers ⊢
    refine ⟨fun _ => hcovers, fun t ht hstage => ?_⟩
    rcases List.mem_append.mp ht with hold | hnew
    · exact h.exiting t hold hstage
    · rw [List.mem_singleton.mp hnew] at hstage
      exact absurd hstage (by simp)
  · rw [enterStop2_of_ne hrun]
    exact h

/-- Ending a sleep keeps the invariant. -/
theorem Inv.exitStop2 (h : Inv s) : Inv s.exitStop2.1 := by
  unfold PowerManager.exitStop2
  split
  · exact h
  · exact ⟨fun hmode => absurd hmode (by simp), h.exiting⟩

/-- A goroutine that goes on keeps the invariant, and is due if it is about to exit. -/
theorem Inv.goTo (h : Inv s) {i : ℕ} {t : Timer} (ht : s.timers[i]? = some t) {stage : Stage}
    (hlive : stage ≠ .done → t.stage ≠ .done) (hdue : stage = .exiting → t.due ≤ s.now) :
    Inv (s.goTo i t.due stage) := by
  have hmem := List.mem_of_getElem? ht
  constructor
  · intro hmode u hu hstage
    rcases List.mem_or_eq_of_mem_set hu with hold | hnew
    · exact h.covers hmode u hold hstage
    · rw [hnew] at hstage ⊢
      exact h.covers hmode t hmem (hlive hstage)
  · intro u hu hstage
    rcases List.mem_or_eq_of_mem_set hu with hold | hnew
    · exact h.exiting u hold hstage
    · rw [hnew] at hstage ⊢
      exact hdue hstage

/-- A calm step keeps the invariant. -/
theorem Inv.next (h : Inv s) {e : Event} (hcalm : s.Calm e) : Inv (s.step e) := by
  cases e with
  | tick nanoseconds =>
    constructor
    · intro hmode t ht hlive
      have hold := h.covers hmode t ht hlive
      change s.wakeupTime ≤ max t.due (s.now + nanoseconds)
      omega
    · intro t ht hstage
      have hold := h.exiting t ht hstage
      change t.due ≤ s.now + nanoseconds
      omega
  | enterStop2 wakeupTime => exact h.enterStop2 (hcalm wakeupTime rfl)
  | exitStop2 => exact h.exitStop2
  | wakeOnContact contactStartTime prepTime =>
    unfold step PowerManager.wakeOnContact
    dsimp only
    split
    · exact h
    · exact ⟨h.covers, h.exiting⟩
  | enterScheduled i =>
    unfold step
    dsimp only
    split
    next wakeupTime hentering =>
      have hrest : Inv { s with entering := s.entering.eraseIdx i } := ⟨h.covers, h.exiting⟩
      exact hrest.enterStop2 (hcalm wakeupTime hentering)
    next => exact h
  | timerTest i =>
    unfold step
    dsimp only
    split
    next due ht =>
      split
      next hdue =>
        split
        · exact h.goTo ht (fun _ => by simp) (fun _ => hdue)
        · exact h.goTo ht (fun hne => absurd rfl hne) (fun he => absurd he (by simp))
      next => exact h
    next => exact h
  | timerExit i =>
    unfold step
    dsimp only
    split
    next due ht =>
      have hdone : Inv (s.goTo i due .done) :=
        h.goTo ht (fun hne => absurd rfl hne) (fun he => absurd he (by simp))
      exact hdone.exitStop2
    next => exact h

/-- Only the beginning of a sleep can fail to be calm. -/
theorem calm_of_not_isEnter {e : Event} (h : e.isEnter = false) : s.Calm e := by
  intro wakeupTime hbegins
  cases e with
  | enterStop2 _ => exact absurd h (by simp [Event.isEnter])
  | enterScheduled _ => exact absurd h (by simp [Event.isEnter])
  | _ => exact absurd hbegins (by simp [enters])

/-- A goroutine that is about to exit, at its place. -/
theorem exits_eq_true {e : Event} (h : s.exits e = true) :
    ∃ i due, e = .timerExit i ∧ s.timers[i]? = some ⟨due, .exiting⟩ := by
  cases e with
  | timerExit i =>
    simp only [exits] at h
    split at h
    next due ht => exact ⟨i, due, rfl, ht⟩
    next => exact absurd h Bool.false_ne_true
  | _ => exact absurd h Bool.false_ne_true

/-- Under the invariant no goroutine ends a sleep early. -/
theorem Inv.timely (h : Inv s) (e : Event) : s.Timely e := by
  intro hexits hmode
  obtain ⟨i, due, -, ht⟩ := exits_eq_true hexits
  have hmem := List.mem_of_getElem? ht
  have hdue : due ≤ s.now := h.exiting _ hmem rfl
  have hcovers : s.wakeupTime ≤ max due s.now := h.covers hmode _ hmem (by simp)
  omega

end steps

section exactness

/-- An exiting goroutine ends the current sleep early where its time has not come. -/
theorem not_timely_of_exiting {i : ℕ} {due : ℤ} (ht : s.timers[i]? = some ⟨due, .exiting⟩)
    (hmode : s.currentMode = .stop2) (hearly : s.now < s.wakeupTime) :
    ¬s.Timely (.timerExit i) := by
  simp only [Timely, exits, ht, hmode, true_implies]
  omega

/-- A goroutine whose sleep is over goes on to its exit during any sleep. -/
theorem step_timerTest {i : ℕ} {due : ℤ} (ht : s.timers[i]? = some ⟨due, .sleeping⟩)
    (hdue : due ≤ s.now) (henabled : s.wakeupEnabled = true) (hmode : s.currentMode = .stop2) :
    s.step (.timerTest i) = s.goTo i due .exiting := by
  simp only [step, ht, hdue, henabled, hmode, if_true, and_self]

/-- Where a sleep is never ended early, whatever happens in it, no goroutine can
end it before its time. -/
theorem covers_of_timely (hmode : s.currentMode = .stop2) (henabled : s.wakeupEnabled = true)
    (h : ∀ later, (∀ e ∈ later, e.isEnter = false) → Along step Timely s later) :
    s.Covers s.wakeupTime := by
  intro t ht hlive
  by_contra hearly
  obtain ⟨i, hi⟩ := List.mem_iff_getElem?.mp ht
  obtain ⟨due, stage⟩ := t
  dsimp only at hearly
  cases stage with
  | done => exact hlive rfl
  | exiting =>
    have htimely := h [.timerExit i] (by simp [Event.isEnter])
    exact not_timely_of_exiting hi hmode (by omega) htimely.1
  | sleeping =>
    -- The clock reaches the end of the goroutine's sleep, which then runs to its exit.
    have hrun := h [.tick (due - s.now).toNat, .timerTest i, .timerExit i]
      (by simp [Event.isEnter])
    have htimely := hrun.2.2.1
    have hnow : due ≤ s.now + (due - s.now).toNat := by omega
    have htest : (s.step (.tick (due - s.now).toNat)).step (.timerTest i) =
        (s.step (.tick (due - s.now).toNat)).goTo i due .exiting :=
      step_timerTest hi hnow henabled hmode
    rw [htest] at htimely
    obtain ⟨hlt, -⟩ := List.getElem?_eq_some_iff.mp hi
    have hexiting : ((s.step (.tick (due - s.now).toNat)).goTo i due .exiting).timers[i]? =
        some ⟨due, .exiting⟩ := List.getElem?_set_self hlt
    have hbefore : s.now + ((due - s.now).toNat : ℤ) < s.wakeupTime := by omega
    exact not_timely_of_exiting hexiting hmode hbefore htimely

/-- A sleep that is never ended early began calmly. -/
theorem calm_enterStop2 {wakeupTime : ℤ}
    (h : ∀ later, (∀ e ∈ later, e.isEnter = false) →
      Along step Timely (s.enterStop2 wakeupTime).1 later) (hrun : s.currentMode = .run) :
    wakeupTime - s.now < 2 ^ 63 ∧ s.Covers wakeupTime := by
  rw [← covers_enterStop2_iff hrun]
  rw [enterStop2_of_run hrun] at h ⊢
  exact covers_of_timely rfl rfl h

/-- A run is calm exactly when none of its sleeps can be ended early, however
the sleep goes on. -/
theorem along_calm_iff (hinv : Inv s) (events : List Event) :
    Along step Calm s events ↔ ∀ first, first <+: events →
      ∀ later, (∀ e ∈ later, e.isEnter = false) → Along step Timely (run step s first) later := by
  have himp : ∀ s, Inv s → ∀ later, (∀ e ∈ later, e.isEnter = false) →
      Along step Timely s later := by
    intro s hinv later hlater
    have hcalm : Along step Calm s later :=
      along_of_forall_mem (fun e he s => calm_of_not_isEnter (hlater e he)) s
    exact hcalm.mono_of_invariant (fun _ e hinv _ => hinv.timely e)
      (fun _ _ hinv hc => hinv.next hc) hinv
  symm
  refine forall_prefix_iff_along_of_imp himp (fun _ _ hinv _ hcalm => hinv.next hcalm) ?_
    (along_true events) hinv
  intro s e _ _ h wakeupTime hbegins hrun
  cases e with
  | enterStop2 _ =>
    rw [← Option.some.inj hbegins]
    exact calm_enterStop2 h hrun
  | enterScheduled i =>
    have hentering : s.entering[i]? = some wakeupTime := hbegins
    simp only [step, hentering] at h
    exact calm_enterStop2 (s := { s with entering := s.entering.eraseIdx i }) h hrun
  | _ => exact absurd hbegins (by simp [enters])

end exactness

section runs

/-- A new manager meets the invariant. -/
theorem inv_new (now : ℤ) : Inv (new now) :=
  ⟨fun hmode => absurd hmode (by decide : PowerMode.run ≠ .stop2),
    fun _ ht => absurd ht List.not_mem_nil⟩

/-- In a run of calm steps no sleep is ended early. -/
theorem timely_along (now : ℤ) (events : List Event) (h : Along step Calm (new now) events) :
    Along step Timely (new now) events :=
  h.mono_of_invariant (fun _ e hinv _ => hinv.timely e) (fun _ _ hinv hc => hinv.next hc)
    (inv_new now)

/-- Two sleeps, each ended by its own timer when its time has come. -/
theorem timely_consecutive_sleeps :
    let events : List Event := [.enterStop2 10, .tick 10, .timerTest 0, .timerExit 0,
      .wakeOnContact 40 5, .enterScheduled 0, .tick 25, .timerTest 1, .timerExit 1]
    Along step Timely (new 0) events ∧ (run step (new 0) events).currentMode = .run := by
  intro events
  have hcalm : Along step Calm (new 0) events := by decide +kernel
  exact ⟨timely_along 0 events hcalm, by decide +kernel⟩

/-- The timer of a sleep that a user has ended ends the next one. -/
theorem leftover_timer_wakes :
    ¬ ∀ (now : ℤ) (events : List Event), Along step Timely (new now) events := by
  intro h
  have hrun := h 0 [.enterStop2 10, .exitStop2, .enterStop2 100, .tick 10, .timerTest 0,
    .timerExit 0]
  exact absurd hrun (by decide +kernel)

end runs

end PowerManager

end CislunarDtn.PowerModes
