import CislunarDtn.LabelledRuns
import Mathlib.Data.List.Basic

/-!
# Channels that drop their oldest item

One producer and any number of consumers share a bounded channel. The producer
offers an item; where the channel is full it takes the oldest item out and then
sends without a test. These are three steps, and consumers may run between
them. With a single producer no item is lost but those dropped, the order is
kept, and the last send always finds room.
-/

namespace CislunarDtn.DroppingChannels

open LabelledRuns

variable {κ α : Type*}

/-- Where the producer stands with the item in its hands. -/
inductive Stage (α : Type*) where
  /-- Nothing in hand. -/
  | idle
  /-- About to send if there is room. -/
  | offering (x : α)
  /-- There was no room: about to take the oldest item out, if there is one. -/
  | makingRoom (x : α)
  /-- About to send without a test. -/
  | sending (x : α)
  deriving DecidableEq

/-- How an item leaves the channel. -/
inductive Departure (κ α : Type*) where
  /-- A consumer takes it. -/
  | taken (consumer : κ) (x : α)
  /-- The producer takes it out to make room. -/
  | dropped (x : α)
  deriving DecidableEq

/-- The item that leaves. -/
def Departure.item : Departure κ α → α
  | .taken _ x => x
  | .dropped x => x

/-- The item that leaves, if a consumer takes it. -/
def Departure.takenItem : Departure κ α → Option α
  | .taken _ x => some x
  | .dropped _ => none

/-- The channel with its producer, and what has happened so far. -/
structure Channel (κ α : Type*) where
  /-- Items in the channel, oldest first. -/
  queue : List α
  /-- The producer's stage. -/
  stage : Stage α
  /-- Items produced so far, oldest first. -/
  produced : List α
  /-- Items that have left so far, in this order. -/
  departed : List (Departure κ α)

/-- The channel before anything is produced. -/
def Channel.empty : Channel κ α := ⟨[], .idle, [], []⟩

/-- What can happen next. -/
inductive Action (κ α : Type*) where
  /-- An idle producer gets an item. -/
  | produce (x : α)
  /-- The producer takes its next step. -/
  | proceed
  /-- A consumer takes the oldest item, if there is one. -/
  | take (consumer : κ)

namespace Channel

/-- The item in the producer's hands. -/
def inHand (c : Channel κ α) : List α :=
  match c.stage with
  | .idle => []
  | .offering x => [x]
  | .makingRoom x => [x]
  | .sending x => [x]

/-- Items that consumers have taken, in the order in which they left. -/
def takenItems (c : Channel κ α) : List α := c.departed.filterMap Departure.takenItem

/-- The producer's next step, with so many slots in the channel. -/
def proceed (capacity : ℕ) (c : Channel κ α) : Channel κ α :=
  match c.stage with
  | .idle => c
  | .offering x =>
    if c.queue.length < capacity then { c with queue := c.queue ++ [x], stage := .idle }
    else { c with stage := .makingRoom x }
  | .makingRoom x =>
    match c.queue with
    | [] => { c with stage := .sending x }
    | oldest :: rest =>
      { c with
        queue := rest
        departed := c.departed ++ [.dropped oldest]
        stage := .sending x }
  | .sending x =>
    if c.queue.length < capacity then { c with queue := c.queue ++ [x], stage := .idle }
    else c

/-- One step of any party. -/
def perform (capacity : ℕ) (c : Channel κ α) : Action κ α → Channel κ α
  | .produce x =>
    match c.stage with
    | .idle => { c with stage := .offering x, produced := c.produced ++ [x] }
    | _ => c
  | .proceed => c.proceed capacity
  | .take consumer =>
    match c.queue with
    | [] => c
    | oldest :: rest =>
      { c with queue := rest, departed := c.departed ++ [.taken consumer oldest] }

/-- What every step keeps: the produced items are those that have left, those
in the channel and the one in hand; the channel is within its bound, and has
room for a send without a test. -/
structure Sound (capacity : ℕ) (c : Channel κ α) : Prop where
  conserved : c.departed.map Departure.item ++ c.queue ++ c.inHand = c.produced
  bounded : c.queue.length ≤ capacity
  room : ∀ x, c.stage = .sending x → c.queue.length < capacity

variable {capacity : ℕ} {c : Channel κ α}

theorem sound_empty (capacity : ℕ) : Sound capacity (empty : Channel κ α) :=
  ⟨rfl, Nat.zero_le _, fun _ h => by cases h⟩

theorem Sound.produce (h : Sound capacity c) (x : α) :
    Sound capacity (c.perform capacity (.produce x)) := by
  have hconserved := h.conserved
  cases hstage : c.stage with
  | idle =>
    simp only [perform, hstage]
    refine ⟨?_, h.bounded, fun _ hs => by cases hs⟩
    simp only [inHand, hstage, List.append_nil] at hconserved
    simp [inHand, hconserved]
  | offering y => simpa only [perform, hstage] using h
  | makingRoom y => simpa only [perform, hstage] using h
  | sending y => simpa only [perform, hstage] using h

theorem Sound.send (h : Sound capacity c) {x : α} (hhand : c.inHand = [x])
    (hroom : c.queue.length < capacity) :
    Sound capacity { c with queue := c.queue ++ [x], stage := .idle } := by
  have hconserved := h.conserved
  refine ⟨?_, ?_, fun _ hs => by cases hs⟩
  · rw [hhand] at hconserved
    simpa [inHand] using hconserved
  · simp only [List.length_append, List.length_singleton]
    omega

/-- Only a full channel is found without room, and then one item leaves it. -/
theorem Sound.proceed (h : Sound capacity c) (hcapacity : 0 < capacity) :
    Sound capacity (c.proceed capacity) := by
  have hconserved := h.conserved
  have hbounded := h.bounded
  cases hstage : c.stage with
  | idle => simpa only [Channel.proceed, hstage] using h
  | offering x =>
    have hhand : c.inHand = [x] := by simp [inHand, hstage]
    simp only [Channel.proceed, hstage]
    split
    · rename_i hroom
      exact h.send hhand hroom
    · refine ⟨?_, hbounded, fun _ hs => by cases hs⟩
      rw [hhand] at hconserved
      simpa [inHand] using hconserved
  | makingRoom x =>
    simp only [inHand, hstage] at hconserved
    simp only [Channel.proceed, hstage]
    cases hqueue : c.queue with
    | nil =>
      rw [hqueue] at hconserved
      refine ⟨by simpa [inHand, hqueue] using hconserved, ?_, ?_⟩
      · simp
      · simpa using hcapacity
    | cons oldest rest =>
      rw [hqueue] at hconserved hbounded
      rw [List.length_cons] at hbounded
      refine ⟨?_, ?_, ?_⟩
      · simpa [inHand, Departure.item] using hconserved
      · simp only
        omega
      · intro _ _
        simp only
        omega
  | sending x =>
    have hhand : c.inHand = [x] := by simp [inHand, hstage]
    simp only [Channel.proceed, hstage, if_pos (h.room x hstage)]
    exact h.send hhand (h.room x hstage)

theorem Sound.take (h : Sound capacity c) (consumer : κ) :
    Sound capacity (c.perform capacity (.take consumer)) := by
  have hconserved := h.conserved
  have hbounded := h.bounded
  have hroom := h.room
  cases hqueue : c.queue with
  | nil => simpa only [perform, hqueue] using h
  | cons oldest rest =>
    simp only [perform, hqueue]
    rw [hqueue] at hconserved hbounded hroom
    rw [List.length_cons] at hbounded hroom
    refine ⟨?_, ?_, ?_⟩
    · simpa [inHand, Departure.item] using hconserved
    · simp only
      omega
    · intro x hx
      have := hroom x hx
      simp only
      omega

theorem Sound.perform (h : Sound capacity c) (hcapacity : 0 < capacity) (a : Action κ α) :
    Sound capacity (c.perform capacity a) := by
  cases a with
  | produce x => exact h.produce x
  | proceed => exact h.proceed hcapacity
  | take consumer => exact h.take consumer

theorem sound_run (hcapacity : 0 < capacity) (actions : List (Action κ α)) :
    Sound capacity (run (perform capacity) empty actions) :=
  run_invariant (fun _ a h => h.perform hcapacity a) (sound_empty capacity) actions

theorem takenItems_sublist_items (departed : List (Departure κ α)) :
    (departed.filterMap Departure.takenItem).Sublist (departed.map Departure.item) := by
  induction departed with
  | nil => simp
  | cons d departed ih =>
    cases d with
    | taken consumer x => simpa [Departure.takenItem, Departure.item] using ih
    | dropped x =>
      simp only [List.filterMap_cons, Departure.takenItem, List.map_cons]
      exact ih.cons _

/-- What consumers take is a subsequence of what was produced. -/
theorem Sound.takenItems_sublist (h : Sound capacity c) :
    c.takenItems.Sublist c.produced := by
  rw [← h.conserved, List.append_assoc]
  exact (takenItems_sublist_items c.departed).trans (List.sublist_append_left _ _)

section history

/-- The item in hand was produced last, by an idle producer, when the channel
held at least so many items. -/
def ProducedAt (capacity : ℕ) (actions : List (Action κ α)) (x : α) (held : ℕ) : Prop :=
  ∃ early late, actions = early ++ .produce x :: late ∧
    (run (perform capacity) empty early).stage = .idle ∧
    held ≤ (run (perform capacity) empty early).queue.length ∧
    (run (perform capacity) empty actions).produced =
      (run (perform capacity) empty early).produced ++ [x]

theorem ProducedAt.concat {actions : List (Action κ α)} {x : α} {held held' : ℕ}
    (h : ProducedAt capacity actions x held) (hle : held' ≤ held) {a : Action κ α}
    (hproduced : (run (perform capacity) empty (actions ++ [a])).produced =
      (run (perform capacity) empty actions).produced) :
    ProducedAt capacity (actions ++ [a]) x held' := by
  obtain ⟨early, late, hactions, hidle, hheld, hlast⟩ := h
  refine ⟨early, late ++ [a], by simp [hactions], hidle, by omega, ?_⟩
  rw [hproduced, hlast]

/-- Since the item on offer was produced the channel has not grown; where no
room was found for it, the channel was full by then. -/
def Traced (capacity : ℕ) (actions : List (Action κ α)) (c : Channel κ α) : Prop :=
  match c.stage with
  | .offering x => ProducedAt capacity actions x c.queue.length
  | .makingRoom x => ProducedAt capacity actions x capacity
  | _ => True

theorem Traced.of_idle {actions : List (Action κ α)} (hs : c.stage = .idle) :
    Traced capacity actions c := by
  rw [Traced, hs]
  trivial

theorem Traced.of_sending {actions : List (Action κ α)} {x : α} (hs : c.stage = .sending x) :
    Traced capacity actions c := by
  rw [Traced, hs]
  trivial

/-- The next action of a run. -/
theorem run_concat (actions : List (Action κ α)) (a : Action κ α) :
    run (perform capacity) empty (actions ++ [a]) =
      (run (perform capacity) empty actions).perform capacity a := by
  rw [run_append, run_cons, run_nil]

/-- What is known is kept while nothing is produced, the stage is the same and nothing is let in. -/
theorem Traced.concat {actions : List (Action κ α)} {a : Action κ α}
    (hc : run (perform capacity) empty actions = c) (h : Traced capacity actions c)
    (hproduced : (c.perform capacity a).produced = c.produced)
    (hstage : (c.perform capacity a).stage = c.stage)
    (hlength : (c.perform capacity a).queue.length ≤ c.queue.length) :
    Traced capacity (actions ++ [a]) (c.perform capacity a) := by
  have hkeep : (run (perform capacity) empty (actions ++ [a])).produced =
      (run (perform capacity) empty actions).produced := by
    rw [run_concat, hc, hproduced]
  cases hs : c.stage with
  | idle => exact .of_idle (hstage.trans hs)
  | sending x => exact .of_sending (hstage.trans hs)
  | offering x =>
    rw [Traced, hs] at h
    rw [Traced, hstage, hs]
    exact h.concat hlength hkeep
  | makingRoom x =>
    rw [Traced, hs] at h
    rw [Traced, hstage, hs]
    exact h.concat le_rfl hkeep

/-- What is known is kept by an action without effect. -/
theorem Traced.concat_same {actions : List (Action κ α)} {a : Action κ α}
    (hc : run (perform capacity) empty actions = c) (h : Traced capacity actions c)
    (hsame : c.perform capacity a = c) : Traced capacity (actions ++ [a]) (c.perform capacity a) :=
  h.concat hc (by rw [hsame]) (by rw [hsame]) (by rw [hsame])

/-- A step of the producer. -/
theorem Traced.proceed {actions : List (Action κ α)}
    (hc : run (perform capacity) empty actions = c) (h : Traced capacity actions c) :
    Traced capacity (actions ++ [.proceed]) (c.perform capacity .proceed) := by
  cases hstage : c.stage with
  | idle => exact h.concat_same hc (by simp only [perform, Channel.proceed, hstage])
  | offering x =>
    by_cases hroom : c.queue.length < capacity
    · exact .of_idle (by simp only [perform, Channel.proceed, hstage, if_pos hroom])
    · have hkeep : (run (perform capacity) empty (actions ++ [.proceed])).produced =
          (run (perform capacity) empty actions).produced := by
        rw [run_concat, hc]
        simp only [perform, Channel.proceed, hstage, if_neg hroom]
      rw [Traced, hstage] at h
      simp only [perform, Channel.proceed, hstage, if_neg hroom]
      exact h.concat (by omega) hkeep
  | makingRoom x =>
    refine .of_sending (x := x) ?_
    simp only [perform, Channel.proceed, hstage]
    split <;> rfl
  | sending x =>
    by_cases hroom : c.queue.length < capacity
    · exact .of_idle (by simp only [perform, Channel.proceed, hstage, if_pos hroom])
    · exact h.concat_same hc (by simp only [perform, Channel.proceed, hstage, if_neg hroom])

theorem traced_run (actions : List (Action κ α)) :
    Traced capacity actions (run (perform capacity) empty actions) := by
  induction actions using List.reverseRecOn with
  | nil => exact .of_idle rfl
  | append_singleton actions a ih =>
    have hnext : run (perform capacity) empty (actions ++ [a]) =
        (run (perform capacity) empty actions).perform capacity a := run_concat actions a
    rw [hnext]
    generalize hc : run (perform capacity) empty actions = c at ih hnext ⊢
    cases a with
    | produce x =>
      cases hstage : c.stage with
      | idle =>
        simp only [perform, hstage]
        exact ⟨actions, [], rfl, by rw [hc]; exact hstage, by rw [hc],
          by rw [hnext, hc]; simp only [perform, hstage]⟩
      | offering y => exact ih.concat_same hc (by simp only [perform, hstage])
      | makingRoom y => exact ih.concat_same hc (by simp only [perform, hstage])
      | sending y => exact ih.concat_same hc (by simp only [perform, hstage])
    | proceed => exact ih.proceed hc
    | take consumer =>
      cases hqueue : c.queue with
      | nil => exact ih.concat_same hc (by simp only [perform, hqueue])
      | cons oldest rest =>
        refine ih.concat hc ?_ ?_ ?_
        · simp only [perform, hqueue]
        · simp only [perform, hqueue]
        · simp [perform, hqueue]

end history

/-- Only a producer that found no room drops an item, and it is the oldest. -/
theorem makingRoom_of_dropped {a : Action κ α} {x : α}
    (h : (c.perform capacity a).departed = c.departed ++ [.dropped x]) :
    a = .proceed ∧ (∃ y, c.stage = .makingRoom y) ∧ ∃ rest, c.queue = x :: rest := by
  have hne : ∀ d : Departure κ α, c.departed ≠ c.departed ++ [d] := by simp
  cases a with
  | produce y =>
    simp only [perform] at h
    split at h
    · exact absurd h (hne _)
    · exact absurd h (hne _)
  | take consumer =>
    simp only [perform] at h
    split at h
    · exact absurd h (hne _)
    · simp at h
  | proceed =>
    simp only [perform, proceed] at h
    split at h
    · exact absurd h (hne _)
    · split at h
      · exact absurd h (hne _)
      · exact absurd h (hne _)
    · rename_i y hstage
      split at h
      · exact absurd h (hne _)
      · rename_i oldest rest hqueue
        have hx : oldest = x := by simpa using h
        exact ⟨rfl, ⟨y, hstage⟩, ⟨rest, by rw [hqueue, hx]⟩⟩
    · split at h
      · exact absurd h (hne _)
      · exact absurd h (hne _)

/-- An item is dropped only for one produced later, at a time when the channel
was full; it is the first item that had not left before. -/
theorem produced_later_of_dropped (hcapacity : 0 < capacity) {actions : List (Action κ α)}
    {a : Action κ α} {x : α}
    (h : ((run (perform capacity) empty actions).perform capacity a).departed =
      (run (perform capacity) empty actions).departed ++ [.dropped x]) :
    ∃ early y late, actions = early ++ .produce y :: late ∧
      (run (perform capacity) empty early).stage = .idle ∧
      (run (perform capacity) empty early).queue.length = capacity ∧
      (run (perform capacity) empty actions).produced =
        (run (perform capacity) empty early).produced ++ [y] ∧
      (run (perform capacity) empty early).produced[
        (run (perform capacity) empty actions).departed.length]? = some x := by
  obtain ⟨-, ⟨y, hstage⟩, rest, hqueue⟩ := makingRoom_of_dropped h
  have htraced : Traced capacity actions (run (perform capacity) empty actions) :=
    traced_run actions
  rw [Traced, hstage] at htraced
  obtain ⟨early, late, hactions, hidle, hheld, hproduced⟩ := htraced
  have hbounded := (sound_run hcapacity early).bounded
  have hconserved := (sound_run hcapacity actions).conserved
  refine ⟨early, y, late, hactions, hidle, by omega, hproduced, ?_⟩
  rw [hproduced, hqueue, inHand, hstage] at hconserved
  have hearly := List.append_cancel_right hconserved
  rw [← hearly, List.getElem?_append_right (by simp)]
  simp

end Channel

end CislunarDtn.DroppingChannels
