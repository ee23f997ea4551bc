import Mathlib.Data.List.Basic

/-!
# Broadcast channels

A channel that hands every message to all of its receivers and keeps the last
ones only. A receiver is a position in what was sent. One that has fallen
behind what is kept learns how many messages it has missed and goes on with the
oldest that is left.
-/

namespace CislunarDtn.BroadcastChannels

/-- A channel with its messages, however many of them it still keeps. -/
structure Channel (α : Type*) where
  /-- Everything that was sent. -/
  sent : List α
  /-- How many messages are kept. -/
  kept : ℕ
  /-- The sender is gone. -/
  closed : Bool

/-- How an attempt to receive ends. -/
inductive Received (α : Type*) where
  /-- The next message. -/
  | message (a : α)
  /-- This many messages were missed. -/
  | lagged (n : ℕ)
  /-- Nothing is there yet. -/
  | empty
  /-- Nothing will come any more. -/
  | closed

namespace Channel

variable {α : Type*} (channel : Channel α)

/-- Send a message. -/
def send (a : α) : Channel α := { channel with sent := channel.sent ++ [a] }

/-- Where a new receiver starts: it gets what is sent from now on. -/
def subscribe : ℕ := channel.sent.length

/-- The oldest message that is kept. -/
def oldest : ℕ := channel.sent.length - channel.kept

/-- Try to receive at a position, and where the receiver is afterwards. -/
def tryRecv (next : ℕ) : Received α × ℕ :=
  if next < channel.oldest then (.lagged (channel.oldest - next), channel.oldest)
  else
    match channel.sent[next]? with
    | some a => (.message a, next + 1)
    | none => (if channel.closed then .closed else .empty, next)

/-- What a receiver at a position has still to get or to miss. -/
def unread (next : ℕ) : List α := channel.sent.drop next

variable {channel}

theorem unread_subscribe : channel.unread channel.subscribe = [] := List.drop_length

theorem unread_send {next : ℕ} (h : next ≤ channel.sent.length) (a : α) :
    (channel.send a).unread next = channel.unread next ++ [a] :=
  List.drop_append_of_le_length h

/-- A message is the first of what was unread, and nothing unread is gone. -/
theorem unread_of_message {next : ℕ} {a : α} (h : (channel.tryRecv next).1 = .message a) :
    channel.unread next = a :: channel.unread (channel.tryRecv next).2 ∧
      (channel.unread next).length ≤ channel.kept := by
  unfold tryRecv at h ⊢
  split at h
  · cases h
  next hkept =>
    rw [if_neg hkept]
    cases hnext : channel.sent[next]? with
    | none =>
      rw [hnext] at h
      dsimp only at h
      split at h <;> cases h
    | some b =>
      rw [hnext] at h
      cases h
      obtain ⟨hlt, hget⟩ := List.getElem?_eq_some_iff.mp hnext
      constructor
      · rw [unread, List.drop_eq_getElem_cons hlt, hget]
        rfl
      · rw [unread, List.length_drop]
        unfold oldest at hkept
        omega

/-- What was missed is as much of what was unread as is said: what is not kept. -/
theorem unread_of_lagged {next n : ℕ} (h : (channel.tryRecv next).1 = .lagged n) :
    ∃ missed, missed.length = n ∧
      channel.unread next = missed ++ channel.unread (channel.tryRecv next).2 ∧
        0 < n ∧ n + channel.kept = (channel.unread next).length := by
  unfold tryRecv at h ⊢
  split at h
  next hbehind =>
    cases h
    rw [if_pos hbehind]
    have hle : channel.oldest ≤ channel.sent.length := Nat.sub_le _ _
    refine ⟨(channel.sent.drop next).take (channel.oldest - next), ?_, ?_,
      Nat.sub_pos_of_lt hbehind, ?_⟩
    · rw [List.length_take, List.length_drop]
      omega
    · have hsplit : channel.unread channel.oldest =
          (channel.unread next).drop (channel.oldest - next) := by
        rw [unread, unread, List.drop_drop, Nat.add_sub_cancel' (Nat.le_of_lt hbehind)]
      rw [hsplit]
      exact (List.take_append_drop _ _).symm
    · rw [unread, List.length_drop]
      unfold oldest at hbehind ⊢
      omega
  next hkept =>
    cases hnext : channel.sent[next]? with
    | none =>
      rw [hnext] at h
      dsimp only at h
      split at h <;> cases h
    | some a =>
      rw [hnext] at h
      cases h

/-- A receiver for which nothing is there stays where it is, and has nothing unread. -/
theorem unread_of_empty {next : ℕ} (h : (channel.tryRecv next).1 = .empty ∨
    (channel.tryRecv next).1 = .closed) :
    (channel.tryRecv next).2 = next ∧ channel.unread next = [] := by
  unfold tryRecv at h ⊢
  split at h
  · rcases h with h | h <;> cases h
  next hkept =>
    rw [if_neg hkept]
    cases hnext : channel.sent[next]? with
    | some a =>
      rw [hnext] at h
      rcases h with h | h <;> cases h
    | none => exact ⟨rfl, List.drop_eq_nil_of_le (List.getElem?_eq_none_iff.mp hnext)⟩

/-- A receiver is never ahead of what was sent. -/
theorem tryRecv_le {next : ℕ} (h : next ≤ channel.sent.length) :
    (channel.tryRecv next).2 ≤ channel.sent.length := by
  unfold tryRecv
  split
  · exact Nat.sub_le _ _
  · cases hnext : channel.sent[next]? with
    | none => exact h
    | some a => exact (List.getElem?_eq_some_iff.mp hnext).1

end Channel

end CislunarDtn.BroadcastChannels
