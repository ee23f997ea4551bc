import Mathlib.Data.Set.Insert

/-!
# Custody of items as a ledger

The purpose of a store that answers for what it holds: items enter, and leave
only for a recorded reason. The state is the set of items held; a ledger is
the sequence of admissions and releases, each release naming its reason. No
item can be missing at the end of a ledger without a release of that item.
-/

namespace CislunarDtn.CustodyLedgers

/-- One movement of an item in or out of custody. -/
inductive Movement (α ρ : Type*) where
  /-- The item is taken into custody. -/
  | enter (item : α)
  /-- The item leaves custody for the stated reason. -/
  | release (item : α) (reason : ρ)

variable {α ρ : Type*}

/-- Effect of one movement on the set of items held. -/
def Movement.apply (held : Set α) : Movement α ρ → Set α
  | .enter item => insert item held
  | .release item _ => held \ {item}

/-- Items held after the movements of a ledger. -/
def settle (held : Set α) (ledger : List (Movement α ρ)) : Set α :=
  ledger.foldl Movement.apply held

@[simp]
theorem settle_nil (held : Set α) : settle held ([] : List (Movement α ρ)) = held := rfl

@[simp]
theorem settle_cons (held : Set α) (m : Movement α ρ) (ledger : List (Movement α ρ)) :
    settle held (m :: ledger) = settle (m.apply held) ledger := rfl

theorem settle_append (held : Set α) (first second : List (Movement α ρ)) :
    settle held (first ++ second) = settle (settle held first) second := List.foldl_append

/-- A ledger of releases only leaves the held items that it does not release. -/
theorem settle_of_releases {ledger : List (Movement α ρ)}
    (h : ∀ m ∈ ledger, ∃ item reason, m = .release item reason) (held : Set α) :
    settle held ledger = held \ {a | ∃ reason, Movement.release a reason ∈ ledger} := by
  induction ledger generalizing held with
  | nil =>
    ext b
    simp
  | cons m ledger ih =>
    obtain ⟨item, reason, rfl⟩ := h m List.mem_cons_self
    rw [settle_cons, ih fun m hm => h m (List.mem_cons_of_mem _ hm)]
    ext b
    simp only [Movement.apply, Set.mem_sdiff, Set.mem_singleton_iff, Set.mem_ofPred_eq,
      List.mem_cons, Movement.release.injEq, exists_or, not_or, and_assoc]
    have hitem : (¬∃ other, b = item ∧ other = reason) ↔ ¬b = item := by
      simp
    rw [hitem]

/-- Custody: an item held at the start, or admitted on the way, and missing at
the end was released, for a reason the ledger names. -/
theorem released_of_missing {held : Set α} {ledger : List (Movement α ρ)} {a : α}
    (hin : a ∈ held ∨ Movement.enter a ∈ ledger) (hout : a ∉ settle held ledger) :
    ∃ reason, Movement.release a reason ∈ ledger := by
  induction ledger generalizing held with
  | nil => exact absurd (hin.resolve_right List.not_mem_nil) hout
  | cons m ledger ih =>
    rw [settle_cons] at hout
    by_cases hnext : a ∈ m.apply held ∨ Movement.enter a ∈ ledger
    · obtain ⟨reason, hr⟩ := ih hnext hout
      exact ⟨reason, List.mem_cons_of_mem m hr⟩
    · obtain ⟨hnot, hnoenter⟩ := not_or.mp hnext
      cases m with
      | enter b =>
        -- an admission keeps what is held, so a is neither held nor the item admitted
        have hab : a ≠ b ∧ a ∉ held := by
          simpa [Movement.apply, not_or] using hnot
        rcases hin with hh | henter
        · exact absurd hh hab.2
        · rcases List.mem_cons.mp henter with he | he
          · cases he
            exact absurd rfl hab.1
          · exact absurd he hnoenter
      | release b reason =>
        have hh : a ∈ held := by
          rcases hin with hh | henter
          · exact hh
          · rcases List.mem_cons.mp henter with he | he
            · cases he
            · exact absurd he hnoenter
        have hab : a = b := by
          by_contra hne
          exact hnot ⟨hh, hne⟩
        rw [hab]
        exact ⟨reason, List.mem_cons_self⟩

end CislunarDtn.CustodyLedgers
