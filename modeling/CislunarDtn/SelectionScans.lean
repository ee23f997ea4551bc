import Mathlib.Data.List.Basic
import Mathlib.Order.Lattice

/-!
# Scans that select one item

A loop over a list that, at every item, either keeps its candidate or makes
that item the candidate. Whatever it ends with was one of the items, and met
the condition under which items replace the candidate. A loop that replaces its
candidate by smaller items only ends with the first of the smallest.
-/

namespace CislunarDtn.SelectionScans

variable {α : Type*} (accepts : α → Prop) {step : Option α → α → Option α}

/-- From any candidate, the scan keeps it or ends with an accepted item. -/
theorem foldl_select_from
    (hstep : ∀ candidate a, step candidate a = candidate ∨
      step candidate a = some a ∧ accepts a)
    {l : List α} {candidate : Option α} {a : α} (h : l.foldl step candidate = some a) :
    candidate = some a ∨ a ∈ l ∧ accepts a := by
  induction l generalizing candidate with
  | nil => exact Or.inl h
  | cons b l ih =>
    rw [List.foldl_cons] at h
    rcases ih h with hkept | hlater
    · rcases hstep candidate b with hsame | hnew
      · rw [hsame] at hkept
        exact Or.inl hkept
      · rw [hnew.1] at hkept
        cases hkept
        exact Or.inr ⟨List.mem_cons_self, hnew.2⟩
    · exact Or.inr ⟨List.mem_cons_of_mem b hlater.1, hlater.2⟩

/-- A scan that starts without a candidate ends with an accepted item. -/
theorem foldl_select
    (hstep : ∀ candidate a, step candidate a = candidate ∨
      step candidate a = some a ∧ accepts a)
    {l : List α} {a : α} (h : l.foldl step none = some a) : a ∈ l ∧ accepts a :=
  (foldl_select_from accepts hstep h).resolve_left (fun hnone => by cases hnone)

section least

variable {β : Type*} [LinearOrder β] (accepted : α → Prop) [DecidablePred accepted] (key : α → β)

/-- Make an accepted item the candidate if its key is smaller than the candidate's. -/
def leastStep (candidate : Option α) (a : α) : Option α :=
  if accepted a then
    match candidate with
    | none => some a
    | some best => if key a < key best then some a else some best
  else candidate

variable {accepted key}

/-- A candidate is kept beside items whose keys are no smaller. -/
theorem foldl_leastStep_of_le {best : α} {l : List α}
    (h : ∀ a ∈ l, accepted a → key best ≤ key a) :
    l.foldl (leastStep accepted key) (some best) = some best := by
  induction l with
  | nil => rfl
  | cons a l ih =>
    have hkept : leastStep accepted key (some best) a = some best := by
      unfold leastStep
      split
      next ha => exact if_neg (not_lt.mpr (h a List.mem_cons_self ha))
      next => rfl
    rw [List.foldl_cons, hkept]
    exact ih fun b hb => h b (List.mem_cons_of_mem a hb)

/-- The scan finds nothing exactly if no item is accepted. -/
theorem foldl_leastStep_eq_none_iff {l : List α} {candidate : Option α} :
    l.foldl (leastStep accepted key) candidate = none ↔
      candidate = none ∧ ∀ a ∈ l, ¬accepted a := by
  induction l generalizing candidate with
  | nil => simp
  | cons a l ih =>
    have hstep : leastStep accepted key candidate a = none ↔ candidate = none ∧ ¬accepted a := by
      unfold leastStep
      by_cases ha : accepted a
      · cases candidate with
        | none => simp [ha]
        | some best => by_cases hlt : key a < key best <;> simp [ha, hlt]
      · simp [ha]
    rw [List.foldl_cons, ih, hstep, List.forall_mem_cons, and_assoc]

/-- The key found is no larger than that of the candidate and of every accepted item. -/
theorem foldl_leastStep_le {l : List α} {candidate : Option α} {found : α}
    (h : l.foldl (leastStep accepted key) candidate = some found) :
    (∀ best, candidate = some best → key found ≤ key best) ∧
      ∀ a ∈ l, accepted a → key found ≤ key a := by
  induction l generalizing candidate with
  | nil =>
    refine ⟨fun best hbest => ?_, fun a ha => absurd ha List.not_mem_nil⟩
    cases hbest.symm.trans h
    exact le_refl (key found)
  | cons a l ih =>
    rw [List.foldl_cons] at h
    obtain ⟨hcandidate, hrest⟩ := ih h
    by_cases ha : accepted a
    · have hnext : ∃ next, leastStep accepted key candidate a = some next ∧ key next ≤ key a ∧
          ∀ best, candidate = some best → key next ≤ key best := by
        unfold leastStep
        rw [if_pos ha]
        cases candidate with
        | none => exact ⟨a, rfl, le_refl _, fun best hbest => by cases hbest⟩
        | some best =>
          by_cases hlt : key a < key best
          · refine ⟨a, if_pos hlt, le_refl _, fun other hother => ?_⟩
            cases hother
            exact le_of_lt hlt
          · refine ⟨best, if_neg hlt, not_lt.mp hlt, fun other hother => ?_⟩
            cases hother
            exact le_refl _
      obtain ⟨next, hstep, hle, hbest⟩ := hnext
      have hfound := hcandidate next hstep
      exact ⟨fun best h => le_trans hfound (hbest best h),
        List.forall_mem_cons.mpr ⟨fun _ => le_trans hfound hle, hrest⟩⟩
    · have hkept : leastStep accepted key candidate a = candidate := if_neg ha
      rw [hkept] at hcandidate
      exact ⟨hcandidate, List.forall_mem_cons.mpr ⟨fun h => absurd h ha, hrest⟩⟩

end least

end CislunarDtn.SelectionScans
