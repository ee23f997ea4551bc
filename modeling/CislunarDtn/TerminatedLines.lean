import Mathlib.Data.List.Basic

/-!
# Lines with terminators

A text is written line by line, each line followed by a terminator, and read
back by dividing it at the terminators. Reading gives back what was written
exactly when no line contains the terminator. The same reader divides a line
into words at a separator.
-/

namespace CislunarDtn.TerminatedLines

variable {α : Type*} (t : α)

/-- Lines written one after the other, each with its terminator. -/
def written (lines : List (List α)) : List α := lines.flatMap fun l => l ++ [t]

/-- A symbol put before the first line. -/
def extend (a : α) : List (List α) → List (List α)
  | [] => [[a]]
  | l :: lines => (a :: l) :: lines

variable {t} in
theorem notMem_of_mem_extend {a : α} (ha : a ≠ t) {lines : List (List α)}
    (hlines : ∀ l ∈ lines, t ∉ l) {l : List α} (h : l ∈ extend a lines) : t ∉ l := by
  cases lines with
  | nil =>
    rw [List.mem_singleton.mp h, List.mem_singleton]
    exact Ne.symm ha
  | cons first rest =>
    rcases List.mem_cons.mp h with rfl | hrest
    · exact List.not_mem_cons_of_ne_of_not_mem (Ne.symm ha) (hlines first List.mem_cons_self)
    · exact hlines l (List.mem_cons_of_mem _ hrest)

variable {t} in
theorem eq_nil_of_cons_eq_append {middle back back' : List α} (h : t ∉ back)
    (heq : t :: back = middle ++ t :: back') : middle = [] := by
  cases middle with
  | nil => rfl
  | cons a middle =>
    rw [List.cons_append, List.cons.injEq] at heq
    refine absurd ?_ h
    rw [heq.2]
    exact List.mem_append_right _ List.mem_cons_self

variable {t} in
/-- What follows the last separator is told apart from what precedes it. -/
theorem append_cons_inj {front front' back back' : List α} (h : t ∉ back) (h' : t ∉ back') :
    front ++ t :: back = front' ++ t :: back' ↔ front = front' ∧ back = back' := by
  constructor
  · intro heq
    rcases List.append_eq_append_iff.mp heq with ⟨middle, hfront, hback⟩ | ⟨middle, hfront, hback⟩
    · obtain rfl := eq_nil_of_cons_eq_append h hback
      rw [List.append_nil] at hfront
      exact ⟨hfront.symm, (List.cons.inj hback).2⟩
    · obtain rfl := eq_nil_of_cons_eq_append h' hback
      rw [List.append_nil] at hfront
      exact ⟨hfront, ((List.cons.inj hback).2).symm⟩
  · rintro ⟨rfl, rfl⟩
    rfl

variable [DecidableEq α]

/-- The lines of a text. What follows the last terminator is a line of its own
unless it is empty. -/
def linesOf : List α → List (List α)
  | [] => []
  | a :: text => if a = t then [] :: linesOf text else extend a (linesOf text)

variable {t}

/-- There are no more lines than symbols. -/
theorem length_linesOf_le (text : List α) : (linesOf t text).length ≤ text.length := by
  induction text with
  | nil => exact Nat.le_refl 0
  | cons a text ih =>
    rw [linesOf, List.length_cons]
    split
    next => exact Nat.succ_le_succ ih
    next =>
      cases hlines : linesOf t text with
      | nil => simp [extend]
      | cons l lines =>
        rw [hlines] at ih
        exact Nat.le_succ_of_le ih

theorem linesOf_append_cons {l : List α} (h : t ∉ l) (text : List α) :
    linesOf t (l ++ t :: text) = l :: linesOf t text := by
  induction l with
  | nil => simp [linesOf]
  | cons a l ih =>
    obtain ⟨hne, hl⟩ := List.ne_and_not_mem_of_not_mem_cons h
    rw [List.cons_append, linesOf, if_neg (Ne.symm hne), ih hl]
    rfl

/-- A text without terminators is one line. -/
theorem linesOf_of_notMem {l : List α} (h : t ∉ l) (hne : l ≠ []) : linesOf t l = [l] := by
  induction l with
  | nil => exact absurd rfl hne
  | cons a l ih =>
    obtain ⟨ha, hl⟩ := List.ne_and_not_mem_of_not_mem_cons h
    rw [linesOf, if_neg (Ne.symm ha)]
    cases l with
    | nil => rfl
    | cons b l =>
      rw [ih hl (List.cons_ne_nil b l)]
      rfl

/-- No line contains the terminator. -/
theorem notMem_of_mem_linesOf {text l : List α} (h : l ∈ linesOf t text) : t ∉ l := by
  induction text generalizing l with
  | nil => exact absurd h List.not_mem_nil
  | cons a text ih =>
    rw [linesOf] at h
    split at h
    next =>
      rcases List.mem_cons.mp h with rfl | hrest
      · exact List.not_mem_nil
      · exact ih hrest
    next ha => exact notMem_of_mem_extend ha (fun l hl => ih hl) h

theorem linesOf_written {lines : List (List α)} (h : ∀ l ∈ lines, t ∉ l) :
    linesOf t (written t lines) = lines := by
  induction lines with
  | nil => rfl
  | cons l lines ih =>
    obtain ⟨hl, hlines⟩ := List.forall_mem_cons.mp h
    have hcons : written t (l :: lines) = l ++ t :: written t lines := by simp [written]
    rw [hcons, linesOf_append_cons hl, ih hlines]

/-- What follows the last terminator is read back as well. -/
theorem linesOf_written_append {lines : List (List α)} (h : ∀ l ∈ lines, t ∉ l) {last : List α}
    (hlast : t ∉ last) (hne : last ≠ []) :
    linesOf t (written t lines ++ last) = lines ++ [last] := by
  induction lines with
  | nil => exact linesOf_of_notMem hlast hne
  | cons l lines ih =>
    obtain ⟨hl, hlines⟩ := List.forall_mem_cons.mp h
    have hcons : written t (l :: lines) ++ last = l ++ t :: (written t lines ++ last) := by
      simp [written]
    rw [hcons, linesOf_append_cons hl, ih hlines, List.cons_append]

/-- What is written is read back exactly when no line contains the terminator. -/
theorem linesOf_written_eq_iff {lines : List (List α)} :
    linesOf t (written t lines) = lines ↔ ∀ l ∈ lines, t ∉ l := by
  constructor
  · intro h l hl
    rw [← h] at hl
    exact notMem_of_mem_linesOf hl
  · exact linesOf_written

end CislunarDtn.TerminatedLines
