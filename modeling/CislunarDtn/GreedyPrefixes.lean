import Mathlib.Data.List.Infix

/-!
# Taking items until an accumulated value suffices

A greedy loop consumes a list from the front, accumulates a value, and stops
after the first item at which the value passes its test; a list that never
passes is consumed whole. What was consumed is therefore the shortest
nonempty prefix that passes, or everything.
-/

namespace CislunarDtn.GreedyPrefixes

variable {α β : Type*} (step : β → α → β) (stop : β → Prop) [DecidablePred stop]

/-- Items consumed from the front. The test is made after each item, so a
nonempty list always loses its first one. -/
def greedyPrefix : β → List α → List α
  | _, [] => []
  | acc, a :: l => a :: if stop (step acc a) then [] else greedyPrefix (step acc a) l

theorem greedyPrefix_cons_of_stop {acc : β} {a : α} (l : List α) (h : stop (step acc a)) :
    greedyPrefix step stop acc (a :: l) = [a] := by
  rw [greedyPrefix, if_pos h]

theorem greedyPrefix_cons_of_not_stop {acc : β} {a : α} (l : List α) (h : ¬stop (step acc a)) :
    greedyPrefix step stop acc (a :: l) = a :: greedyPrefix step stop (step acc a) l := by
  rw [greedyPrefix, if_neg h]

/-- A nonempty list loses its first item. -/
theorem greedyPrefix_ne_nil {acc : β} {l : List α} (h : l ≠ []) :
    greedyPrefix step stop acc l ≠ [] := by
  cases l with
  | nil => exact absurd rfl h
  | cons a l => exact List.cons_ne_nil a _

/-- What is consumed is a prefix of the list. -/
theorem greedyPrefix_isPrefix (acc : β) (l : List α) : greedyPrefix step stop acc l <+: l := by
  induction l generalizing acc with
  | nil => exact List.prefix_rfl
  | cons a l ih =>
    by_cases h : stop (step acc a)
    · rw [greedyPrefix_cons_of_stop step stop l h]
      exact List.prefix_append [a] l
    · rw [greedyPrefix_cons_of_not_stop step stop l h]
      exact List.prefix_cons_inj a |>.mpr (ih (step acc a))

/-- A loop that ends without passing its test has consumed everything. -/
theorem greedyPrefix_eq_self {acc : β} {l : List α}
    (h : ¬stop ((greedyPrefix step stop acc l).foldl step acc)) :
    greedyPrefix step stop acc l = l := by
  induction l generalizing acc with
  | nil => rfl
  | cons a l ih =>
    by_cases hs : stop (step acc a)
    · rw [greedyPrefix_cons_of_stop step stop l hs] at h
      exact absurd hs h
    · rw [greedyPrefix_cons_of_not_stop step stop l hs] at h ⊢
      rw [ih h]

/-- Minimality: no nonempty proper part of what was consumed passes the test. -/
theorem not_stop_of_isPrefix {acc : β} {l p : List α} (hp : p <+: greedyPrefix step stop acc l)
    (hne : p ≠ []) (hlt : p ≠ greedyPrefix step stop acc l) : ¬stop (p.foldl step acc) := by
  induction l generalizing acc p with
  | nil => exact absurd (List.prefix_nil.mp hp) hne
  | cons a l ih =>
    obtain ⟨b, p, rfl⟩ := List.exists_cons_of_ne_nil hne
    by_cases hs : stop (step acc a)
    · rw [greedyPrefix_cons_of_stop step stop l hs] at hp hlt
      obtain ⟨rfl, ht⟩ := List.cons_prefix_cons.mp hp
      rw [List.prefix_nil.mp ht] at hlt
      exact absurd rfl hlt
    · rw [greedyPrefix_cons_of_not_stop step stop l hs] at hp hlt
      obtain ⟨rfl, ht⟩ := List.cons_prefix_cons.mp hp
      rcases List.eq_nil_or_concat p with rfl | ⟨_, _, rfl⟩
      · exact hs
      · rw [List.foldl_cons]
        exact ih ht (by simp) (fun he => hlt (by rw [he]))

/-- A nonempty prefix that passes holds everything that is consumed. -/
theorem greedyPrefix_isPrefix_of_stop {acc : β} {l p : List α} (hp : p <+: l) (hne : p ≠ [])
    (hstop : stop (p.foldl step acc)) : greedyPrefix step stop acc l <+: p := by
  rcases List.prefix_or_prefix_of_prefix (greedyPrefix_isPrefix step stop acc l) hp with hle | hle
  · exact hle
  · by_cases heq : p = greedyPrefix step stop acc l
    · exact heq ▸ List.prefix_rfl
    · exact absurd hstop (not_stop_of_isPrefix step stop hle hne heq)

/-- What is consumed passes as soon as some nonempty prefix does. -/
theorem stop_greedyPrefix_of_stop {acc : β} {l p : List α} (hp : p <+: l) (hne : p ≠ [])
    (hstop : stop (p.foldl step acc)) : stop ((greedyPrefix step stop acc l).foldl step acc) := by
  by_contra hnot
  have hall := greedyPrefix_eq_self step stop hnot
  have hle := greedyPrefix_isPrefix_of_stop step stop hp hne hstop
  rw [hall] at hle hnot
  have heq : p = l := hp.eq_of_length_le hle.length_le
  exact hnot (heq ▸ hstop)

/-- A loop that passed its test consumed the one prefix that passes while no
nonempty part of it before its last item does. -/
theorem greedyPrefix_eq_concat_iff {acc : β} {l : List α}
    (hstop : stop ((greedyPrefix step stop acc l).foldl step acc))
    (hne : greedyPrefix step stop acc l ≠ []) {part : List α} {last : α} :
    greedyPrefix step stop acc l = part ++ [last] ↔
      part ++ [last] <+: l ∧ (∀ p, p ≠ [] → p <+: part → ¬stop (p.foldl step acc)) ∧
        stop ((part ++ [last]).foldl step acc) := by
  constructor
  · intro h
    refine ⟨h ▸ greedyPrefix_isPrefix step stop acc l, fun p hp hpart => ?_, h ▸ hstop⟩
    have hlt : p ≠ greedyPrefix step stop acc l := by
      intro he
      have hlen := hpart.length_le
      rw [he, h, List.length_append, List.length_singleton] at hlen
      omega
    refine not_stop_of_isPrefix step stop ?_ hp hlt
    rw [h]
    exact hpart.trans (List.prefix_append part [last])
  · intro h
    obtain ⟨hpre, hbefore, hpass⟩ := h
    have hgreedy := greedyPrefix_isPrefix step stop acc l
    rcases List.prefix_or_prefix_of_prefix hgreedy hpre with hle | hle
    · rcases List.prefix_concat_iff.mp hle with heq | hpart
      · exact heq
      · exact absurd hstop (hbefore _ hne hpart)
    · by_contra hdiff
      exact not_stop_of_isPrefix step stop hle (by simp) (Ne.symm hdiff) hpass

/-- A first part that never passes is consumed whole before the rest. -/
theorem greedyPrefix_append_of_not_stop {acc : β} {l : List α} (m : List α)
    (h : l = [] ∨ ¬stop ((greedyPrefix step stop acc l).foldl step acc)) :
    greedyPrefix step stop acc (l ++ m) = l ++ greedyPrefix step stop (l.foldl step acc) m := by
  induction l generalizing acc with
  | nil => rfl
  | cons a l ih =>
    have hn := h.resolve_left (List.cons_ne_nil a l)
    by_cases hs : stop (step acc a)
    · rw [greedyPrefix_cons_of_stop step stop l hs] at hn
      exact absurd hs hn
    · rw [greedyPrefix_cons_of_not_stop step stop l hs] at hn
      rw [List.cons_append, greedyPrefix_cons_of_not_stop step stop _ hs, ih (Or.inr hn)]
      rfl

/-- A first part that passes makes the rest irrelevant. -/
theorem greedyPrefix_append_of_stop {acc : β} {l : List α} (m : List α) (hne : l ≠ [])
    (h : stop ((greedyPrefix step stop acc l).foldl step acc)) :
    greedyPrefix step stop acc (l ++ m) = greedyPrefix step stop acc l := by
  induction l generalizing acc with
  | nil => exact absurd rfl hne
  | cons a l ih =>
    by_cases hs : stop (step acc a)
    · rw [List.cons_append, greedyPrefix_cons_of_stop step stop _ hs,
        greedyPrefix_cons_of_stop step stop _ hs]
    · rw [greedyPrefix_cons_of_not_stop step stop l hs] at h ⊢
      rw [List.cons_append, greedyPrefix_cons_of_not_stop step stop _ hs]
      rcases List.eq_nil_or_concat l with rfl | ⟨_, _, rfl⟩
      · exact absurd h hs
      · rw [ih (by simp) h]

end CislunarDtn.GreedyPrefixes
