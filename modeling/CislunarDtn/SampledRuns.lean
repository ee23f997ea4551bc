import Mathlib.Data.List.Basic
import Mathlib.Order.Basic

/-!
# Runs in a sampled signal

A signal is a list of timed samples, true or false. A run of true samples that
a false sample ends is known by the time of its first sample and the time of
the sample that ends it; a run that is still open at the end is not closed.
One pass over the samples, which remembers the start of the open run, finds
exactly the closed runs.
-/

namespace CislunarDtn.SampledRuns

variable {τ : Type*}

/-- The closed runs in order of their ends. The option is the start of the run
that is open before the samples. -/
def closedRuns : Option τ → List (τ × Bool) → List (τ × τ)
  | _, [] => []
  | none, (t, true) :: rest => closedRuns (some t) rest
  | none, (_, false) :: rest => closedRuns none rest
  | some a, (_, true) :: rest => closedRuns (some a) rest
  | some a, (b, false) :: rest => (a, b) :: closedRuns none rest

/-- A run of true samples from a time on, which starts the signal or follows a
false sample, and which a false sample ends. -/
def IsClosedRun (samples : List (τ × Bool)) (a b : τ) : Prop :=
  ∃ before inside after, samples = before ++ (a, true) :: (inside ++ (b, false) :: after) ∧
    (∀ x ∈ inside, x.2 = true) ∧ ∀ x ∈ before.getLast?, x.2 = false

theorem closedRuns_inside {inside : List (τ × Bool)} (hi : ∀ x ∈ inside, x.2 = true) (a : τ)
    (rest : List (τ × Bool)) : closedRuns (some a) (inside ++ rest) = closedRuns (some a) rest := by
  induction inside with
  | nil => rfl
  | cons x inside ih =>
    obtain ⟨t, v⟩ := x
    have hv : v = true := hi _ (List.mem_cons_self ..)
    subst hv
    exact ih fun x hx => hi x (List.mem_cons_of_mem _ hx)

/-- A run that follows what ends in a false sample is found. -/
theorem mem_closedRuns_append {before : List (τ × Bool)}
    (hb : ∀ x ∈ before.getLast?, x.2 = false) {p : τ × τ} {rest : List (τ × Bool)}
    (hp : p ∈ closedRuns none rest) (o : Option τ) (ho : before = [] → o = none) :
    p ∈ closedRuns o (before ++ rest) := by
  induction before generalizing o with
  | nil =>
    rw [ho rfl]
    exact hp
  | cons x before ih =>
    obtain ⟨t, v⟩ := x
    have hlast : ∀ x ∈ before.getLast?, x.2 = false := by
      intro x hx
      refine hb x ?_
      cases before with
      | nil => simp at hx
      | cons y before => simpa using hx
    cases v with
    | true =>
      have hne : before ≠ [] := by
        rintro rfl
        exact absurd (hb (t, true) rfl) (by simp)
      cases o <;> exact ih hlast _ fun he => absurd he hne
    | false =>
      have hrest := ih hlast none fun _ => rfl
      cases o with
      | none => exact hrest
      | some a => exact List.mem_cons_of_mem _ hrest

theorem IsClosedRun.mem_closedRuns {samples : List (τ × Bool)} {a b : τ}
    (h : IsClosedRun samples a b) : (a, b) ∈ closedRuns none samples := by
  obtain ⟨before, inside, after, rfl, hinside, hbefore⟩ := h
  refine mem_closedRuns_append hbefore ?_ none fun _ => rfl
  rw [closedRuns, closedRuns_inside hinside]
  exact List.mem_cons_self

/-- A closed run is one after more samples that end in a false one. -/
theorem IsClosedRun.append_left {samples : List (τ × Bool)} {a b : τ}
    (h : IsClosedRun samples a b) (front : List (τ × Bool))
    (hfront : ∀ x ∈ front.getLast?, x.2 = false) : IsClosedRun (front ++ samples) a b := by
  obtain ⟨before, inside, after, rfl, hinside, hbefore⟩ := h
  refine ⟨front ++ before, inside, after, by simp, hinside, ?_⟩
  cases before with
  | nil => simpa using hfront
  | cons x before =>
    intro y hy
    rw [List.getLast?_append_of_ne_nil _ (List.cons_ne_nil x before)] at hy
    exact hbefore y hy

/-- One more true sample after the first of a signal that starts true. -/
theorem IsClosedRun.insert_true {samples : List (τ × Bool)} {s a b : τ}
    (h : IsClosedRun ((s, true) :: samples) a b) (t : τ) :
    IsClosedRun ((s, true) :: (t, true) :: samples) a b := by
  obtain ⟨before, inside, after, he, hinside, hbefore⟩ := h
  cases before with
  | nil =>
    obtain ⟨hhead, rfl⟩ := List.cons_eq_cons.mp he
    refine ⟨[], (t, true) :: inside, after, by rw [hhead]; rfl, ?_, by simp⟩
    intro x hx
    rcases List.mem_cons.mp hx with rfl | hx
    · rfl
    · exact hinside x hx
  | cons y before =>
    obtain ⟨rfl, rfl⟩ := List.cons_eq_cons.mp he
    cases before with
    | nil => exact absurd (hbefore (s, true) rfl) (by simp)
    | cons z before =>
      exact ⟨(s, true) :: (t, true) :: z :: before, inside, after, rfl, hinside,
        by simpa using hbefore⟩

theorem isClosedRun_of_mem {samples : List (τ × Bool)} {a b : τ} :
    ((a, b) ∈ closedRuns none samples → IsClosedRun samples a b) ∧
      ∀ s, (a, b) ∈ closedRuns (some s) samples → IsClosedRun ((s, true) :: samples) a b := by
  induction samples with
  | nil => simp [closedRuns]
  | cons x samples ih =>
    obtain ⟨t, v⟩ := x
    obtain ⟨hnone, hsome⟩ := ih
    cases v with
    | true => exact ⟨fun h => hsome t h, fun s h => (hsome s h).insert_true t⟩
    | false =>
      refine ⟨fun h => (hnone h).append_left [(t, false)] (by simp), fun s h => ?_⟩
      rcases List.mem_cons.mp h with he | h
      · cases he
        exact ⟨[], [], samples, rfl, by simp, by simp⟩
      · exact (hnone h).append_left [(s, true), (t, false)] (by simp)

/-- The pass over the samples finds exactly the closed runs. -/
theorem mem_closedRuns {samples : List (τ × Bool)} {a b : τ} :
    (a, b) ∈ closedRuns none samples ↔ IsClosedRun samples a b :=
  ⟨isClosedRun_of_mem.1, IsClosedRun.mem_closedRuns⟩

section positions

/-- A closed run by the positions of its first sample and of the sample that ends it. -/
structure ClosedRunAt (samples : List (τ × Bool)) (a b : τ) (i j : ℕ) : Prop where
  /-- The run is not empty. -/
  lt : i < j
  /-- It starts with a true sample. -/
  start : samples[i]? = some (a, true)
  /-- A false sample ends it. -/
  stop : samples[j]? = some (b, false)
  /-- Samples in between are true. -/
  inside : ∀ k x, i ≤ k → k < j → samples[k]? = some x → x.2 = true
  /-- A sample before it is false. -/
  before : ∀ k x, k + 1 = i → samples[k]? = some x → x.2 = false

theorem IsClosedRun.exists_at {samples : List (τ × Bool)} {a b : τ}
    (h : IsClosedRun samples a b) : ∃ i j, ClosedRunAt samples a b i j := by
  obtain ⟨before, inside, after, rfl, hinside, hbefore⟩ := h
  refine ⟨before.length, before.length + (inside.length + 1), by omega, by simp, ?_, ?_, ?_⟩
  · rw [List.getElem?_append_right (by omega), Nat.add_sub_cancel_left, List.getElem?_cons_succ,
      List.getElem?_append_right (by omega), Nat.sub_self, List.getElem?_cons_zero]
  · intro k x hle hlt hx
    rw [List.getElem?_append_right hle] at hx
    cases hk : k - before.length with
    | zero =>
      rw [hk, List.getElem?_cons_zero] at hx
      cases hx
      rfl
    | succ m =>
      rw [hk, List.getElem?_cons_succ, List.getElem?_append_left (by omega)] at hx
      exact hinside x (List.mem_of_getElem? hx)
  · intro k x hk hx
    rw [List.getElem?_append_left (by omega)] at hx
    refine hbefore x ?_
    rw [List.getLast?_eq_getElem?, ← hk, Nat.add_sub_cancel]
    exact hx

theorem ClosedRunAt.isClosedRun {samples : List (τ × Bool)} {a b : τ} {i j : ℕ}
    (h : ClosedRunAt samples a b i j) : IsClosedRun samples a b := by
  obtain ⟨hlt, hstart, hstop, hinside, hbefore⟩ := h
  have hi : i < samples.length := (List.getElem?_eq_some_iff.mp hstart).1
  have hj : j < samples.length := (List.getElem?_eq_some_iff.mp hstop).1
  have hfirst : samples.drop i = (a, true) :: samples.drop (i + 1) := by
    rw [List.drop_eq_getElem_cons hi, (List.getElem?_eq_some_iff.mp hstart).2]
  have hlast : samples.drop j = (b, false) :: samples.drop (j + 1) := by
    rw [List.drop_eq_getElem_cons hj, (List.getElem?_eq_some_iff.mp hstop).2]
  have hmiddle : samples.drop (i + 1) =
      (samples.drop (i + 1)).take (j - (i + 1)) ++ samples.drop j := by
    have hdrop : samples.drop j = (samples.drop (i + 1)).drop (j - (i + 1)) := by
      rw [List.drop_drop]
      congr 1
      omega
    rw [hdrop, List.take_append_drop]
  refine ⟨samples.take i, (samples.drop (i + 1)).take (j - (i + 1)), samples.drop (j + 1), ?_,
    fun x hx => ?_, fun x hx => ?_⟩
  · rw [← hlast, ← hmiddle, ← hfirst, List.take_append_drop]
  · obtain ⟨m, hm, rfl⟩ := List.getElem_of_mem hx
    rw [List.length_take, List.length_drop] at hm
    refine hinside (i + 1 + m) _ (by omega) (by omega) ?_
    rw [List.getElem_take, List.getElem_drop]
    exact List.getElem?_eq_getElem (by omega)
  · rw [List.getLast?_eq_getElem?, List.length_take] at hx
    have hpos : 0 < i := by
      by_contra hzero
      have hnil : i = 0 := by omega
      rw [hnil] at hx
      simp at hx
    refine hbefore (i - 1) x (by omega) ?_
    rw [List.getElem?_take_of_lt (by omega)] at hx
    have hmin : min i samples.length - 1 = i - 1 := by omega
    rw [hmin] at hx
    exact hx

/-- Closed runs are known by the positions of their samples. -/
theorem isClosedRun_iff_exists_at {samples : List (τ × Bool)} {a b : τ} :
    IsClosedRun samples a b ↔ ∃ i j, ClosedRunAt samples a b i j := by
  constructor
  · exact IsClosedRun.exists_at
  · intro h
    obtain ⟨i, j, hrun⟩ := h
    exact hrun.isClosedRun

end positions

section order

/-- Runs start and end with samples, the first possibly with the one that is open. -/
theorem mem_times_of_mem_closedRuns {samples : List (τ × Bool)} {o : Option τ} {r : τ × τ}
    (h : r ∈ closedRuns o samples) :
    (o = some r.1 ∨ ∃ x ∈ samples, x.1 = r.1) ∧ ∃ x ∈ samples, x.1 = r.2 := by
  induction samples generalizing o with
  | nil => cases o <;> exact absurd h List.not_mem_nil
  | cons x samples ih =>
    have hlater : ∀ o', r ∈ closedRuns o' samples → (o' = o ∨ o' = some x.1 ∨ o' = none) →
        (o = some r.1 ∨ ∃ y ∈ x :: samples, y.1 = r.1) ∧ ∃ y ∈ x :: samples, y.1 = r.2 := by
      intro o' hmem ho'
      obtain ⟨hstart, y, hy, hend⟩ := ih hmem
      refine ⟨?_, y, List.mem_cons_of_mem x hy, hend⟩
      rcases hstart with hopen | ⟨z, hz, hzstart⟩
      · rcases ho' with rfl | rfl | rfl
        · exact Or.inl hopen
        · exact Or.inr ⟨x, List.mem_cons_self, Option.some.inj hopen⟩
        · cases hopen
      · exact Or.inr ⟨z, List.mem_cons_of_mem x hz, hzstart⟩
    obtain ⟨t, v⟩ := x
    cases o with
    | none =>
      cases v with
      | true => exact hlater (some t) h (Or.inr (Or.inl rfl))
      | false => exact hlater none h (Or.inl rfl)
    | some a =>
      cases v with
      | true => exact hlater (some a) h (Or.inl rfl)
      | false =>
        rcases List.mem_cons.mp h with rfl | hrest
        · exact ⟨Or.inl rfl, (t, false), List.mem_cons_self, rfl⟩
        · exact hlater none hrest (Or.inr (Or.inr rfl))

variable [Preorder τ]

/-- In a signal with increasing times every run ends before the next one starts. -/
theorem pairwise_closedRuns {samples : List (τ × Bool)}
    (h : samples.Pairwise fun x y => x.1 < y.1) (o : Option τ) :
    (closedRuns o samples).Pairwise fun r s => r.2 < s.1 := by
  induction samples generalizing o with
  | nil => cases o <;> exact List.Pairwise.nil
  | cons x samples ih =>
    obtain ⟨hfirst, hrest⟩ := List.pairwise_cons.mp h
    obtain ⟨t, v⟩ := x
    cases o with
    | none => cases v <;> exact ih hrest _
    | some a =>
      cases v with
      | true => exact ih hrest _
      | false =>
        refine List.pairwise_cons.mpr ⟨fun s hs => ?_, ih hrest none⟩
        rcases (mem_times_of_mem_closedRuns hs).1 with hopen | ⟨x, hx, hstart⟩
        · cases hopen
        · rw [← hstart]
          exact hfirst x hx

end order

end CislunarDtn.SampledRuns
