import Mathlib.Data.List.Induction
import Mathlib.Data.List.Infix
import Mathlib.Order.Basic

/-!
# Counting events in sliding windows

Events carry integer times in nondecreasing order. Bounding the number of
events in every half-open window of a fixed width is the same as bounding,
at each event, how many earlier events its own window still contains; this
is what a limiter that only looks back from the current event relies on.
-/

namespace CislunarDtn.SlidingWindows

/-- Number of listed times in the half-open window of this width ending at t. -/
def countIn (width : ℤ) (times : List ℤ) (t : ℤ) : ℕ :=
  times.countP fun a => t - width < a ∧ a ≤ t

/-- Every event finds fewer than the limit of earlier events in its own window. -/
def Spaced (width : ℤ) (limit : ℕ) (times : List ℤ) : Prop :=
  ∀ before a after, times = before ++ a :: after → countIn width before a < limit

theorem countIn_append (width : ℤ) (first second : List ℤ) (t : ℤ) :
    countIn width (first ++ second) t = countIn width first t + countIn width second t :=
  List.countP_append

theorem countIn_singleton_of_mem {width t a : ℤ} (hl : t - width < a) (hu : a ≤ t) :
    countIn width [a] t = 1 := by
  simp [countIn, hl, hu]

theorem countIn_singleton_le (width t a : ℤ) : countIn width [a] t ≤ 1 := List.countP_le_length

/-- Of times that have passed, the window that ends now holds those after its start. -/
theorem countIn_eq_length_filter {width now : ℤ} {times : List ℤ} (h : ∀ a ∈ times, a ≤ now) :
    countIn width times now = (times.filter fun a => now - width < a).length := by
  rw [countIn, ← List.countP_eq_length_filter]
  refine List.countP_congr fun a ha => ?_
  have hle := h a ha
  simp only [decide_eq_true_eq]
  omega

/-- What has left the window that ends now has left every later one. -/
theorem filter_filter_window (width : ℤ) {now later : ℤ} (hle : now ≤ later) (times : List ℤ) :
    (times.filter fun a => now - width < a).filter (fun a => later - width < a) =
      times.filter fun a => later - width < a := by
  rw [List.filter_filter]
  refine List.filter_congr fun a _ => ?_
  rw [← Bool.decide_and, decide_eq_decide]
  omega

/-- A later window reaches no further back over times that precede an event. -/
theorem countIn_le_of_window (width : ℤ) {t m : ℤ} {times : List ℤ} (hm : ∀ a ∈ times, a ≤ m)
    (hmt : m ≤ t) : countIn width times t ≤ countIn width times m := by
  refine List.countP_mono_left fun a ha h => ?_
  have hle := hm a ha
  simp only [decide_eq_true_eq] at h ⊢
  omega

theorem spaced_append_singleton {width : ℤ} {limit : ℕ} {times : List ℤ} {m : ℤ} :
    Spaced width limit (times ++ [m]) ↔
      Spaced width limit times ∧ countIn width times m < limit := by
  constructor
  · intro h
    refine ⟨fun before a after he => ?_, h times m [] rfl⟩
    exact h before a (after ++ [m]) (by rw [he]; simp)
  · rintro ⟨h, hlast⟩ before a after he
    rcases List.eq_nil_or_concat after with rfl | ⟨after, b, rfl⟩
    · obtain ⟨rfl, hs⟩ := List.append_inj' he rfl
      cases hs
      exact hlast
    · refine h before a after ?_
      have he' : times ++ [m] = (before ++ a :: after) ++ [b] := by rw [he]; simp
      exact (List.append_inj' he' rfl).1

/-- Every event finds fewer than the limit of earlier events in its own window,
where these events follow others. -/
def SpacedAfter (width : ℤ) (limit : ℕ) : List ℤ → List ℤ → Prop
  | _, [] => True
  | past, a :: times => countIn width past a < limit ∧ SpacedAfter width limit (past ++ [a]) times

theorem spacedAfter_iff {width : ℤ} {limit : ℕ} {past times : List ℤ} :
    SpacedAfter width limit past times ↔
      ∀ before a after, times = before ++ a :: after →
        countIn width (past ++ before) a < limit := by
  induction times generalizing past with
  | nil =>
    refine ⟨fun _ before a after he => ?_, fun _ => trivial⟩
    exact absurd he.symm (List.append_ne_nil_of_right_ne_nil before (List.cons_ne_nil a after))
  | cons m times ih =>
    rw [SpacedAfter, ih]
    constructor
    · rintro ⟨hhead, htail⟩ before a after he
      cases before with
      | nil =>
        cases he
        rw [List.append_nil]
        exact hhead
      | cons b before =>
        obtain ⟨rfl, hrest⟩ := List.cons_eq_cons.mp he
        have hlater := htail before a after hrest
        rw [List.append_assoc] at hlater
        exact hlater
    · intro h
      have hhead := h [] m times rfl
      rw [List.append_nil] at hhead
      refine ⟨hhead, fun before a after he => ?_⟩
      rw [List.append_assoc]
      exact h (m :: before) a after (by rw [he, List.cons_append])

theorem spacedAfter_nil {width : ℤ} {limit : ℕ} {times : List ℤ} :
    SpacedAfter width limit [] times ↔ Spaced width limit times := spacedAfter_iff

/-- Every window is within the limit exactly when every event is spaced. -/
theorem forall_countIn_le_iff_spaced {width : ℤ} (hw : 0 < width) {limit : ℕ} {times : List ℤ}
    (hs : times.Pairwise (· ≤ ·)) :
    (∀ t, countIn width times t ≤ limit) ↔ Spaced width limit times := by
  constructor
  · intro h before a after he
    have hc := h a
    have hone : countIn width [a] a = 1 := countIn_singleton_of_mem (by omega) (Int.le_refl a)
    rw [he, List.append_cons, countIn_append, countIn_append, hone] at hc
    omega
  · intro h t
    induction times using List.reverseRecOn with
    | nil => exact Nat.zero_le _
    | append_singleton times m ih =>
      obtain ⟨hearlier, hm⟩ := spaced_append_singleton.mp h
      obtain ⟨hsorted, -, hle⟩ := List.pairwise_append.mp hs
      have hrest := ih hsorted hearlier
      rw [countIn_append]
      by_cases hin : t - width < m ∧ m ≤ t
      · -- the window holds m, so what it holds before m is also in m's own window
        have hback := countIn_le_of_window width
          (fun a ha => hle a ha m (List.mem_singleton_self m)) hin.2
        have hone := countIn_singleton_le width t m
        omega
      · have hzero : countIn width [m] t = 0 := by simp [countIn, hin]
        omega

end CislunarDtn.SlidingWindows
