import Mathlib.Data.List.Nodup
import Mathlib.Data.List.ReduceOption

/-!
# Lists completed by defaults

Some values of a list are left open, and each of these gets a default that may
depend on its index. The completed list has no duplicates exactly if the given
values differ, the defaults of the gaps differ, and no gap has a default that is
given elsewhere. Two cases are singled out: defaults that differ for all indices,
and one default for all gaps, of which there is then at most one.
-/

namespace CislunarDtn.FilledDefaults

variable {α : Type*} (f : ℕ → α) (n : ℕ) (given : List (Option α))

/-- The values with defaults for the open ones, where indices count from `n`. -/
def filled (f : ℕ → α) : ℕ → List (Option α) → List α
  | _, [] => []
  | n, value :: given => value.getD (f n) :: filled f (n + 1) given

/-- Indices of the open values. -/
def gaps : ℕ → List (Option α) → List ℕ
  | _, [] => []
  | n, none :: given => n :: gaps (n + 1) given
  | n, some _ :: given => gaps (n + 1) given

/-- A list is completed value by value. -/
theorem filled_eq_map_zipIdx :
    filled f n given = (given.zipIdx n).map fun (value, i) => value.getD (f i) := by
  induction given generalizing n with
  | nil => rfl
  | cons value given ih =>
    rw [filled, ih, List.zipIdx_cons, List.map_cons]

/-- The completed list holds what was given and the defaults of the gaps. -/
theorem filled_perm : (filled f n given).Perm (given.reduceOption ++ (gaps n given).map f) := by
  induction given generalizing n with
  | nil => exact List.Perm.refl []
  | cons value given ih =>
    cases value with
    | none =>
      rw [filled, gaps, List.reduceOption_cons_of_none, List.map_cons, Option.getD_none]
      exact ((ih (n + 1)).cons (f n)).trans List.perm_middle.symm
    | some a =>
      rw [filled, gaps, List.reduceOption_cons_of_some, List.cons_append, Option.getD_some]
      exact (ih (n + 1)).cons a

theorem mem_gaps_iff {i : ℕ} : i ∈ gaps n given ↔ ∃ k, given[k]? = some none ∧ i = n + k := by
  induction given generalizing n with
  | nil => simp [gaps]
  | cons value given ih =>
    have hlater : i ∈ gaps (n + 1) given ↔
        ∃ k, (value :: given)[k + 1]? = some none ∧ i = n + (k + 1) := by
      refine (ih (n + 1)).trans (exists_congr fun k => ?_)
      rw [List.getElem?_cons_succ, Nat.add_assoc, Nat.add_comm 1 k]
    rw [← Nat.or_exists_add_one, ← hlater, List.getElem?_cons_zero]
    cases value <;> simp [gaps]

theorem mem_gaps_zero_iff {i : ℕ} : i ∈ gaps 0 given ↔ given[i]? = some none := by
  simp [mem_gaps_iff]

theorem mem_none_iff : none ∈ given ↔ ∃ i, i ∈ gaps n given := by
  rw [List.mem_iff_getElem?]
  constructor
  · rintro ⟨k, hk⟩
    exact ⟨n + k, (mem_gaps_iff n given).mpr ⟨k, hk, rfl⟩⟩
  · rintro ⟨i, hi⟩
    obtain ⟨k, hk, -⟩ := (mem_gaps_iff n given).mp hi
    exact ⟨k, hk⟩

/-- Gaps are listed in ascending order. -/
theorem pairwise_gaps : (gaps n given).Pairwise (· < ·) := by
  induction given generalizing n with
  | nil => exact List.Pairwise.nil
  | cons value given ih =>
    cases value with
    | none =>
      refine List.pairwise_cons.mpr ⟨fun i hi => ?_, ih (n + 1)⟩
      obtain ⟨k, -, rfl⟩ := (mem_gaps_iff (n + 1) given).mp hi
      omega
    | some a => exact ih (n + 1)

theorem nodup_gaps : (gaps n given).Nodup :=
  (pairwise_gaps n given).imp Nat.ne_of_lt

theorem length_gaps : (gaps n given).length = given.countP Option.isNone := by
  induction given generalizing n with
  | nil => rfl
  | cons value given ih =>
    cases value with
    | none => rw [gaps, List.length_cons, ih, List.countP_cons_of_pos rfl]
    | some a => rw [gaps, ih, List.countP_cons_of_neg (by simp)]

variable {f n given}

/-- When a completed list has no duplicates. -/
theorem nodup_filled_iff : (filled f n given).Nodup ↔ given.reduceOption.Nodup ∧
    ((gaps n given).map f).Nodup ∧ ∀ i ∈ gaps n given, some (f i) ∉ given := by
  rw [(filled_perm f n given).nodup_iff, List.nodup_append']
  refine and_congr_right fun _ => and_congr_right fun _ => ?_
  rw [List.disjoint_right, List.forall_mem_map]
  exact forall₂_congr fun i _ => not_congr List.reduceOption_mem_iff

/-- Defaults that differ do not collide with each other. -/
theorem nodup_filled_iff_of_injective (hf : Function.Injective f) :
    (filled f n given).Nodup ↔
      given.reduceOption.Nodup ∧ ∀ i ∈ gaps n given, some (f i) ∉ given := by
  rw [nodup_filled_iff, List.nodup_map_iff hf]
  exact and_congr_right fun _ => and_iff_right (nodup_gaps n given)

/-- One default for all gaps is taken at most once. -/
theorem nodup_filled_const_iff {a : α} : (filled (fun _ => a) n given).Nodup ↔
    given.reduceOption.Nodup ∧ given.countP Option.isNone ≤ 1 ∧
      (none ∈ given → some a ∉ given) := by
  rw [nodup_filled_iff, List.map_const', List.nodup_replicate, length_gaps]
  rw [mem_none_iff n given, exists_imp]

end CislunarDtn.FilledDefaults
