import Mathlib.Data.Int.Init
import Mathlib.Algebra.BigOperators.Group.List.Basic
import Mathlib.Tactic.NormNum

/-!
# Exact ranges of wrapped 64-bit arithmetic

Machine counters add and subtract modulo 2^64. These rules say when the
wrapped result is the mathematical one, what it is after one overflow, and
that a running total kept in wrapped arithmetic represents the exact total
modulo 2^64 whether or not it overflowed.
-/

namespace CislunarDtn.WrappedInt64

/-- Reduction modulo the machine modulus fixes every integer of the signed range. -/
theorem bmod_of_range {n : ℤ} (hl : -2 ^ 63 ≤ n) (hu : n < 2 ^ 63) : n.bmod (2 ^ 64) = n :=
  Int.bmod_eq_of_le (by norm_num; omega) (by norm_num; omega)

/-- A sum that stays in the signed range is exact. -/
theorem toInt_add_of_range {a b : Int64} (hl : -2 ^ 63 ≤ a.toInt + b.toInt)
    (hu : a.toInt + b.toInt < 2 ^ 63) : (a + b).toInt = a.toInt + b.toInt := by
  rw [Int64.toInt_add, bmod_of_range hl hu]

/-- A difference that stays in the signed range is exact. -/
theorem toInt_sub_of_range {a b : Int64} (hl : -2 ^ 63 ≤ a.toInt - b.toInt)
    (hu : a.toInt - b.toInt < 2 ^ 63) : (a - b).toInt = a.toInt - b.toInt := by
  rw [Int64.toInt_sub, bmod_of_range hl hu]

/-- The sum of two nonnegative words that leaves the signed range is negative:
exactly one modulus is lost. -/
theorem toInt_add_of_overflow {a b : Int64} (ha : 0 ≤ a.toInt) (hb : 0 ≤ b.toInt)
    (h : 2 ^ 63 ≤ a.toInt + b.toInt) : (a + b).toInt = a.toInt + b.toInt - 2 ^ 64 := by
  have hua := a.toInt_lt
  have hub := b.toInt_lt
  have hr : (a.toInt + b.toInt - 2 ^ 64).bmod (2 ^ 64) = a.toInt + b.toInt - 2 ^ 64 :=
    bmod_of_range (by omega) (by omega)
  rw [Int64.toInt_add, ← hr]
  exact (Int.sub_bmod_right (a.toInt + b.toInt) (2 ^ 64)).symm

/-- Nonnegativity is read off the mathematical value. -/
theorem nonneg_iff {a : Int64} : 0 ≤ a ↔ 0 ≤ a.toInt := Int64.le_iff_toInt_le

/-- A word is the encoding of an in-range integer exactly when that is its value. -/
theorem toInt_eq_of_eq_ofInt {a : Int64} {n : ℤ} (h : a = Int64.ofInt n)
    (hl : -2 ^ 63 ≤ n) (hu : n < 2 ^ 63) : a.toInt = n := by
  rw [h, Int64.toInt_ofInt]
  exact bmod_of_range hl hu

/-- A counter that encodes a number exactly, and is raised by a gain while the
number rises by a loss, encodes it afterwards exactly when gain and loss are
the same word and the number stays in range. -/
theorem toInt_eq_iff_of_gain {old new : Int64} {lost gain loss : ℕ}
    (hnew : new = old + Int64.ofInt gain) (hold : old.toInt = lost) :
    new.toInt = ((lost + loss : ℕ) : ℤ) ↔
      Int64.ofInt gain = Int64.ofInt loss ∧ lost + loss < 2 ^ 63 := by
  have hword : old = Int64.ofInt lost := by
    rw [← hold, Int64.ofInt_toInt]
  constructor
  · intro h
    have hlt := new.toInt_lt
    have hsum : new = old + Int64.ofInt loss := by
      rw [hword, ← Int64.ofInt_add, ← Nat.cast_add, ← h, Int64.ofInt_toInt]
    refine ⟨?_, by omega⟩
    grind
  · intro h
    obtain ⟨hsame, hrange⟩ := h
    rw [hsame, hword, ← Int64.ofInt_add, ← Nat.cast_add] at hnew
    exact toInt_eq_of_eq_ofInt hnew (by omega) (by omega)

/-- A running total in wrapped arithmetic encodes the starting value plus the
exact sum of the weights, in whatever order they are added. -/
theorem foldl_add_ofNat {α : Type*} (w : α → ℕ) (l : List α) (n : ℤ) :
    l.foldl (fun acc a => acc + Int64.ofNat (w a)) (Int64.ofInt n) =
      Int64.ofInt (n + (l.map w).sum) := by
  induction l generalizing n with
  | nil => simp
  | cons a l ih =>
    have hs : Int64.ofInt n + Int64.ofNat (w a) = Int64.ofInt (n + w a) := by
      rw [Int64.ofInt_add, Int64.ofInt_eq_ofNat]
    rw [List.foldl_cons, hs, ih]
    simp only [List.map_cons, List.sum_cons, Nat.cast_add, add_assoc]

end CislunarDtn.WrappedInt64
