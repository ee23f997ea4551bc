import Mathlib.Data.List.Basic
import Mathlib.Data.Int.Notation

/-!
# Decimal numbers in texts

Numbers are printed in decimal, with a hyphen before the digits of a negative
one, and read back. Printed numbers contain nothing but digits and that hyphen.
-/

namespace CislunarDtn.DecimalTexts

/-- A text: any sequence of Unicode scalar values. -/
abbrev Text := List Char

instance lawfulBEqText : LawfulBEq Text := inferInstanceAs (LawfulBEq (List Char))

/-- The characters of a literal. -/
def chars (s : String) : Text := s.toList

/-- Decimal rendering of a natural number. -/
def decimal (n : ℕ) : Text := Nat.toDigits 10 n

/-- Decimal rendering of an integer. -/
def signedDecimal (n : ℤ) : Text :=
  if n < 0 then '-' :: decimal n.natAbs else decimal n.natAbs

/-- The number that a sequence of digits stands for. -/
def readDecimal (text : Text) : Option ℕ :=
  if text ≠ [] ∧ text.all Char.isDigit then some (Nat.ofDigitChars 10 text 0) else none

/-- The number that digits stand for, with a hyphen before them or without. -/
def readSigned : Text → Option ℤ
  | '-' :: digits => (readDecimal digits).map fun n : ℕ => -(n : ℤ)
  | digits => (readDecimal digits).map fun n : ℕ => (n : ℤ)

theorem isDigit_of_mem_decimal {n : ℕ} {c : Char} (h : c ∈ decimal n) : c.isDigit = true :=
  Nat.isDigit_of_mem_toDigits (by omega) (by omega) h

/-- Printed numbers contain nothing but digits. -/
theorem notMem_decimal {c : Char} (h : c.isDigit = false) (n : ℕ) : c ∉ decimal n := by
  intro hm
  exact Bool.false_ne_true (h.symm.trans (isDigit_of_mem_decimal hm))

theorem notMem_signedDecimal {c : Char} (h : c.isDigit = false) (hne : c ≠ '-') (n : ℤ) :
    c ∉ signedDecimal n := by
  unfold signedDecimal
  split
  · exact List.not_mem_cons_of_ne_of_not_mem hne (notMem_decimal h _)
  · exact notMem_decimal h _

theorem decimal_ne_nil (n : ℕ) : decimal n ≠ [] := Nat.toDigits_ne_nil

theorem signedDecimal_ne_nil (n : ℤ) : signedDecimal n ≠ [] := by
  unfold signedDecimal
  split
  · exact List.cons_ne_nil _ _
  · exact decimal_ne_nil _

/-- A printed number is read back. -/
theorem readDecimal_decimal (n : ℕ) : readDecimal (decimal n) = some n := by
  have hdigits : (decimal n).all Char.isDigit = true :=
    List.all_eq_true.mpr fun _ hc => isDigit_of_mem_decimal hc
  have hvalue : Nat.ofDigitChars 10 (decimal n) 0 = n :=
    Nat.ofDigitChars_toDigits (by omega) (by omega)
  rw [readDecimal, if_pos ⟨decimal_ne_nil n, hdigits⟩, hvalue]

/-- A printed integer is read back. -/
theorem readSigned_signedDecimal (n : ℤ) : readSigned (signedDecimal n) = some n := by
  unfold signedDecimal
  split
  next hneg =>
    rw [readSigned, readDecimal_decimal, Option.map_some]
    congr 1
    omega
  next hpos =>
    have hread : readSigned (decimal n.natAbs) =
        (readDecimal (decimal n.natAbs)).map fun n : ℕ => (n : ℤ) := by
      cases hd : decimal n.natAbs with
      | nil => rfl
      | cons c digits =>
        have hc : c ≠ '-' := by
          rintro rfl
          have hm : '-' ∈ decimal n.natAbs := hd ▸ List.mem_cons_self
          exact notMem_decimal (by decide) _ hm
        rw [readSigned]
        simpa using hc
    rw [hread, readDecimal_decimal, Option.map_some]
    congr 1
    omega

theorem decimal_injective {m n : ℕ} (h : decimal m = decimal n) : m = n := by
  have hread := congrArg readDecimal h
  rw [readDecimal_decimal, readDecimal_decimal] at hread
  exact Option.some.inj hread

theorem decimal_inj {m n : ℕ} : decimal m = decimal n ↔ m = n := by
  constructor
  · exact decimal_injective
  · exact congrArg decimal

end CislunarDtn.DecimalTexts
