import CislunarDtn.TextScans
import Mathlib.Algebra.BigOperators.Group.List.Basic
import Mathlib.Algebra.GroupWithZero.Nat

/-!
# Slices of texts by bytes

Positions in a text count the bytes of its UTF-8 encoding. A text can be cut at
a position that lies between two characters, at its beginning or at its end. A
pattern is found at such a position, and so is what follows it.
-/

namespace CislunarDtn.Utf8Slices

open DecimalTexts TextScans

/-- Number of bytes of a text. -/
def byteLength (text : Text) : ℕ := (text.map Char.utf8Size).sum

/-- A position that does not lie between characters. -/
structure BoundaryError where
  /-- The position. -/
  position : ℕ
  deriving DecidableEq

/-- The parts of a text before and after a position. -/
def splitAtByte : ℕ → Text → Option (Text × Text)
  | 0, text => some ([], text)
  | _ + 1, [] => none
  | n + 1, c :: text =>
    if c.utf8Size ≤ n + 1 then
      (splitAtByte (n + 1 - c.utf8Size) text).map fun parts => (c :: parts.1, parts.2)
    else none

/-- The text up to a position. -/
def sliceTo (text : Text) (position : ℕ) : Except BoundaryError Text :=
  match splitAtByte position text with
  | some parts => .ok parts.1
  | none => .error ⟨position⟩

/-- The text from a position. -/
def sliceFrom (text : Text) (position : ℕ) : Except BoundaryError Text :=
  match splitAtByte position text with
  | some parts => .ok parts.2
  | none => .error ⟨position⟩

/-- Position of the first occurrence of a pattern. -/
def find (pattern : Text) : Text → Option ℕ
  | [] => if pattern = [] then some 0 else none
  | c :: text =>
    if pattern.isPrefixOf (c :: text) then some 0 else (find pattern text).map (c.utf8Size + ·)

/-- A position between characters. -/
def IsBoundary (text : Text) (position : ℕ) : Prop :=
  ∃ front back, text = front ++ back ∧ byteLength front = position

@[simp]
theorem byteLength_nil : byteLength [] = 0 := rfl

@[simp]
theorem byteLength_cons (c : Char) (text : Text) :
    byteLength (c :: text) = c.utf8Size + byteLength text := by
  simp [byteLength]

@[simp]
theorem byteLength_append (front back : Text) :
    byteLength (front ++ back) = byteLength front + byteLength back := by
  simp [byteLength]

/-- A text has at least one byte for each character. -/
theorem length_le_byteLength (text : Text) : text.length ≤ byteLength text := by
  induction text with
  | nil => exact le_refl 0
  | cons c text ih =>
    have hpos := c.utf8Size_pos
    rw [byteLength_cons, List.length_cons]
    omega

theorem byteLength_eq_zero {text : Text} (h : byteLength text = 0) : text = [] := by
  have hle := length_le_byteLength text
  exact List.length_eq_zero_iff.mp (by omega)

/-- Before the first byte there is nothing. -/
theorem splitAtByte_zero_eq_some_iff {text front back : Text} :
    splitAtByte 0 text = some (front, back) ↔ text = front ++ back ∧ byteLength front = 0 := by
  rw [splitAtByte, Option.some.injEq, Prod.mk.injEq]
  constructor
  · rintro ⟨rfl, rfl⟩
    exact ⟨rfl, rfl⟩
  · rintro ⟨rfl, hbytes⟩
    rw [byteLength_eq_zero hbytes]
    exact ⟨rfl, rfl⟩

/-- A text is cut exactly between two parts of it of which the first has so many bytes. -/
theorem splitAtByte_eq_some_iff {n : ℕ} {text front back : Text} :
    splitAtByte n text = some (front, back) ↔ text = front ++ back ∧ byteLength front = n := by
  induction text generalizing n front with
  | nil =>
    cases n with
    | zero => exact splitAtByte_zero_eq_some_iff
    | succ n =>
      simp only [splitAtByte, false_iff, reduceCtorEq]
      rintro ⟨happend, hbytes⟩
      rw [(List.append_eq_nil_iff.mp happend.symm).1] at hbytes
      simp at hbytes
  | cons c text ih =>
    have hpos := c.utf8Size_pos
    cases n with
    | zero => exact splitAtByte_zero_eq_some_iff
    | succ n =>
      rw [splitAtByte]
      by_cases hfits : c.utf8Size ≤ n + 1
      · rw [if_pos hfits, Option.map_eq_some_iff]
        constructor
        · rintro ⟨⟨first, rest⟩, hsplit, hparts⟩
          obtain ⟨rfl, rfl⟩ := Prod.mk.inj hparts
          obtain ⟨rfl, hbytes⟩ := ih.mp hsplit
          refine ⟨rfl, ?_⟩
          rw [byteLength_cons, hbytes]
          omega
        · rintro ⟨happend, hbytes⟩
          cases front with
          | nil => simp at hbytes
          | cons d front =>
            obtain ⟨rfl, hrest⟩ := List.cons.inj happend
            rw [byteLength_cons] at hbytes
            exact ⟨(front, back), ih.mpr ⟨hrest, by omega⟩, rfl⟩
      · rw [if_neg hfits]
        simp only [false_iff, reduceCtorEq]
        rintro ⟨happend, hbytes⟩
        cases front with
        | nil => simp at hbytes
        | cons d front =>
          obtain ⟨rfl, -⟩ := List.cons.inj happend
          rw [byteLength_cons] at hbytes
          omega

/-- A text is cut exactly at a position between characters. -/
theorem sliceTo_ok_iff {text : Text} {position : ℕ} :
    (∃ front, sliceTo text position = .ok front) ↔ IsBoundary text position := by
  unfold sliceTo IsBoundary
  cases h : splitAtByte position text with
  | some parts =>
    obtain ⟨front, back⟩ := parts
    exact iff_of_true ⟨front, rfl⟩ ⟨front, back, splitAtByte_eq_some_iff.mp h⟩
  | none =>
    refine iff_of_false (fun hok => ?_) fun hboundary => ?_
    · obtain ⟨front, hok⟩ := hok
      cases hok
    · obtain ⟨front, back, hparts⟩ := hboundary
      rw [splitAtByte_eq_some_iff.mpr hparts] at h
      cases h

/-- The end of a text is a boundary. -/
theorem isBoundary_byteLength (text : Text) : IsBoundary text (byteLength text) :=
  ⟨text, [], (List.append_nil text).symm, rfl⟩

/-- A text of ASCII has one byte for each character. -/
theorem byteLength_of_ascii {text : Text} (h : ∀ c ∈ text, c.toNat < 128) :
    byteLength text = text.length := by
  induction text with
  | nil => rfl
  | cons c text ih =>
    have hc : c.toNat < 128 := h c List.mem_cons_self
    have hsize : c.utf8Size = 1 :=
      Char.utf8Size_eq_one_iff.mpr (UInt32.le_iff_toNat_le.mpr (Nat.le_of_lt_succ hc))
    rw [byteLength_cons, hsize, ih fun d hd => h d (List.mem_cons_of_mem c hd), List.length_cons]
    omega

/-- Such a text can be cut everywhere. -/
theorem isBoundary_of_ascii {text : Text} (h : ∀ c ∈ text, c.toNat < 128) {position : ℕ}
    (hle : position ≤ byteLength text) : IsBoundary text position := by
  refine ⟨text.take position, text.drop position, (List.take_append_drop _ _).symm, ?_⟩
  rw [byteLength_of_ascii h] at hle
  rw [byteLength_of_ascii fun c hc => h c (List.mem_of_mem_take hc), List.length_take]
  omega

/-- From the end of a first part on there is the rest. -/
theorem sliceFrom_append (front back : Text) :
    sliceFrom (front ++ back) (byteLength front) = .ok back := by
  rw [sliceFrom, splitAtByte_eq_some_iff.mpr ⟨rfl, rfl⟩]

theorem isPrefixOf?_eq_none {pattern text : Text} (h : ¬pattern.isPrefixOf text = true) :
    pattern.isPrefixOf? text = none := by
  rw [← Option.not_isSome_iff_eq_none]
  intro hsome
  obtain ⟨back, hback⟩ := Option.isSome_iff_exists.mp hsome
  exact h (List.isPrefixOf_iff_prefix.mpr
    ⟨back, List.isPrefixOf?_eq_some_iff_append_eq.mp hback⟩)

/-- A pattern that is found stands at its position, before what follows it. -/
theorem find_eq_some {pattern text : Text} {position : ℕ} (h : find pattern text = some position) :
    ∃ front back, text = front ++ pattern ++ back ∧ byteLength front = position ∧
      afterFirst pattern text = some back := by
  induction text generalizing position with
  | nil =>
    rw [find] at h
    split at h
    next hnil =>
      obtain rfl := Option.some.inj h
      exact ⟨[], [], by simp [hnil], rfl, if_pos hnil⟩
    next => cases h
  | cons c text ih =>
    rw [find] at h
    split at h
    next hprefix =>
      obtain rfl := Option.some.inj h
      obtain ⟨back, hback⟩ := List.isPrefixOf_iff_prefix.mp hprefix
      refine ⟨[], back, by simp [hback], rfl, ?_⟩
      rw [afterFirst, List.isPrefixOf?_eq_some_iff_append_eq.mpr hback]
      rfl
    next hprefix =>
      obtain ⟨rest, hrest, rfl⟩ := Option.map_eq_some_iff.mp h
      obtain ⟨front, back, htext, hbytes, hafter⟩ := ih hrest
      refine ⟨c :: front, back, by rw [htext]; rfl, by rw [byteLength_cons, hbytes], ?_⟩
      rw [afterFirst, isPrefixOf?_eq_none hprefix]
      exact hafter

/-- A pattern that is not found has nothing after it. -/
theorem afterFirst_of_find_eq_none {pattern text : Text} (h : find pattern text = none) :
    afterFirst pattern text = none := by
  induction text with
  | nil =>
    rw [find] at h
    split at h
    next => cases h
    next hne => exact if_neg hne
  | cons c text ih =>
    rw [find] at h
    split at h
    next => cases h
    next hprefix =>
      rw [afterFirst, isPrefixOf?_eq_none hprefix]
      exact ih (Option.map_eq_none_iff.mp h)

/-- What follows a pattern that is found begins between characters. -/
theorem sliceFrom_find {pattern text : Text} {position : ℕ}
    (h : find pattern text = some position) :
    ∃ back, sliceFrom text (position + byteLength pattern) = .ok back ∧
      afterFirst pattern text = some back := by
  obtain ⟨front, back, rfl, rfl, hafter⟩ := find_eq_some h
  refine ⟨back, ?_, hafter⟩
  rw [← byteLength_append]
  exact sliceFrom_append (front ++ pattern) back

end CislunarDtn.Utf8Slices
