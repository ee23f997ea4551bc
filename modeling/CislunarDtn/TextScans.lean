import CislunarDtn.DecimalTexts
import Mathlib.Data.List.DropRight
import Mathlib.Data.List.TakeWhile

/-!
# Scanning texts

Blanks at the ends of a text, the first occurrence of a pattern, a number at
the beginning, and lower case. Lower case is given by tables of Unicode that
are left open; of ASCII texts it is known.
-/

namespace CislunarDtn.TextScans

open DecimalTexts

/-- White space of Unicode. -/
def isWhitespace (c : Char) : Bool :=
  (9 ≤ c.toNat && c.toNat ≤ 13) || (0x2000 ≤ c.toNat && c.toNat ≤ 0x200A) ||
    c.toNat ∈ [0x20, 0x85, 0xA0, 0x1680, 0x2028, 0x2029, 0x202F, 0x205F, 0x3000]

/-- A text without the white space at its ends. -/
def trim (text : Text) : Text := (text.dropWhile isWhitespace).rdropWhile isWhitespace

/-- What follows the first occurrence of a pattern. -/
def afterFirst (pattern : Text) : Text → Option Text
  | [] => if pattern = [] then some [] else none
  | c :: text => pattern.isPrefixOf? (c :: text) <|> afterFirst pattern text

/-- Whether a pattern occurs in a text. -/
def contains (pattern text : Text) : Bool := (afterFirst pattern text).isSome

/-- The digits at the beginning. -/
def leadingDigits (text : Text) : Text := text.takeWhile Char.isDigit

/-- The number that digits stand for, if it has 64 bits. -/
def parseUInt64 (digits : Text) : Option UInt64 :=
  (readDecimal digits).bind fun n => if n < UInt64.size then some (.ofNat n) else none

/-- Conversion of texts to lower case. -/
structure Lowercasing where
  /-- The text in lower case. -/
  toLowercase : Text → Text
  /-- The letters of ASCII texts are converted one by one. -/
  ascii : ∀ text, (∀ c ∈ text, c.toNat < 128) → toLowercase text = text.map Char.toLower

/-- Conversion of the ASCII letters alone. -/
def asciiLowercasing : Lowercasing := ⟨List.map Char.toLower, fun _ _ => rfl⟩

theorem isWhitespace_of_isDigit {c : Char} (h : c.isDigit = true) : isWhitespace c = false := by
  have hrange : 48 ≤ c.toNat ∧ c.toNat ≤ 57 := Char.isDigit_iff_toNat.mp h
  simp only [isWhitespace, Bool.or_eq_false_iff, Bool.and_eq_false_iff, decide_eq_false_iff_not,
    List.mem_cons, List.not_mem_nil, or_false, not_or]
  omega

/-- Only capital letters of ASCII are changed, and they become small ones. -/
theorem toNat_of_toLower_ne {c : Char} (h : c.toLower ≠ c) :
    65 ≤ c.toNat ∧ c.toNat ≤ 90 ∧ c.toLower.toNat = c.toNat + 32 := by
  have hupper : c.val ≥ 'A'.val ∧ c.val ≤ 'Z'.val := by
    by_contra hother
    exact h (dif_neg hother)
  have hge : 65 ≤ c.toNat := UInt32.le_iff_toNat_le.mp hupper.1
  have hle : c.toNat ≤ 90 := UInt32.le_iff_toNat_le.mp hupper.2
  have hlower : c.toLower.val = c.val + ('a'.val - 'A'.val) := congrArg Char.val (dif_pos hupper)
  have hval : c.toLower.toNat = (c.toNat + 32) % 2 ^ 32 :=
    (congrArg UInt32.toNat hlower).trans (UInt32.toNat_add c.val ('a'.val - 'A'.val))
  omega

theorem toLower_of_isDigit {c : Char} (h : c.isDigit = true) : c.toLower = c := by
  have hrange : 48 ≤ c.toNat ∧ c.toNat ≤ 57 := Char.isDigit_iff_toNat.mp h
  by_contra hne
  have hupper := toNat_of_toLower_ne hne
  omega

/-- What does not become a small letter was not changed. -/
theorem eq_of_toLower_eq {c d : Char} (h : c.toLower = d) (hd : d.toNat < 97 ∨ 122 < d.toNat) :
    c = d := by
  by_contra hne
  have hupper := toNat_of_toLower_ne (c := c) fun hsame => hne (hsame.symm.trans h)
  rw [h] at hupper
  omega

@[simp]
theorem toLower_toLower (c : Char) : c.toLower.toLower = c.toLower := by
  by_cases hsame : c.toLower = c
  · rw [hsame, hsame]
  · have hupper := toNat_of_toLower_ne hsame
    by_contra hagain
    have hagain := toNat_of_toLower_ne hagain
    omega

theorem isWhitespace_toLower (c : Char) : isWhitespace c.toLower = isWhitespace c := by
  by_cases hsame : c.toLower = c
  · rw [hsame]
  · have hupper := toNat_of_toLower_ne hsame
    rw [Bool.eq_iff_iff]
    simp only [isWhitespace, Bool.or_eq_true, Bool.and_eq_true, decide_eq_true_eq,
      List.mem_cons, List.not_mem_nil, or_false]
    omega

theorem toNat_lt_of_toLower {c : Char} (h : c.toLower.toNat < 128) : c.toNat < 128 := by
  by_cases hsame : c.toLower = c
  · rwa [hsame] at h
  · have hupper := toNat_of_toLower_ne hsame
    omega

/-- A text that neither begins nor ends with white space is left as it is. -/
theorem trim_eq_self {text : Text} (hfirst : ∀ c ∈ text.head?, isWhitespace c = false)
    (hlast : ∀ c ∈ text.getLast?, isWhitespace c = false) : trim text = text := by
  have hdrop : text.dropWhile isWhitespace = text := by
    cases text with
    | nil => rfl
    | cons c text => simp [hfirst c rfl]
  rw [trim, hdrop, List.rdropWhile_eq_self_iff]
  intro hne
  simp [hlast _ (List.getLast?_eq_some_getLast hne)]

theorem trim_of_forall {text : Text} (h : ∀ c ∈ text, isWhitespace c = false) :
    trim text = text :=
  trim_eq_self (fun c hc => h c (List.mem_of_mem_head? hc))
    (fun c hc => h c (List.mem_of_mem_getLast? hc))

/-- White space before a text without white space is removed. -/
theorem trim_cons {c : Char} (hc : isWhitespace c = true) {text : Text}
    (h : ∀ c ∈ text, isWhitespace c = false) : trim (c :: text) = text := by
  have htrim : trim (c :: text) = trim text := by simp [trim, hc]
  rw [htrim, trim_of_forall h]

theorem isWhitespace_of_mem_decimal {n : ℕ} {c : Char} (h : c ∈ decimal n) :
    isWhitespace c = false :=
  isWhitespace_of_isDigit (isDigit_of_mem_decimal h)

theorem trim_decimal (n : ℕ) : trim (decimal n) = decimal n :=
  trim_of_forall fun _ hc => isWhitespace_of_mem_decimal hc

section patterns

/-- Two texts differ where both of them go on. -/
def clashes : Text → Text → Bool
  | a :: pattern, c :: text => a ≠ c || clashes pattern text
  | _, _ => false

/-- A pattern begins nowhere in a text, whatever follows it. -/
def avoids (pattern : Text) : Text → Bool
  | [] => true
  | c :: text => clashes pattern (c :: text) && avoids pattern text

theorem isPrefixOf?_append_of_clashes {pattern text : Text} (h : clashes pattern text = true)
    (back : Text) : pattern.isPrefixOf? (text ++ back) = none := by
  induction pattern generalizing text with
  | nil => simp [clashes] at h
  | cons a pattern ih =>
    cases text with
    | nil => simp [clashes] at h
    | cons c text =>
      rw [clashes, Bool.or_eq_true, decide_eq_true_eq] at h
      rcases h with hne | hrest
      · simp [List.isPrefixOf?, hne]
      · simp [List.isPrefixOf?, ih hrest]

/-- A text that a pattern avoids is passed over. -/
theorem afterFirst_append_of_avoids {pattern text : Text} (h : avoids pattern text = true)
    (back : Text) : afterFirst pattern (text ++ back) = afterFirst pattern back := by
  induction text with
  | nil => rfl
  | cons c text ih =>
    rw [avoids, Bool.and_eq_true] at h
    have hstart : pattern.isPrefixOf? (c :: (text ++ back)) = none :=
      isPrefixOf?_append_of_clashes h.1 back
    rw [List.cons_append, afterFirst, hstart, ih h.2]
    rfl

theorem afterFirst_append_self (pattern back : Text) :
    afterFirst pattern (pattern ++ back) = some back := by
  cases hback : pattern ++ back with
  | nil =>
    obtain ⟨rfl, rfl⟩ := List.append_eq_nil_iff.mp hback
    rfl
  | cons c text =>
    have hstart : pattern.isPrefixOf? (c :: text) = some back :=
      List.isPrefixOf?_eq_some_iff_append_eq.mpr hback
    rw [afterFirst, hstart]
    rfl

theorem isPrefixOf?_append {pattern text rest : Text} (h : pattern.isPrefixOf? text = some rest)
    (back : Text) : pattern.isPrefixOf? (text ++ back) = some (rest ++ back) := by
  rw [List.isPrefixOf?_eq_some_iff_append_eq] at h ⊢
  rw [← h, List.append_assoc]

theorem eq_append_of_afterFirst {pattern text rest : Text}
    (h : afterFirst pattern text = some rest) : ∃ front, text = front ++ (pattern ++ rest) := by
  induction text with
  | nil =>
    rw [afterFirst] at h
    split at h
    next hpattern =>
      rw [hpattern, ← Option.some.inj h]
      exact ⟨[], rfl⟩
    next => cases h
  | cons c text ih =>
    rw [afterFirst] at h
    cases hstart : pattern.isPrefixOf? (c :: text) with
    | some rest' =>
      rw [hstart] at h
      rw [← Option.some.inj h]
      exact ⟨[], (List.isPrefixOf?_eq_some_iff_append_eq.mp hstart).symm⟩
    | none =>
      rw [hstart] at h
      obtain ⟨front, hfront⟩ := ih h
      exact ⟨c :: front, congrArg (c :: ·) hfront⟩

/-- The first occurrence in a text stays the first if the text is continued. -/
theorem afterFirst_append {pattern text rest : Text} (h : afterFirst pattern text = some rest)
    (back : Text) : afterFirst pattern (text ++ back) = some (rest ++ back) := by
  induction text with
  | nil =>
    rw [afterFirst] at h
    split at h
    next hpattern =>
      rw [hpattern, ← Option.some.inj h]
      exact afterFirst_append_self [] back
    next => cases h
  | cons c text ih =>
    rw [afterFirst] at h
    cases hstart : pattern.isPrefixOf? (c :: text) with
    | some rest' =>
      rw [hstart] at h
      rw [List.cons_append, afterFirst, ← List.cons_append, isPrefixOf?_append hstart]
      exact congrArg (fun rest => some (rest ++ back)) (Option.some.inj h)
    | none =>
      rw [hstart] at h
      have hnone : pattern.isPrefixOf? (c :: (text ++ back)) = none := by
        -- The pattern is found later within the text, so it does not reach beyond its end here.
        obtain ⟨front, htext⟩ := eq_append_of_afterFirst h
        have hlength : pattern.length ≤ (c :: text).length := by
          rw [htext, List.length_cons, List.length_append, List.length_append]
          omega
        cases hmore : pattern.isPrefixOf? (c :: (text ++ back)) with
        | none => rfl
        | some more =>
          have hlong : pattern <+: c :: text ++ back :=
            ⟨more, List.isPrefixOf?_eq_some_iff_append_eq.mp hmore⟩
          obtain ⟨short, hshort⟩ :=
            List.prefix_of_prefix_length_le hlong (List.prefix_append _ _) hlength
          rw [List.isPrefixOf?_eq_some_iff_append_eq.mpr hshort] at hstart
          cases hstart
      rw [List.cons_append, afterFirst, hnone]
      exact ih h

theorem afterFirst_eq_none_of_avoids {a : Char} {pattern text : Text}
    (h : avoids (a :: pattern) text = true) : afterFirst (a :: pattern) text = none := by
  rw [← List.append_nil text, afterFirst_append_of_avoids h]
  rfl

theorem clashes_append {pattern text : Text} (h : clashes pattern text = true) (more : Text) :
    clashes (pattern ++ more) text = true := by
  induction pattern generalizing text with
  | nil => simp [clashes] at h
  | cons a pattern ih =>
    cases text with
    | nil => simp [clashes] at h
    | cons c text =>
      rw [clashes, Bool.or_eq_true] at h
      rw [List.cons_append, clashes, Bool.or_eq_true]
      exact h.imp_right ih

/-- What avoids a pattern avoids the patterns that begin with it. -/
theorem avoids_append {pattern text : Text} (h : avoids pattern text = true) (more : Text) :
    avoids (pattern ++ more) text = true := by
  induction text with
  | nil => rfl
  | cons c text ih =>
    rw [avoids, Bool.and_eq_true] at h ⊢
    exact ⟨clashes_append h.1 more, ih h.2⟩

/-- A pattern avoids the texts in which its first character does not occur. -/
theorem avoids_of_notMem {a : Char} {text : Text} (h : a ∉ text) (pattern : Text) :
    avoids (a :: pattern) text = true := by
  induction text with
  | nil => rfl
  | cons c text ih =>
    obtain ⟨hne, hrest⟩ := List.ne_and_not_mem_of_not_mem_cons h
    simp [avoids, clashes, hne, ih hrest]

end patterns

theorem parseUInt64_decimal (n : UInt64) : parseUInt64 (decimal n.toNat) = some n := by
  simp [parseUInt64, readDecimal_decimal, n.toNat_lt_size]

/-- A number is read up to the first character that is no digit. -/
theorem leadingDigits_decimal (n : ℕ) : leadingDigits (decimal n) = decimal n :=
  List.takeWhile_eq_self_iff.mpr fun _ hc => isDigit_of_mem_decimal hc

end CislunarDtn.TextScans
