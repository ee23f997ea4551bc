import CislunarDtn.TextScans

/-!
# Texts with numbers in them

A line of a report consists of fields, each a label and a number in decimal
digits. What is searched for in such a line can only be found in its labels,
since no pattern that is considered begins with a digit.
-/

namespace CislunarDtn.NumberedTexts

open DecimalTexts TextScans

section fields

/-- Fields of a line: labels with the numbers behind them. -/
def lineOf (fields : List (Text × ℕ)) : Text :=
  fields.flatMap fun field => field.1 ++ decimal field.2

theorem lineOf_cons (label : Text) (n : ℕ) (fields : List (Text × ℕ)) :
    lineOf ((label, n) :: fields) = label ++ (decimal n ++ lineOf fields) :=
  List.append_assoc _ _ _

/-- All labels have a property. -/
def allLabels (p : Text → Bool) (fields : List (Text × ℕ)) : Bool :=
  fields.all fun field => p field.1

/-- A text begins with a character of a kind. -/
def beginsWith (p : Char → Bool) : Text → Bool
  | [] => false
  | c :: _ => p c

/-- A text that no digit begins, so that a number ends before it. -/
def separates (text : Text) : Bool := beginsWith (fun c => !c.isDigit) text

theorem exists_of_beginsWith {p : Char → Bool} {text : Text} (h : beginsWith p text = true) :
    ∃ c rest, text = c :: rest ∧ p c = true := by
  cases text with
  | nil => cases h
  | cons c rest => exact ⟨c, rest, rfl, h⟩

theorem exists_of_separates {text : Text} (h : separates text = true) :
    ∃ c rest, text = c :: rest ∧ c.isDigit = false := by
  obtain ⟨c, rest, htext, hdigit⟩ := exists_of_beginsWith h
  exact ⟨c, rest, htext, by simpa using hdigit⟩

theorem separates_append {pattern : Text} (h : separates pattern = true) (more : Text) :
    separates (pattern ++ more) = true := by
  cases pattern with
  | nil => cases h
  | cons c rest => exact h

/-- White space does not end a line. -/
theorem isWhitespace_of_mem_getLast?_lineOf (fields : List (Text × ℕ)) {c : Char}
    (h : c ∈ (lineOf fields).getLast?) : isWhitespace c = false := by
  cases hlast : fields.getLast? with
  | none =>
    rw [List.getLast?_eq_none_iff.mp hlast] at h
    cases h
  | some field =>
    obtain ⟨before, rfl⟩ := List.getLast?_eq_some_iff.mp hlast
    have hline : lineOf (before ++ [field]) = lineOf before ++ field.1 ++ decimal field.2 := by
      simp [lineOf]
    rw [hline, List.getLast?_append_of_ne_nil _ (decimal_ne_nil _)] at h
    exact isWhitespace_of_mem_decimal (List.mem_of_mem_getLast? h)

/-- A number ends where the next field begins. -/
theorem takeWhile_decimal_lineOf {p : Char → Bool} (hdigit : ∀ c, c.isDigit = true → p c = true)
    (n : ℕ) {fields : List (Text × ℕ)}
    (h : allLabels (beginsWith fun c => !p c) fields = true) :
    (decimal n ++ lineOf fields).takeWhile p = decimal n := by
  rw [List.takeWhile_append_of_pos fun c hc => hdigit c (isDigit_of_mem_decimal hc)]
  cases fields with
  | nil => exact List.append_nil _
  | cons field fields =>
    obtain ⟨c, rest, hlabel, hc⟩ :=
      exists_of_beginsWith (List.all_eq_true.mp h field List.mem_cons_self)
    have hp : p c = false := by simpa using hc
    have hline : lineOf (field :: fields) = c :: (rest ++ (decimal field.2 ++ lineOf fields)) := by
      rw [lineOf_cons, hlabel]
      rfl
    rw [hline, List.takeWhile_cons, hp]
    exact List.append_nil _

theorem trim_blanks_lineOf {blanks : Text} (h : ∀ c ∈ blanks, isWhitespace c = true) (n : ℕ)
    (fields : List (Text × ℕ)) :
    trim (blanks ++ (decimal n ++ lineOf fields)) = decimal n ++ lineOf fields := by
  have hdrop : trim (blanks ++ (decimal n ++ lineOf fields)) =
      trim (decimal n ++ lineOf fields) := by
    rw [trim, List.dropWhile_append_of_pos h, trim]
  rw [hdrop]
  refine trim_eq_self (fun c hc => ?_) fun c hc => ?_
  · rw [List.head?_append_of_ne_nil _ (decimal_ne_nil n)] at hc
    exact isWhitespace_of_mem_decimal (List.mem_of_mem_head? hc)
  · exact isWhitespace_of_mem_getLast?_lineOf (([], n) :: fields) hc

end fields

section patterns

/-- Fields whose labels a pattern avoids are passed over. -/
theorem afterFirst_lineOf_append {pattern : Text} (hpattern : separates pattern = true)
    {fields : List (Text × ℕ)} (h : allLabels (avoids pattern) fields = true)
    (back : Text) : afterFirst pattern (lineOf fields ++ back) = afterFirst pattern back := by
  obtain ⟨a, rest, rfl, hdigit⟩ := exists_of_separates hpattern
  induction fields with
  | nil => rfl
  | cons field fields ih =>
    obtain ⟨hlabel, hrest⟩ := Bool.and_eq_true_iff.mp h
    have hnumber : avoids (a :: rest) (decimal field.2) = true :=
      avoids_of_notMem (notMem_decimal hdigit _) rest
    rw [lineOf_cons, List.append_assoc, afterFirst_append_of_avoids hlabel, List.append_assoc,
      afterFirst_append_of_avoids hnumber, ih hrest]

theorem afterFirst_lineOf_eq_none {pattern : Text} (hpattern : separates pattern = true)
    {fields : List (Text × ℕ)} (h : allLabels (avoids pattern) fields = true) :
    afterFirst pattern (lineOf fields) = none := by
  have hskip := afterFirst_lineOf_append hpattern h []
  rw [List.append_nil] at hskip
  rw [hskip]
  obtain ⟨a, rest, rfl, -⟩ := exists_of_separates hpattern
  rfl

/-- A pattern in a label is found there if no label before it has the pattern. -/
theorem afterFirst_lineOf_label {pattern : Text} (hpattern : separates pattern = true)
    {front : List (Text × ℕ)} (hfront : allLabels (avoids pattern) front = true)
    {label after : Text} (hlabel : afterFirst pattern label = some after) (n : ℕ)
    (back : List (Text × ℕ)) : afterFirst pattern (lineOf (front ++ (label, n) :: back)) =
      some (after ++ (decimal n ++ lineOf back)) := by
  have hline : lineOf (front ++ (label, n) :: back) =
      lineOf front ++ (label ++ (decimal n ++ lineOf back)) := by simp [lineOf]
  rw [hline, afterFirst_lineOf_append hpattern hfront, afterFirst_append hlabel]

theorem clashes_decimal {pattern : Text} (h : separates pattern = true) (n : ℕ) :
    clashes pattern (decimal n) = true := by
  obtain ⟨a, rest, rfl, hdigit⟩ := exists_of_separates h
  cases hdecimal : decimal n with
  | nil => exact absurd hdecimal (decimal_ne_nil n)
  | cons c digits =>
    have hne : a ≠ c := by
      rintro rfl
      exact notMem_decimal hdigit n (by rw [hdecimal]; exact List.mem_cons_self)
    simp [clashes, hne]

/-- A word that no label has does not occur in the line. -/
theorem contains_lineOf_eq_false {word : Text} (hword : separates word = true)
    {fields : List (Text × ℕ)} (h : allLabels (avoids word) fields = true) :
    contains word (lineOf fields) = false := by
  rw [contains, afterFirst_lineOf_eq_none hword h]
  rfl

theorem contains_lineOf_label (front : List (Text × ℕ)) {word label after : Text}
    (hword : separates word = true) (hfront : allLabels (avoids word) front = true)
    (hlabel : afterFirst word label = some after) (n : ℕ) (back : List (Text × ℕ)) :
    contains word (lineOf (front ++ (label, n) :: back)) = true := by
  rw [contains, afterFirst_lineOf_label hword hfront hlabel]
  rfl

end patterns

section letters

/-- Labels are converted to lower case, and numbers stay as they are. -/
theorem toLowercase_lineOf (unicode : Lowercasing) {fields : List (Text × ℕ)}
    (h : allLabels (fun label => label.all fun c => c.toNat < 128) fields = true) :
    unicode.toLowercase (lineOf fields) =
      lineOf (fields.map fun field => (field.1.map Char.toLower, field.2)) := by
  have hdecimal : ∀ n, (decimal n).map Char.toLower = decimal n := by
    intro n
    rw [List.map_congr_left fun c hc => toLower_of_isDigit (isDigit_of_mem_decimal hc),
      List.map_id']
  have hascii : ∀ c ∈ lineOf fields, c.toNat < 128 := by
    intro c hc
    obtain ⟨field, hfield, hc⟩ := List.mem_flatMap.mp hc
    rcases List.mem_append.mp hc with hlabel | hnumber
    · exact of_decide_eq_true
        (List.all_eq_true.mp (List.all_eq_true.mp h field hfield) c hlabel)
    · have hrange : 48 ≤ c.toNat ∧ c.toNat ≤ 57 :=
        Char.isDigit_iff_toNat.mp (isDigit_of_mem_decimal hnumber)
      omega
  rw [unicode.ascii _ hascii, lineOf, lineOf, List.map_flatMap, List.flatMap_map]
  refine List.flatMap_congr fun field _ => ?_
  rw [List.map_append, hdecimal]

end letters

end CislunarDtn.NumberedTexts
