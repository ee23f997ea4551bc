import CislunarDtn.TerminatedLines
import CislunarDtn.DecimalTexts
import Mathlib.Data.List.Chain

/-!
# Block layouts

Documents of settings in indented lines: a line opens a block, gives a key a
scalar or a list of scalars, or adds a quoted element to a list. Scalars are
plain or between quotes, without escapes. A reader goes through a document line
by line, leaving out blank lines and comments, and takes exactly the entries
whose keys and scalars can stand where they do.
-/

namespace CislunarDtn.BlockLayouts

open DecimalTexts TerminatedLines

section characters

-- A check of the characters of a text goes through the text, not through all characters.
scoped instance decidableForallMem (p : Char → Prop) [DecidablePred p] (text : Text) :
    Decidable (∀ c ∈ text, p c) := List.decidableBAll p text

scoped instance decidableForallMem? (p : Char → Prop) [DecidablePred p] :
    ∀ o : Option Char, Decidable (∀ c ∈ o, p c)
  | none => isTrue nofun
  | some c => decidable_of_iff (p c) (by simp)

scoped instance decidableExistsMem? (p : Char → Prop) [DecidablePred p] :
    ∀ o : Option Char, Decidable (∃ c ∈ o, p c)
  | none => isFalse (by simp)
  | some c => decidable_of_iff (p c) (by simp)

/-- Characters that end a line. -/
def isBreak (c : Char) : Bool := c = '\n' || c = '\r'

/-- Blanks within a line. -/
def isWhite (c : Char) : Bool := c = ' ' || c = '\t'

/-- Characters that stand for themselves between quotes. -/
def isQuotable (c : Char) : Bool := (c = '\t' || 32 ≤ c.toNat) && c != '"' && c != '\\'

/-- Characters that stand for themselves outside quotes. -/
def isPrintable (c : Char) : Bool :=
  c = '\t' || (32 ≤ c.toNat && c.toNat ≤ 126) || c.toNat = 0x85 ||
    (0xA0 ≤ c.toNat && c.toNat ∉ [0xFEFF, 0xFFFE, 0xFFFF])

/-- Characters with a meaning at the beginning of a scalar. -/
def isIndicator (c : Char) : Bool := c ∈ chars "-?:,[]\x7b\x7d#&*!|>'\"%@`"

/-- Indicators with a meaning only before a blank. -/
def isSeparator (c : Char) : Bool := c ∈ ['-', '?', ':']

/-- Indicators that end a scalar in a list. -/
def isFlowIndicator (c : Char) : Bool := c ∈ chars ",[]\x7b\x7d"

/-- A colon before a blank ends a key, and a hash after a blank begins a comment. -/
def Adjoins (a b : Char) : Prop := ¬(a = ':' ∧ isWhite b) ∧ ¬(isWhite a ∧ b = '#')

instance (a b : Char) : Decidable (Adjoins a b) :=
  inferInstanceAs (Decidable (¬(a = ':' ∧ isWhite b) ∧ ¬(isWhite a ∧ b = '#')))

/-- A text begins like a plain scalar. -/
def StartsPlain : Text → Prop
  | [] => False
  | c :: rest => isWhite c = false ∧
      (isIndicator c → isSeparator c ∧ ∃ d ∈ rest.head?, isWhite d = false)

instance : DecidablePred StartsPlain
  | [] => isFalse id
  | c :: rest => inferInstanceAs (Decidable (isWhite c = false ∧
      (isIndicator c → isSeparator c ∧ ∃ d ∈ rest.head?, isWhite d = false)))

/-- A text that is its own plain scalar. -/
def PlainScalar (text : Text) : Prop :=
  StartsPlain text ∧ (∀ c ∈ text, isPrintable c) ∧ text.IsChain Adjoins ∧
    ∀ c ∈ text.getLast?, isWhite c = false ∧ c ≠ ':'

instance (text : Text) : Decidable (PlainScalar text) :=
  inferInstanceAs (Decidable (StartsPlain text ∧ (∀ c ∈ text, isPrintable c) ∧
    text.IsChain Adjoins ∧ ∀ c ∈ text.getLast?, isWhite c = false ∧ c ≠ ':'))

/-- A text that is its own key. -/
def PlainKey (text : Text) : Prop :=
  StartsPlain (text ++ [':']) ∧ (∀ c ∈ text, isPrintable c) ∧ text.IsChain Adjoins ∧
    ∀ c ∈ text.getLast?, isWhite c = false

instance (text : Text) : Decidable (PlainKey text) :=
  inferInstanceAs (Decidable (StartsPlain (text ++ [':']) ∧ (∀ c ∈ text, isPrintable c) ∧
    text.IsChain Adjoins ∧ ∀ c ∈ text.getLast?, isWhite c = false))

/-- A text that is its own quoted scalar. -/
def Quotable (text : Text) : Prop := ∀ c ∈ text, isQuotable c

instance (text : Text) : Decidable (Quotable text) :=
  inferInstanceAs (Decidable (∀ c ∈ text, isQuotable c))

end characters

section entries

/-- A scalar as it is written. -/
inductive Scalar where
  /-- Without quotes. -/
  | plain (text : Text)
  /-- Between quotes. -/
  | quoted (text : Text)
  deriving DecidableEq

/-- What a line says. -/
inductive Body where
  /-- A key with the following lines as its block. -/
  | opens (key : Text)
  /-- A key with a scalar. -/
  | setting (key : Text) (value : Scalar)
  /-- A key with a list of scalars. -/
  | listing (key : Text) (items : List Scalar)
  /-- A quoted scalar. -/
  | element (text : Text)
  deriving DecidableEq

/-- A line of a document. -/
structure Entry where
  /-- Number of spaces before it. -/
  indent : ℕ
  /-- Whether it begins an item of a list. -/
  item : Bool
  /-- What it says. -/
  body : Body
  deriving DecidableEq

/-- How a scalar is written. -/
def Scalar.text : Scalar → Text
  | .plain text => text
  | .quoted text => '"' :: text ++ ['"']

/-- How a list is written, from its first scalar to its end. -/
def itemsText : List Scalar → Text
  | [] => [']']
  | [value] => value.text ++ [']']
  | value :: items => value.text ++ ',' :: ' ' :: itemsText items

/-- How a body is written. -/
def Body.text : Body → Text
  | .opens key => key ++ [':']
  | .setting key value => key ++ ':' :: ' ' :: value.text
  | .listing key items => key ++ ':' :: ' ' :: '[' :: itemsText items
  | .element text => (Scalar.quoted text).text

/-- How an entry is written. -/
def Entry.text (e : Entry) : Text :=
  List.replicate e.indent ' ' ++ (if e.item then '-' :: ' ' :: e.body.text else e.body.text)

/-- A scalar can stand after a key. -/
def Scalar.Readable : Scalar → Prop
  | .plain text => PlainScalar text
  | .quoted text => Quotable text

instance : DecidablePred Scalar.Readable
  | .plain text => inferInstanceAs (Decidable (PlainScalar text))
  | .quoted text => inferInstanceAs (Decidable (Quotable text))

/-- A scalar can stand in a list. -/
def Scalar.Listable : Scalar → Prop
  | .plain text => PlainScalar text ∧ ∀ c ∈ text, isFlowIndicator c = false
  | .quoted text => Quotable text

instance : DecidablePred Scalar.Listable
  | .plain text =>
    inferInstanceAs (Decidable (PlainScalar text ∧ ∀ c ∈ text, isFlowIndicator c = false))
  | .quoted text => inferInstanceAs (Decidable (Quotable text))

/-- The keys and scalars of an entry can stand where they do. -/
def Entry.Readable (e : Entry) : Prop :=
  match e.body with
  | .opens key => PlainKey key
  | .setting key value => PlainKey key ∧ value.Readable
  | .listing key items => PlainKey key ∧ items ≠ [] ∧ ∀ value ∈ items, value.Listable
  | .element text => e.item = true ∧ Quotable text

instance (e : Entry) : Decidable e.Readable := by
  unfold Entry.Readable
  cases e.body <;> infer_instance

end entries

section reader

/-- The text before the next quote and what follows the quote. -/
def readQuoted : Text → Option (Text × Text)
  | [] => none
  | '"' :: rest => some ([], rest)
  | c :: rest => (readQuoted rest).map fun (text, after) => (c :: text, after)

/-- The key before a colon that a blank or nothing follows, and what follows the colon. -/
def readKey : Text → Option (Text × Text)
  | [] => none
  | [':'] => some ([], [])
  | ':' :: c :: rest =>
    if isWhite c then some ([], c :: rest)
    else (readKey (c :: rest)).map fun (key, after) => (':' :: key, after)
  | c :: rest => (readKey rest).map fun (key, after) => (c :: key, after)

/-- A scalar that ends with the line. -/
def readScalar : Text → Option Scalar
  | '"' :: rest =>
    match readQuoted rest with
    | some (text, []) => some (.quoted text)
    | _ => none
  | text => some (.plain text)

/-- A scalar of a list and what follows it. -/
def readItem : Text → Option (Scalar × Text)
  | '"' :: rest => (readQuoted rest).map fun (text, after) => (.quoted text, after)
  | text => some (.plain (text.takeWhile fun c => c != ',' && c != ']'),
      text.dropWhile fun c => c != ',' && c != ']')

/-- The scalars of a list that ends with the line, as many as there may be. -/
def readItems : ℕ → Text → Option (List Scalar)
  | 0, _ => none
  | count + 1, text =>
    match readItem text with
    | some (value, [']']) => some [value]
    | some (value, ',' :: ' ' :: after) => (readItems count after).map (value :: ·)
    | _ => none

/-- What a line says after its spaces and the sign of an item. -/
def readBody : Text → Option Body
  | '"' :: rest =>
    match readQuoted rest with
    | some (text, []) => some (.element text)
    | _ => none
  | text =>
    match readKey text with
    | some (key, []) => some (.opens key)
    | some (key, ' ' :: '[' :: rest) => (readItems rest.length rest).map (.listing key)
    | some (key, ' ' :: rest) => (readScalar rest).map (.setting key)
    | _ => none

/-- An entry without a look at its keys and scalars. -/
def splitEntry (line : Text) : Option Entry :=
  let indent := (line.takeWhile (· = ' ')).length
  match line.dropWhile (· = ' ') with
  | '-' :: ' ' :: rest => (readBody rest).map (⟨indent, true, ·⟩)
  | rest => (readBody rest).map (⟨indent, false, ·⟩)

/-- Blank lines and comments. -/
def isSkipped (line : Text) : Bool :=
  match line.dropWhile isWhite with
  | [] => true
  | c :: _ => c = '#'

/-- The entries of a line: one, or none if the line is skipped. -/
def readLine (line : Text) : Option (List Entry) :=
  if isSkipped line then some [] else ((splitEntry line).filter (·.Readable)).map ([·])

/-- The entries of some lines. -/
def readLines : List Text → Option (List Entry)
  | [] => some []
  | line :: lines =>
    (readLine line).bind fun first => (readLines lines).map fun rest => first ++ rest

/-- The entries of a document. -/
def readDocument (text : Text) : Option (List Entry) := readLines (text.splitOnP isBreak)

end reader

section beginnings

variable {text rest : Text}

theorem isBreak_of_isPrintable {c : Char} (h : isPrintable c = true) : isBreak c = false := by
  by_contra hbreak
  have hc : c = '\n' ∨ c = '\r' := by simpa [isBreak, or_iff_not_imp_left] using hbreak
  rcases hc with rfl | rfl <;> exact absurd h (by decide)

theorem isBreak_of_isQuotable {c : Char} (h : isQuotable c = true) : isBreak c = false := by
  by_contra hbreak
  have hc : c = '\n' ∨ c = '\r' := by simpa [isBreak, or_iff_not_imp_left] using hbreak
  rcases hc with rfl | rfl <;> exact absurd h (by decide)

theorem quote_notMem_of_quotable (h : Quotable text) : '"' ∉ text := fun hm =>
  absurd (h '"' hm) (by decide)

theorem StartsPlain.append (h : StartsPlain text) (rest : Text) : StartsPlain (text ++ rest) := by
  cases text with
  | nil => exact absurd h id
  | cons c text =>
    refine ⟨h.1, fun hc => ⟨(h.2 hc).1, ?_⟩⟩
    obtain ⟨d, hd, hwhite⟩ := (h.2 hc).2
    exact ⟨d, by cases text <;> simp_all, hwhite⟩

/-- A plain scalar does not begin with an indicator that has a meaning anywhere. -/
theorem StartsPlain.ne_cons (h : StartsPlain text) {c : Char} (hindicator : isIndicator c = true)
    (hseparator : isSeparator c = false) (rest : Text) : text ≠ c :: rest := by
  rintro rfl
  have hseparates := (h.2 hindicator).1
  rw [hseparator] at hseparates
  exact Bool.false_ne_true hseparates

/-- A plain scalar begins with no blank, quote or hash, and not like an item. -/
theorem StartsPlain.exists_cons (h : StartsPlain text) : ∃ c rest, text = c :: rest ∧
    isWhite c = false ∧ c ≠ '"' ∧ c ≠ '#' ∧ ∀ after, text ≠ '-' :: ' ' :: after := by
  cases text with
  | nil => exact absurd h id
  | cons c text =>
    refine ⟨c, text, rfl, h.1, ?_, ?_, ?_⟩
    · rintro rfl
      exact h.ne_cons (by decide) (by decide) text rfl
    · rintro rfl
      exact h.ne_cons (by decide) (by decide) text rfl
    · intro after heq
      obtain ⟨rfl, rfl⟩ := List.cons.inj heq
      obtain ⟨d, hd, hwhite⟩ := (h.2 (by decide)).2
      obtain rfl : ' ' = d := by simpa using hd
      exact absurd hwhite (by decide)

end beginnings

section completeness

variable {text rest key : Text}

theorem readQuoted_append (h : '"' ∉ text) (rest : Text) :
    readQuoted (text ++ '"' :: rest) = some (text, rest) := by
  induction text with
  | nil => rfl
  | cons c text ih =>
    obtain ⟨hc, htext⟩ := List.ne_and_not_mem_of_not_mem_cons h
    rw [List.cons_append, readQuoted, ih htext]
    · rfl
    · exact Ne.symm hc

theorem readKey_cons {c : Char} (hc : c ≠ ':' ∨ ∃ d rest', rest = d :: rest' ∧ isWhite d = false) :
    readKey (c :: rest) = (readKey rest).map fun (key, after) => (c :: key, after) := by
  by_cases hcolon : c = ':'
  · obtain ⟨d, rest', rfl, hd⟩ := hc.resolve_left (by simpa using hcolon)
    subst hcolon
    rw [readKey, if_neg (by simp [hd])]
  · rw [readKey] <;> simp_all

/-- A key is told apart from what follows its colon. -/
theorem readKey_append (h : key.IsChain Adjoins) (hrest : ∀ c ∈ rest.head?, isWhite c) :
    readKey (key ++ ':' :: rest) = some (key, rest) := by
  induction key with
  | nil =>
    cases rest with
    | nil => rfl
    | cons c rest =>
      have hc : isWhite c = true := hrest c rfl
      rw [List.nil_append, readKey, if_pos hc]
  | cons a key ih =>
    have hnext : a ≠ ':' ∨ ∃ d rest', key ++ ':' :: rest = d :: rest' ∧ isWhite d = false := by
      cases key with
      | nil => exact .inr ⟨':', rest, rfl, by decide⟩
      | cons d key =>
        have hpair : Adjoins a d := (List.isChain_cons_cons.mp h).1
        by_cases ha : a = ':'
        · exact .inr ⟨d, _, rfl, by simpa [Adjoins, ha] using hpair.1⟩
        · exact .inl ha
    rw [List.cons_append, readKey_cons hnext, ih h.of_cons]
    rfl

theorem readScalar_text {value : Scalar} (h : value.Readable) :
    readScalar value.text = some value := by
  cases value with
  | plain text =>
    obtain ⟨c, rest, rfl, -, hquote, -⟩ := StartsPlain.exists_cons h.1
    rw [Scalar.text, readScalar]
    simpa using hquote
  | quoted text =>
    rw [Scalar.text, List.cons_append, readScalar, readQuoted_append (quote_notMem_of_quotable h)]

/-- A scalar of a list is told apart from what follows it. -/
theorem readItem_append {value : Scalar} (h : value.Listable)
    (hrest : ∃ c ∈ rest.head?, c = ',' ∨ c = ']') :
    readItem (value.text ++ rest) = some (value, rest) := by
  cases value with
  | quoted text =>
    rw [Scalar.text, List.append_assoc, List.cons_append, List.singleton_append, readItem,
      readQuoted_append (quote_notMem_of_quotable h)]
    rfl
  | plain text =>
    obtain ⟨d, hd, hend⟩ := hrest
    obtain ⟨after, rfl⟩ : ∃ after, rest = d :: after := by
      cases rest <;> simp_all
    have hkept : ∀ c ∈ text, (c != ',' && c != ']') = true := by
      intro c hc
      have hflow := h.2 c hc
      have hne : c ≠ ',' ∧ c ≠ ']' := by
        constructor <;> rintro rfl <;> exact absurd hflow (by decide)
      simp [hne]
    have hstop : (d != ',' && d != ']') = false := by
      rcases hend with rfl | rfl <;> decide
    obtain ⟨c, text', rfl, -, hquote, -⟩ := StartsPlain.exists_cons h.1.1
    rw [Scalar.text, readItem]
    · rw [List.takeWhile_append_of_pos hkept, List.dropWhile_append_of_pos hkept,
        List.takeWhile_cons_of_neg (by simp [hstop]), List.dropWhile_cons_of_neg (by simp [hstop]),
        List.append_nil]
    · simpa using hquote

theorem readItems_itemsText {items : List Scalar} (hne : items ≠ [])
    (h : ∀ value ∈ items, value.Listable) {count : ℕ} (hcount : items.length ≤ count) :
    readItems count (itemsText items) = some items := by
  induction items generalizing count with
  | nil => exact absurd rfl hne
  | cons value items ih =>
    obtain ⟨count, rfl⟩ : ∃ n, count = n + 1 := ⟨count - 1, by simp at hcount; omega⟩
    have hvalue : value.Listable := h value List.mem_cons_self
    cases items with
    | nil =>
      rw [itemsText, readItems, readItem_append hvalue ⟨']', rfl, .inr rfl⟩]
      rfl
    | cons next items =>
      have hrest : readItems count (itemsText (next :: items)) = some (next :: items) :=
        ih (List.cons_ne_nil _ _) (fun v hv => h v (List.mem_cons_of_mem _ hv))
          (by simpa using hcount)
      rw [itemsText, readItems, readItem_append hvalue ⟨',', rfl, .inl rfl⟩]
      · simp [hrest]
      · exact List.cons_ne_nil _ _

theorem length_le_itemsText (items : List Scalar) : items.length ≤ (itemsText items).length := by
  induction items with
  | nil => simp
  | cons value items ih =>
    cases items with
    | nil => simp [itemsText]
    | cons next items =>
      simp only [itemsText, List.length_cons, List.length_append] at ih ⊢
      omega

/-- What comes after the spaces of an entry is no blank, comment or item sign. -/
theorem Entry.Readable.exists_cons {e : Entry} (h : e.Readable) : ∃ c rest,
    e.body.text = c :: rest ∧ isWhite c = false ∧ c ≠ '#' ∧
      ∀ after, e.body.text ≠ '-' :: ' ' :: after := by
  have hkey : ∀ {key : Text} (after : Text), PlainKey key → ∃ c rest,
      key ++ ':' :: after = c :: rest ∧ isWhite c = false ∧ c ≠ '#' ∧
        ∀ other, key ++ ':' :: after ≠ '-' :: ' ' :: other := by
    intro key after hplain
    have hstarts : StartsPlain (key ++ ':' :: after) := by
      simpa using hplain.1.append after
    obtain ⟨c, rest, htext, hwhite, -, hhash, hitem⟩ := hstarts.exists_cons
    exact ⟨c, rest, htext, hwhite, hhash, hitem⟩
  obtain ⟨indent, item, body⟩ := e
  cases body with
  | opens key => exact hkey [] h
  | setting key value => exact hkey _ h.1
  | listing key items => exact hkey _ h.1
  | element text =>
    exact ⟨'"', text ++ ['"'], rfl, by decide, by decide, by simp [Body.text, Scalar.text]⟩

/-- A line that begins with a key is read from its key. -/
theorem readBody_of_key (h : PlainKey key) (hrest : ∀ c ∈ rest.head?, isWhite c) :
    readBody (key ++ ':' :: rest) =
      match some (key, rest) with
      | some (key, []) => some (.opens key)
      | some (key, ' ' :: '[' :: rest) => (readItems rest.length rest).map (.listing key)
      | some (key, ' ' :: rest) => (readScalar rest).map (.setting key)
      | _ => none := by
  have hstarts : StartsPlain (key ++ ':' :: rest) := by simpa using h.1.append rest
  obtain ⟨c, after, htext, -, hquote, -⟩ := hstarts.exists_cons
  have hread : readKey (key ++ ':' :: rest) = some (key, rest) := readKey_append h.2.2.1 hrest
  rw [htext] at hread ⊢
  rw [readBody, hread]
  simpa using hquote

theorem readBody_text {e : Entry} (h : e.Readable) : readBody e.body.text = some e.body := by
  obtain ⟨indent, item, body⟩ := e
  cases body with
  | opens key => exact readBody_of_key h (by simp)
  | element text =>
    have hread := readQuoted_append (quote_notMem_of_quotable h.2) []
    simp [Body.text, Scalar.text, readBody, hread]
  | setting key value =>
    have hvalue := readScalar_text h.2
    rw [Body.text, readBody_of_key h.1 (by simp [isWhite])]
    have hbracket : ∀ rest, value.text ≠ '[' :: rest := by
      cases value with
      | plain text => exact StartsPlain.ne_cons h.2.1 (by decide) (by decide)
      | quoted text => simp [Scalar.text]
    split <;> simp_all
  | listing key items =>
    rw [Body.text, readBody_of_key h.1 (by simp [isWhite])]
    simp [readItems_itemsText h.2.1 h.2.2 (length_le_itemsText items)]

/-- Spaces are told apart from what follows them. -/
theorem takeWhile_spaces (n : ℕ) {c : Char} (hc : c ≠ ' ') (rest : Text) :
    (List.replicate n ' ' ++ c :: rest).takeWhile (· = ' ') = List.replicate n ' ' := by
  rw [List.takeWhile_append_of_pos (by simp), List.takeWhile_cons_of_neg (by simpa using hc),
    List.append_nil]

theorem dropWhile_spaces (n : ℕ) {c : Char} (hc : c ≠ ' ') (rest : Text) :
    (List.replicate n ' ' ++ c :: rest).dropWhile (· = ' ') = c :: rest := by
  rw [List.dropWhile_append_of_pos (by simp), List.dropWhile_cons_of_neg (by simpa using hc)]

theorem splitEntry_text {e : Entry} (h : e.Readable) : splitEntry e.text = some e := by
  obtain ⟨c, rest, htext, hwhite, -, hitem⟩ := h.exists_cons
  have hspace : c ≠ ' ' := by
    rintro rfl
    exact absurd hwhite (by decide)
  have hbody := readBody_text h
  obtain ⟨indent, item, body⟩ := e
  cases item with
  | true =>
    rw [splitEntry, Entry.text, if_pos rfl, takeWhile_spaces indent (by decide),
      dropWhile_spaces indent (by decide)]
    simp [hbody]
  | false =>
    rw [splitEntry, Entry.text, if_neg Bool.false_ne_true, htext, takeWhile_spaces indent hspace,
      dropWhile_spaces indent hspace, ← htext]
    split
    next after heq => exact absurd heq (hitem after)
    next => simp [hbody]

/-- An entry is neither blank nor a comment. -/
theorem isSkipped_text {e : Entry} (h : e.Readable) : isSkipped e.text = false := by
  obtain ⟨c, rest, htext, hwhite, hhash, -⟩ := h.exists_cons
  obtain ⟨d, after, hline, hd, hcomment⟩ : ∃ d after,
      e.text = List.replicate e.indent ' ' ++ d :: after ∧ isWhite d = false ∧ d ≠ '#' := by
    unfold Entry.text
    cases e.item with
    | true => exact ⟨'-', ' ' :: e.body.text, rfl, by decide, by decide⟩
    | false => exact ⟨c, rest, congrArg _ htext, hwhite, hhash⟩
  have hdrop : e.text.dropWhile isWhite = d :: after := by
    rw [hline, List.dropWhile_append_of_pos (by simp [isWhite]),
      List.dropWhile_cons_of_neg (by simp [hd])]
  rw [isSkipped, hdrop]
  simpa using hcomment

/-- An entry is read back. -/
theorem readLine_text {e : Entry} (h : e.Readable) : readLine e.text = some [e] := by
  simp [readLine, isSkipped_text h, splitEntry_text h, h]

end completeness

section lines

theorem isBreak_of_mem_scalar {value : Scalar} (h : value.Readable) {c : Char}
    (hc : c ∈ value.text) : isBreak c = false := by
  cases value with
  | plain text => exact isBreak_of_isPrintable (h.2.1 c hc)
  | quoted text =>
    have hcases : c = '"' ∨ c ∈ text ∨ c = '"' := by simpa [Scalar.text] using hc
    rcases hcases with rfl | hmem | rfl
    · decide
    · exact isBreak_of_isQuotable (h c hmem)
    · decide

theorem Scalar.Listable.readable {value : Scalar} (h : value.Listable) : value.Readable := by
  cases value with
  | plain text => exact h.1
  | quoted text => exact h

theorem isBreak_of_mem_items {items : List Scalar} (h : ∀ value ∈ items, value.Listable)
    {c : Char} (hc : c ∈ itemsText items) : isBreak c = false := by
  induction items with
  | nil =>
    obtain rfl := List.mem_singleton.mp hc
    decide
  | cons value items ih =>
    obtain ⟨hvalue, hitems⟩ := List.forall_mem_cons.mp h
    have hscalar : c ∈ value.text → isBreak c = false := isBreak_of_mem_scalar hvalue.readable
    cases items with
    | nil =>
      rcases List.mem_append.mp hc with hmem | hmem
      · exact hscalar hmem
      · obtain rfl := List.mem_singleton.mp hmem
        decide
    | cons next items =>
      rcases List.mem_append.mp hc with hmem | hmem
      · exact hscalar hmem
      · rcases List.mem_cons.mp hmem with rfl | hmem
        · decide
        · rcases List.mem_cons.mp hmem with rfl | hmem
          · decide
          · exact ih hitems hmem

/-- An entry is one line. -/
theorem isBreak_of_mem_text {e : Entry} (h : e.Readable) {c : Char} (hc : c ∈ e.text) :
    isBreak c = false := by
  have hbody : ∀ c ∈ e.body.text, isBreak c = false := by
    intro c hc
    have hkey : ∀ {key after : Text}, PlainKey key → (∀ c ∈ after, isBreak c = false) →
        c ∈ key ++ ':' :: after → isBreak c = false := by
      intro key after hplain hafter hmem
      rcases List.mem_append.mp hmem with hmem | hmem
      · exact isBreak_of_isPrintable (hplain.2.1 c hmem)
      · rcases List.mem_cons.mp hmem with rfl | hmem
        · decide
        · exact hafter c hmem
    obtain ⟨indent, item, body⟩ := e
    cases body with
    | opens key => exact hkey h (by simp) hc
    | element text =>
      have hscalar : (Scalar.quoted text).Readable := h.2
      exact isBreak_of_mem_scalar hscalar hc
    | setting key value =>
      refine hkey h.1 ?_ hc
      rintro d hd
      rcases List.mem_cons.mp hd with rfl | hd
      · decide
      · exact isBreak_of_mem_scalar h.2 hd
    | listing key items =>
      refine hkey h.1 ?_ hc
      rintro d hd
      rcases List.mem_cons.mp hd with rfl | hd
      · decide
      · rcases List.mem_cons.mp hd with rfl | hd
        · decide
        · exact isBreak_of_mem_items h.2.2 hd
  rcases List.mem_append.mp hc with hmem | hmem
  · obtain rfl := List.eq_of_mem_replicate hmem
    decide
  · split at hmem
    · rcases List.mem_cons.mp hmem with rfl | hmem
      · decide
      · rcases List.mem_cons.mp hmem with rfl | hmem
        · decide
        · exact hbody c hmem
    · exact hbody c hmem

/-- Lines without breaks are told apart from what follows their terminators. -/
theorem splitOnP_written (lines : List Text) : (written '\n' lines).splitOnP isBreak =
    lines.flatMap (List.splitOnP isBreak) ++ [[]] := by
  induction lines with
  | nil => rfl
  | cons l lines ih =>
    have hcons : written '\n' (l :: lines) = l ++ '\n' :: written '\n' lines := by simp [written]
    rw [hcons, List.splitOnP_append_cons _ _ (by decide), ih, List.flatMap_cons, List.append_assoc]

theorem readLines_append (first second : List Text) : readLines (first ++ second) =
    (readLines first).bind fun es => (readLines second).map (es ++ ·) := by
  induction first with
  | nil => simp [readLines]
  | cons line first ih =>
    rw [List.cons_append, readLines, readLines, ih]
    cases readLine line <;> cases readLines first <;> cases readLines second <;> simp

/-- Only readable entries are read. -/
theorem readable_of_readLines {lines : List Text} {es : List Entry} (h : readLines lines = some es)
    {e : Entry} (he : e ∈ es) : e.Readable := by
  induction lines generalizing es with
  | nil =>
    obtain rfl := Option.some.inj h
    exact absurd he List.not_mem_nil
  | cons line lines ih =>
    obtain ⟨first, hfirst, hrest⟩ := Option.bind_eq_some_iff.mp h
    obtain ⟨rest, hlines, rfl⟩ := Option.map_eq_some_iff.mp hrest
    rcases List.mem_append.mp he with hmem | hmem
    · unfold readLine at hfirst
      split at hfirst
      · obtain rfl := Option.some.inj hfirst
        exact absurd hmem List.not_mem_nil
      · obtain ⟨other, hother, rfl⟩ := Option.map_eq_some_iff.mp hfirst
        obtain rfl := List.mem_singleton.mp hmem
        simpa using (Option.filter_eq_some_iff.mp hother).2
    · exact ih hlines hmem

/-- Lines without entries are blank or comments. -/
theorem readLines_eq_nil_iff {lines : List Text} :
    readLines lines = some [] ↔ ∀ line ∈ lines, isSkipped line := by
  induction lines with
  | nil => simp [readLines]
  | cons line lines ih =>
    rw [List.forall_mem_cons, ← ih, readLines, readLine]
    cases isSkipped line with
    | true => cases readLines lines <;> simp
    | false => cases (splitEntry line).filter (·.Readable) <;> simp

end lines

section numbers

variable {text key : Text} {n : ℕ}

theorem quotable_append {first second : Text} :
    Quotable (first ++ second) ↔ Quotable first ∧ Quotable second := by
  simp [Quotable, or_imp, forall_and]

theorem isQuotable_of_isDigit {c : Char} (h : c.isDigit = true) : isQuotable c = true := by
  have hrange : 48 ≤ c.toNat ∧ c.toNat ≤ 57 := Char.isDigit_iff_toNat.mp h
  have hquote : c ≠ '"' := by
    rintro rfl
    exact absurd h (by decide)
  have hescape : c ≠ '\\' := by
    rintro rfl
    exact absurd h (by decide)
  simp [isQuotable, hquote, hescape]
  omega

theorem quotable_decimal (n : ℕ) : Quotable (decimal n) := fun _ hc =>
  isQuotable_of_isDigit (isDigit_of_mem_decimal hc)

theorem isPrintable_of_isDigit {c : Char} (h : c.isDigit = true) : isPrintable c = true := by
  have hrange : 48 ≤ c.toNat ∧ c.toNat ≤ 57 := Char.isDigit_iff_toNat.mp h
  simp only [isPrintable, Bool.or_eq_true, Bool.and_eq_true, decide_eq_true_eq]
  omega

/-- A digit is none of the characters that have a meaning. -/
theorem ne_of_isDigit {c d : Char} (h : c.isDigit = true) (hd : d.isDigit = false) : c ≠ d := by
  rintro rfl
  exact Bool.false_ne_true (hd.symm.trans h)

theorem isWhite_of_isDigit {c : Char} (h : c.isDigit = true) : isWhite c = false := by
  simp [isWhite, ne_of_isDigit h (d := ' ') rfl, ne_of_isDigit h (d := '\t') rfl]

theorem isIndicator_of_isDigit {c : Char} (h : c.isDigit = true) : isIndicator c = false := by
  have hnone : ∀ d ∈ chars "-?:,[]\x7b\x7d#&*!|>'\"%@`", d.isDigit = false := by decide
  by_contra hmem
  have hdigit := hnone c (by simpa [isIndicator] using hmem)
  exact Bool.false_ne_true (hdigit.symm.trans h)

theorem isFlowIndicator_of_isDigit {c : Char} (h : c.isDigit = true) :
    isFlowIndicator c = false := by
  have hnone : ∀ d ∈ chars ",[]\x7b\x7d", d.isDigit = false := by decide
  by_contra hmem
  have hdigit := hnone c (by simpa [isFlowIndicator] using hmem)
  exact Bool.false_ne_true (hdigit.symm.trans h)

/-- Without colons and hashes no key ends and no comment begins. -/
theorem isChain_of_forall (h : ∀ c ∈ text, c ≠ ':' ∧ c ≠ '#') : text.IsChain Adjoins := by
  induction text with
  | nil => exact List.isChain_nil
  | cons a text ih =>
    obtain ⟨ha, htext⟩ := List.forall_mem_cons.mp h
    cases text with
    | nil => exact List.isChain_singleton a
    | cons b text =>
      have hb : b ≠ '#' := (htext b List.mem_cons_self).2
      exact List.isChain_cons_cons.mpr
        ⟨⟨fun hkey => ha.1 hkey.1, fun hhash => hb hhash.2⟩, ih htext⟩

theorem ne_of_mem_decimal {c : Char} (h : c ∈ decimal n) : c ≠ ':' ∧ c ≠ '#' :=
  ⟨ne_of_isDigit (isDigit_of_mem_decimal h) rfl, ne_of_isDigit (isDigit_of_mem_decimal h) rfl⟩

/-- A number is a scalar that can stand in a list. -/
theorem listable_decimal (n : ℕ) : (Scalar.plain (decimal n)).Listable := by
  have hdigit : ∀ c ∈ decimal n, c.isDigit = true := fun _ hc => isDigit_of_mem_decimal hc
  refine ⟨⟨?_, fun c hc => isPrintable_of_isDigit (hdigit c hc),
    isChain_of_forall fun c hc => ne_of_mem_decimal hc, fun c hc => ?_⟩,
    fun c hc => isFlowIndicator_of_isDigit (hdigit c hc)⟩
  · cases hd : decimal n with
    | nil => exact absurd hd (decimal_ne_nil n)
    | cons c rest =>
      have hc : c.isDigit = true := hdigit c (hd ▸ List.mem_cons_self)
      refine ⟨isWhite_of_isDigit hc, fun hindicator => ?_⟩
      rw [isIndicator_of_isDigit hc] at hindicator
      exact absurd hindicator Bool.false_ne_true
  · have hmem := List.mem_of_getLast? hc
    exact ⟨isWhite_of_isDigit (hdigit c hmem), (ne_of_mem_decimal hmem).1⟩

/-- A number can be put behind a key. -/
theorem PlainKey.append_decimal (h : PlainKey key) (n : ℕ) :
    PlainKey (key ++ '-' :: decimal n) := by
  obtain ⟨hstarts, hprintable, hchain, -⟩ := h
  have hnumber : ∀ c ∈ '-' :: decimal n, c = '-' ∨ c.isDigit = true := by
    intro c hc
    rcases List.mem_cons.mp hc with rfl | hc
    · exact .inl rfl
    · exact .inr (isDigit_of_mem_decimal hc)
  refine ⟨?_, fun c hc => ?_, ?_, fun c hc => ?_⟩
  · cases key with
    | nil => exact absurd hstarts (by decide)
    | cons c rest =>
      refine ⟨hstarts.1, fun hc => ⟨(hstarts.2 hc).1, ?_⟩⟩
      cases rest with
      | nil => exact ⟨'-', rfl, rfl⟩
      | cons d rest => exact ⟨d, rfl, by simpa using (hstarts.2 hc).2⟩
  · rcases List.mem_append.mp hc with hc | hc
    · exact hprintable c hc
    · rcases hnumber c hc with rfl | hdigit
      · decide
      · exact isPrintable_of_isDigit hdigit
  · refine List.isChain_append.mpr ⟨hchain, isChain_of_forall fun c hc => ?_, ?_⟩
    · rcases hnumber c hc with rfl | hdigit
      · decide
      · exact ⟨ne_of_isDigit hdigit rfl, ne_of_isDigit hdigit rfl⟩
    · rintro a - b hb
      obtain rfl : '-' = b := by simpa using hb
      exact ⟨fun hkey => absurd hkey.2 (by decide), fun hhash => absurd hhash.2 (by decide)⟩
  · rw [List.getLast?_append_of_ne_nil _ (List.cons_ne_nil _ _)] at hc
    rcases hnumber c (List.mem_of_getLast? hc) with rfl | hdigit
    · decide
    · exact isWhite_of_isDigit hdigit

end numbers

section documents

/-- A line of a document as it is meant. -/
inductive Line where
  /-- An entry. -/
  | entry (e : Entry)
  /-- A blank line or a comment. -/
  | note (text : Text)
  deriving DecidableEq

/-- How a line is written. -/
def Line.text : Line → Text
  | .entry e => e.text
  | .note text => text

/-- The entry of a line. -/
def Line.entry? : Line → Option Entry
  | .entry e => some e
  | .note _ => none

/-- The line is read as it is meant: its entry can stand there, or every part of
it that a reader takes for a line is skipped. -/
def Line.Faithful : Line → Prop
  | .entry e => e.Readable
  | .note text => ∀ part ∈ text.splitOnP isBreak, isSkipped part

/-- The entries of some lines. -/
def entriesOf (lines : List Line) : List Entry := lines.filterMap Line.entry?

@[simp]
theorem entriesOf_nil : entriesOf [] = [] := rfl

@[simp]
theorem entriesOf_cons_entry (e : Entry) (lines : List Line) :
    entriesOf (.entry e :: lines) = e :: entriesOf lines := rfl

@[simp]
theorem entriesOf_cons_note (text : Text) (lines : List Line) :
    entriesOf (.note text :: lines) = entriesOf lines := rfl

@[simp]
theorem entriesOf_append (first second : List Line) :
    entriesOf (first ++ second) = entriesOf first ++ entriesOf second := List.filterMap_append

@[simp]
theorem entriesOf_map_entry (es : List Entry) : entriesOf (es.map .entry) = es := by
  simp [entriesOf, List.filterMap_map, Function.comp_def, Line.entry?]

@[simp]
theorem entriesOf_map_note (texts : List Text) : entriesOf (texts.map .note) = [] := by
  simp [entriesOf, List.filterMap_map, Function.comp_def, Line.entry?]

/-- The lines that a reader finds in some lines. -/
def parts (lines : List Line) : List Text :=
  (lines.map Line.text).flatMap (List.splitOnP isBreak)

theorem parts_cons (line : Line) (lines : List Line) :
    parts (line :: lines) = line.text.splitOnP isBreak ++ parts lines := rfl

/-- A readable entry is read back from its line. -/
theorem readLines_entry {e : Entry} (h : e.Readable) :
    readLines ((Line.entry e).text.splitOnP isBreak) = some [e] := by
  have hsplit : (Line.entry e).text.splitOnP isBreak = [e.text] :=
    List.splitOnP_eq_singleton fun c hc => isBreak_of_mem_text h hc
  rw [hsplit, readLines, readLine_text h]
  rfl

/-- Lines that are meant as readable entries give at least these entries, and no
others if and only if the remaining lines are skipped. -/
theorem length_le_of_readLines {lines : List Line}
    (h : ∀ e ∈ entriesOf lines, e.Readable) {es : List Entry}
    (hread : readLines (parts lines) = some es) : (entriesOf lines).length ≤ es.length ∧
      (es.length = (entriesOf lines).length → ∀ line ∈ lines, line.Faithful) := by
  induction lines generalizing es with
  | nil => simp
  | cons line lines ih =>
    rw [parts_cons, readLines_append] at hread
    obtain ⟨first, hfirst, hmap⟩ := Option.bind_eq_some_iff.mp hread
    obtain ⟨rest, hrest, rfl⟩ := Option.map_eq_some_iff.mp hmap
    cases line with
    | entry e =>
      obtain ⟨he, hes⟩ := List.forall_mem_cons.mp h
      obtain ⟨hle, hfaithful⟩ := ih hes hrest
      obtain rfl : [e] = first := Option.some.inj ((readLines_entry he).symm.trans hfirst)
      simp only [entriesOf_cons_entry, List.length_cons, List.singleton_append]
      refine ⟨by omega, fun hlength => List.forall_mem_cons.mpr ⟨he, hfaithful (by omega)⟩⟩
    | note text =>
      obtain ⟨hle, hfaithful⟩ := ih h hrest
      simp only [entriesOf_cons_note, List.length_append]
      refine ⟨by omega, fun hlength => List.forall_mem_cons.mpr ⟨?_, hfaithful (by omega)⟩⟩
      obtain rfl : first = [] := List.length_eq_zero_iff.mp (by omega)
      exact readLines_eq_nil_iff.mp hfirst

theorem readLines_of_faithful {lines : List Line} (h : ∀ line ∈ lines, line.Faithful) :
    readLines (parts lines) = some (entriesOf lines) := by
  induction lines with
  | nil => rfl
  | cons line lines ih =>
    obtain ⟨hline, hlines⟩ := List.forall_mem_cons.mp h
    rw [parts_cons, readLines_append, ih hlines]
    cases line with
    | entry e => rw [readLines_entry hline]; rfl
    | note text => rw [Line.text, readLines_eq_nil_iff.mpr hline]; rfl

/-- A document is read as it is meant if and only if each of its lines is. -/
theorem readDocument_written_eq_iff (lines : List Line) :
    readDocument (written '\n' (lines.map Line.text)) = some (entriesOf lines) ↔
      ∀ line ∈ lines, line.Faithful := by
  have hread : readDocument (written '\n' (lines.map Line.text)) = readLines (parts lines) := by
    rw [readDocument, splitOnP_written, readLines_append, parts]
    have hlast : readLines [[]] = some [] := rfl
    cases readLines ((lines.map Line.text).flatMap (List.splitOnP isBreak)) <;> simp [hlast]
  rw [hread]
  constructor
  · intro h
    exact (length_le_of_readLines (fun e he => readable_of_readLines h he) h).2 rfl
  · exact readLines_of_faithful

end documents

section blocks

/-- The key of a body. -/
def Body.key : Body → Option Text
  | .opens key | .setting key _ | .listing key _ => some key
  | .element _ => none

/-- The bodies with a key that come under a top-level heading. -/
def under (heading key : Text) : Bool → List Entry → List Body
  | _, [] => []
  | inside, e :: es =>
    if e.indent = 0 ∧ e.item = false then under heading key (e.body.key = some heading) es
    else if inside ∧ e.body.key = some key then e.body :: under heading key inside es
    else under heading key inside es

/-- A top-level heading with what is indented under it. -/
structure Block where
  /-- What the first line says. -/
  heading : Body
  /-- The other lines. -/
  entries : List Entry
  /-- They are indented. -/
  indented : ∀ e ∈ entries, e.indent ≠ 0

/-- All lines of a block. -/
def Block.lines (b : Block) : List Line := .entry ⟨0, false, b.heading⟩ :: b.entries.map .entry

/-- All entries of a block. -/
def Block.all (b : Block) : List Entry := ⟨0, false, b.heading⟩ :: b.entries

@[simp]
theorem entriesOf_lines (b : Block) : entriesOf b.lines = b.all := by
  simp [Block.lines, Block.all]

theorem under_append {heading key : Text} {es : List Entry} (h : ∀ e ∈ es, e.indent ≠ 0)
    (inside : Bool) (rest : List Entry) : under heading key inside (es ++ rest) =
      (if inside then (es.map Entry.body).filter (·.key = some key) else []) ++
        under heading key inside rest := by
  induction es with
  | nil => simp
  | cons e es ih =>
    obtain ⟨he, hes⟩ := List.forall_mem_cons.mp h
    rw [List.cons_append, under, if_neg (by simp [he]), ih hes]
    cases inside with
    | false => simp
    | true => by_cases hkey : e.body.key = some key <;> simp [hkey]

/-- What comes under a heading is what the blocks with this heading contain. -/
theorem under_blocks (heading key : Text) (inside : Bool) (blocks : List Block) :
    under heading key inside (blocks.flatMap Block.all) =
      (blocks.filter (·.heading.key = some heading)).flatMap fun b =>
        (b.entries.map Entry.body).filter (·.key = some key) := by
  induction blocks generalizing inside with
  | nil => rfl
  | cons b blocks ih =>
    rw [List.flatMap_cons, Block.all, List.cons_append, under, if_pos ⟨rfl, rfl⟩,
      under_append b.indented, ih]
    by_cases h : b.heading.key = some heading <;> simp [h]

theorem filter_eq_singleton_of_nodup {α β : Type*} [DecidableEq β] {f : α → β} {l : List α}
    (h : (l.map f).Nodup) {a : α} (ha : a ∈ l) : l.filter (f · = f a) = [a] := by
  induction l with
  | nil => exact absurd ha List.not_mem_nil
  | cons b l ih =>
    obtain ⟨hb, hl⟩ := List.nodup_cons.mp h
    rcases List.mem_cons.mp ha with rfl | hmem
    · have hnone : l.filter (f · = f a) = [] := by
        refine List.filter_eq_nil_iff.mpr fun c hc hfc => hb ?_
        rw [← of_decide_eq_true hfc]
        exact List.mem_map_of_mem hc
      rw [List.filter_cons_of_pos (by simp), hnone]
    · have hne : f b ≠ f a := fun heq => hb (heq ▸ List.mem_map_of_mem hmem)
      rw [List.filter_cons_of_neg (by simpa using hne), ih hl hmem]

/-- Under the heading of one block comes what that block contains. -/
theorem under_block {blocks : List Block} (h : (blocks.map (·.heading.key)).Nodup) {b : Block}
    (hb : b ∈ blocks) {heading : Text} (hkey : b.heading.key = some heading) (key : Text)
    (inside : Bool) : under heading key inside (blocks.flatMap Block.all) =
      (b.entries.map Entry.body).filter (·.key = some key) := by
  rw [under_blocks, ← hkey, filter_eq_singleton_of_nodup h hb, List.flatMap_singleton]

/-- Nothing comes under a heading that no block has. -/
theorem under_eq_nil {blocks : List Block} {heading : Text}
    (h : some heading ∉ blocks.map (·.heading.key)) (key : Text) (inside : Bool) :
    under heading key inside (blocks.flatMap Block.all) = [] := by
  have hnone : blocks.filter (·.heading.key = some heading) = [] := by
    refine List.filter_eq_nil_iff.mpr fun b hb hkey => h ?_
    rw [← of_decide_eq_true hkey]
    exact List.mem_map_of_mem hb
  rw [under_blocks, hnone, List.flatMap_nil]

end blocks

end CislunarDtn.BlockLayouts
