import CislunarDtn.TelemetryPreviews

/-!
# Formats of the counters of bundles

The counters are written as lines with colons, as words with equals signs, or
as a table. Each of them has several names, which stand behind a prefix or
without one and are spelled in capital or in small letters. What has the first
two formats is read back, whereas no counter of a table is ever found.
-/

namespace CislunarDtn.BpstatsFormats

open DecimalTexts TelemetryPreviews TerminatedLines TextScans Utf8Slices

section counters

/-- The counters of bundles. -/
inductive Counter where
  /-- Of created bundles. -/
  | sourced
  /-- Of bundles that were passed on. -/
  | forwarded
  /-- Of delivered bundles. -/
  | delivered
  /-- Of expired bundles. -/
  | expired
  /-- Of waiting bundles. -/
  | queued
  deriving DecidableEq

namespace Counter

/-- The names under which a counter is read. -/
def names : Counter → List Text
  | .sourced => sourcedNames
  | .forwarded => forwardedNames
  | .delivered => deliveredNames
  | .expired => expiredNames
  | .queued => queuedNames

/-- The value of a counter. -/
def value (stats : BundleStatistics) : Counter → UInt64
  | .sourced => stats.bundlesSourced
  | .forwarded => stats.bundlesForwarded
  | .delivered => stats.bundlesDelivered
  | .expired => stats.bundlesExpired
  | .queued => stats.bundlesQueued

/-- The value of a counter in decimal digits. -/
def valueText (stats : BundleStatistics) (counter : Counter) : Text :=
  decimal (counter.value stats).toNat

/-- Set a counter. -/
def set (stats : BundleStatistics) (number : UInt64) : Counter → BundleStatistics
  | .sourced => { stats with bundlesSourced := number }
  | .forwarded => { stats with bundlesForwarded := number }
  | .delivered => { stats with bundlesDelivered := number }
  | .expired => { stats with bundlesExpired := number }
  | .queued => { stats with bundlesQueued := number }

/-- A counter that is set has its new value, and the others keep theirs. -/
theorem value_set (stats : BundleStatistics) (number : UInt64) (counter other : Counter) :
    other.value (counter.set stats number) =
      if other = counter then number else other.value stats := by
  cases counter <;> cases other <;> rfl

theorem eq_of_value_eq {stats stats' : BundleStatistics}
    (h : ∀ counter : Counter, counter.value stats = counter.value stats') : stats = stats' := by
  obtain ⟨sourced, forwarded, delivered, expired, queued⟩ := stats
  obtain ⟨sourced', forwarded', delivered', expired', queued'⟩ := stats'
  have hsourced : sourced = sourced' := h .sourced
  have hforwarded : forwarded = forwarded' := h .forwarded
  have hdelivered : delivered = delivered' := h .delivered
  have hexpired : expired = expired' := h .expired
  have hqueued : queued = queued' := h .queued
  rw [hsourced, hforwarded, hdelivered, hexpired, hqueued]

/-- Each name sets its own counter. -/
theorem applyStatValue_of_mem {counter : Counter} {name : Text} (h : name ∈ counter.names)
    (stats : BundleStatistics) (number : UInt64) :
    applyStatValue stats name number = some (counter.set stats number) := by
  cases counter <;>
    simp only [names, sourcedNames, forwardedNames, deliveredNames, expiredNames, queuedNames,
      List.mem_cons, List.not_mem_nil, or_false] at h
  case sourced => rcases h with rfl | rfl | rfl <;> rfl
  case forwarded => rcases h with rfl | rfl | rfl <;> rfl
  case delivered => rcases h with rfl | rfl | rfl <;> rfl
  case expired => rcases h with rfl | rfl | rfl | rfl <;> rfl
  case queued => rcases h with rfl | rfl | rfl | rfl <;> rfl

/-- Take over the value that a counter has in some statistics. -/
def record (stats : BundleStatistics) (reading : StatsReading) (counter : Counter) :
    StatsReading :=
  ⟨counter.set reading.stats (counter.value stats), true⟩

/-- Counters that were taken over have their values, and the others keep theirs. -/
theorem value_foldl_record (stats : BundleStatistics) (counters : List Counter)
    (reading : StatsReading) (other : Counter) :
    other.value (counters.foldl (record stats) reading).stats =
      if other ∈ counters then other.value stats else other.value reading.stats := by
  induction counters generalizing reading with
  | nil => rfl
  | cons counter counters ih =>
    rw [List.foldl_cons, ih, record, value_set]
    by_cases hsame : other = counter
    · simp [hsame]
    · simp [hsame]

theorem parsedAny_foldl_record (stats : BundleStatistics) (counters : List Counter)
    (reading : StatsReading) : (counters.foldl (record stats) reading).parsedAny = true ↔
      reading.parsedAny = true ∨ counters ≠ [] := by
  induction counters generalizing reading with
  | nil => simp
  | cons counter counters ih => simp [ih, record]

/-- Statistics are taken over as a whole if every counter is. -/
theorem foldl_record_of_forall_mem {stats : BundleStatistics} {counters : List Counter}
    (h : ∀ counter : Counter, counter ∈ counters) (reading : StatsReading) :
    counters.foldl (record stats) reading = ⟨stats, true⟩ := by
  have hstats : (counters.foldl (record stats) reading).stats = stats :=
    eq_of_value_eq fun counter => by rw [value_foldl_record, if_pos (h counter)]
  have hparsed : (counters.foldl (record stats) reading).parsedAny = true :=
    (parsedAny_foldl_record stats counters reading).mpr (Or.inr (List.ne_nil_of_mem (h .sourced)))
  cases hresult : counters.foldl (record stats) reading with
  | mk found parsed =>
    rw [hresult] at hstats hparsed
    exact congrArg₂ StatsReading.mk hstats hparsed

end Counter

theorem parseNumber_decimal (number : UInt64) :
    parseNumber (decimal number.toNat) = some number := by
  have hdigits : parseNumber (decimal number.toNat) = parseUInt64 (decimal number.toNat) := by
    unfold parseNumber
    split
    next digits heq =>
      have hsign : '+' ∈ decimal number.toNat := by rw [heq]; exact List.mem_cons_self
      exact absurd hsign (notMem_decimal (by decide) _)
    next => rfl
  rw [hdigits, parseUInt64_decimal]

/-- A name with the value of its counter takes the value over. -/
theorem readPair_of_mem {counter : Counter} {name : Text} (h : name ∈ counter.names)
    (stats : BundleStatistics) (reading : StatsReading) :
    readPair reading (name, counter.valueText stats) =
      counter.record stats reading := by
  simp only [readPair, Counter.valueText, parseNumber_decimal, Option.bind_some,
    Counter.applyStatValue_of_mem h]
  rfl

end counters

section words

variable (unicode : Lowercasing)

theorem splitWhitespace_append_cons (front : Text) {c : Char} (hc : isWhitespace c = true)
    (back : Text) :
    splitWhitespace (front ++ c :: back) = splitWhitespace front ++ splitWhitespace back := by
  rw [splitWhitespace, List.splitOnP_append_cons _ _ hc, List.filter_append]
  rfl

/-- A text without white space is a word. -/
theorem splitWhitespace_of_word {text : Text} (h : ∀ c ∈ text, isWhitespace c = false)
    (hne : text ≠ []) : splitWhitespace text = [text] := by
  rw [splitWhitespace, List.splitOnP_eq_singleton h]
  exact List.filter_eq_self.mpr (by simpa using hne)

theorem splitWhitespace_cons {c : Char} (hc : isWhitespace c = true) (text : Text) :
    splitWhitespace (c :: text) = splitWhitespace text :=
  splitWhitespace_append_cons [] hc text

theorem splitWhitespace_concat (text : Text) {c : Char} (hc : isWhitespace c = true) :
    splitWhitespace (text ++ [c]) = splitWhitespace text := by
  rw [splitWhitespace_append_cons text hc]
  exact List.append_nil _

/-- White space at the ends does not change the words. -/
theorem splitWhitespace_trim (text : Text) :
    splitWhitespace (trim text) = splitWhitespace text := by
  have hfront : splitWhitespace (text.dropWhile isWhitespace) = splitWhitespace text := by
    induction text with
    | nil => rfl
    | cons c text ih =>
      rw [List.dropWhile_cons]
      split
      next hc => rw [ih, splitWhitespace_cons hc]
      next => rfl
  have hback : ∀ rest : Text, splitWhitespace (rest.rdropWhile isWhitespace) =
      splitWhitespace rest := by
    intro rest
    induction rest using List.reverseRecOn with
    | nil => rfl
    | append_singleton rest c ih =>
      by_cases hc : isWhitespace c = true
      · rw [List.rdropWhile_concat_pos _ _ _ hc, ih, splitWhitespace_concat rest hc]
      · rw [List.rdropWhile_concat_neg _ _ _ hc]
  rw [trim, hback, hfront]

/-- Read the words of a text that have equals signs. -/
def readWords (reading : StatsReading) (text : Text) : StatsReading :=
  ((splitWhitespace text).filterMap (parseEqualsSeparated unicode)).foldl readPair reading

theorem readWords_append_cons (reading : StatsReading) (front : Text) {c : Char}
    (hc : isWhitespace c = true) (back : Text) : readWords unicode reading (front ++ c :: back) =
      readWords unicode (readWords unicode reading front) back := by
  simp only [readWords, splitWhitespace_append_cons front hc, List.filterMap_append,
    List.foldl_append]

/-- Blanks between words are passed over. -/
theorem readWords_blanks (reading : StatsReading) {gap : Text}
    (h : ∀ c ∈ gap, isWhitespace c = true) (back : Text) :
    readWords unicode reading (gap ++ back) = readWords unicode reading back := by
  induction gap with
  | nil => rfl
  | cons c gap ih =>
    have hc : isWhitespace c = true := h c List.mem_cons_self
    rw [List.cons_append, readWords, splitWhitespace_cons hc]
    exact ih fun d hd => h d (List.mem_cons_of_mem c hd)

/-- Words with blanks between them are read one after the other. -/
theorem readWords_intercalate (reading : StatsReading) {gap : Text} (hne : gap ≠ [])
    (h : ∀ c ∈ gap, isWhitespace c = true) (tokens : List Text) :
    readWords unicode reading (gap.intercalate tokens) =
      tokens.foldl (readWords unicode) reading := by
  induction tokens generalizing reading with
  | nil => rfl
  | cons token tokens ih =>
    cases tokens with
    | nil => rw [List.intercalate_singleton]; rfl
    | cons next tokens =>
      obtain ⟨c, blanks, rfl⟩ := List.exists_cons_of_ne_nil hne
      obtain ⟨hc, hblanks⟩ := List.forall_mem_cons.mp h
      rw [List.intercalate_cons_cons, List.append_assoc, List.cons_append,
        readWords_append_cons unicode reading token hc, readWords_blanks unicode _ hblanks, ih]
      rfl

theorem mem_of_mem_intercalate {c : Char} {gap : Text} {tokens : List Text}
    (h : c ∈ gap.intercalate tokens) : c ∈ gap ∨ ∃ token ∈ tokens, c ∈ token := by
  induction tokens with
  | nil => exact absurd h List.not_mem_nil
  | cons token tokens ih =>
    cases tokens with
    | nil =>
      rw [List.intercalate_singleton] at h
      exact Or.inr ⟨token, List.mem_cons_self, h⟩
    | cons next tokens =>
      rw [List.intercalate_cons_cons, List.append_assoc, List.mem_append, List.mem_append] at h
      rcases h with htoken | hgap | hrest
      · exact Or.inr ⟨token, List.mem_cons_self, htoken⟩
      · exact Or.inl hgap
      · rcases ih hrest with hgap | ⟨other, hother, hc⟩
        · exact Or.inl hgap
        · exact Or.inr ⟨other, List.mem_cons_of_mem token hother, hc⟩

variable {unicode}

theorem subset_of_mem_splitOnP {text part : Text} (h : part ∈ text.splitOnP isWhitespace) :
    part ⊆ text := by
  induction text generalizing part with
  | nil =>
    rw [List.splitOnP_nil, List.mem_singleton] at h
    rw [h]
    exact List.nil_subset _
  | cons c text ih =>
    rw [List.splitOnP_cons_eq_if_modifyHead] at h
    split at h
    next =>
      rcases List.mem_cons.mp h with rfl | hrest
      · exact List.nil_subset _
      · exact List.subset_cons_of_subset c (ih hrest)
    next =>
      cases hparts : text.splitOnP isWhitespace with
      | nil => exact absurd hparts (List.splitOnP_ne_nil _ _)
      | cons first parts =>
        rw [hparts, List.modifyHead_cons] at h
        rcases List.mem_cons.mp h with rfl | hrest
        · exact List.cons_subset_cons c (ih (by rw [hparts]; exact List.mem_cons_self))
        · exact List.subset_cons_of_subset c
            (ih (by rw [hparts]; exact List.mem_cons_of_mem first hrest))

theorem afterFirst_singleton_of_notMem {c : Char} {text : Text} (h : c ∉ text) :
    afterFirst [c] text = none :=
  afterFirst_eq_none_of_avoids (avoids_of_notMem h [])

/-- A text without the separator has no value. -/
theorem parseSeparated_of_notMem {separator : Char} {text : Text} (h : separator ∉ text) :
    parseSeparated unicode separator text = none := by
  rw [parseSeparated, afterFirst_singleton_of_notMem h]
  rfl

/-- A key, the separator and a value are taken apart. -/
theorem parseSeparated_append_cons {separator : Char} {key value : Text} {after : Text}
    (hkey : separator ∉ key) (htrim : trim key = key) (hne : key ≠ []) (hafter : trim after = value)
    (hvalue : value ≠ []) : parseSeparated unicode separator (key ++ separator :: after) =
      some (normalizeStatKey unicode key, value) := by
  have hfound : afterFirst [separator] (key ++ separator :: after) = some after := by
    rw [afterFirst_append_of_avoids (avoids_of_notMem hkey [])]
    exact afterFirst_append_self [separator] after
  have hfront : (key ++ separator :: after).takeWhile (· ≠ separator) = key := by
    rw [List.takeWhile_append_of_pos (by simpa using fun c hc => ne_of_mem_of_not_mem hc hkey)]
    simp
  rw [parseSeparated, hfound, Option.bind_some, hfront, htrim, hafter]
  exact if_neg (not_or.mpr ⟨hne, hvalue⟩)

/-- Nothing is read from a text without equals signs. -/
theorem readWords_of_notMem {text : Text} (h : '=' ∉ text) (reading : StatsReading) :
    readWords unicode reading text = reading := by
  have hnone : (splitWhitespace text).filterMap (parseEqualsSeparated unicode) = [] := by
    refine List.filterMap_eq_nil_iff.mpr fun word hword => ?_
    exact parseSeparated_of_notMem fun hc =>
      h (subset_of_mem_splitOnP (List.mem_of_mem_filter hword) hc)
  rw [readWords, hnone]
  rfl

/-- A line without a colon is read word by word. -/
theorem readStatLine_of_notMem {line : Text} (h : ':' ∉ line) (reading : StatsReading) :
    readStatLine unicode reading line = readWords unicode reading line := by
  have htrim : ':' ∉ trim line := fun hc =>
    h ((List.dropWhile_sublist _).subset ((List.rdropWhile_prefix _ _).subset hc))
  rw [readStatLine, parseColonSeparated, parseSeparated_of_notMem htrim, splitWhitespace_trim]
  rfl

end words

section labels

/-- What may stand before the name of a counter. -/
def namePrefixes : List Text := [[], chars "bundles_", chars "bundles ", chars "bundle_"]

/-- A key is the name of a counter, with a prefix and in any case. -/
def Spells (counter : Counter) (key : Text) : Prop :=
  ∃ pre ∈ namePrefixes, ∃ name ∈ counter.names, key.map Char.toLower = pre ++ name

instance (counter : Counter) (key : Text) : Decidable (Spells counter key) :=
  inferInstanceAs (Decidable (∃ pre ∈ namePrefixes, ∃ name ∈ counter.names, _ = _))

/-- A key of a counter. -/
structure Label where
  /-- The counter. -/
  counter : Counter
  /-- The key as it is written. -/
  key : Text
  /-- The key is a name of the counter. -/
  spelled : Spells counter key

/-- Characters of keys in lower case. -/
def isKeyChar (c : Char) : Bool := (97 ≤ c.toNat && c.toNat ≤ 122) || c ∈ ['_', ' ']

/-- A text that consists of such characters, with no blank at its ends. -/
def isKeyText (text : Text) : Bool :=
  text.all isKeyChar && text.head?.all (fun c => !isWhitespace c) &&
    text.getLast?.all (fun c => !isWhitespace c) && text ≠ []

theorem isKeyText_iff {text : Text} : isKeyText text = true ↔
    (∀ c ∈ text, isKeyChar c = true) ∧ (∀ c ∈ text.head?, isWhitespace c = false) ∧
      (∀ c ∈ text.getLast?, isWhitespace c = false) ∧ text ≠ [] := by
  simp only [isKeyText, Bool.and_eq_true, List.all_eq_true, Option.all_eq_true, Bool.not_eq_true',
    decide_eq_true_eq, and_assoc, Option.mem_def]

/-- A name behind a prefix is such a text. -/
theorem isKeyText_prefix_append {counter : Counter} {pre name : Text} (hpre : pre ∈ namePrefixes)
    (hname : name ∈ counter.names) : isKeyText (pre ++ name) = true := by
  have hall : ∀ pre ∈ namePrefixes, ∀ name ∈ counter.names, isKeyText (pre ++ name) = true := by
    cases counter <;> decide
  exact hall pre hpre name hname

/-- A name in lower case is found behind each prefix. -/
theorem normalizeStatKey_prefix_append {counter : Counter} {pre name : Text}
    (hpre : pre ∈ namePrefixes) (hname : name ∈ counter.names) :
    normalizeStatKey asciiLowercasing (pre ++ name) = name := by
  have hall : ∀ pre ∈ namePrefixes, ∀ name ∈ counter.names,
      normalizeStatKey asciiLowercasing (pre ++ name) = name := by
    cases counter <;> decide
  exact hall pre hpre name hname

theorem isKeyChar_of_mem {counter : Counter} {key : Text} (h : Spells counter key) {c : Char}
    (hc : c ∈ key) : isKeyChar c.toLower = true := by
  obtain ⟨pre, hpre, name, hname, hlower⟩ := h
  have hmem : c.toLower ∈ pre ++ name := by
    rw [← hlower]
    exact List.mem_map_of_mem hc
  exact (isKeyText_iff.mp (isKeyText_prefix_append hpre hname)).1 _ hmem

/-- White space neither begins nor ends a key. -/
theorem ends_key {counter : Counter} {key : Text} (h : Spells counter key) :
    (∀ c ∈ key.head?, isWhitespace c = false) ∧ ∀ c ∈ key.getLast?, isWhitespace c = false := by
  obtain ⟨pre, hpre, name, hname, hlower⟩ := h
  obtain ⟨-, hfirst, hlast, -⟩ := isKeyText_iff.mp (isKeyText_prefix_append hpre hname)
  rw [← hlower, List.head?_map] at hfirst
  rw [← hlower, List.getLast?_map] at hlast
  constructor
  · intro c hc
    rw [← isWhitespace_toLower]
    exact hfirst _ (Option.mem_map_of_mem _ hc)
  · intro c hc
    rw [← isWhitespace_toLower]
    exact hlast _ (Option.mem_map_of_mem _ hc)

theorem trim_key {counter : Counter} {key : Text} (h : Spells counter key) : trim key = key :=
  trim_eq_self (ends_key h).1 (ends_key h).2

theorem key_ne_nil {counter : Counter} {key : Text} (h : Spells counter key) : key ≠ [] := by
  obtain ⟨pre, hpre, name, hname, hlower⟩ := h
  rintro rfl
  exact (isKeyText_iff.mp (isKeyText_prefix_append hpre hname)).2.2.2 hlower.symm

/-- The characters of a key in lower case are those of ASCII. -/
theorem toNat_lt_of_isKeyChar {c : Char} (h : isKeyChar c.toLower = true) : c.toNat < 128 := by
  refine toNat_lt_of_toLower ?_
  simp only [isKeyChar, Bool.or_eq_true, Bool.and_eq_true, decide_eq_true_eq, List.mem_cons,
    List.not_mem_nil, or_false] at h
  rcases h with hletter | hline | hblank
  · omega
  · rw [hline]; decide
  · rw [hblank]; decide

/-- Every key is brought to a name of its counter. -/
theorem normalizeStatKey_mem (unicode : Lowercasing) {counter : Counter} {key : Text}
    (h : Spells counter key) : normalizeStatKey unicode key ∈ counter.names := by
  have hascii : ∀ c ∈ key, c.toNat < 128 :=
    fun c hc => toNat_lt_of_isKeyChar (isKeyChar_of_mem h hc)
  obtain ⟨pre, hpre, name, hname, hlower⟩ := h
  have hsame : unicode.toLowercase key = asciiLowercasing.toLowercase (pre ++ name) := by
    rw [unicode.ascii key hascii, ← hlower]
    simp [asciiLowercasing]
  have hnormal : normalizeStatKey unicode key =
      normalizeStatKey asciiLowercasing (pre ++ name) := by
    rw [normalizeStatKey, normalizeStatKey, hsame]
  rw [hnormal, normalizeStatKey_prefix_append hpre hname]
  exact hname

/-- A key is one word, or its last word alone is such a key. -/
theorem exists_word {counter : Counter} {key : Text} (h : Spells counter key) :
    (∀ c ∈ key, isWhitespace c = false) ∨ ∃ before word, key = before ++ ' ' :: word ∧
      '=' ∉ before ∧ Spells counter word ∧ ∀ c ∈ word, isWhitespace c = false := by
  have hnames : ∀ name ∈ counter.names, (name.all fun c => !isWhitespace c) = true := by
    cases counter <;> decide
  have hword : ∀ {word lower : Text}, word.map Char.toLower = lower →
      (lower.all fun c => !isWhitespace c) = true → ∀ c ∈ word, isWhitespace c = false := by
    intro word lower hlower hlist c hc
    have hmem : c.toLower ∈ lower := by
      rw [← hlower]
      exact List.mem_map_of_mem hc
    rw [← isWhitespace_toLower]
    simpa using List.all_eq_true.mp hlist c.toLower hmem
  have hkey := fun c (hc : c ∈ key) => isKeyChar_of_mem h hc
  obtain ⟨pre, hpre, name, hname, hlower⟩ := h
  by_cases hblank : pre = chars "bundles "
  · right
    have hsplit : pre ++ name = chars "bundles" ++ ' ' :: name := by rw [hblank]; rfl
    rw [hsplit] at hlower
    obtain ⟨before, rest, rfl, hbefore, hrest⟩ := List.map_eq_append_iff.mp hlower
    obtain ⟨c, word, rfl, hc, hlast⟩ := List.map_eq_cons_iff.mp hrest
    obtain rfl : c = ' ' := eq_of_toLower_eq hc (by decide)
    refine ⟨before, word, rfl, ?_, ⟨[], List.mem_cons_self, name, hname, hlast⟩,
      hword hlast (hnames name hname)⟩
    intro hequals
    exact absurd (hkey _ (List.mem_append_left _ hequals)) (by decide)
  · left
    have hpre' : ∀ pre ∈ namePrefixes, pre ≠ chars "bundles " →
        (pre.all fun c => !isWhitespace c) = true := by decide
    refine hword hlower ?_
    rw [List.all_append, hpre' pre hpre hblank, hnames name hname]
    rfl

variable {unicode : Lowercasing} {counter : Counter} {key : Text}

theorem notMem_key (h : Spells counter key) {c : Char} (hc : isKeyChar c.toLower = false) :
    c ∉ key := by
  intro hmem
  rw [isKeyChar_of_mem h hmem] at hc
  cases hc

/-- The value of a counter stands behind its key and an equals sign. -/
theorem readWords_equals (h : Spells counter key) (stats : BundleStatistics)
    (reading : StatsReading) :
    readWords unicode reading (key ++ '=' :: counter.valueText stats) =
      counter.record stats reading := by
  have hvalue : ∀ c ∈ '=' :: counter.valueText stats, isWhitespace c = false := by
    intro c hc
    rcases List.mem_cons.mp hc with rfl | hdigit
    · decide
    · exact isWhitespace_of_mem_decimal hdigit
  have hsingle : ∀ {word : Text}, Spells counter word → (∀ c ∈ word, isWhitespace c = false) →
      ∀ reading, readWords unicode reading (word ++ '=' :: counter.valueText stats) =
        counter.record stats reading := by
    intro word hword hblank reading
    have hparsed : parseEqualsSeparated unicode
        (word ++ '=' :: counter.valueText stats) =
          some (normalizeStatKey unicode word, counter.valueText stats) :=
      parseSeparated_append_cons (notMem_key hword (by decide)) (trim_key hword)
        (key_ne_nil hword) (trim_decimal _) (decimal_ne_nil _)
    rw [readWords, splitWhitespace_of_word (List.forall_mem_append.mpr ⟨hblank, hvalue⟩) (by simp),
      List.filterMap_cons_some hparsed]
    exact readPair_of_mem (normalizeStatKey_mem unicode hword) stats reading
  rcases exists_word h with hblank | ⟨before, word, rfl, hbefore, hword, hblank⟩
  · exact hsingle h hblank reading
  · rw [List.append_assoc, List.cons_append,
      readWords_append_cons unicode reading before (by decide), readWords_of_notMem hbefore,
      hsingle hword hblank]

/-- The value of a counter stands behind its key and a colon. -/
theorem readStatLine_colon (h : Spells counter key) (stats : BundleStatistics)
    (reading : StatsReading) : readStatLine unicode reading
      (key ++ chars ": " ++ counter.valueText stats) = counter.record stats reading := by
  have htrim : trim (key ++ chars ": " ++ counter.valueText stats) =
      key ++ chars ": " ++ counter.valueText stats := by
    refine trim_eq_self (fun c hc => ?_) fun c hc => ?_
    · rw [List.append_assoc, List.head?_append_of_ne_nil _ (key_ne_nil h)] at hc
      exact (ends_key h).1 c hc
    · rw [Counter.valueText, List.getLast?_append_of_ne_nil _ (decimal_ne_nil _)] at hc
      exact isWhitespace_of_mem_decimal (List.mem_of_mem_getLast? hc)
  have hparsed : parseColonSeparated unicode
      (key ++ chars ": " ++ counter.valueText stats) =
        some (normalizeStatKey unicode key, counter.valueText stats) := by
    rw [List.append_assoc]
    exact parseSeparated_append_cons (notMem_key h (by decide)) (trim_key h) (key_ne_nil h)
      (trim_cons (by decide) fun c hc => isWhitespace_of_mem_decimal hc) (decimal_ne_nil _)
  rw [readStatLine, htrim, hparsed]
  exact readPair_of_mem (normalizeStatKey_mem unicode h) stats reading

end labels

section renderings

/-- The formats of the output. -/
inductive Layout where
  /-- A line with a colon for each counter. -/
  | colon
  /-- Words with equals signs on one line. -/
  | equals
  /-- Keys and values in turn on one line. -/
  | table
  deriving DecidableEq

/-- Blanks between words. -/
structure Gap where
  /-- The blanks. -/
  text : Text
  /-- There is at least one. -/
  ne_nil : text ≠ []
  /-- They are spaces or tabulators. -/
  blank : ∀ c ∈ text, c = ' ' ∨ c = '\t'

/-- How the counters are written. -/
structure Rendering where
  /-- The format. -/
  layout : Layout
  /-- The blanks between the words of a line. -/
  gap : Gap
  /-- The keys in their order. -/
  labels : List Label
  /-- No counter is left out. -/
  complete : ∀ counter, ∃ label ∈ labels, label.counter = counter

namespace Rendering

/-- The parts of a line that are about one counter. -/
def tokens (stats : BundleStatistics) (label : Label) : Layout → List Text
  | .colon => [label.key ++ chars ": " ++ label.counter.valueText stats]
  | .equals => [label.key ++ '=' :: label.counter.valueText stats]
  | .table => [label.key, label.counter.valueText stats]

/-- The lines of the output. -/
def lines (rendering : Rendering) (stats : BundleStatistics) : List Text :=
  let parts := rendering.labels.flatMap fun label => tokens stats label rendering.layout
  if rendering.layout = .colon then parts else [rendering.gap.text.intercalate parts]

/-- The output. -/
def text (rendering : Rendering) (stats : BundleStatistics) : Text :=
  written '\n' (rendering.lines stats)

/-- What stands in a line between keys and values. -/
def separators : Layout → List Char
  | .colon => [':', ' ', '\t']
  | .equals => ['=', ' ', '\t']
  | .table => [' ', '\t']

/-- A character of a line. -/
def IsLineChar (layout : Layout) (c : Char) : Prop :=
  isKeyChar c.toLower = true ∨ c.isDigit = true ∨ c ∈ separators layout

theorem isLineChar_of_mem_tokens {stats : BundleStatistics} {label : Label} {layout : Layout}
    {token : Text} (htoken : token ∈ tokens stats label layout) {c : Char} (hc : c ∈ token) :
    IsLineChar layout c := by
  have hkey : c ∈ label.key → IsLineChar layout c :=
    fun h => Or.inl (isKeyChar_of_mem label.spelled h)
  have hvalue : c ∈ label.counter.valueText stats → IsLineChar layout c :=
    fun h => Or.inr (Or.inl (isDigit_of_mem_decimal h))
  cases layout with
  | colon =>
    rw [tokens, List.mem_singleton] at htoken
    rw [htoken, List.mem_append, List.mem_append] at hc
    rcases hc with (hc | hc) | hc
    · exact hkey hc
    · have hlist : ((chars ": ").all fun c => c ∈ separators .colon) = true := by decide
      exact Or.inr (Or.inr (of_decide_eq_true (List.all_eq_true.mp hlist c hc)))
    · exact hvalue hc
  | equals =>
    rw [tokens, List.mem_singleton] at htoken
    rw [htoken, List.mem_append, List.mem_cons] at hc
    rcases hc with hc | rfl | hc
    · exact hkey hc
    · exact Or.inr (Or.inr List.mem_cons_self)
    · exact hvalue hc
  | table =>
    rw [tokens, List.mem_cons, List.mem_singleton] at htoken
    rcases htoken with rfl | rfl
    · exact hkey hc
    · exact hvalue hc

theorem isLineChar_of_mem {rendering : Rendering} {stats : BundleStatistics} {line : Text}
    (hline : line ∈ rendering.lines stats) {c : Char} (hc : c ∈ line) :
    IsLineChar rendering.layout c := by
  have hpart : ∀ part ∈ rendering.labels.flatMap fun label => tokens stats label rendering.layout,
      c ∈ part → IsLineChar rendering.layout c := by
    intro part hpart hc
    obtain ⟨label, -, htoken⟩ := List.mem_flatMap.mp hpart
    exact isLineChar_of_mem_tokens htoken hc
  have hgap : c ∈ rendering.gap.text → IsLineChar rendering.layout c := by
    intro hc
    have hlist : ∀ layout, ' ' ∈ separators layout ∧ '\t' ∈ separators layout := by
      intro layout
      cases layout <;> decide
    rcases rendering.gap.blank c hc with rfl | rfl
    · exact Or.inr (Or.inr (hlist _).1)
    · exact Or.inr (Or.inr (hlist _).2)
  rw [lines] at hline
  split at hline
  next => exact hpart line hline hc
  next =>
    rw [List.mem_singleton.mp hline] at hc
    rcases mem_of_mem_intercalate hc with hc | ⟨part, hmem, hc⟩
    · exact hgap hc
    · exact hpart part hmem hc

/-- The characters of a line are those of ASCII. -/
theorem toNat_lt_of_isLineChar {layout : Layout} {c : Char} (h : IsLineChar layout c) :
    c.toNat < 128 := by
  rcases h with hkey | hdigit | hseparator
  · exact toNat_lt_of_isKeyChar hkey
  · have hrange : 48 ≤ c.toNat ∧ c.toNat ≤ 57 := Char.isDigit_iff_toNat.mp hdigit
    omega
  · have hlist : ((separators layout).all fun c => c.toNat < 128) = true := by
      cases layout <;> decide
    exact of_decide_eq_true (List.all_eq_true.mp hlist c hseparator)

theorem notMem_line {rendering : Rendering} {stats : BundleStatistics} {line : Text}
    (hline : line ∈ rendering.lines stats) {c : Char} (hkey : isKeyChar c.toLower = false)
    (hdigit : c.isDigit = false) (hc : c ∉ separators rendering.layout) : c ∉ line := by
  intro hmem
  rcases isLineChar_of_mem hline hmem with h | h | h
  · rw [h] at hkey
    cases hkey
  · rw [h] at hdigit
    cases hdigit
  · exact hc h

/-- The output consists of its lines. -/
theorem linesOf_text (rendering : Rendering) (stats : BundleStatistics) :
    linesOf '\n' (rendering.text stats) = rendering.lines stats := by
  refine linesOf_written fun line hline => notMem_line hline (by decide) (by decide) ?_
  cases rendering.layout <;> decide

variable {unicode : Lowercasing}

/-- All counters are read if each is read from its own tokens. -/
theorem foldl_tokens {layout : Layout} {read : StatsReading → Text → StatsReading}
    {stats : BundleStatistics} (h : ∀ label reading,
      (tokens stats label layout).foldl read reading = label.counter.record stats reading)
    (labels : List Label) (reading : StatsReading) :
    (labels.flatMap fun label => tokens stats label layout).foldl read reading =
      (labels.map Label.counter).foldl (Counter.record stats) reading := by
  induction labels generalizing reading with
  | nil => rfl
  | cons label labels ih =>
    rw [List.flatMap_cons, List.foldl_append, h, ih, List.map_cons, List.foldl_cons]

theorem foldl_readStatLine_tokens (stats : BundleStatistics) (label : Label)
    (reading : StatsReading) :
    (tokens stats label .colon).foldl (readStatLine unicode) reading =
      label.counter.record stats reading := readStatLine_colon label.spelled stats reading

theorem foldl_readWords_tokens (stats : BundleStatistics) (label : Label)
    (reading : StatsReading) :
    (tokens stats label .equals).foldl (readWords unicode) reading =
      label.counter.record stats reading := readWords_equals label.spelled stats reading

/-- What is read from the output: nothing of a table, and otherwise everything. -/
theorem foldl_readStatLine_text (unicode : Lowercasing) (rendering : Rendering)
    (stats : BundleStatistics) (reading : StatsReading) :
    (linesOf '\n' (rendering.text stats)).foldl (readStatLine unicode) reading =
      if rendering.layout = .table then reading else ⟨stats, true⟩ := by
  have hrecorded : (rendering.labels.map Label.counter).foldl (Counter.record stats) reading =
      ⟨stats, true⟩ := by
    refine Counter.foldl_record_of_forall_mem (fun counter => ?_) reading
    obtain ⟨label, hlabel, hcounter⟩ := rendering.complete counter
    exact List.mem_map.mpr ⟨label, hlabel, hcounter⟩
  have hblank : ∀ c ∈ rendering.gap.text, isWhitespace c = true := by
    intro c hc
    rcases rendering.gap.blank c hc with rfl | rfl
    · decide
    · decide
  have hnotMem : ∀ c, isKeyChar c.toLower = false → c.isDigit = false →
      c ∉ separators rendering.layout → ∀ line ∈ rendering.lines stats, c ∉ line :=
    fun c hkey hdigit hc line hline => notMem_line hline hkey hdigit hc
  rw [linesOf_text]
  unfold lines at hnotMem ⊢
  cases hlayout : rendering.layout with
  | colon =>
    rw [if_pos rfl, foldl_tokens (foldl_readStatLine_tokens stats), hrecorded]
    rfl
  | equals =>
    rw [hlayout, if_neg (by decide)] at hnotMem
    rw [if_neg (by decide), List.foldl_cons, List.foldl_nil,
      readStatLine_of_notMem (hnotMem ':' (by decide) (by decide) (by decide) _ List.mem_cons_self),
      readWords_intercalate unicode reading rendering.gap.ne_nil hblank,
      foldl_tokens (foldl_readWords_tokens stats), hrecorded]
    rfl
  | table =>
    rw [hlayout, if_neg (by decide)] at hnotMem
    rw [if_neg (by decide), List.foldl_cons, List.foldl_nil,
      readStatLine_of_notMem (hnotMem ':' (by decide) (by decide) (by decide) _ List.mem_cons_self),
      readWords_of_notMem (hnotMem '=' (by decide) (by decide) (by decide) _ List.mem_cons_self)]
    rfl

theorem toNat_lt_of_mem_text {rendering : Rendering} {stats : BundleStatistics} {c : Char}
    (h : c ∈ rendering.text stats) : c.toNat < 128 := by
  obtain ⟨line, hline, hc⟩ := List.mem_flatMap.mp h
  rcases List.mem_append.mp hc with hc | hc
  · exact toNat_lt_of_isLineChar (isLineChar_of_mem hline hc)
  · rw [List.mem_singleton.mp hc]
    decide

end Rendering

/-- A warning about a text of ASCII does not fail. -/
theorem warned_of_ascii {α : Type} {output : Text} (h : ∀ c ∈ output, c.toNat < 128)
    (fallback : α) : warned output fallback = .ok fallback := by
  have hcut : ∃ front, sliceTo output (min (byteLength output) 200) = .ok front :=
    sliceTo_ok_iff.mpr (isBoundary_of_ascii h (Nat.min_le_left _ _))
  obtain ⟨front, hfront⟩ := hcut
  rw [warned, outputPreview, hfront]
  rfl

/-- Exactly the counters that were written are read, unless a table has one that is not zero. -/
theorem parseBpstatsOutput_text_iff (unicode : Lowercasing) (rendering : Rendering)
    (stats : BundleStatistics) :
    parseBpstatsOutput unicode (rendering.text stats) = .ok stats ↔
      rendering.layout ≠ .table ∨ stats = .zero := by
  simp only [parseBpstatsOutput, Rendering.foldl_readStatLine_text]
  by_cases htable : rendering.layout = .table
  · have hwarned : warned (rendering.text stats) BundleStatistics.zero = .ok .zero :=
      warned_of_ascii (fun c hc => Rendering.toNat_lt_of_mem_text hc) _
    simp only [htable, ↓reduceIte, hwarned, ite_self, Except.ok.injEq, ne_eq, not_true_eq_false,
      false_or]
    exact eq_comm
  · simp [htable]

/-- The first names of the counters, written with small letters. -/
def plainLabels : List Label :=
  [⟨.sourced, chars "sourced", by decide⟩, ⟨.forwarded, chars "forwarded", by decide⟩,
    ⟨.delivered, chars "delivered", by decide⟩, ⟨.expired, chars "expired", by decide⟩,
    ⟨.queued, chars "queued", by decide⟩]

/-- A table with two spaces between its words. -/
def plainTable : Rendering where
  layout := .table
  gap := ⟨chars "  ", by decide, by simp [chars]⟩
  labels := plainLabels
  complete := fun counter => by cases counter <;> decide

/-- The counters of a table are read as zeros. -/
theorem table_read_as_zeros :
    ¬∀ (unicode : Lowercasing) (rendering : Rendering) (stats : BundleStatistics),
      parseBpstatsOutput unicode (rendering.text stats) = .ok stats := by
  intro h
  have hread := h asciiLowercasing plainTable ⟨42, 38, 35, 2, 1⟩
  have hzero : parseBpstatsOutput asciiLowercasing (plainTable.text ⟨42, 38, 35, 2, 1⟩) =
      .ok .zero := by decide +kernel
  rw [hzero] at hread
  cases hread

end renderings

end CislunarDtn.BpstatsFormats
