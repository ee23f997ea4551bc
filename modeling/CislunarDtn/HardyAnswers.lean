import CislunarDtn.BpstatsFormats

/-!
# Counters in the answers of Hardy

The management API of Hardy answers with JSON. The counters of bundles are
looked for in the answer itself and then in two objects within it. A counter is
named by any of its names, with a prefix or without one, in capital or in small
letters; where several fields name it, the last of them counts.
-/

namespace CislunarDtn.HardyAnswers

open BpstatsFormats DecimalTexts TelemetryPreviews TextScans Utf8Slices

section readings

variable (unicode : Lowercasing)

/-- A field names a counter. -/
def Names (counter : Counter) (field : Text × Json) : Prop :=
  normalizeJsonKey unicode field.1 ∈ counter.names

instance (counter : Counter) : DecidablePred (Names unicode counter) :=
  fun field => inferInstanceAs (Decidable (normalizeJsonKey unicode field.1 ∈ counter.names))

/-- The number of a field, which is zero if it is none of 64 bits. -/
def numberOf (field : Text × Json) : UInt64 := field.2.asU64.getD 0

/-- The number that fields give for a counter: that of the last one that names it. -/
def lastNumber (fields : List (Text × Json)) (counter : Counter) : UInt64 :=
  ((fields.filter (Names unicode counter)).getLast?.map numberOf).getD 0

/-- A value is an object with a field that names a counter. -/
def hasCounter : Json → Bool
  | .object fields => fields.any fun field => normalizeJsonKey unicode field.1 ∈ counterNames
  | _ => false

/-- Where the counters of an answer are looked for, in this order. -/
def places (value : Json) : List Json :=
  value :: ((value.get (chars "stats")).toList ++ (value.get (chars "bundles")).toList)

/-- Where the counters are looked for if the answer is JSON at all. -/
def placesOf {ε : Type} : Except ε Json → List Json
  | .error _ => []
  | .ok value => places value

variable {unicode}

theorem mem_counterNames_iff {name : Text} :
    name ∈ counterNames ↔ ∃ counter : Counter, name ∈ counter.names := by
  unfold counterNames
  constructor
  · intro h
    simp only [List.mem_append, or_assoc] at h
    rcases h with h | h | h | h | h
    · exact ⟨.sourced, h⟩
    · exact ⟨.forwarded, h⟩
    · exact ⟨.delivered, h⟩
    · exact ⟨.expired, h⟩
    · exact ⟨.queued, h⟩
  · rintro ⟨counter, h⟩
    cases counter <;> simp only [Counter.names] at h <;> simp [h]

/-- No two counters have a name in common. -/
theorem eq_of_mem_names {counter other : Counter} {name : Text} (h : name ∈ counter.names)
    (ho : name ∈ other.names) : other = counter := by
  have hall : ∀ name ∈ counter.names, name ∈ other.names → other = counter := by
    cases counter <;> cases other <;> decide
  exact hall name h ho

theorem readField_of_names {counter : Counter} {field : Text × Json}
    (h : Names unicode counter field) (reading : StatsReading) :
    readField unicode reading field = ⟨counter.set reading.stats (numberOf field), true⟩ := by
  rw [readField, Counter.applyStatValue_of_mem h]
  rfl

theorem readField_of_notMem {field : Text × Json}
    (h : normalizeJsonKey unicode field.1 ∉ counterNames) (reading : StatsReading) :
    readField unicode reading field = reading := by
  have hnone : applyStatValue reading.stats (normalizeJsonKey unicode field.1)
      (field.2.asU64.getD 0) = none := by
    rw [← Option.not_isSome_iff_eq_none, applyStatValue_isSome_iff]
    exact h
  rw [readField, hnone]

/-- A field sets the counter it names and leaves the others alone. -/
theorem value_readField (other : Counter) (reading : StatsReading) (field : Text × Json) :
    other.value (readField unicode reading field).stats =
      if Names unicode other field then numberOf field else other.value reading.stats := by
  by_cases hmem : normalizeJsonKey unicode field.1 ∈ counterNames
  · obtain ⟨counter, hnames⟩ := mem_counterNames_iff.mp hmem
    rw [readField_of_names hnames, Counter.value_set]
    have hiff : other = counter ↔ Names unicode other field :=
      ⟨fun heq => heq ▸ hnames, fun hother => eq_of_mem_names hnames hother⟩
    simp only [hiff]
  · have hnot : ¬ Names unicode other field := fun hother =>
      hmem (mem_counterNames_iff.mpr ⟨other, hother⟩)
    rw [readField_of_notMem hmem, if_neg hnot]

/-- The last field that names a counter gives its value. -/
theorem value_foldl_readField (counter : Counter) (fields : List (Text × Json))
    (reading : StatsReading) : counter.value (fields.foldl (readField unicode) reading).stats =
      ((fields.filter (Names unicode counter)).getLast?.map numberOf).getD
        (counter.value reading.stats) := by
  induction fields generalizing reading with
  | nil => rfl
  | cons field fields ih =>
    rw [List.foldl_cons, ih, value_readField]
    by_cases h : Names unicode counter field
    · rw [if_pos h, List.filter_cons_of_pos (by simpa using h), List.getLast?_cons]
      cases (fields.filter (Names unicode counter)).getLast? <;> rfl
    · rw [if_neg h, List.filter_cons_of_neg (by simpa using h)]

theorem parsedAny_foldl_readField (fields : List (Text × Json)) (reading : StatsReading) :
    (fields.foldl (readField unicode) reading).parsedAny =
      (reading.parsedAny || hasCounter unicode (.object fields)) := by
  induction fields generalizing reading with
  | nil => exact (Bool.or_false _).symm
  | cons field fields ih =>
    rw [List.foldl_cons, ih, hasCounter, hasCounter, List.any_cons]
    by_cases hmem : normalizeJsonKey unicode field.1 ∈ counterNames
    · obtain ⟨counter, hnames⟩ := mem_counterNames_iff.mp hmem
      rw [readField_of_names hnames, decide_eq_true hmem]
      simp
    · rw [readField_of_notMem hmem, decide_eq_false hmem, Bool.false_or]

/-- An object that names a counter is read field by field. -/
theorem extractStatsFromObject_eq_some_iff {value : Json} {stats : BundleStatistics} :
    extractStatsFromObject unicode value = some stats ↔
      ∃ fields, value = .object fields ∧ hasCounter unicode value = true ∧
        ∀ counter, counter.value stats = lastNumber unicode fields counter := by
  cases value with
  | object fields =>
    have hvalue : ∀ counter : Counter,
        counter.value (fields.foldl (readField unicode) ⟨.zero, false⟩).stats =
          ((fields.filter (Names unicode counter)).getLast?.map numberOf).getD
            (counter.value .zero) :=
      fun counter => value_foldl_readField counter fields ⟨.zero, false⟩
    have hzero : ∀ counter : Counter, counter.value .zero = 0 := by
      intro counter
      cases counter <;> rfl
    simp only [hzero] at hvalue
    simp only [extractStatsFromObject, parsedAny_foldl_readField, Bool.false_or,
      Option.ite_none_right_eq_some, Option.some.injEq, Json.object.injEq]
    constructor
    · rintro ⟨hany, rfl⟩
      exact ⟨fields, rfl, hany, hvalue⟩
    · rintro ⟨_, rfl, hany, hstats⟩
      exact ⟨hany, Counter.eq_of_value_eq fun counter => (hvalue counter).trans
        (hstats counter).symm⟩
  | null | bool | number | string | array =>
    constructor
    · intro h
      cases h
    · rintro ⟨fields, h, _⟩
      cases h

theorem isSome_extractStatsFromObject (value : Json) :
    (extractStatsFromObject unicode value).isSome = hasCounter unicode value := by
  cases value with
  | object fields =>
    simp only [extractStatsFromObject, parsedAny_foldl_readField, Bool.false_or]
    cases hasCounter unicode (.object fields) <;> rfl
  | null | bool | number | string | array => rfl

/-- The first value that is found is that of the first item that has one. -/
theorem findSome?_eq_find?_bind {α β : Type} {f : α → Option β} {p : α → Bool}
    (h : ∀ a, (f a).isSome = p a) (items : List α) :
    items.findSome? f = (items.find? p).bind f := by
  induction items with
  | nil => rfl
  | cons a items ih =>
    rw [List.findSome?_cons, List.find?_cons, ← h a, ih]
    cases hf : f a with
    | none => rfl
    | some b => exact hf.symm

/-- The counters are those of the first place that has any. -/
theorem statsOf_eq (value : Json) : statsOf unicode value =
    ((places value).find? (hasCounter unicode)).bind (extractStatsFromObject unicode) := by
  rw [← findSome?_eq_find?_bind isSome_extractStatsFromObject, places, List.findSome?_cons,
    List.findSome?_append, statsOf]
  have htoList : ∀ place : Option Json, place.toList.findSome? (extractStatsFromObject unicode) =
      place.bind (extractStatsFromObject unicode) := by
    intro place
    cases place with
    | none => rfl
    | some inner =>
      rw [Option.toList_some, List.findSome?_singleton]
      rfl
  rw [htoList, htoList]
  cases extractStatsFromObject unicode value <;>
    cases (value.get (chars "stats")).bind (extractStatsFromObject unicode) <;> rfl

/-- Where counters are found in an answer, they are read field by field. -/
theorem statsOf_eq_some_iff {value : Json} {stats : BundleStatistics} :
    statsOf unicode value = some stats ↔
      ∃ fields, (places value).find? (hasCounter unicode) = some (.object fields) ∧
        ∀ counter, counter.value stats = lastNumber unicode fields counter := by
  rw [statsOf_eq, Option.bind_eq_some_iff]
  constructor
  · rintro ⟨place, hfind, hextract⟩
    obtain ⟨fields, rfl, _, hstats⟩ := extractStatsFromObject_eq_some_iff.mp hextract
    exact ⟨fields, hfind, hstats⟩
  · rintro ⟨fields, hfind, hstats⟩
    exact ⟨.object fields, hfind,
      extractStatsFromObject_eq_some_iff.mpr ⟨fields, rfl, List.find?_some hfind, hstats⟩⟩

theorem statsOf_eq_none_iff {value : Json} :
    statsOf unicode value = none ↔ (places value).find? (hasCounter unicode) = none := by
  rw [statsOf_eq, Option.bind_eq_none_iff]
  constructor
  · intro h
    cases hfind : (places value).find? (hasCounter unicode) with
    | none => rfl
    | some place =>
      have hsome : (extractStatsFromObject unicode place).isSome = hasCounter unicode place :=
        isSome_extractStatsFromObject place
      rw [h place hfind, List.find?_some hfind] at hsome
      cases hsome
  · intro h place hfind
    rw [h] at hfind
    cases hfind

theorem warned_eq_ok_iff {output : Text} {stats : BundleStatistics} :
    warned output BundleStatistics.zero = .ok stats ↔ stats = .zero ∧ ¬ CutsCharacter output := by
  have hcuts : (∃ value, warned output BundleStatistics.zero = .ok value) ↔
      ¬ CutsCharacter output := warned_ok_iff
  rw [← hcuts, warned]
  cases outputPreview output with
  | error e => simp [Except.map]
  | ok front => simp [Except.map, eq_comm]

/-- The counters of an answer are those of the first place in it that names any,
each as the last field there that names it has it. Where no place does, or the
answer is not JSON, they are zero, unless the warning about it cuts a character. -/
theorem parseStatsJson_ok_iff (unicode : Lowercasing) {ε : Type}
    (fromStr : Text → Except ε Json) (output : Text) (stats : BundleStatistics) :
    parseStatsJson unicode fromStr output = .ok stats ↔
      (∃ fields, (placesOf (fromStr output)).find? (hasCounter unicode) = some (.object fields) ∧
        ∀ counter, counter.value stats = lastNumber unicode fields counter) ∨
      (placesOf (fromStr output)).find? (hasCounter unicode) = none ∧ stats = .zero ∧
        ¬ CutsCharacter output := by
  unfold parseStatsJson
  cases hanswer : fromStr output with
  | error e =>
    simp only [placesOf, List.find?_nil, reduceCtorEq, false_and, exists_false, false_or, true_and]
    exact warned_eq_ok_iff
  | ok value =>
    simp only [placesOf, ← statsOf_eq_some_iff, ← statsOf_eq_none_iff]
    cases hstats : statsOf unicode value with
    | some found => simp
    | none =>
      simp only [reduceCtorEq, false_or, true_and]
      exact warned_eq_ok_iff

end readings

section spellings

/-- What may stand before the name of a counter in an answer. -/
def fieldPrefixes : List Text := [[], chars "bundles_", chars "bundle_"]

/-- A key is the name of a counter, with a prefix or without one and in any case. -/
def Spells (counter : Counter) (key : Text) : Prop :=
  ∃ pre ∈ fieldPrefixes, ∃ name ∈ counter.names, key.map Char.toLower = pre ++ name

instance (counter : Counter) (key : Text) : Decidable (Spells counter key) :=
  inferInstanceAs (Decidable (∃ pre ∈ fieldPrefixes, ∃ name ∈ counter.names, _ = _))

/-- A name in lower case is found behind each prefix. -/
theorem normalizeJsonKey_prefix_append {counter : Counter} {pre name : Text}
    (hpre : pre ∈ fieldPrefixes) (hname : name ∈ counter.names) :
    normalizeJsonKey asciiLowercasing (pre ++ name) = name := by
  have hall : ∀ pre ∈ fieldPrefixes, ∀ name ∈ counter.names,
      normalizeJsonKey asciiLowercasing (pre ++ name) = name := by
    cases counter <;> decide
  exact hall pre hpre name hname

/-- The key that is left stands behind one of the prefixes. -/
theorem exists_prefix_append (unicode : Lowercasing) (key : Text) :
    ∃ pre ∈ fieldPrefixes, unicode.toLowercase key = pre ++ normalizeJsonKey unicode key := by
  unfold normalizeJsonKey
  cases hlong : (chars "bundles_").isPrefixOf? (unicode.toLowercase key) with
  | some rest =>
    have hsplit := List.isPrefixOf?_eq_some_iff_append_eq.mp hlong
    exact ⟨chars "bundles_", by simp [fieldPrefixes], by simpa [hlong] using hsplit.symm⟩
  | none =>
    cases hshort : (chars "bundle_").isPrefixOf? (unicode.toLowercase key) with
    | some rest =>
      have hsplit := List.isPrefixOf?_eq_some_iff_append_eq.mp hshort
      exact ⟨chars "bundle_", by simp [fieldPrefixes], by simpa [hlong, hshort] using hsplit.symm⟩
    | none => exact ⟨[], List.mem_cons_self, by simp [hlong, hshort]⟩

/-- Keys of ASCII characters name a counter exactly if they spell one of its names. -/
theorem names_iff_spells {unicode : Lowercasing} {counter : Counter} {key : Text}
    (hascii : ∀ c ∈ key, c.toNat < 128) (value : Json) :
    Names unicode counter (key, value) ↔ Spells counter key := by
  have hlower : unicode.toLowercase key = key.map Char.toLower := unicode.ascii key hascii
  constructor
  · intro h
    obtain ⟨pre, hpre, hkey⟩ := exists_prefix_append unicode key
    exact ⟨pre, hpre, normalizeJsonKey unicode key, h, hlower ▸ hkey⟩
  · rintro ⟨pre, hpre, name, hname, hkey⟩
    have hagain : asciiLowercasing.toLowercase (pre ++ name) = unicode.toLowercase key := by
      have htwice : (key.map Char.toLower).map Char.toLower = key.map Char.toLower := by
        rw [List.map_map]
        exact List.map_congr_left fun c _ => toLower_toLower c
      rw [hlower, ← hkey]
      exact htwice
    have hsame : normalizeJsonKey unicode key =
        normalizeJsonKey asciiLowercasing (pre ++ name) := by
      rw [normalizeJsonKey, normalizeJsonKey, hagain]
    rw [Names, hsame, normalizeJsonKey_prefix_append hpre hname]
    exact hname

/-- A key that spells a name of a counter consists of ASCII characters. -/
theorem toNat_lt_of_spells {counter : Counter} {key : Text} (h : Spells counter key) {c : Char}
    (hc : c ∈ key) : c.toNat < 128 := by
  obtain ⟨pre, hpre, name, hname, hkey⟩ := h
  have hsubset : ∀ pre ∈ fieldPrefixes, pre ∈ namePrefixes := by decide
  exact toNat_lt_of_isKeyChar (isKeyChar_of_mem ⟨pre, hsubset pre hpre, name, hname, hkey⟩ hc)

theorem Spells.names {counter : Counter} {key : Text} (h : Spells counter key)
    (unicode : Lowercasing) (value : Json) : Names unicode counter (key, value) :=
  (names_iff_spells (fun _ hc => toNat_lt_of_spells h hc) value).mpr h

end spellings

section writings

variable (unicode : Lowercasing)

/-- An answer holds the fields of an object at one of the places, and names no
counter at those before it. -/
def Holds (value : Json) (fields : List (Text × Json)) : Prop :=
  value = .object fields ∨ hasCounter unicode value = false ∧
    (value.get (chars "stats") = some (.object fields) ∨
      (value.get (chars "stats")).all (fun inner => !hasCounter unicode inner) = true ∧
        value.get (chars "bundles") = some (.object fields))

/-- Fields write statistics: every counter is written once, under any of its
names. There may be other fields. -/
structure Writes (fields : List (Text × Json)) (stats : BundleStatistics) : Prop where
  /-- Every counter is there. -/
  complete : ∀ counter : Counter, ∃ key, Spells counter key ∧
    (key, Json.number (some (counter.value stats))) ∈ fields
  /-- No counter is there twice. -/
  single : ∀ counter, (fields.filter (Names unicode counter)).length ≤ 1

variable {unicode} {fields : List (Text × Json)} {stats : BundleStatistics}

theorem Holds.find?_places {value : Json} (h : Holds unicode value fields)
    (hfields : hasCounter unicode (.object fields) = true) :
    (places value).find? (hasCounter unicode) = some (.object fields) := by
  rcases h with rfl | ⟨hvalue, hstats | ⟨hstats, hbundles⟩⟩
  · exact List.find?_cons_of_pos hfields
  · rw [places, List.find?_cons_of_neg (by simp [hvalue]), hstats, Option.toList_some,
      List.singleton_append]
    exact List.find?_cons_of_pos hfields
  · rw [places, List.find?_cons_of_neg (by simp [hvalue]), hbundles, List.find?_append]
    have hnone : (value.get (chars "stats")).toList.find? (hasCounter unicode) = none := by
      cases hinner : value.get (chars "stats") with
      | none => rfl
      | some inner =>
        rw [hinner] at hstats
        have hno : hasCounter unicode inner = false := by simpa using hstats
        simp [hno]
    rw [hnone]
    exact List.find?_cons_of_pos hfields

theorem Writes.hasCounter (h : Writes unicode fields stats) :
    hasCounter unicode (.object fields) = true := by
  obtain ⟨key, hspells, hmem⟩ := h.complete .sourced
  have hnames := hspells.names unicode (.number (some (Counter.value stats .sourced)))
  exact List.any_eq_true.mpr ⟨_, hmem, decide_eq_true (mem_counterNames_iff.mpr ⟨_, hnames⟩)⟩

theorem Writes.lastNumber (h : Writes unicode fields stats) (counter : Counter) :
    lastNumber unicode fields counter = counter.value stats := by
  obtain ⟨key, hspells, hmem⟩ := h.complete counter
  have hnames := hspells.names unicode (.number (some (counter.value stats)))
  have hfilter : (key, Json.number (some (counter.value stats))) ∈
      fields.filter (Names unicode counter) :=
    List.mem_filter.mpr ⟨hmem, decide_eq_true hnames⟩
  obtain ⟨field, hfield⟩ := List.length_eq_one_iff.mp
    (Nat.le_antisymm (h.single counter) (List.length_pos_of_mem hfilter))
  rw [hfield, List.mem_singleton] at hfilter
  rw [HardyAnswers.lastNumber, hfield, ← hfilter]
  rfl

/-- What is written is read back, whatever names are used, in which order the
fields are visited and what other fields there are. -/
theorem parseStatsJson_of_writes {ε : Type} {fromStr : Text → Except ε Json} {output : Text}
    {value : Json} (hanswer : fromStr output = .ok value) (hholds : Holds unicode value fields)
    (hwrites : Writes unicode fields stats) :
    parseStatsJson unicode fromStr output = .ok stats := by
  have hstats : statsOf unicode value = some stats :=
    statsOf_eq_some_iff.mpr ⟨fields, hholds.find?_places hwrites.hasCounter,
      fun counter => (hwrites.lastNumber counter).symm⟩
  simp only [parseStatsJson, hanswer, hstats]

/-- An answer with the counters in an inner object, under short names. -/
def nestedAnswer : Json := .object [(chars "stats", .object
  [(chars "Sourced", .number (some 100)), (chars "dlv", .number (some 85)),
    (chars "expired", .number (some 5)), (chars "fwd", .number (some 90)),
    (chars "in_queue", .number (some 10)), (chars "uptime", .number none)])]

/-- That answer as it is sent. -/
def nestedText : Text :=
  chars "\x7b\"stats\":\x7b\"Sourced\":100,\"dlv\":85,\"expired\":5," ++
    chars "\"fwd\":90,\"in_queue\":10,\"uptime\":12.5\x7d\x7d"

/-- A reader of that answer. -/
def readNested (text : Text) : Except Unit Json :=
  if text = nestedText then .ok nestedAnswer else .error ()

theorem parseStatsJson_of_writes_nested :
    parseStatsJson asciiLowercasing readNested nestedText = .ok ⟨100, 90, 85, 5, 10⟩ := by
  have hanswer : readNested nestedText = .ok nestedAnswer := if_pos rfl
  refine parseStatsJson_of_writes hanswer (.inr ⟨by decide, .inl rfl⟩) ⟨?_, ?_⟩
  · intro counter
    cases counter
    · exact ⟨chars "Sourced", by decide, by simp [Counter.value]⟩
    · exact ⟨chars "fwd", by decide, by simp [Counter.value]⟩
    · exact ⟨chars "dlv", by decide, by simp [Counter.value]⟩
    · exact ⟨chars "expired", by decide, by simp [Counter.value]⟩
    · exact ⟨chars "in_queue", by decide, by simp [Counter.value]⟩
  · intro counter
    cases counter <;> decide

end writings

end CislunarDtn.HardyAnswers
