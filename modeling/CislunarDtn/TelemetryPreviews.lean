import CislunarDtn.LinkIdentifiers
import CislunarDtn.Utf8Slices

/-!
# Warnings about telemetry that cannot be read

Texts of the engines' tools and of their interface are read as far as they can
be. About a text of which nothing can be read there is a warning with its first
200 bytes, and the slice fails if a character stands across that position. All
other slices follow a pattern that was found.
-/

namespace CislunarDtn.TelemetryPreviews

open DecimalTexts IonScripts LinkIdentifiers TerminatedLines TextScans Utf8Slices

section previews

/-- The beginning of a text that is put into a warning. -/
def outputPreview (output : Text) : Except BoundaryError Text :=
  sliceTo output (min (byteLength output) 200)

/-- What is returned after a warning. -/
def warned {α : Type} (output : Text) (fallback : α) : Except BoundaryError α :=
  (outputPreview output).map fun _ => fallback

/-- A text whose beginning of 200 bytes ends within a character. -/
def CutsCharacter (output : Text) : Prop := 200 < byteLength output ∧ ¬IsBoundary output 200

end previews

section statistics

/-- Counters of bundles. -/
structure BundleStatistics where
  /-- Bundles that were created. -/
  bundlesSourced : UInt64
  /-- Bundles that were passed on. -/
  bundlesForwarded : UInt64
  /-- Bundles that were delivered. -/
  bundlesDelivered : UInt64
  /-- Bundles that have expired. -/
  bundlesExpired : UInt64
  /-- Bundles that are waiting. -/
  bundlesQueued : UInt64
  deriving DecidableEq

/-- No bundles at all. -/
def BundleStatistics.zero : BundleStatistics := ⟨0, 0, 0, 0, 0⟩

/-- The number of a text, with a sign before it or without. -/
def parseNumber : Text → Option UInt64
  | '+' :: digits => parseUInt64 digits
  | digits => parseUInt64 digits

variable (unicode : Lowercasing)

/-- The name of a counter in a uniform spelling. -/
def normalizeStatKey (key : Text) : Text :=
  let lower := unicode.toLowercase key
  let stripped := ((chars "bundles_").isPrefixOf? lower <|> (chars "bundles ").isPrefixOf? lower <|>
    (chars "bundle_").isPrefixOf? lower).getD lower
  stripped.map fun c => if c ∈ [' ', '-'] then '_' else c

/-- A name and a value on both sides of a separator. -/
def parseSeparated (separator : Char) (text : Text) : Option (Text × Text) :=
  (afterFirst [separator] text).bind fun after =>
    let key := trim (text.takeWhile (· ≠ separator))
    let value := trim after
    if key = [] ∨ value = [] then none else some (normalizeStatKey unicode key, value)

/-- A name and a value on both sides of a colon. -/
def parseColonSeparated : Text → Option (Text × Text) := parseSeparated unicode ':'

/-- A name and a value on both sides of an equals sign. -/
def parseEqualsSeparated : Text → Option (Text × Text) := parseSeparated unicode '='

/-- Names of the counter of created bundles. -/
def sourcedNames : List Text := [chars "sourced", chars "src", chars "originated"]

/-- Names of the counter of bundles that were passed on. -/
def forwardedNames : List Text := [chars "forwarded", chars "fwd", chars "relayed"]

/-- Names of the counter of delivered bundles. -/
def deliveredNames : List Text := [chars "delivered", chars "dlv", chars "received"]

/-- Names of the counter of expired bundles. -/
def expiredNames : List Text :=
  [chars "expired", chars "exp", chars "ttl_expired", chars "abandoned"]

/-- Names of the counter of waiting bundles. -/
def queuedNames : List Text :=
  [chars "queued", chars "pending", chars "in_queue", chars "stored"]

/-- The counters with one of them set, if there is one of this name. -/
def applyStatValue (stats : BundleStatistics) (key : Text) (value : UInt64) :
    Option BundleStatistics :=
  if key ∈ sourcedNames then some { stats with bundlesSourced := value }
  else if key ∈ forwardedNames then some { stats with bundlesForwarded := value }
  else if key ∈ deliveredNames then some { stats with bundlesDelivered := value }
  else if key ∈ expiredNames then some { stats with bundlesExpired := value }
  else if key ∈ queuedNames then some { stats with bundlesQueued := value }
  else none

/-- Counters, and whether any was read. -/
structure StatsReading where
  /-- The counters. -/
  stats : BundleStatistics
  /-- Whether a counter was read. -/
  parsedAny : Bool

/-- Read the value of a name. -/
def readPair (reading : StatsReading) (pair : Text × Text) : StatsReading :=
  match (parseNumber pair.2).bind (applyStatValue reading.stats pair.1) with
  | some stats => ⟨stats, true⟩
  | none => reading

/-- The words of a line. -/
def splitWhitespace (line : Text) : List Text := (line.splitOnP isWhitespace).filter (· ≠ [])

/-- Read one line. -/
def readStatLine (reading : StatsReading) (line : Text) : StatsReading :=
  match parseColonSeparated unicode (trim line) with
  | some pair => readPair reading pair
  | none => ((splitWhitespace (trim line)).filterMap (parseEqualsSeparated unicode)).foldl
      readPair reading

/-- The counters in the output of bpstats. -/
def parseBpstatsOutput (output : Text) : Except BoundaryError BundleStatistics :=
  let reading := (linesOf '\n' output).foldl (readStatLine unicode) ⟨.zero, false⟩
  if reading.parsedAny = false ∧ trim output ≠ [] then warned output reading.stats
  else .ok reading.stats

/-- A line of bplist that is not about a bundle. -/
def isBplistHeaderLine (line : Text) : Bool :=
  let lower := unicode.toLowercase line
  ((chars "bundle").isPrefixOf lower && contains (chars "list") lower) ||
    ((chars "---").isPrefixOf lower || (chars "===").isPrefixOf lower) ||
    (chars "#").isPrefixOf lower ||
    (contains (chars "no bundles") lower || contains (chars "empty") lower)

/-- Number of bundles in the output of bplist. -/
def parseBplistCount (output : Text) : ℕ :=
  ((linesOf '\n' output).filter fun line =>
    trim line ≠ [] && !isBplistHeaderLine unicode (trim line)).length

end statistics

section links

/-- The number behind a label, which takes so many bytes. -/
def numberBehind (label : Text) (bytes : ℕ) (clean : Text → Text) (line : Text) :
    Except BoundaryError (Option UInt64) :=
  match find label line with
  | none => .ok none
  | some position =>
    (sliceFrom line (position + bytes)).map fun after => parseLeadingNumber (clean after)

/-- The first number among attempts that do not fail. -/
def firstNumber : List (Except BoundaryError (Option UInt64)) →
    Except BoundaryError (Option UInt64)
  | [] => .ok none
  | .error e :: _ => .error e
  | .ok (some value) :: _ => .ok (some value)
  | .ok none :: attempts => firstNumber attempts

/-- The counter with one of these labels. -/
def extractCounter (line : Text) (keys : List Text) : Except BoundaryError (Option UInt64) :=
  firstNumber (keys.flatMap fun key =>
    [numberBehind (key ++ ['=']) (byteLength key + 1) id line,
      numberBehind (key ++ [':']) (byteLength key + 1) trim line,
      numberBehind key (byteLength key)
        (fun after => (trim after).dropWhile fun c => c ∈ ['=', ':', ' ']) line])

variable (unicode : Lowercasing)

/-- The state that one line reports. -/
def parseLtpSpanLine (line : Text) : Except BoundaryError (Option LinkState) :=
  let lower := unicode.toLowercase line
  match extractSpanEngineId lower with
  | none => .ok none
  | some engineId => do
    let bytesSent ← extractCounter lower [chars "bytes_sent", chars "bytes sent",
      chars "bytessent", chars "sent"]
    let bytesReceived ← extractCounter lower [chars "bytes_rcvd", chars "bytes_received",
      chars "bytes received", chars "bytesrcvd", chars "rcvd"]
    return some
      { neighborNode := engineId
        linkId := chars "ltp-span-" ++ decimal engineId.toNat
        active := (contains (chars "active") lower || contains (chars "running") lower ||
          contains (chars "up") lower) && !(contains (chars "inactive") lower ||
            contains (chars "stopped") lower || contains (chars "down") lower)
        bytesSent := bytesSent.getD 0
        bytesReceived := bytesReceived.getD 0 }

/-- The states that lines report. -/
def readSpans : List Text → Except BoundaryError (List LinkState)
  | [] => .ok []
  | line :: lines =>
    if trim line = [] then readSpans lines
    else do
      let link ← parseLtpSpanLine unicode (trim line)
      let links ← readSpans lines
      return link.toList ++ links

/-- The states that the output of ltpinfo reports. -/
def parseLtpinfoOutput (output : Text) : Except BoundaryError (List LinkState) := do
  let links ← readSpans unicode (linesOf '\n' output)
  if links = [] ∧ trim output ≠ [] then warned output links else .ok links

end links

section answers

/-- Values of JSON. -/
inductive Json where
  /-- The null value. -/
  | null
  /-- A truth value. -/
  | bool (value : Bool)
  /-- A number, with its value if it is an unsigned one of 64 bits. -/
  | number (unsigned : Option UInt64)
  /-- A string. -/
  | string (text : Text)
  /-- An array. -/
  | array (items : List Json)
  /-- An object, with its fields in the order in which they are visited. -/
  | object (fields : List (Text × Json))

namespace Json

/-- The value of a field of an object. -/
def get (key : Text) : Json → Option Json
  | .object fields => (fields.find? fun field => field.1 = key).map Prod.snd
  | _ => none

/-- The value of an unsigned number. -/
def asU64 : Json → Option UInt64
  | .number unsigned => unsigned
  | _ => none

/-- The text of a string. -/
def asStr : Json → Option Text
  | .string text => some text
  | _ => none

/-- The value of a truth value. -/
def asBool : Json → Option Bool
  | .bool value => some value
  | _ => none

/-- The items of an array. -/
def asArray : Json → Option (List Json)
  | .array items => some items
  | _ => none

/-- The value of the first of these fields that an object has. -/
def getFirst (keys : List Text) (value : Json) : Option Json := keys.findSome? value.get

end Json

variable (unicode : Lowercasing) {ε : Type} (fromStr : Text → Except ε Json)

/-- The name of a counter in an answer, in a uniform spelling. -/
def normalizeJsonKey (key : Text) : Text :=
  let lower := unicode.toLowercase key
  ((chars "bundles_").isPrefixOf? lower <|> (chars "bundle_").isPrefixOf? lower).getD lower

/-- Read a field of an answer. -/
def readField (reading : StatsReading) (field : Text × Json) : StatsReading :=
  match applyStatValue reading.stats (normalizeJsonKey unicode field.1)
      (field.2.asU64.getD 0) with
  | some stats => ⟨stats, true⟩
  | none => reading

/-- The counters in an object. -/
def extractStatsFromObject : Json → Option BundleStatistics
  | .object fields =>
    let reading := fields.foldl (readField unicode) ⟨.zero, false⟩
    if reading.parsedAny then some reading.stats else none
  | _ => none

/-- The counters in an answer, or in an object within it. -/
def statsOf (value : Json) : Option BundleStatistics :=
  extractStatsFromObject unicode value <|>
    (value.get (chars "stats")).bind (extractStatsFromObject unicode) <|>
    (value.get (chars "bundles")).bind (extractStatsFromObject unicode)

/-- The counters in an answer about statistics. -/
def parseStatsJson (output : Text) : Except BoundaryError BundleStatistics :=
  match fromStr output with
  | .error _ => warned output .zero
  | .ok value =>
    match statsOf unicode value with
    | some stats => .ok stats
    | none => warned output .zero

/-- The state of a link in an object. -/
def extractLinkStateFromObject (value : Json) : Option LinkState :=
  match value with
  | .object _ =>
    ((value.getFirst [chars "neighbor_node", chars "peer_node", chars "node_id",
      chars "remote_node"]).bind Json.asU64).map fun neighborNode =>
      { neighborNode
        linkId := ((value.getFirst [chars "link_id", chars "id", chars "name"]).bind
          Json.asStr).getD (chars "unknown")
        active := ((value.getFirst [chars "active", chars "up", chars "running"]).bind
          Json.asBool <|> ((value.get (chars "state")).bind Json.asStr).map fun state =>
            decide (unicode.toLowercase state ∈
              [chars "active", chars "up", chars "running"])).getD false
        bytesSent := ((value.getFirst [chars "bytes_sent", chars "sent_bytes",
          chars "tx_bytes"]).bind Json.asU64).getD 0
        bytesReceived := ((value.getFirst [chars "bytes_received", chars "received_bytes",
          chars "rx_bytes", chars "bytes_rcvd"]).bind Json.asU64).getD 0 }
  | _ => none

/-- The array of links in an answer, or within an object of it. -/
def linksOf (value : Json) : Option (List Json) :=
  value.asArray <|> (value.get (chars "links")).bind Json.asArray

/-- The states of links in an answer. -/
def parseLinksJson (output : Text) : Except BoundaryError (List LinkState) :=
  match fromStr output with
  | .error _ => warned output []
  | .ok value =>
    match linksOf value with
    | some items => .ok (items.filterMap (extractLinkStateFromObject unicode))
    | none => warned output []

end answers

section slices

/-- The warning fails exactly if it cuts a character. -/
theorem warned_ok_iff {α : Type} {output : Text} {fallback : α} :
    (∃ value, warned output fallback = .ok value) ↔ ¬CutsCharacter output := by
  have hpreview : (∃ value, warned output fallback = .ok value) ↔
      IsBoundary output (min (byteLength output) 200) := by
    rw [← sliceTo_ok_iff]
    unfold warned outputPreview
    cases sliceTo output (min (byteLength output) 200) with
    | error e => simp [Except.map]
    | ok front => simp [Except.map]
  rw [hpreview, CutsCharacter]
  by_cases hlong : 200 < byteLength output
  · rw [Nat.min_eq_right (Nat.le_of_lt hlong)]
    simp [hlong]
  · rw [Nat.min_eq_left (by omega)]
    simp [hlong, isBoundary_byteLength]

theorem numberBehind_eq {label line : Text} {bytes : ℕ} (h : bytes = byteLength label)
    (clean : Text → Text) : numberBehind label bytes clean line =
      .ok ((afterFirst label line).bind fun after => parseLeadingNumber (clean after)) := by
  rw [numberBehind, h]
  cases hfind : find label line with
  | none => rw [afterFirst_of_find_eq_none hfind]; rfl
  | some position =>
    obtain ⟨back, hslice, hafter⟩ := sliceFrom_find hfind
    rw [hafter]
    simp only [hslice]
    rfl

theorem firstNumber_ok (values : List (Option UInt64)) :
    firstNumber (values.map .ok) = .ok (values.findSome? id) := by
  induction values with
  | nil => rfl
  | cons value values ih =>
    cases value with
    | none => exact ih
    | some number => rfl

theorem findSome?_attempts (first second third : Text → Option UInt64) (keys : List Text) :
    (keys.flatMap fun key => [first key, second key, third key]).findSome? id =
      keys.findSome? fun key => first key <|> second key <|> third key := by
  induction keys with
  | nil => rfl
  | cons key keys ih =>
    rw [List.flatMap_cons, List.findSome?_append, ih]
    cases hfirst : first key with
    | some number => simp [hfirst]
    | none =>
      cases hsecond : second key with
      | some number => simp [hfirst, hsecond]
      | none =>
        cases hthird : third key with
        | some number => simp [hfirst, hsecond, hthird]
        | none => simp [hfirst, hsecond, hthird]

/-- Slices behind labels do not fail. -/
theorem extractCounter_eq (line : Text) (keys : List Text) :
    extractCounter line keys = .ok (LinkIdentifiers.extractCounter line keys) := by
  have hattempts : (keys.flatMap fun key =>
      [numberBehind (key ++ ['=']) (byteLength key + 1) id line,
        numberBehind (key ++ [':']) (byteLength key + 1) trim line,
        numberBehind key (byteLength key)
          (fun after => (trim after).dropWhile fun c => c ∈ ['=', ':', ' ']) line]) =
      (keys.flatMap fun key =>
        [(afterFirst (key ++ ['=']) line).bind parseLeadingNumber,
          (afterFirst (key ++ [':']) line).bind fun after => parseLeadingNumber (trim after),
          (afterFirst key line).bind fun after => parseLeadingNumber
            ((trim after).dropWhile fun c => c ∈ ['=', ':', ' '])]).map .ok := by
    rw [List.map_flatMap]
    refine List.flatMap_congr fun key _ => ?_
    have hequals : byteLength key + 1 = byteLength (key ++ ['=']) := by
      rw [byteLength_append]
      rfl
    have hcolon : byteLength key + 1 = byteLength (key ++ [':']) := by
      rw [byteLength_append]
      rfl
    rw [numberBehind_eq hequals, numberBehind_eq hcolon, numberBehind_eq rfl]
    rfl
  rw [extractCounter, hattempts, firstNumber_ok, findSome?_attempts]
  rfl

/-- Lines of spans are read without failure. -/
theorem parseLtpSpanLine_eq (unicode : Lowercasing) (line : Text) :
    parseLtpSpanLine unicode line = .ok (LinkIdentifiers.parseLtpSpanLine unicode line) := by
  rw [parseLtpSpanLine, LinkIdentifiers.parseLtpSpanLine]
  cases extractSpanEngineId (unicode.toLowercase line) with
  | none => rfl
  | some engineId =>
    simp only [extractCounter_eq]
    rfl

theorem readSpans_eq (unicode : Lowercasing) (lines : List Text) :
    readSpans unicode lines = .ok (lines.filterMap fun line =>
      if trim line = [] then none else LinkIdentifiers.parseLtpSpanLine unicode (trim line)) := by
  induction lines with
  | nil => rfl
  | cons line lines ih =>
    rw [readSpans, ih, parseLtpSpanLine_eq]
    by_cases hblank : trim line = []
    · simp [hblank]
    · rw [if_neg hblank]
      cases hlink : LinkIdentifiers.parseLtpSpanLine unicode (trim line) with
      | none => simp [hblank, hlink, bind, Except.bind, pure, Except.pure]
      | some link => simp [hblank, hlink, bind, Except.bind, pure, Except.pure]

/-- The warning apart, reading the output of ltpinfo does not fail. -/
theorem parseLtpinfoOutput_eq (unicode : Lowercasing) (output : Text) :
    parseLtpinfoOutput unicode output =
      if LinkIdentifiers.parseLtpinfoOutput unicode output = [] ∧ trim output ≠ [] then
        warned output []
      else .ok (LinkIdentifiers.parseLtpinfoOutput unicode output) := by
  have hlinks : readSpans unicode (linesOf '\n' output) =
      .ok (LinkIdentifiers.parseLtpinfoOutput unicode output) := readSpans_eq unicode _
  rw [parseLtpinfoOutput, hlinks]
  by_cases hnone : LinkIdentifiers.parseLtpinfoOutput unicode output = []
  · simp [hnone, Except.bind, bind]
  · simp [hnone, Except.bind, bind]

end slices

section safety

/-- The count of bundles has no more than the bytes of the output, and so does not overflow. -/
theorem parseBplistCount_le (unicode : Lowercasing) (output : Text) :
    parseBplistCount unicode output ≤ byteLength output := by
  have hcount : parseBplistCount unicode output ≤ (linesOf '\n' output).length :=
    List.length_filter_le _ _
  have hlines : (linesOf '\n' output).length ≤ output.length := length_linesOf_le output
  have hbytes := length_le_byteLength output
  omega

variable (unicode : Lowercasing) {ε : Type} (fromStr : Text → Except ε Json)

/-- The readers of telemetry. -/
inductive Reader where
  /-- Of the output of bpstats. -/
  | bpstats
  /-- Of the output of bplist. -/
  | bplist
  /-- Of the output of ltpinfo. -/
  | ltpinfo
  /-- Of answers about statistics. -/
  | stats
  /-- Of answers about links. -/
  | links
  deriving DecidableEq

/-- A reader returns a value. -/
def Returns (output : Text) : Reader → Prop
  | .bpstats => ∃ stats, parseBpstatsOutput unicode output = .ok stats
  | .bplist => ∃ count, parseBplistCount unicode output = count
  | .ltpinfo => ∃ links, parseLtpinfoOutput unicode output = .ok links
  | .stats => ∃ stats, parseStatsJson unicode fromStr output = .ok stats
  | .links => ∃ links, parseLinksJson unicode fromStr output = .ok links

/-- The names of counters. -/
def counterNames : List Text :=
  sourcedNames ++ forwardedNames ++ deliveredNames ++ expiredNames ++ queuedNames

/-- A name of a counter with a number. -/
def IsCounter (pair : Text × Text) : Prop :=
  pair.1 ∈ counterNames ∧ (parseNumber pair.2).isSome = true

/-- A line with a counter: the pair at its colon, or one of its words. -/
def HasCounter (line : Text) : Prop :=
  (∃ pair, parseColonSeparated unicode line = some pair ∧ IsCounter pair) ∨
    parseColonSeparated unicode line = none ∧
      ∃ word ∈ splitWhitespace line, ∃ pair,
        parseEqualsSeparated unicode word = some pair ∧ IsCounter pair

/-- A text in which a reader finds nothing, so that it warns about it. -/
def Unread (output : Text) : Reader → Prop
  | .bpstats => trim output ≠ [] ∧ ∀ line ∈ linesOf '\n' output, ¬HasCounter unicode (trim line)
  | .bplist => False
  | .ltpinfo => trim output ≠ [] ∧ ∀ line ∈ linesOf '\n' output, trim line ≠ [] →
      extractSpanEngineId (unicode.toLowercase (trim line)) = none
  | .stats => ∀ value, fromStr output = .ok value → statsOf unicode value = none
  | .links => ∀ value, fromStr output = .ok value → linksOf value = none

variable {unicode fromStr}

theorem applyStatValue_isSome_iff {stats : BundleStatistics} {key : Text} {value : UInt64} :
    (applyStatValue stats key value).isSome = true ↔ key ∈ counterNames := by
  unfold applyStatValue
  simp only [counterNames, List.mem_append]
  split_ifs with hsourced hforwarded hdelivered hexpired hqueued
  · simp [hsourced]
  · simp [hforwarded]
  · simp [hdelivered]
  · simp [hexpired]
  · simp [hqueued]
  · simp [hsourced, hforwarded, hdelivered, hexpired, hqueued]

/-- A counter is read from a pair that is one, and otherwise nothing changes. -/
theorem parsedAny_readPair (reading : StatsReading) (pair : Text × Text) :
    (readPair reading pair).parsedAny = true ↔ reading.parsedAny = true ∨ IsCounter pair := by
  unfold readPair IsCounter
  cases hnumber : parseNumber pair.2 with
  | none => simp
  | some value =>
    have hiff : (applyStatValue reading.stats pair.1 value).isSome = true ↔
        pair.1 ∈ counterNames := applyStatValue_isSome_iff
    cases happlied : applyStatValue reading.stats pair.1 value with
    | none =>
      rw [happlied] at hiff
      simp [happlied, ← hiff]
    | some stats =>
      rw [happlied] at hiff
      simp [happlied, ← hiff]

theorem parsedAny_foldl_readPair (pairs : List (Text × Text)) (reading : StatsReading) :
    (pairs.foldl readPair reading).parsedAny = true ↔
      reading.parsedAny = true ∨ ∃ pair ∈ pairs, IsCounter pair := by
  induction pairs generalizing reading with
  | nil => simp
  | cons pair pairs ih => simp [ih, parsedAny_readPair, or_assoc]

theorem parsedAny_readStatLine (reading : StatsReading) (line : Text) :
    (readStatLine unicode reading line).parsedAny = true ↔
      reading.parsedAny = true ∨ HasCounter unicode (trim line) := by
  unfold readStatLine HasCounter
  cases hpair : parseColonSeparated unicode (trim line) with
  | some pair => simp [parsedAny_readPair]
  | none =>
    rw [parsedAny_foldl_readPair]
    simp only [List.mem_filterMap, reduceCtorEq, false_and, exists_false, false_or, true_and]
    refine or_congr_right ?_
    constructor
    · rintro ⟨pair, ⟨word, hword, hparsed⟩, hcounter⟩
      exact ⟨word, hword, pair, hparsed, hcounter⟩
    · rintro ⟨word, hword, pair, hparsed, hcounter⟩
      exact ⟨pair, ⟨word, hword, hparsed⟩, hcounter⟩

/-- Counters are read exactly if some line has one. -/
theorem parsedAny_iff (lines : List Text) (reading : StatsReading) :
    (lines.foldl (readStatLine unicode) reading).parsedAny = true ↔
      reading.parsedAny = true ∨ ∃ line ∈ lines, HasCounter unicode (trim line) := by
  induction lines generalizing reading with
  | nil => simp
  | cons line lines ih => simp [ih, parsedAny_readStatLine, or_assoc]

/-- Spans are reported exactly if some line names an engine. -/
theorem parseLtpinfoOutput_eq_nil_iff {output : Text} :
    LinkIdentifiers.parseLtpinfoOutput unicode output = [] ↔
      ∀ line ∈ linesOf '\n' output, trim line ≠ [] →
        extractSpanEngineId (unicode.toLowercase (trim line)) = none := by
  rw [LinkIdentifiers.parseLtpinfoOutput, List.filterMap_eq_nil_iff]
  refine forall₂_congr fun line _ => ?_
  by_cases hblank : trim line = []
  · simp [hblank]
  · simp [hblank, LinkIdentifiers.parseLtpSpanLine]

/-- A reader returns a value unless it warns about a text whose beginning cuts a character. -/
theorem returns_iff (unicode : Lowercasing) {ε : Type} (fromStr : Text → Except ε Json)
    (reader : Reader) (output : Text) :
    Returns unicode fromStr output reader ↔
      ¬(Unread unicode fromStr output reader ∧ CutsCharacter output) := by
  cases reader with
  | bpstats =>
    have hparsed : ((linesOf '\n' output).foldl (readStatLine unicode)
        ⟨.zero, false⟩).parsedAny = true ↔
          ∃ line ∈ linesOf '\n' output, HasCounter unicode (trim line) := by
      rw [parsedAny_iff]
      simp
    have hnone : ((linesOf '\n' output).foldl (readStatLine unicode)
        ⟨.zero, false⟩).parsedAny = false ↔
          ∀ line ∈ linesOf '\n' output, ¬HasCounter unicode (trim line) := by
      rw [← Bool.not_eq_true, hparsed]
      push Not
      rfl
    simp only [Returns, Unread, parseBpstatsOutput, ← hnone]
    by_cases hunread : ((linesOf '\n' output).foldl (readStatLine unicode)
        ⟨.zero, false⟩).parsedAny = false ∧ trim output ≠ []
    · rw [if_pos hunread, warned_ok_iff]
      simp [hunread]
    · rw [if_neg hunread]
      exact iff_of_true ⟨_, rfl⟩ fun h => hunread ⟨h.1.2, h.1.1⟩
  | bplist => exact iff_of_true ⟨_, rfl⟩ fun h => h.1
  | ltpinfo =>
    simp only [Returns, Unread, parseLtpinfoOutput_eq, ← parseLtpinfoOutput_eq_nil_iff]
    by_cases hunread : LinkIdentifiers.parseLtpinfoOutput unicode output = [] ∧ trim output ≠ []
    · rw [if_pos hunread, warned_ok_iff]
      simp [hunread]
    · rw [if_neg hunread]
      exact iff_of_true ⟨_, rfl⟩ fun h => hunread ⟨h.1.2, h.1.1⟩
  | stats =>
    simp only [Returns, Unread, parseStatsJson]
    cases hvalue : fromStr output with
    | error e => simp [warned_ok_iff]
    | ok value =>
      cases hstats : statsOf unicode value with
      | some stats => simp [hstats]
      | none => simp [hstats, warned_ok_iff]
  | links =>
    simp only [Returns, Unread, parseLinksJson]
    cases hvalue : fromStr output with
    | error e => simp [warned_ok_iff]
    | ok value =>
      cases hlinks : linksOf value with
      | some items => simp [hlinks]
      | none => simp [hlinks, warned_ok_iff]

/-- A text with one character across the end of the preview. -/
def longOutput : Text := List.replicate 199 'x' ++ ['é']

/-- The warning about an output without counters cuts a character. -/
theorem not_returns_of_long_output :
    ¬∀ (unicode : Lowercasing) (fromStr : Text → Except Unit Json) (reader : Reader)
      (output : Text), Returns unicode fromStr output reader := by
  intro h
  obtain ⟨stats, hstats⟩ := h asciiLowercasing (fun _ => .error ()) .bpstats longOutput
  have herror : parseBpstatsOutput asciiLowercasing longOutput = .error ⟨200⟩ := by
    decide +kernel
  rw [herror] at hstats
  cases hstats

end safety

end CislunarDtn.TelemetryPreviews
