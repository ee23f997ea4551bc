import CislunarDtn.TelemetryPreviews

/-!
# Lines about spans

A span is reported as a sentence with equals signs, as a list of counters with
colons, or as a row of a table. In the first two the counters are found by
their labels, of which some occur within others. A row has no labels, so that
its engine and its state are all that is read from it, and a large engine
number is not taken for one.
-/

namespace CislunarDtn.LtpinfoLines

open DecimalTexts LinkIdentifiers NumberedTexts TextScans

section fields

/-- A row that begins with a number has the engine there, unless the number is large. -/
theorem extractSpanEngineId_row (engineId : UInt64) {fields : List (Text × ℕ)}
    (hfields : allLabels (beginsWith isWhitespace) fields = true) :
    extractSpanEngineId (lineOf (([], engineId.toNat) :: fields)) =
      if engineId ≤ 100000 then some engineId else none := by
  have hline : lineOf (([], engineId.toNat) :: fields) =
      decimal engineId.toNat ++ lineOf fields := lineOf_cons [] _ fields
  have hstart : ∀ {word : Text}, separates word = true →
      word.isPrefixOf? (decimal engineId.toNat ++ lineOf fields) = none :=
    fun hword => isPrefixOf?_append_of_clashes (clashes_decimal hword _) _
  have hdrop : (decimal engineId.toNat ++ lineOf fields).dropWhile isWhitespace =
      decimal engineId.toNat ++ lineOf fields := by
    obtain ⟨c, digits, hdecimal⟩ := List.exists_cons_of_ne_nil (decimal_ne_nil engineId.toNat)
    have hc : isWhitespace c = false :=
      isWhitespace_of_mem_decimal (by rw [hdecimal]; exact List.mem_cons_self)
    rw [hdecimal, List.cons_append, List.dropWhile_cons, hc]
    rfl
  have htake : (decimal engineId.toNat ++ lineOf fields).takeWhile (fun c => !isWhitespace c) =
      decimal engineId.toNat := by
    refine takeWhile_decimal_lineOf (fun c hc => ?_) _ ?_
    · rw [isWhitespace_of_isDigit hc]
      rfl
    · simpa only [Bool.not_not] using hfields
  have hclean : (decimal engineId.toNat).rdropWhile (fun c => !c.isDigit) =
      decimal engineId.toNat := by
    refine List.rdropWhile_eq_self_iff.mpr fun hne => ?_
    rw [isDigit_of_mem_decimal (List.getLast_mem hne)]
    decide
  rw [hline]
  simp only [extractSpanEngineId, List.findSome?_cons, List.findSome?_nil,
    hstart (show separates (chars "span") = true by decide),
    hstart (show separates (chars "engine") = true by decide),
    hstart (show separates (chars "peer") = true by decide), Option.bind_none]
  simp only [leadingEngineId, hdrop, htake, hclean, leadingDigits_decimal, parseUInt64_decimal]
  rfl

theorem parseLeadingNumber_decimal_lineOf (number : UInt64) {fields : List (Text × ℕ)}
    (hfields : allLabels separates fields = true) :
    parseLeadingNumber (decimal number.toNat ++ lineOf fields) = some number := by
  have hnumber := parseLeadingNumber_lineOf (List.forall_mem_nil _) number hfields
  rw [List.nil_append] at hnumber
  exact hnumber

/-- A counter is read behind its first key, with an equals sign. -/
theorem extractCounter_equals (front : List (Text × ℕ)) {key label : Text}
    {back : List (Text × ℕ)} (hkey : separates (key ++ ['=']) = true)
    (hfront : allLabels (avoids (key ++ ['='])) front = true)
    (hlabel : afterFirst (key ++ ['=']) label = some [])
    (hback : allLabels separates back = true) (number : UInt64) (keys : List Text) :
    extractCounter (lineOf (front ++ (label, number.toNat) :: back)) (key :: keys) =
      some number := by
  have hfound := afterFirst_lineOf_label hkey hfront hlabel number.toNat back
  rw [List.nil_append] at hfound
  rw [extractCounter, List.findSome?_cons, hfound, Option.bind_some,
    parseLeadingNumber_decimal_lineOf number hback]
  rfl

/-- A counter is read behind its first key, with a colon and blanks. -/
theorem extractCounter_colon (front : List (Text × ℕ)) {key label blanks : Text}
    {back : List (Text × ℕ)}
    (hkey : separates (key ++ [':']) = true) (hkey' : separates (key ++ ['=']) = true)
    (hfront : allLabels (avoids (key ++ [':'])) front = true)
    (hlabel : afterFirst (key ++ [':']) label = some blanks)
    (hblanks : ∀ c ∈ blanks, isWhitespace c = true) (hback : allLabels separates back = true)
    (number : UInt64) (keys : List Text)
    (hequals : allLabels (avoids (key ++ ['='])) (front ++ (label, number.toNat) :: back) = true) :
    extractCounter (lineOf (front ++ (label, number.toNat) :: back)) (key :: keys) =
      some number := by
  have hnone := afterFirst_lineOf_eq_none hkey' hequals
  have hfound := afterFirst_lineOf_label hkey hfront hlabel number.toNat back
  rw [extractCounter, List.findSome?_cons, hnone, hfound, Option.bind_some,
    trim_blanks_lineOf hblanks, parseLeadingNumber_decimal_lineOf number hback]
  rfl

/-- No counter is read from a line without its keys. -/
theorem extractCounter_eq_none {keys : List Text} {fields : List (Text × ℕ)}
    (h : (keys.all fun key => separates key && allLabels (avoids key) fields) = true) :
    extractCounter (lineOf fields) keys = none := by
  refine List.findSome?_eq_none_iff.mpr fun key hkey => ?_
  obtain ⟨hseparates, hlabels⟩ := Bool.and_eq_true_iff.mp (List.all_eq_true.mp h key hkey)
  have hnone : ∀ more, afterFirst (key ++ more) (lineOf fields) = none := by
    intro more
    refine afterFirst_lineOf_eq_none (separates_append hseparates more) ?_
    exact List.all_eq_true.mpr fun field hfield =>
      avoids_append (List.all_eq_true.mp hlabels field hfield) more
  have hkey : afterFirst key (lineOf fields) = none :=
    afterFirst_lineOf_eq_none hseparates hlabels
  rw [hnone, hnone, hkey]
  rfl

end fields

section forms

/-- What a line reports about a span. -/
structure SpanReport where
  /-- Number of the engine. -/
  neighborNode : UInt64
  /-- Bytes that were sent. -/
  bytesSent : UInt64
  /-- Bytes that were received. -/
  bytesReceived : UInt64

/-- The forms of lines about spans. -/
inductive SpanForm where
  /-- The state of a span and its bytes. -/
  | span (active : Bool)
  /-- The counters of an engine, segments before bytes. -/
  | engine (segmentsSent segmentsReceived : ℕ)
  /-- A row of a table. -/
  | row (active : Bool)

/-- The words for the states of a span. -/
def stateName (active : Bool) : Text := if active then chars "active" else chars "inactive"

/-- The state that a form tells. -/
def SpanForm.active? : SpanForm → Option Bool
  | .span active => some active
  | .engine _ _ => none
  | .row active => some active

/-- The fields of a line. -/
def fieldsOf (report : SpanReport) : SpanForm → List (Text × ℕ)
  | .span active =>
    [(chars "span ", report.neighborNode.toNat),
      (chars ": " ++ stateName active ++ chars ", bytes_sent=", report.bytesSent.toNat),
      (chars ", bytes_rcvd=", report.bytesReceived.toNat)]
  | .engine segmentsSent segmentsReceived =>
    [(chars "Engine ", report.neighborNode.toNat),
      (chars "  segments_sent: ", segmentsSent),
      (chars "  segments_rcvd: ", segmentsReceived),
      (chars "  bytes_sent: ", report.bytesSent.toNat),
      (chars "  bytes_rcvd: ", report.bytesReceived.toNat)]
  | .row active =>
    [([], report.neighborNode.toNat),
      (chars "  " ++ stateName active ++ chars "  ", report.bytesSent.toNat),
      (chars "  ", report.bytesReceived.toNat)]

/-- A state agrees with what a line reports. -/
structure Agrees (form : SpanForm) (report : SpanReport) (state : LinkState) : Prop where
  /-- The engine. -/
  neighborNode : state.neighborNode = report.neighborNode
  /-- The bytes that were sent. -/
  bytesSent : state.bytesSent = report.bytesSent
  /-- The bytes that were received. -/
  bytesReceived : state.bytesReceived = report.bytesReceived
  /-- The activity, if the form tells it. -/
  active : ∀ active, form.active? = some active → state.active = active

/-- A line is read as it is meant. -/
def IsReadRight (unicode : Lowercasing) (form : SpanForm) (report : SpanReport) : Prop :=
  ∃ state, TelemetryPreviews.parseLtpSpanLine unicode (lineOf (fieldsOf report form)) =
      .ok (some state) ∧
    Agrees form report state

/-- Whether the words of a line tell that the span is in use. -/
def tellsActive (lower : Text) : Bool :=
  (contains (chars "active") lower || contains (chars "running") lower ||
    contains (chars "up") lower) && !(contains (chars "inactive") lower ||
      contains (chars "stopped") lower || contains (chars "down") lower)

theorem tellsActive_of_inactive {lower : Text} (h : contains (chars "inactive") lower = true) :
    tellsActive lower = false := by
  simp [tellsActive, h]

theorem tellsActive_of_active {lower : Text} (h : contains (chars "active") lower = true)
    (hinactive : contains (chars "inactive") lower = false)
    (hstopped : contains (chars "stopped") lower = false)
    (hdown : contains (chars "down") lower = false) : tellsActive lower = true := by
  simp [tellsActive, h, hinactive, hstopped, hdown]

variable (unicode : Lowercasing)

/-- A line is read from its words in lower case. -/
theorem parseLtpSpanLine_of {line lower : Text} (hlower : unicode.toLowercase line = lower) :
    parseLtpSpanLine unicode line = (extractSpanEngineId lower).map fun engineId =>
      { neighborNode := engineId
        linkId := chars "ltp-span-" ++ decimal engineId.toNat
        active := tellsActive lower
        bytesSent := (extractCounter lower [chars "bytes_sent", chars "bytes sent",
          chars "bytessent", chars "sent"]).getD 0
        bytesReceived := (extractCounter lower [chars "bytes_rcvd", chars "bytes_received",
          chars "bytes received", chars "bytesrcvd", chars "rcvd"]).getD 0 } := by
  rw [parseLtpSpanLine, hlower]
  rfl

/-- The states are told apart, although the word for one is within that for the other. -/
theorem tellsActive_fieldsOf {form : SpanForm} {active : Bool} (h : form.active? = some active)
    (report : SpanReport) : tellsActive (lineOf (fieldsOf report form)) = active := by
  cases form with
  | engine segmentsSent segmentsReceived => cases h
  | span state =>
    obtain rfl : state = active := Option.some.inj h
    cases state with
    | false =>
      exact tellsActive_of_inactive
        (contains_lineOf_label ((fieldsOf report (.span false)).take 1) rfl rfl rfl _ _)
    | true =>
      exact tellsActive_of_active
        (contains_lineOf_label ((fieldsOf report (.span true)).take 1) rfl rfl rfl _ _)
        (contains_lineOf_eq_false rfl rfl) (contains_lineOf_eq_false rfl rfl)
        (contains_lineOf_eq_false rfl rfl)
  | row state =>
    obtain rfl : state = active := Option.some.inj h
    cases state with
    | false =>
      exact tellsActive_of_inactive
        (contains_lineOf_label ((fieldsOf report (.row false)).take 1) rfl rfl rfl _ _)
    | true =>
      exact tellsActive_of_active
        (contains_lineOf_label ((fieldsOf report (.row true)).take 1) rfl rfl rfl _ _)
        (contains_lineOf_eq_false rfl rfl) (contains_lineOf_eq_false rfl rfl)
        (contains_lineOf_eq_false rfl rfl)

/-- The state that a line with all its fields reports. -/
def stateOf (report : SpanReport) (active : Bool) : LinkState :=
  { neighborNode := report.neighborNode
    linkId := chars "ltp-span-" ++ decimal report.neighborNode.toNat
    active := active
    bytesSent := report.bytesSent
    bytesReceived := report.bytesReceived }

/-- All fields of a sentence are read. -/
theorem parseLtpSpanLine_span (active : Bool) (report : SpanReport) :
    parseLtpSpanLine unicode (lineOf (fieldsOf report (.span active))) =
      some (stateOf report active) := by
  have hlower : unicode.toLowercase (lineOf (fieldsOf report (.span active))) =
      lineOf (fieldsOf report (.span active)) := by
    rw [toLowercase_lineOf]
    · cases active <;> rfl
    · cases active <;> rfl
  have hengine : extractSpanEngineId (lineOf (fieldsOf report (.span active))) =
      some report.neighborNode :=
    extractSpanEngineId_word (Or.inl rfl) report.neighborNode rfl
  have hsent : extractCounter (lineOf (fieldsOf report (.span active))) [chars "bytes_sent",
      chars "bytes sent", chars "bytessent", chars "sent"] = some report.bytesSent :=
    extractCounter_equals ((fieldsOf report (.span active)).take 1) rfl rfl
      (by cases active <;> rfl) rfl report.bytesSent _
  have hreceived : extractCounter (lineOf (fieldsOf report (.span active))) [chars "bytes_rcvd",
      chars "bytes_received", chars "bytes received", chars "bytesrcvd", chars "rcvd"] =
        some report.bytesReceived :=
    extractCounter_equals ((fieldsOf report (.span active)).take 2) rfl
      (by cases active <;> rfl) rfl rfl report.bytesReceived _
  rw [parseLtpSpanLine_of unicode hlower, hengine, tellsActive_fieldsOf rfl, hsent, hreceived]
  rfl

/-- The fields of an engine in lower case. -/
def engineFields (report : SpanReport) (segmentsSent segmentsReceived : ℕ) : List (Text × ℕ) :=
  [(chars "engine ", report.neighborNode.toNat),
    (chars "  segments_sent: ", segmentsSent),
    (chars "  segments_rcvd: ", segmentsReceived),
    (chars "  bytes_sent: ", report.bytesSent.toNat),
    (chars "  bytes_rcvd: ", report.bytesReceived.toNat)]

/-- The bytes of an engine are read, and not its segments. -/
theorem parseLtpSpanLine_engine (segmentsSent segmentsReceived : ℕ) (report : SpanReport) :
    ∃ active, parseLtpSpanLine unicode
      (lineOf (fieldsOf report (.engine segmentsSent segmentsReceived))) =
        some (stateOf report active) := by
  have hlower : unicode.toLowercase
      (lineOf (fieldsOf report (.engine segmentsSent segmentsReceived))) =
        lineOf (engineFields report segmentsSent segmentsReceived) :=
    toLowercase_lineOf unicode rfl
  have hengine : extractSpanEngineId
      (lineOf (engineFields report segmentsSent segmentsReceived)) = some report.neighborNode :=
    extractSpanEngineId_word (Or.inr rfl) report.neighborNode rfl
  have hblanks : ∀ c ∈ [' '], isWhitespace c = true :=
    List.forall_mem_singleton.mpr (by decide)
  have hsent : extractCounter (lineOf (engineFields report segmentsSent segmentsReceived))
      [chars "bytes_sent", chars "bytes sent", chars "bytessent", chars "sent"] =
        some report.bytesSent :=
    extractCounter_colon ((engineFields report segmentsSent segmentsReceived).take 3)
      rfl rfl rfl rfl hblanks rfl report.bytesSent _ rfl
  have hreceived : extractCounter (lineOf (engineFields report segmentsSent segmentsReceived))
      [chars "bytes_rcvd", chars "bytes_received", chars "bytes received", chars "bytesrcvd",
        chars "rcvd"] = some report.bytesReceived :=
    extractCounter_colon ((engineFields report segmentsSent segmentsReceived).take 4)
      rfl rfl rfl rfl hblanks rfl report.bytesReceived _ rfl
  rw [parseLtpSpanLine_of unicode hlower, hengine, hsent, hreceived]
  exact ⟨_, rfl⟩

/-- Of a row the engine and its state are read, unless the number of the engine is large. -/
theorem parseLtpSpanLine_row (active : Bool) (report : SpanReport) :
    parseLtpSpanLine unicode (lineOf (fieldsOf report (.row active))) =
      if report.neighborNode ≤ 100000 then some (stateOf ⟨report.neighborNode, 0, 0⟩ active)
      else none := by
  have hlower : unicode.toLowercase (lineOf (fieldsOf report (.row active))) =
      lineOf (fieldsOf report (.row active)) := by
    rw [toLowercase_lineOf]
    · cases active <;> rfl
    · cases active <;> rfl
  have hengine : extractSpanEngineId (lineOf (fieldsOf report (.row active))) =
      if report.neighborNode ≤ 100000 then some report.neighborNode else none :=
    extractSpanEngineId_row report.neighborNode rfl
  have hsent : extractCounter (lineOf (fieldsOf report (.row active))) [chars "bytes_sent",
      chars "bytes sent", chars "bytessent", chars "sent"] = none :=
    extractCounter_eq_none (by cases active <;> rfl)
  have hreceived : extractCounter (lineOf (fieldsOf report (.row active))) [chars "bytes_rcvd",
      chars "bytes_received", chars "bytes received", chars "bytesrcvd", chars "rcvd"] = none :=
    extractCounter_eq_none (by cases active <;> rfl)
  rw [parseLtpSpanLine_of unicode hlower, hengine, tellsActive_fieldsOf rfl, hsent, hreceived]
  by_cases hsmall : report.neighborNode ≤ 100000
  · rw [if_pos hsmall, if_pos hsmall]
    rfl
  · rw [if_neg hsmall, if_neg hsmall]
    rfl

/-- Sentences and lists of counters are read as they are meant. Of a row the engine and its state
are read, unless its number is too large for an engine, so that nothing is. -/
theorem parseLtpSpanLine_forms (report : SpanReport) :
    (∀ active, IsReadRight unicode (.span active) report) ∧
      (∀ segmentsSent segmentsReceived,
        IsReadRight unicode (.engine segmentsSent segmentsReceived) report) ∧
      ∀ active, if report.neighborNode ≤ 100000 then
          ∃ state, TelemetryPreviews.parseLtpSpanLine unicode
            (lineOf (fieldsOf report (.row active))) = .ok (some state) ∧
              state.neighborNode = report.neighborNode ∧ state.active = active
        else TelemetryPreviews.parseLtpSpanLine unicode
          (lineOf (fieldsOf report (.row active))) = .ok none := by
  refine ⟨fun active => ?_, fun segmentsSent segmentsReceived => ?_, fun active => ?_⟩
  · refine ⟨stateOf report active, ?_, rfl, rfl, rfl, fun _ hactive => Option.some.inj hactive⟩
    rw [TelemetryPreviews.parseLtpSpanLine_eq, parseLtpSpanLine_span]
  · obtain ⟨active, hstate⟩ := parseLtpSpanLine_engine unicode segmentsSent segmentsReceived report
    refine ⟨stateOf report active, ?_, rfl, rfl, rfl, fun _ hactive => by cases hactive⟩
    rw [TelemetryPreviews.parseLtpSpanLine_eq, hstate]
  · rw [TelemetryPreviews.parseLtpSpanLine_eq, parseLtpSpanLine_row]
    by_cases hsmall : report.neighborNode ≤ 100000
    · rw [if_pos hsmall, if_pos hsmall]
      exact ⟨_, rfl, rfl, rfl⟩
    · rw [if_neg hsmall, if_neg hsmall]

/-- Nothing is read from the row of a large engine, and no bytes are from any row. -/
theorem rows_not_read_right :
    ¬IsReadRight asciiLowercasing (.row true) ⟨100001, 1024, 512⟩ ∧
      ¬IsReadRight asciiLowercasing (.row true) ⟨20, 1024, 512⟩ := by
  constructor
  · rintro ⟨state, hstate, -⟩
    rw [TelemetryPreviews.parseLtpSpanLine_eq, parseLtpSpanLine_row, if_neg (by decide)] at hstate
    cases hstate
  · rintro ⟨state, hstate, hagrees⟩
    rw [TelemetryPreviews.parseLtpSpanLine_eq, parseLtpSpanLine_row, if_pos (by decide)] at hstate
    have hbytes : state.bytesSent = 1024 := hagrees.bytesSent
    rw [← Option.some.inj (Except.ok.inj hstate)] at hbytes
    exact absurd hbytes (by decide)

end forms

end CislunarDtn.LtpinfoLines
