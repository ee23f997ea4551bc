import CislunarDtn.IonDeclarations
import CislunarDtn.NumberedTexts

/-!
# Identifiers of links

A link has the identifier of the configuration, the identifier under which the
telemetry reports its span, and the name of its duct. Enabling and disabling a
link puts the identifier it is given behind `ltp/`, where the engine number of
a duct belongs.
-/

namespace CislunarDtn.LinkIdentifiers

open DecimalTexts IonDeclarations IonScripts NetworkConfigurations NumberedTexts TerminatedLines
open TextScans

section telemetry

/-- State of a link as the telemetry reports it. -/
structure LinkState where
  /-- Engine of the span. -/
  neighborNode : UInt64
  /-- Identifier of the link. -/
  linkId : Text
  /-- Whether the span is in use. -/
  active : Bool
  /-- Bytes that were sent. -/
  bytesSent : UInt64
  /-- Bytes that were received. -/
  bytesReceived : UInt64
  deriving DecidableEq

/-- The number at the first word of a table line, unless it is too large for an engine. -/
def leadingEngineId (line : Text) : Option UInt64 := do
  let token := (line.dropWhile isWhitespace).takeWhile fun c => !isWhitespace c
  let engineId ← parseUInt64 (leadingDigits (token.rdropWhile fun c => !c.isDigit))
  if engineId ≤ 100000 then some engineId else none

/-- The engine of a span line: the number after a prefix, or else at the beginning. -/
def extractSpanEngineId (line : Text) : Option UInt64 :=
  ([chars "span", chars "engine", chars "peer"].findSome? fun pre =>
    (pre.isPrefixOf? line).bind fun rest => parseUInt64 (leadingDigits (trim rest))) <|>
    leadingEngineId line

/-- The number at the beginning of a text. -/
def parseLeadingNumber (text : Text) : Option UInt64 := parseUInt64 (leadingDigits (trim text))

/-- The counter with one of these labels. -/
def extractCounter (line : Text) (keys : List Text) : Option UInt64 :=
  keys.findSome? fun key =>
    (afterFirst (key ++ ['=']) line).bind parseLeadingNumber <|>
      (afterFirst (key ++ [':']) line).bind (fun after => parseLeadingNumber (trim after)) <|>
      (afterFirst key line).bind fun after =>
        parseLeadingNumber ((trim after).dropWhile fun c => c ∈ ['=', ':', ' '])

variable (unicode : Lowercasing)

/-- The state that one line reports. -/
def parseLtpSpanLine (line : Text) : Option LinkState :=
  let lower := unicode.toLowercase line
  (extractSpanEngineId lower).map fun engineId =>
    { neighborNode := engineId
      linkId := chars "ltp-span-" ++ decimal engineId.toNat
      active := (contains (chars "active") lower || contains (chars "running") lower ||
        contains (chars "up") lower) && !(contains (chars "inactive") lower ||
          contains (chars "stopped") lower || contains (chars "down") lower)
      bytesSent := (extractCounter lower [chars "bytes_sent", chars "bytes sent",
        chars "bytessent", chars "sent"]).getD 0
      bytesReceived := (extractCounter lower [chars "bytes_rcvd", chars "bytes_received",
        chars "bytes received", chars "bytesrcvd", chars "rcvd"]).getD 0 }

/-- The states that the output of ltpinfo reports. -/
def parseLtpinfoOutput (output : Text) : List LinkState :=
  (linesOf '\n' output).filterMap fun line =>
    if trim line = [] then none else parseLtpSpanLine unicode (trim line)

variable {unicode}

/-- Links are reported under the engine of their span. -/
theorem linkId_of_mem {output : Text} {state : LinkState}
    (h : state ∈ parseLtpinfoOutput unicode output) :
    state.linkId = chars "ltp-span-" ++ decimal state.neighborNode.toNat := by
  obtain ⟨line, -, hstate⟩ := List.mem_filterMap.mp h
  split at hstate
  next => exact absurd hstate (by simp)
  next =>
    obtain ⟨engineId, -, rfl⟩ := Option.map_eq_some_iff.mp hstate
    rfl

/-- The number of a field is read, with blanks before it or without. -/
theorem parseLeadingNumber_lineOf {blanks : Text} (h : ∀ c ∈ blanks, isWhitespace c = true)
    (number : UInt64) {fields : List (Text × ℕ)}
    (hfields : allLabels separates fields = true) :
    parseLeadingNumber (blanks ++ (decimal number.toNat ++ lineOf fields)) = some number := by
  have hdigits : leadingDigits (decimal number.toNat ++ lineOf fields) = decimal number.toNat :=
    takeWhile_decimal_lineOf (fun _ hc => hc) number.toNat hfields
  rw [parseLeadingNumber, trim_blanks_lineOf h, hdigits, parseUInt64_decimal]

/-- The words before the number of an engine. -/
theorem extractSpanEngineId_word {word : Text}
    (hword : word = chars "span" ∨ word = chars "engine") (engineId : UInt64)
    {fields : List (Text × ℕ)} (hfields : allLabels separates fields = true) :
    extractSpanEngineId (lineOf ((word ++ [' '], engineId.toNat) :: fields)) = some engineId := by
  have hnumber : parseLeadingNumber ([' '] ++ (decimal engineId.toNat ++ lineOf fields)) =
      some engineId :=
    parseLeadingNumber_lineOf (List.forall_mem_singleton.mpr (by decide)) engineId hfields
  have hline : lineOf ((word ++ [' '], engineId.toNat) :: fields) =
      word ++ ([' '] ++ (decimal engineId.toNat ++ lineOf fields)) := by
    rw [lineOf_cons, List.append_assoc]
  have hfound : word.isPrefixOf? (lineOf ((word ++ [' '], engineId.toNat) :: fields)) =
      some ([' '] ++ (decimal engineId.toNat ++ lineOf fields)) :=
    List.isPrefixOf?_eq_some_iff_append_eq.mpr hline.symm
  rw [parseLeadingNumber] at hnumber
  rcases hword with rfl | rfl
  · simp only [extractSpanEngineId, List.findSome?_cons, hfound, Option.bind_some, hnumber]
    rfl
  · have hspan : (chars "span").isPrefixOf?
        (lineOf ((chars "engine" ++ [' '], engineId.toNat) :: fields)) = none := by
      rw [hline]
      exact isPrefixOf?_append_of_clashes (by decide) _
    simp only [extractSpanEngineId, List.findSome?_cons, hspan, Option.bind_none, hfound,
      Option.bind_some, hnumber]
    rfl

/-- A line of ltpinfo that names a span. -/
def spanLine (engineId : UInt64) : Text := chars "span " ++ decimal engineId.toNat

theorem spanLine_eq (engineId : UInt64) :
    spanLine engineId = lineOf [(chars "span ", engineId.toNat)] := by
  simp [spanLine, lineOf]

theorem extractSpanEngineId_spanLine (engineId : UInt64) :
    extractSpanEngineId (spanLine engineId) = some engineId := by
  rw [spanLine_eq]
  exact extractSpanEngineId_word (Or.inl rfl) engineId rfl

/-- Every engine can be reported. -/
theorem exists_reported (engineId : UInt64) :
    ∃ output, ∃ state ∈ parseLtpinfoOutput unicode output, state.neighborNode = engineId := by
  have hlines : linesOf '\n' (spanLine engineId) = [spanLine engineId] :=
    linesOf_of_notMem (by simp [spanLine, chars, notMem_decimal]) (by simp [spanLine, chars])
  have htrim : trim (spanLine engineId) = spanLine engineId := by
    refine trim_eq_self (by simp [spanLine, chars, isWhitespace]) fun c hc => ?_
    rw [spanLine_eq] at hc
    exact isWhitespace_of_mem_getLast?_lineOf _ hc
  have hlower : unicode.toLowercase (spanLine engineId) = spanLine engineId := by
    rw [spanLine_eq]
    exact toLowercase_lineOf unicode rfl
  have hreport : ∃ state, parseLtpSpanLine unicode (spanLine engineId) = some state ∧
      state.neighborNode = engineId := by
    simp [parseLtpSpanLine, hlower, extractSpanEngineId_spanLine]
  obtain ⟨state, hstate, hengine⟩ := hreport
  refine ⟨spanLine engineId, state, ?_, hengine⟩
  have hne : spanLine engineId ≠ [] := by simp [spanLine, chars]
  simp [parseLtpinfoOutput, hlines, htrim, hstate, hne]

end telemetry

section identification

/-- Identifier of a link in the configuration. -/
def linkId : ConvergenceLayerLink → Text
  | .ltpUdp id .. => id
  | .tcpCl id .. => id
  | .kiss id .. => id
  | .udp id .. => id

/-- What is piped to bpadmin to start a duct. -/
def startDuct (duct : Duct) : Text :=
  written '\n' [chars "r start " ++ duct.protocol.name ++ '/' :: duct.name, chars "q"]

/-- What is piped to bpadmin to stop a duct. -/
def stopDuct (duct : Duct) : Text :=
  written '\n' [chars "r stop " ++ duct.protocol.name ++ '/' :: duct.name, chars "q"]

/-- The identifiers that a user of the interface has for a link. -/
inductive Identifier (unicode : Lowercasing) (link : ConvergenceLayerLink) : Text → Prop
  /-- That of the configuration. -/
  | configured : Identifier unicode link (linkId link)
  /-- That under which the span of the link is reported. -/
  | reported {output : Text} {state : LinkState}
      (hstate : state ∈ parseLtpinfoOutput unicode output)
      (hengine : remoteEngineOf link = some state.neighborNode) :
      Identifier unicode link state.linkId

/-- An identifier stands for a link: enabling and disabling it starts and stops the outduct of the
link, and none that another link has. -/
structure Identifies (config : NetworkConfiguration) (link : ConvergenceLayerLink)
    (id : Text) : Prop where
  /-- Enabling starts the outduct. -/
  start : enableLink id = startDuct (outductOf link)
  /-- Disabling stops it. -/
  stop : disableLink id = stopDuct (outductOf link)
  /-- No other duct is started or stopped. -/
  alone : ∀ other ∈ config.links, outductOf other ≠ outductOf link →
    enableLink id ≠ startDuct (outductOf other) ∧ disableLink id ≠ stopDuct (outductOf other)

/-- Identifiers start and stop the ducts whose engine numbers they are. -/
theorem enableLink_eq_iff {id : Text} {duct : Duct} : (enableLink id = startDuct duct ↔
      ∃ engineId, duct = .ltp engineId ∧ id = decimal engineId.toNat) ∧
    (disableLink id = stopDuct duct ↔
      ∃ engineId, duct = .ltp engineId ∧ id = decimal engineId.toNat) := by
  cases duct <;>
    simp [enableLink, disableLink, piped, startDuct, stopDuct, scriptText, written, Line.text,
      Command.text, Duct.protocol, Protocol.name, Duct.name, chars]

/-- An identifier stands for a link exactly if it is the engine number of the link's duct. -/
theorem identifies_iff {config : NetworkConfiguration} {link : ConvergenceLayerLink} {id : Text} :
    Identifies config link id ↔
      ∃ engineId, remoteEngineOf link = some engineId ∧ id = decimal engineId.toNat := by
  simp only [← outductOf_eq_ltp_iff]
  constructor
  · intro h
    exact enableLink_eq_iff.1.mp h.start
  · intro h
    refine ⟨enableLink_eq_iff.1.mpr h, enableLink_eq_iff.2.mpr h, fun other _ hne => ?_⟩
    obtain ⟨engineId, hduct, hid⟩ := h
    have hother :
        ¬∃ engineId', outductOf other = .ltp engineId' ∧ id = decimal engineId'.toNat := by
      rintro ⟨engineId', hduct', hid'⟩
      have hsame : engineId = engineId' :=
        UInt64.toNat_inj.mp (decimal_injective (hid.symm.trans hid'))
      exact hne (by rw [hduct, hduct', hsame])
    exact ⟨fun h => hother (enableLink_eq_iff.1.mp h), fun h => hother (enableLink_eq_iff.2.mp h)⟩

/-- The identifier of the telemetry is never that of a duct. -/
theorem reported_ne_decimal {unicode : Lowercasing} {output : Text} {state : LinkState}
    (h : state ∈ parseLtpinfoOutput unicode output) (n : ℕ) : state.linkId ≠ decimal n := by
  intro heq
  have hletter : 'l' ∈ decimal n := by
    rw [← heq, linkId_of_mem h]
    simp [chars]
  exact notMem_decimal (by decide) n hletter

/-- All identifiers stand for their links exactly if there are no links. -/
theorem identified_iff (unicode : Lowercasing) (config : NetworkConfiguration) :
    (∀ link ∈ config.links, ∀ id, Identifier unicode link id → Identifies config link id) ↔
      config.links = [] := by
  constructor
  · intro h
    rw [List.eq_nil_iff_forall_not_mem]
    intro link hl
    -- The duct of a link that is not reported has no engine number at all.
    obtain ⟨engineId, hengine, -⟩ := identifies_iff.mp (h link hl _ .configured)
    have hreported : ∃ output, ∃ state ∈ parseLtpinfoOutput unicode output,
        state.neighborNode = engineId := exists_reported engineId
    obtain ⟨output, state, hstate, rfl⟩ := hreported
    obtain ⟨engineId', -, hid⟩ := identifies_iff.mp (h link hl _ (.reported hstate hengine))
    exact reported_ne_decimal hstate _ hid
  · intro h link hl
    rw [h] at hl
    exact absurd hl List.not_mem_nil

/-- The identifier that the configuration gives to an LTP link names no duct. -/
theorem configured_id_names_no_duct :
    ¬ ∀ (unicode : Lowercasing) (config : NetworkConfiguration), validate config = .ok () →
      ∀ link ∈ config.links, ∀ id, Identifier unicode link id → Identifies config link id := by
  intro h
  let link : ConvergenceLayerLink :=
    .ltpUdp (chars "ltp-to-orbiter") 10 20 (chars "10.0.0.20") 1113 2113 none
  let config : NetworkConfiguration :=
    ⟨chars "ion-dtn", ⟨10, none, []⟩, [⟨20, [link]⟩], ⟨[], []⟩, ⟨.cgr, []⟩, none, []⟩
  have hidentifies := h asciiLowercasing config (by decide +kernel) link List.mem_cons_self _
    .configured
  exact absurd hidentifies.start (by decide +kernel)

end identification

end CislunarDtn.LinkIdentifiers
