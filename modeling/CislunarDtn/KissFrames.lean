import CislunarDtn.Bundles
import CislunarDtn.StuffedFrames

/-!
# KISS frames of the terminal node controller

Encoding and decoding of frames, and the reader that cuts frames out of a
serial byte stream. A stream is the bytes that arrive before end of file.
Reading a slice outside its bounds is an outcome of its own, so that its
absence is a fact about the code.
-/

namespace CislunarDtn.KissFrames

open Bundles DelimitedFrames StuffedFrames

/-- Frame delimiter. -/
def fend : UInt8 := 0xC0

/-- Escape character. -/
def fesc : UInt8 := 0xDB

/-- Transposed frame delimiter. -/
def tfend : UInt8 := 0xDC

/-- Transposed escape character. -/
def tfesc : UInt8 := 0xDD

/-- Command byte of a data frame on port 0. -/
def cmdDataFrame : UInt8 := 0x00

/-- The special bytes as a stuffing. -/
def kissStuffing : Stuffing UInt8 where
  delimiter := fend
  escape := fesc
  delimiterCode := tfend
  escapeCode := tfesc
  escape_ne := by decide
  delimiterCode_ne := by decide
  escapeCode_ne := by decide
  codes_ne := by decide

/-- Failures of the package. -/
inductive KissError where
  /-- ErrFrameEmpty. -/
  | frameEmpty
  /-- ErrInvalidEscape, wrapped with a detail. -/
  | invalidEscape (detail : GoString)
  /-- An error that carries only its text. -/
  | errorf (text : GoString)
  /-- Run-time panic of an index expression. -/
  | indexOutOfRange (index length : ℕ)
  deriving DecidableEq

/-- Text of a failure. -/
def KissError.text : KissError → GoString
  | .frameEmpty => ascii "kiss: frame data is empty"
  | .invalidEscape detail => ascii "kiss: invalid escape sequence: " ++ detail
  | .errorf text => text
  | .indexOutOfRange index length =>
    ascii s!"runtime error: index out of range [{index}] with length {length}"

/-- Two upper-case hexadecimal digits, as the verb %02X prints them. -/
def formatHexByte (b : UInt8) : GoString :=
  let digit (n : ℕ) : Char := (Nat.digitChar n).toUpper
  ascii (String.ofList [digit (b.toNat / 16), digit (b.toNat % 16)])

/-- What the encoder appends for one byte. -/
def appendEscaped (buf : List UInt8) (b : UInt8) : List UInt8 :=
  if b = fend then buf ++ [fesc, tfend]
  else if b = fesc then buf ++ [fesc, tfesc]
  else buf ++ [b]

/-- A data frame with the payload escaped. -/
def encode (data : List UInt8) : Except KissError (List UInt8) :=
  if data.length = 0 then .error .frameEmpty
  else .ok (data.foldl appendEscaped [fend, cmdDataFrame] ++ [fend])

/-- What the decoder reports. -/
def decodeReports : Reports UInt8 KissError where
  tooShort length := .errorf (ascii s!"kiss: frame too short: {length} bytes")
  empty := .frameEmpty
  fault
    | .badCode b => .invalidEscape (ascii "FESC followed by 0x" ++ formatHexByte b)
    | .trailingEscape => .invalidEscape (ascii "trailing FESC")
  outside := .indexOutOfRange

/-- Payload of a frame, without its command byte, which may have any value. -/
def decode (frame : List UInt8) : Except KissError (List UInt8) :=
  decodeFrame kissStuffing decodeReports frame

/-- A failed ReadByte at the end of the stream, wrapped by the reader. -/
def readError (label : String) : KissError := .errorf (ascii label ++ ascii ": EOF")

/-- First loop of the reader: what follows the next delimiter. -/
def awaitStart : List UInt8 → Except KissError (List UInt8)
  | [] => .error (readError "kiss: read error waiting for frame start")
  | b :: rest => if b = fend then .ok rest else awaitStart rest

/-- Second loop: the first byte that is no delimiter, and what follows it. -/
def skipFill : List UInt8 → Except KissError (UInt8 × List UInt8)
  | [] => .error (readError "kiss: read error skipping inter-frame FENDs")
  | b :: rest => if b ≠ fend then .ok (b, rest) else skipFill rest

/-- Third loop: the frame with its closing delimiter, and what follows it. -/
def readToClosing (buf : List UInt8) : List UInt8 → Except KissError (List UInt8 × List UInt8)
  | [] => .error (readError "kiss: read error during frame")
  | b :: rest => if b = fend then .ok (buf ++ [b], rest) else readToClosing (buf ++ [b]) rest

/-- The next frame of the stream with its delimiters, and the rest of the stream. -/
def readKISSFrameFromReader (stream : List UInt8) :
    Except KissError (List UInt8 × List UInt8) := do
  let opened ← awaitStart stream
  let (firstDataByte, rest) ← skipFill opened
  readToClosing [fend, firstDataByte] rest

theorem length_awaitStart {stream rest : List UInt8} (h : awaitStart stream = .ok rest) :
    rest.length < stream.length := by
  induction stream with
  | nil => cases h
  | cons b stream ih =>
    rw [awaitStart] at h
    split at h
    · cases h
      simp
    · have := ih h
      simp only [List.length_cons]
      omega

theorem length_skipFill {stream rest : List UInt8} {b : UInt8}
    (h : skipFill stream = .ok (b, rest)) : rest.length < stream.length := by
  induction stream with
  | nil => cases h
  | cons c stream ih =>
    rw [skipFill] at h
    split at h
    · cases h
      simp
    · have := ih h
      simp only [List.length_cons]
      omega

theorem length_readToClosing {buf stream frame rest : List UInt8}
    (h : readToClosing buf stream = .ok (frame, rest)) : rest.length < stream.length := by
  induction stream generalizing buf with
  | nil => cases h
  | cons b stream ih =>
    rw [readToClosing] at h
    split at h
    · cases h
      simp
    · have := ih h
      simp only [List.length_cons]
      omega

/-- A successful read runs its three loops one after the other. -/
theorem readKISSFrameFromReader_cases {stream frame rest : List UInt8}
    (h : readKISSFrameFromReader stream = .ok (frame, rest)) :
    ∃ opened b inside, awaitStart stream = .ok opened ∧ skipFill opened = .ok (b, inside) ∧
      readToClosing [fend, b] inside = .ok (frame, rest) := by
  unfold readKISSFrameFromReader at h
  cases ha : awaitStart stream with
  | error e => simp [ha, bind, Except.bind] at h
  | ok opened =>
    cases hs : skipFill opened with
    | error e => simp [ha, hs, bind, Except.bind] at h
    | ok first =>
      obtain ⟨b, inside⟩ := first
      simp only [ha, hs, bind, Except.bind] at h
      exact ⟨opened, b, inside, rfl, hs, h⟩

theorem length_readKISSFrameFromReader {stream frame rest : List UInt8}
    (h : readKISSFrameFromReader stream = .ok (frame, rest)) : rest.length < stream.length := by
  obtain ⟨opened, b, inside, ha, hs, hr⟩ := readKISSFrameFromReader_cases h
  have h1 := length_awaitStart ha
  have h2 := length_skipFill hs
  have h3 := length_readToClosing hr
  omega

/-- The frames that repeated reading returns until the stream ends. -/
def readFrames (stream : List UInt8) : List (List UInt8) :=
  match h : readKISSFrameFromReader stream with
  | .error _ => []
  | .ok (frame, rest) =>
    have : rest.length < stream.length := length_readKISSFrameFromReader h
    frame :: readFrames rest
termination_by stream.length

/-- The payloads of the frames that decode, as the receive loop hands them on. -/
def receivedPayloads (stream : List UInt8) : List (List UInt8) :=
  (readFrames stream).filterMap fun frame => (decode frame).toOption

section reading

theorem awaitStart_spec (stream : List UInt8) :
    match awaitStart stream with
    | .error _ => frames fend .hunting stream = []
    | .ok rest => frames fend .hunting stream = frames fend (.opened []) rest := by
  induction stream with
  | nil => rfl
  | cons b stream ih =>
    by_cases hb : b = fend
    · subst hb
      rw [awaitStart, if_pos rfl]
      exact frames_hunting_delimiter stream
    · rw [awaitStart, if_neg hb, frames_hunting_of_ne hb]
      exact ih

theorem skipFill_spec (stream : List UInt8) :
    match skipFill stream with
    | .error _ => frames fend (.opened []) stream = []
    | .ok (b, rest) =>
      b ≠ fend ∧ frames fend (.opened []) stream = frames fend (.opened [b]) rest := by
  induction stream with
  | nil => rfl
  | cons b stream ih =>
    by_cases hb : b = fend
    · subst hb
      rw [skipFill, if_neg (not_not.mpr rfl), frames_opened_fill]
      exact ih
    · rw [skipFill, if_pos hb]
      exact ⟨hb, frames_opened_of_ne hb [] stream⟩

theorem readToClosing_spec {contents : List UInt8} (hc : contents ≠ []) (stream : List UInt8) :
    match readToClosing (fend :: contents) stream with
    | .error _ => frames fend (.opened contents) stream = []
    | .ok (frame, rest) => ∃ body, frame = enclose fend body ∧
        frames fend (.opened contents) stream = body :: frames fend .hunting rest := by
  induction stream generalizing contents with
  | nil => exact frames_nil _
  | cons b stream ih =>
    by_cases hb : b = fend
    · subst hb
      rw [readToClosing, if_pos rfl]
      exact ⟨contents, rfl, frames_opened_closing hc stream⟩
    · have hnext : contents ++ [b] ≠ [] := by simp
      rw [readToClosing, if_neg hb, frames_opened_of_ne hb]
      exact ih hnext

/-- One read: it fails where no frame is left, and otherwise returns the next one. -/
theorem readKISSFrameFromReader_spec (stream : List UInt8) :
    match readKISSFrameFromReader stream with
    | .error _ => frames fend .hunting stream = []
    | .ok (frame, rest) => ∃ body, frame = enclose fend body ∧
        frames fend .hunting stream = body :: frames fend .hunting rest := by
  have hawait := awaitStart_spec stream
  unfold readKISSFrameFromReader
  cases ha : awaitStart stream with
  | error e =>
    simp only [ha] at hawait
    exact hawait
  | ok opened =>
    have hfill := skipFill_spec opened
    simp only [ha] at hawait
    cases hs : skipFill opened with
    | error e =>
      simp only [hs] at hfill
      simp only [bind, Except.bind, hs]
      rw [hawait]
      exact hfill
    | ok first =>
      obtain ⟨b, inside⟩ := first
      simp only [hs] at hfill
      have hclosing := readToClosing_spec (List.cons_ne_nil b []) inside
      simp only [bind, Except.bind, hs]
      rw [hawait, hfill.2]
      exact hclosing

theorem readFrames_eq (stream : List UInt8) :
    readFrames stream = (frames fend .hunting stream).map (enclose fend) := by
  fun_induction readFrames stream with
  | case1 stream e h =>
    have hspec := readKISSFrameFromReader_spec stream
    simp only [h] at hspec
    rw [hspec]
    rfl
  | case2 stream frame rest h hlt ih =>
    have hspec := readKISSFrameFromReader_spec stream
    simp only [h] at hspec
    obtain ⟨body, rfl, hframes⟩ := hspec
    rw [ih, hframes, List.map_cons]

end reading

/-- The payload inside a frame's body, behind its command byte. -/
def payloadOf (body : List UInt8) : Option (List UInt8) :=
  (kissStuffing.unstuff false body.tail).toOption

section decoding

/-- Decoding a frame that the reader has cut out fails only on a bad escape. -/
theorem decode_enclose {body : List UInt8} (hb : Enclosable fend body) :
    decode (enclose fend body) =
      (kissStuffing.unstuff false body.tail).mapError decodeReports.fault :=
  decodeFrame_enclose kissStuffing decodeReports hb

theorem receivedPayloads_eq (stream : List UInt8) :
    receivedPayloads stream = (frames fend .hunting stream).filterMap payloadOf := by
  rw [receivedPayloads, readFrames_eq, List.filterMap_map]
  refine List.filterMap_congr fun body hm => ?_
  have hb : Enclosable fend body := enclosable_of_mem_frames (by simp) hm
  rw [Function.comp_apply, decode_enclose hb, payloadOf]
  cases kissStuffing.unstuff false body.tail <;> rfl

theorem foldl_appendEscaped (data buf : List UInt8) :
    data.foldl appendEscaped buf = buf ++ kissStuffing.stuff data := by
  induction data generalizing buf with
  | nil => simp [Stuffing.stuff]
  | cons b data ih =>
    have hone : appendEscaped buf b = buf ++ kissStuffing.stuffOne b := by
      unfold appendEscaped Stuffing.stuffOne kissStuffing
      split_ifs <;> rfl
    rw [List.foldl_cons, ih, hone, List.append_assoc]
    rfl

/-- The body of the frame that carries a payload. -/
def bodyOf (data : List UInt8) : List UInt8 := cmdDataFrame :: kissStuffing.stuff data

theorem encode_eq {data : List UInt8} (hne : data ≠ []) :
    encode data = .ok (enclose fend (bodyOf data)) := by
  rw [encode, if_neg (by simpa using hne), foldl_appendEscaped]
  rfl

theorem enclosable_bodyOf (data : List UInt8) : Enclosable fend (bodyOf data) := by
  have hstuffed : fend ∉ kissStuffing.stuff data := kissStuffing.delimiter_notMem_stuff data
  have hcmd : fend ≠ cmdDataFrame := by decide
  exact ⟨List.cons_ne_nil _ _, List.not_mem_cons_of_ne_of_not_mem hcmd hstuffed⟩

theorem payloadOf_bodyOf (data : List UInt8) : payloadOf (bodyOf data) = some data := by
  have hround := kissStuffing.unstuff_stuff data
  rw [payloadOf, bodyOf, List.tail_cons, hround]
  rfl

end decoding

end CislunarDtn.KissFrames
