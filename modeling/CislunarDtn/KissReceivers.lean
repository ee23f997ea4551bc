import CislunarDtn.KissFrames
import CislunarDtn.LabelledRuns

/-!
# The KISS plugin's receive loop

One iteration of the loop opens the serial port if it is closed, reads at
most one byte and advances the frame machine. A list of iterations is any
sequence of what the port does: bytes, time-outs, read errors, failures to
open it. The machine is the receiver that hunts for delimiters, collects what
stands between them and drops a frame that outgrows the buffer.
-/

namespace CislunarDtn.KissReceivers

open Bundles DelimitedFrames StuffedFrames KissFrames LabelledRuns

/-- The plugin as far as the receive loop reads it. -/
structure KissClaPlugin where
  /-- Longest run of bytes that is collected as a frame. -/
  maxFrameSize : ℕ
  /-- Whether a callback for received segments is set. -/
  onIngressSegment : Bool
  deriving DecidableEq

/-- The constructed plugin, with no callbacks. -/
def KissClaPlugin.new : KissClaPlugin := ⟨1600, false⟩

/-- How decoding can fail to return true. -/
inductive DecodeFailure where
  /-- It returns false. -/
  | returnsFalse
  /-- It accesses the vector outside its bounds, which has no defined effect. -/
  | outOfBounds
  deriving DecidableEq

/-- What the decoder reports. -/
def decodeReports : Reports UInt8 DecodeFailure where
  tooShort _ := .returnsFalse
  empty := .returnsFalse
  fault _ := .returnsFalse
  outside _ _ := .outOfBounds

/-- Decoding of a frame with its delimiters; the header's special bytes have
the values of the package's. -/
def kissDecode (frame : List UInt8) : Except DecodeFailure (List UInt8) :=
  decodeFrame kissStuffing decodeReports frame

/-- The loop's variables, the port and the counters, with the segments passed
to the callback so far. -/
structure ReceiveLoop where
  /-- Bytes of the open frame. -/
  frameBuffer : List UInt8
  /-- Whether a frame is open. -/
  inFrame : Bool
  /-- Whether the serial port is open. -/
  portOpen : Bool
  /-- Segments delivered. -/
  framesReceived : UInt64
  /-- Frames discarded. -/
  errorsDecode : UInt64
  /-- Segments passed to the callback, oldest first. -/
  ingressSegments : List (List UInt8)
  deriving DecidableEq

/-- The loop as its thread starts. -/
def ReceiveLoop.start : ReceiveLoop := ⟨[], false, false, 0, 0, []⟩

/-- What the read of one byte returns. -/
inductive ReadResult where
  /-- One byte. -/
  | byte (b : UInt8)
  /-- Nothing before the time-out. -/
  | timeout
  /-- An error that means no data is available. -/
  | wouldBlock
  /-- Any other error. -/
  | failed
  deriving DecidableEq

/-- What one iteration meets. -/
structure Iteration where
  /-- Whether the port opens, should it be closed. -/
  opens : Bool
  /-- What the read returns. -/
  read : ReadResult
  deriving DecidableEq

variable (plugin : KissClaPlugin)

/-- A complete frame: decoded, and handed to the callback unless empty. -/
def ReceiveLoop.deliver (s : ReceiveLoop) : ReceiveLoop :=
  let fullFrame := [fend] ++ s.frameBuffer ++ [fend]
  match kissDecode fullFrame with
  | .ok decoded =>
    if decoded ≠ [] ∧ plugin.onIngressSegment = true then
      { s with
        ingressSegments := s.ingressSegments ++ [decoded]
        framesReceived := s.framesReceived + 1 }
    else s
  | .error _ => { s with errorsDecode := s.errorsDecode + 1 }

/-- The frame machine on one byte. -/
def ReceiveLoop.processByte (s : ReceiveLoop) (byte : UInt8) : ReceiveLoop :=
  if byte = fend then
    if s.inFrame = true ∧ s.frameBuffer ≠ [] then
      { s.deliver plugin with frameBuffer := [], inFrame := false }
    else { s with frameBuffer := [], inFrame := true }
  else if s.inFrame = true then
    let frameBuffer := s.frameBuffer ++ [byte]
    if frameBuffer.length > plugin.maxFrameSize then
      { s with frameBuffer := [], inFrame := false, errorsDecode := s.errorsDecode + 1 }
    else { s with frameBuffer := frameBuffer }
  else s

/-- One iteration of the loop. -/
def ReceiveLoop.iterate (s : ReceiveLoop) (it : Iteration) : ReceiveLoop :=
  if s.portOpen = false ∧ it.opens = false then s
  else
    let s := { s with portOpen := true }
    match it.read with
    | .byte b => s.processByte plugin b
    | .timeout => s
    | .wouldBlock => s
    | .failed => { s with portOpen := false }

/-- The bytes one iteration takes from the port. -/
def ReceiveLoop.bytesTaken (s : ReceiveLoop) (it : Iteration) : List UInt8 :=
  match it.read with
  | .byte b => if s.portOpen = false ∧ it.opens = false then [] else [b]
  | _ => []

/-- The byte stream that a run of the loop takes from the port. -/
def byteStream : ReceiveLoop → List Iteration → List UInt8
  | _, [] => []
  | s, it :: its => s.bytesTaken it ++ byteStream (s.iterate plugin it) its

/-- No stretch of a stream between delimiters is longer than the limit. -/
def StretchesWithin (limit : ℕ) (stream : List UInt8) : Prop :=
  ∀ stretch, stretch <:+: stream → fend ∉ stretch → stretch.length ≤ limit

/-- The non-empty payloads behind frame bodies. -/
def segmentsOf (bodies : List (List UInt8)) : List (List UInt8) :=
  (bodies.filterMap payloadOf).filter (· ≠ [])

/-- The state as a receiver's. -/
def ReceiveLoop.receiver (s : ReceiveLoop) : Receiver UInt8 :=
  if s.inFrame then .opened s.frameBuffer else .hunting

section simulation

variable {plugin} {s : ReceiveLoop}

theorem segmentsOf_append (first second : List (List UInt8)) :
    segmentsOf (first ++ second) = segmentsOf first ++ segmentsOf second := by
  rw [segmentsOf, List.filterMap_append, List.filter_append, segmentsOf, segmentsOf]

theorem kissDecode_enclose {body : List UInt8} (hb : Enclosable fend body) :
    kissDecode (enclose fend body) =
      (kissStuffing.unstuff false body.tail).mapError decodeReports.fault :=
  decodeFrame_enclose kissStuffing decodeReports hb

theorem deliver_ingressSegments (hcallback : plugin.onIngressSegment = true)
    (hb : Enclosable fend s.frameBuffer) :
    (s.deliver plugin).ingressSegments = s.ingressSegments ++ segmentsOf [s.frameBuffer] := by
  have hdecode : kissDecode ([fend] ++ s.frameBuffer ++ [fend]) =
      (kissStuffing.unstuff false s.frameBuffer.tail).mapError decodeReports.fault :=
    kissDecode_enclose hb
  unfold ReceiveLoop.deliver
  dsimp only
  rw [hdecode]
  cases hu : kissStuffing.unstuff false s.frameBuffer.tail with
  | error e =>
    have hnone : payloadOf s.frameBuffer = none := by
      rw [payloadOf, hu]
      rfl
    simp [segmentsOf, hnone, Except.mapError]
  | ok data =>
    have hsome : payloadOf s.frameBuffer = some data := by
      rw [payloadOf, hu]
      rfl
    by_cases hd : data = []
    · simp [segmentsOf, hsome, hd, Except.mapError]
    · simp [segmentsOf, hsome, hd, hcallback, Except.mapError]

/-- One byte moves the machine as it moves the limited receiver, and the frame
it completes reaches the callback. -/
theorem processByte_spec (hcallback : plugin.onIngressSegment = true)
    (hfree : fend ∉ s.frameBuffer) (b : UInt8) :
    (s.processByte plugin b).receiver =
        (advanceWithin plugin.maxFrameSize fend s.receiver b).1 ∧
      (s.processByte plugin b).ingressSegments = s.ingressSegments ++
        segmentsOf (advanceWithin plugin.maxFrameSize fend s.receiver b).2.toList ∧
      fend ∉ (s.processByte plugin b).frameBuffer := by
  unfold ReceiveLoop.processByte
  by_cases hb : b = fend
  · cases hin : s.inFrame with
    | false => simp [hb, hin, ReceiveLoop.receiver, advanceWithin, advance, segmentsOf]
    | true =>
      by_cases hbuf : s.frameBuffer = []
      · simp [hb, hin, hbuf, ReceiveLoop.receiver, advanceWithin, advance, segmentsOf]
      · have hdeliver := @deliver_ingressSegments plugin s hcallback ⟨hbuf, hfree⟩
        simp [hb, hin, hbuf, ReceiveLoop.receiver, advanceWithin, advance, hdeliver]
  · cases hin : s.inFrame with
    | false => simp [hb, hin, hfree, ReceiveLoop.receiver, advanceWithin, advance, segmentsOf]
    | true =>
      by_cases hroom : s.frameBuffer.length < plugin.maxFrameSize
      · have hkeep : ¬plugin.maxFrameSize < s.frameBuffer.length + 1 := by omega
        have hfits : ¬plugin.maxFrameSize ≤ s.frameBuffer.length := by omega
        simp [hb, hin, hfits, hkeep, hfree, Ne.symm hb, ReceiveLoop.receiver, advanceWithin,
          advance, segmentsOf, Receiver.contents]
      · have hdrop : plugin.maxFrameSize < s.frameBuffer.length + 1 := by omega
        have hfull : plugin.maxFrameSize ≤ s.frameBuffer.length := by omega
        simp [hb, hin, hdrop, hfull, ReceiveLoop.receiver, advanceWithin, segmentsOf,
          Receiver.contents]

/-- An iteration that takes no byte changes nothing the receiver holds. -/
theorem iterate_of_bytesTaken_nil {it : Iteration} (h : s.bytesTaken it = []) :
    (s.iterate plugin it).receiver = s.receiver ∧
      (s.iterate plugin it).ingressSegments = s.ingressSegments ∧
      (s.iterate plugin it).frameBuffer = s.frameBuffer := by
  unfold ReceiveLoop.iterate
  by_cases hp : s.portOpen = false ∧ it.opens = false
  · rw [if_pos hp]
    exact ⟨rfl, rfl, rfl⟩
  · rw [if_neg hp]
    cases hr : it.read with
    | byte b => simp [ReceiveLoop.bytesTaken, hr, hp] at h
    | timeout => exact ⟨rfl, rfl, rfl⟩
    | wouldBlock => exact ⟨rfl, rfl, rfl⟩
    | failed => exact ⟨rfl, rfl, rfl⟩

/-- An iteration that takes a byte processes it. -/
theorem iterate_of_bytesTaken_ne_nil {it : Iteration} (h : s.bytesTaken it ≠ []) :
    ∃ b, s.bytesTaken it = [b] ∧
      s.iterate plugin it = { s with portOpen := true }.processByte plugin b := by
  have hport : ¬(s.portOpen = false ∧ it.opens = false) := by
    intro hp
    refine h ?_
    cases hr : it.read <;> simp [ReceiveLoop.bytesTaken, hr, hp]
  cases hr : it.read with
  | byte b =>
    have htaken : s.bytesTaken it = [b] := by simp [ReceiveLoop.bytesTaken, hr, hport]
    refine ⟨b, htaken, ?_⟩
    rw [ReceiveLoop.iterate, if_neg hport, hr]
  | timeout => exact absurd (by simp [ReceiveLoop.bytesTaken, hr]) h
  | wouldBlock => exact absurd (by simp [ReceiveLoop.bytesTaken, hr]) h
  | failed => exact absurd (by simp [ReceiveLoop.bytesTaken, hr]) h

/-- A run of the loop passes on what the limited receiver completes of the
bytes it takes. -/
theorem run_ingressSegments_within (hcallback : plugin.onIngressSegment = true)
    {its : List Iteration} (hfree : fend ∉ s.frameBuffer) :
    (run (ReceiveLoop.iterate plugin) s its).ingressSegments = s.ingressSegments ++
      segmentsOf (framesWithin plugin.maxFrameSize fend s.receiver
        (byteStream plugin s its)) := by
  induction its generalizing s with
  | nil => simp [byteStream, segmentsOf]
  | cons it its ih =>
    rw [byteStream, run_cons]
    by_cases htaken : s.bytesTaken it = []
    · obtain ⟨hrecv, hseg, hbuf⟩ := @iterate_of_bytesTaken_nil plugin s it htaken
      rw [htaken, List.nil_append, ih (by rwa [hbuf]), hseg, hrecv]
    · obtain ⟨b, hb, hiterate⟩ := @iterate_of_bytesTaken_ne_nil plugin s it htaken
      have hspec := processByte_spec (s := { s with portOpen := true }) hcallback hfree b
      rw [← hiterate] at hspec
      obtain ⟨hrecv, hseg, hfree'⟩ := hspec
      rw [hb, List.singleton_append, ih hfree', hseg, hrecv, List.append_assoc,
        ← segmentsOf_append]
      rfl

/-- As long as no frame outgrows the buffer, the limit plays no part. -/
theorem run_ingressSegments (hcallback : plugin.onIngressSegment = true) {its : List Iteration}
    (hfree : fend ∉ s.frameBuffer)
    (hwithin : StretchesWithin plugin.maxFrameSize
      (s.receiver.contents ++ byteStream plugin s its)) :
    (run (ReceiveLoop.iterate plugin) s its).ingressSegments =
      s.ingressSegments ++ segmentsOf (frames fend s.receiver (byteStream plugin s its)) := by
  have hcontents : fend ∉ s.receiver.contents := by
    unfold ReceiveLoop.receiver
    split
    · exact hfree
    · simp [Receiver.contents]
  rw [run_ingressSegments_within hcallback hfree, framesWithin_eq_frames hcontents hwithin]

end simulation

/-- Every stream is taken byte by byte from a port that opens. -/
theorem byteStream_bytes (plugin : KissClaPlugin) (stream : List UInt8) (s : ReceiveLoop) :
    byteStream plugin s (stream.map fun b => ⟨true, .byte b⟩) = stream := by
  induction stream generalizing s with
  | nil => rfl
  | cons b stream ih => simp [byteStream, ReceiveLoop.bytesTaken, ih]

end CislunarDtn.KissReceivers
