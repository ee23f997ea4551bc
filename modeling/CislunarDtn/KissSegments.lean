import CislunarDtn.KissReceivers

/-!
# Segments sent by the KISS plugin

The plugin frames the segments it is handed and writes them to the serial
port, and a peer's receive loop reads them. What the sender limits is the
length of a segment; what the receiver limits is the length of its frame.
-/

namespace CislunarDtn.KissSegments

open Bundles DelimitedFrames StuffedFrames KissFrames KissReceivers LabelledRuns

/-- The plugin's settings. -/
structure KissClaSettings where
  /-- Serial device. -/
  devicePath : GoString
  /-- Line speed. -/
  baudRate : Int32
  /-- Port that frames are addressed to. -/
  kissPort : Int32
  /-- Longest run of bytes that is collected as a frame. -/
  maxFrameSize : ℕ
  /-- Longest segment that is sent. -/
  ltpMtu : ℕ
  /-- Seconds between attempts to open the port. -/
  retryIntervalSec : Int32
  deriving DecidableEq

/-- The settings of a constructed plugin. -/
def KissClaSettings.new : KissClaSettings := ⟨[], 9600, 0, 1600, 1500, 5⟩

/-- Initialisation: the settings and whether they are accepted. -/
def init (devicePath : GoString) (baudRate kissPort : Int32) (maxFrameSize ltpMtu : ℕ)
    (retryIntervalSec : Int32) : KissClaSettings × Bool :=
  let retryIntervalSec := if retryIntervalSec < 1 then 1 else retryIntervalSec
  let retryIntervalSec := if retryIntervalSec > 60 then 60 else retryIntervalSec
  (⟨devicePath, baudRate, kissPort, maxFrameSize, ltpMtu, retryIntervalSec⟩, true)

/-- The receiving side of a plugin whose callback for segments is set. -/
def KissClaSettings.receiving (settings : KissClaSettings) : KissClaPlugin :=
  ⟨settings.maxFrameSize, true⟩

/-- Command byte: the port in the high nibble. -/
def commandByte (kissPort : Int32) : UInt8 := ((kissPort &&& 0x0F) <<< 4).toUInt32.toUInt8

variable (settings : KissClaSettings)

/-- Frame of a segment. -/
def kissEncode (data : List UInt8) : List UInt8 :=
  data.foldl appendEscaped [fend, commandByte settings.kissPort] ++ [fend]

/-- The sending side: its counters and the bytes the port has taken. -/
structure SegmentSender where
  /-- Segments sent. -/
  framesSent : UInt64
  /-- Segments refused or not written as a whole. -/
  errorsSend : UInt64
  /-- Bytes on the line, oldest first. -/
  written : List UInt8
  deriving DecidableEq

/-- A sender before its first segment. -/
def SegmentSender.start : SegmentSender := ⟨0, 0, []⟩

/-- One call with what the port does. -/
structure SendCall where
  /-- The segment. -/
  data : List UInt8
  /-- Whether the serial port is open. -/
  serialOpen : Bool
  /-- How many bytes a write of so many takes, none when it fails. -/
  taken : ℕ → Option ℕ

/-- Sending of a segment: the new state and what the call returns. -/
def SegmentSender.sendSegment (s : SegmentSender) (call : SendCall) : SegmentSender × Bool :=
  if call.data.length > settings.ltpMtu then
    ({ s with errorsSend := s.errorsSend + 1 }, false)
  else if call.serialOpen = false then ({ s with errorsSend := s.errorsSend + 1 }, false)
  else
    let frame := kissEncode settings call.data
    match call.taken frame.length with
    | none => ({ s with errorsSend := s.errorsSend + 1 }, false)
    | some n =>
      let s := { s with written := s.written ++ frame.take n }
      if n ≠ frame.length then ({ s with errorsSend := s.errorsSend + 1 }, false)
      else ({ s with framesSent := s.framesSent + 1 }, true)

/-- The sender after a sequence of calls. -/
def SegmentSender.sendAll (s : SegmentSender) (calls : List SendCall) : SegmentSender :=
  run (fun s call => (s.sendSegment settings call).1) s calls

/-- The segments for which the call returned true. -/
def SegmentSender.completed : SegmentSender → List SendCall → List (List UInt8)
  | _, [] => []
  | s, call :: calls =>
    (if (s.sendSegment settings call).2 = true then [call.data] else []) ++
      completed (s.sendSegment settings call).1 calls

/-- A call that leaves no part of a frame on the line: what the port takes is
everything or nothing. -/
def SendCall.Undivided (call : SendCall) : Prop :=
  ∀ size n, call.taken size = some n → n = 0 ∨ n = size

/-- The body of a segment's frame. -/
def segmentBody (data : List UInt8) : List UInt8 :=
  commandByte settings.kissPort :: kissStuffing.stuff data

section framing

variable {settings}

/-- The port's low nibble is one of sixteen. -/
theorem low_nibble (kissPort : Int32) : ∃ k < 16, kissPort &&& 0x0F = Int32.ofNat k := by
  have hlow : (kissPort.toBitVec &&& 15#32).toNat = kissPort.toBitVec.toNat % 16 := by
    rw [BitVec.toNat_and]
    exact Nat.and_two_pow_sub_one_eq_mod _ 4
  have hk : (Int32.ofNat (kissPort.toBitVec.toNat % 16)).toBitVec =
      BitVec.ofNat 32 (kissPort.toBitVec.toNat % 16) := rfl
  refine ⟨kissPort.toBitVec.toNat % 16, Nat.mod_lt _ (by decide), Int32.toBitVec_inj.mp ?_⟩
  rw [hk, ← hlow, BitVec.ofNat_toNat, BitVec.setWidth_eq]
  rfl

/-- The command byte is the delimiter for the ports whose low nibble is twelve. -/
theorem commandByte_eq_fend_iff (kissPort : Int32) :
    commandByte kissPort = fend ↔ kissPort &&& 0x0F = 0x0C := by
  obtain ⟨k, hk, hport⟩ := low_nibble kissPort
  have hall : ∀ k < 16, ((Int32.ofNat k) <<< 4).toUInt32.toUInt8 = fend ↔
      Int32.ofNat k = 0x0C := by decide
  rw [commandByte, hport]
  exact hall k hk

theorem kissEncode_eq (data : List UInt8) :
    kissEncode settings data = enclose fend (segmentBody settings data) := by
  rw [kissEncode, foldl_appendEscaped]
  rfl

theorem length_segmentBody (data : List UInt8) :
    (segmentBody settings data).length =
      data.length + data.countP kissStuffing.isSpecial + 1 := by
  rw [segmentBody, List.length_cons, kissStuffing.length_stuff]

theorem payloadOf_segmentBody (data : List UInt8) :
    payloadOf (segmentBody settings data) = some data := by
  have hround := kissStuffing.unstuff_stuff data
  rw [payloadOf, segmentBody, List.tail_cons, hround]
  rfl

theorem enclosable_segmentBody (hport : commandByte settings.kissPort ≠ fend)
    (data : List UInt8) : Enclosable fend (segmentBody settings data) := by
  have hstuffed : fend ∉ kissStuffing.stuff data := kissStuffing.delimiter_notMem_stuff data
  exact ⟨List.cons_ne_nil _ _, List.not_mem_cons_of_ne_of_not_mem hport.symm hstuffed⟩

/-- A stuffed segment without a command byte in front of it is read as another one. -/
theorem payloadOf_stuff_ne {data : List UInt8} (hne : data ≠ []) :
    payloadOf (kissStuffing.stuff data) ≠ some data := by
  have hother := kissStuffing.unstuff_tail_stuff_ne (by decide) (by decide) hne
  intro hpayload
  rw [payloadOf] at hpayload
  cases hu : kissStuffing.unstuff false (kissStuffing.stuff data).tail with
  | error e => simp [hu, Except.toOption] at hpayload
  | ok payload =>
    have hsame : payload = data := by simpa [hu, Except.toOption] using hpayload
    exact hother (by rw [hu, hsame])

theorem payloadOf_of_mem_segmentsOf {body data : List UInt8} (hm : data ∈ segmentsOf [body]) :
    payloadOf body = some data := by
  have hfound := List.mem_of_mem_filter hm
  simpa using hfound

/-- What a fresh receive loop passes on of the bytes it takes. -/
theorem received_eq (plugin : KissClaPlugin) (hcallback : plugin.onIngressSegment = true)
    {its : List Iteration} {stream : List UInt8} (hits : byteStream plugin .start its = stream) :
    (run (ReceiveLoop.iterate plugin) .start its).ingressSegments =
      segmentsOf (framesWithin plugin.maxFrameSize fend .hunting stream) := by
  have hfree : fend ∉ ReceiveLoop.start.frameBuffer := by simp [ReceiveLoop.start]
  rw [run_ingressSegments_within hcallback hfree, hits]
  rfl

end framing

section round_trip

variable {settings}

/-- The frame of a segment on a line of its own: it is passed on where the
command byte is no delimiter, and otherwise its first byte is lost. -/
theorem segmentsOf_kissEncode {data : List UInt8} (hne : data ≠ [])
    (hfits : (segmentBody settings data).length ≤ settings.maxFrameSize) :
    segmentsOf (framesWithin settings.maxFrameSize fend .hunting (kissEncode settings data)) =
      if commandByte settings.kissPort = fend then segmentsOf [kissStuffing.stuff data]
      else [data] := by
  rw [kissEncode_eq]
  by_cases hport : commandByte settings.kissPort = fend
  · have hstuffed : Enclosable fend (kissStuffing.stuff data) := by
      have hlen := kissStuffing.length_stuff data
      have hpos := List.length_pos_iff.mpr hne
      have hnil : kissStuffing.stuff data ≠ [] := by
        intro hnil
        rw [hnil, List.length_nil] at hlen
        omega
      exact ⟨hnil, kissStuffing.delimiter_notMem_stuff data⟩
    have hlen : (kissStuffing.stuff data).length ≤ settings.maxFrameSize := by
      rw [segmentBody, List.length_cons] at hfits
      omega
    have hsplit : enclose fend (segmentBody settings data) =
        fend :: [kissStuffing.stuff data].flatMap (enclose fend) := by
      simp [enclose, segmentBody, hport]
    have hbodies : ∀ body ∈ [kissStuffing.stuff data], Enclosable fend body := by
      simpa using hstuffed
    have hframes := framesWithin_flatMap_enclose settings.maxFrameSize hbodies
      (r := .opened []) rfl
    rw [if_pos hport, hsplit, framesWithin_delimiter_of_empty rfl, hframes]
    simp [hlen]
  · have hbodies : ∀ body ∈ [segmentBody settings data], Enclosable fend body := by
      simpa using enclosable_segmentBody hport data
    have hframes := framesWithin_flatMap_enclose settings.maxFrameSize hbodies
      (r := .hunting) rfl
    rw [if_neg hport]
    rw [List.flatMap_singleton] at hframes
    rw [hframes]
    simp [hfits, segmentsOf, payloadOf_segmentBody, hne]

/-- A segment whose frame the receiver has room for is received as sent, and
once, for exactly the ports whose low nibble is not twelve. Initialisation
accepts every port. -/
theorem kissEncode_received_iff (devicePath : GoString) (baudRate kissPort : Int32)
    (maxFrameSize ltpMtu : ℕ) (retryIntervalSec : Int32) (data : List UInt8) (hne : data ≠ [])
    (hfits : (kissEncode (init devicePath baudRate kissPort maxFrameSize ltpMtu
      retryIntervalSec).1 data).length ≤ maxFrameSize + 2) :
    (init devicePath baudRate kissPort maxFrameSize ltpMtu retryIntervalSec).2 = true ∧
      let settings :=
        (init devicePath baudRate kissPort maxFrameSize ltpMtu retryIntervalSec).1
      ((∀ its, byteStream settings.receiving .start its = kissEncode settings data →
          (run (ReceiveLoop.iterate settings.receiving) .start its).ingressSegments =
            [data]) ↔
        kissPort &&& 0x0F ≠ 0x0C) := by
  refine ⟨rfl, ?_⟩
  intro settings
  have hroom : (segmentBody settings data).length ≤ settings.maxFrameSize := by
    have hlen : (kissEncode settings data).length = (segmentBody settings data).length + 2 := by
      simp [kissEncode_eq, enclose]
    have hle : (kissEncode settings data).length ≤ settings.maxFrameSize + 2 := hfits
    omega
  have hsegments := segmentsOf_kissEncode hne hroom
  have hport : commandByte settings.kissPort = fend ↔ kissPort &&& 0x0F = 0x0C :=
    commandByte_eq_fend_iff kissPort
  constructor
  · intro hall htwelve
    have hreceived := received_eq settings.receiving rfl
      (byteStream_bytes settings.receiving (kissEncode settings data) .start)
    rw [hall _ (byteStream_bytes ..)] at hreceived
    have hlost : [data] = segmentsOf [kissStuffing.stuff data] := by
      rw [if_pos (hport.mpr htwelve)] at hsegments
      exact hreceived.trans hsegments
    have hmem : data ∈ segmentsOf [kissStuffing.stuff data] := by
      rw [← hlost]
      exact List.mem_singleton_self data
    have hpayload := payloadOf_of_mem_segmentsOf hmem
    exact payloadOf_stuff_ne hne hpayload
  · intro hother its hits
    rw [received_eq settings.receiving rfl hits]
    have hsent := hsegments
    rw [if_neg (mt hport.mp hother)] at hsent
    exact hsent

/-- A segment with both special bytes, received on port 3. -/
theorem kissEncode_received_iff_port_three :
    let settings := (init (ascii "/dev/ttyUSB0") 9600 3 1600 1500 5).1
    ∀ its, byteStream settings.receiving .start its = kissEncode settings [0xC0, 0xDB] →
      (run (ReceiveLoop.iterate settings.receiving) .start its).ingressSegments =
        [[0xC0, 0xDB]] :=
  (kissEncode_received_iff (ascii "/dev/ttyUSB0") 9600 3 1600 1500 5 [0xC0, 0xDB] (by decide)
    (by decide)).2.mpr (by decide)

/-- Port 12 is accepted, and a segment of two bytes sent to it arrives as its second. -/
theorem port_twelve_loses_first_byte :
    (init (ascii "/dev/ttyUSB0") 9600 12 1600 1500 5).2 = true ∧
      let settings := (init (ascii "/dev/ttyUSB0") 9600 12 1600 1500 5).1
      let its := (kissEncode settings [0x41, 0x42]).map fun b => ⟨true, .byte b⟩
      byteStream settings.receiving .start its = kissEncode settings [0x41, 0x42] ∧
        (run (ReceiveLoop.iterate settings.receiving) .start its).ingressSegments =
          [[0x42]] := by
  decide

end round_trip

section sequences

variable {settings}

variable (settings) in
/-- A call that returns true leaves the segment's frame on the line, and one
that returns false nothing, unless the port takes a part. -/
theorem sendSegment_written (s : SegmentSender) {call : SendCall} (hwhole : call.Undivided) :
    (s.sendSegment settings call).1.written = s.written ++
      (if (s.sendSegment settings call).2 = true then [call.data] else []).flatMap
        (kissEncode settings) := by
  unfold SegmentSender.sendSegment
  by_cases hlong : call.data.length > settings.ltpMtu
  · simp [hlong]
  · by_cases hopen : call.serialOpen = false
    · simp [hlong, hopen]
    · cases htaken : call.taken (kissEncode settings call.data).length with
      | none => simp [hlong, hopen, htaken]
      | some n =>
        rcases hwhole _ n htaken with hn | hn
        · have hpos : (kissEncode settings call.data).length ≠ 0 := by simp [kissEncode]
          simp [hlong, hopen, htaken, hn, hpos.symm]
        · simp [hlong, hopen, htaken, hn]

variable (settings) in
theorem sendAll_written (s : SegmentSender) {calls : List SendCall}
    (hwhole : ∀ call ∈ calls, call.Undivided) :
    (s.sendAll settings calls).written =
      s.written ++ (s.completed settings calls).flatMap (kissEncode settings) := by
  induction calls generalizing s with
  | nil => simp [SegmentSender.sendAll, SegmentSender.completed]
  | cons call calls ih =>
    have hhead := sendSegment_written settings s (hwhole _ (List.mem_cons_self ..))
    have htail := ih (s.sendSegment settings call).1
      fun c hc => hwhole c (List.mem_cons_of_mem _ hc)
    rw [SegmentSender.sendAll] at htail ⊢
    rw [run_cons, htail, hhead, SegmentSender.completed, List.flatMap_append, List.append_assoc]

/-- A completed segment is the segment of a call. -/
theorem exists_call_of_mem_completed {s : SegmentSender} {calls : List SendCall}
    {data : List UInt8} (hm : data ∈ s.completed settings calls) :
    ∃ call ∈ calls, call.data = data := by
  induction calls generalizing s with
  | nil => simp [SegmentSender.completed] at hm
  | cons call calls ih =>
    rw [SegmentSender.completed] at hm
    rcases List.mem_append.mp hm with hhead | htail
    · split at hhead
      · exact ⟨call, List.mem_cons_self .., (List.mem_singleton.mp hhead).symm⟩
      · cases hhead
    · obtain ⟨c, hc, hdata⟩ := ih htail
      exact ⟨c, List.mem_cons_of_mem _ hc, hdata⟩

theorem segmentsOf_map_segmentBody (sent : List (List UInt8)) :
    segmentsOf (sent.map (segmentBody settings)) = sent.filter (· ≠ []) := by
  have hpayloads : payloadOf ∘ segmentBody settings = some := funext payloadOf_segmentBody
  rw [segmentsOf, List.filterMap_map, hpayloads, List.filterMap_some]

/-- Of the frames on a line the receiver passes on those it has room for. -/
theorem segmentsOf_flatMap_kissEncode (limit : ℕ) (hport : commandByte settings.kissPort ≠ fend)
    {sent : List (List UInt8)} (hne : ∀ data ∈ sent, data ≠ []) :
    segmentsOf (framesWithin limit fend .hunting (sent.flatMap (kissEncode settings))) =
      sent.filter fun data => data.length + data.countP kissStuffing.isSpecial < limit := by
  have hstream : sent.flatMap (kissEncode settings) =
      (sent.map (segmentBody settings)).flatMap (enclose fend) := by
    rw [List.flatMap_map]
    exact List.flatMap_congr fun data _ => kissEncode_eq data
  have hbodies : ∀ body ∈ sent.map (segmentBody settings), Enclosable fend body := by
    intro body hm
    obtain ⟨data, -, rfl⟩ := List.mem_map.mp hm
    exact enclosable_segmentBody hport data
  have hfits : ∀ data ∈ sent, decide ((segmentBody settings data).length ≤ limit) =
      decide (data.length + data.countP kissStuffing.isSpecial < limit) := by
    intro data _
    rw [length_segmentBody]
    exact decide_eq_decide.mpr Nat.succ_le_iff
  rw [hstream, framesWithin_flatMap_enclose limit hbodies rfl, List.filter_map]
  simp only [Function.comp_def]
  rw [List.filter_congr hfits, segmentsOf_map_segmentBody]
  refine List.filter_eq_self.mpr fun data hm => ?_
  simpa using hne data (List.mem_of_mem_filter hm)

/-- What the peer passes on of a sequence of calls: the completed segments whose
frames it has room for. -/
theorem received_of_sendAll (plugin : KissClaPlugin) (hcallback : plugin.onIngressSegment = true)
    (hport : commandByte settings.kissPort ≠ fend) {calls : List SendCall}
    (hne : ∀ call ∈ calls, call.data ≠ []) (hwhole : ∀ call ∈ calls, call.Undivided)
    {its : List Iteration}
    (hits : byteStream plugin .start its = (SegmentSender.start.sendAll settings calls).written) :
    (run (ReceiveLoop.iterate plugin) .start its).ingressSegments =
      (SegmentSender.start.completed settings calls).filter fun data =>
        data.length + data.countP kissStuffing.isSpecial < plugin.maxFrameSize := by
  have hsent : ∀ data ∈ SegmentSender.start.completed settings calls, data ≠ [] := by
    intro data hm
    obtain ⟨call, hc, hdata⟩ := exists_call_of_mem_completed hm
    rw [← hdata]
    exact hne call hc
  have hwritten := sendAll_written settings .start hwhole
  rw [received_eq plugin hcallback hits, hwritten]
  exact segmentsOf_flatMap_kissEncode _ hport hsent

/-- With the default limits and port 0 a peer receives all that was completely
sent if and only if no segment has so many special bytes that its frame
outgrows the peer's buffer. -/
theorem segments_received_iff (devicePath peerPath : GoString)
    (baudRate peerRate retryIntervalSec peerInterval : Int32) (calls : List SendCall)
    (hne : ∀ call ∈ calls, call.data ≠ []) (hwhole : ∀ call ∈ calls, call.Undivided) :
    let settings := (init devicePath baudRate 0 1600 1500 retryIntervalSec).1
    let peer := (init peerPath peerRate 0 1600 1500 peerInterval).1.receiving
    (∀ its, byteStream peer .start its = (SegmentSender.start.sendAll settings calls).written →
        (run (ReceiveLoop.iterate peer) .start its).ingressSegments =
          SegmentSender.start.completed settings calls) ↔
      ∀ data ∈ SegmentSender.start.completed settings calls,
        data.length + data.countP kissStuffing.isSpecial ≤ 1599 := by
  intro settings peer
  have hport : commandByte settings.kissPort ≠ fend := by
    have hzero : settings.kissPort = 0 := rfl
    rw [Ne, commandByte_eq_fend_iff, hzero]
    decide
  have hreceived : ∀ its, byteStream peer .start its =
      (SegmentSender.start.sendAll settings calls).written →
        (run (ReceiveLoop.iterate peer) .start its).ingressSegments =
          (SegmentSender.start.completed settings calls).filter fun data =>
            data.length + data.countP kissStuffing.isSpecial < 1600 :=
    fun its hits => received_of_sendAll peer rfl hport hne hwhole hits
  constructor
  · intro hall data hm
    have hbytes := byteStream_bytes peer (SegmentSender.start.sendAll settings calls).written .start
    have hself := (hreceived _ hbytes).symm.trans (hall _ hbytes)
    have hfits := List.filter_eq_self.mp hself data hm
    simp only [decide_eq_true_eq] at hfits
    omega
  · intro hall its hits
    rw [hreceived its hits]
    refine List.filter_eq_self.mpr fun data hm => ?_
    have hfits := hall data hm
    simp only [decide_eq_true_eq]
    omega

/-- A segment that the port takes whole. -/
def SendCall.whole (data : List UInt8) : SendCall := ⟨data, true, some⟩

theorem undivided_of_mem_map_whole {sent : List (List UInt8)} :
    ∀ call ∈ sent.map SendCall.whole, call.Undivided := by
  intro call hm size n htaken
  obtain ⟨data, -, rfl⟩ := List.mem_map.mp hm
  exact Or.inr (Option.some.inj htaken).symm

theorem data_ne_nil_of_mem_map_whole {sent : List (List UInt8)} (hne : [] ∉ sent) :
    ∀ call ∈ sent.map SendCall.whole, call.data ≠ [] := by
  intro call hm hnil
  obtain ⟨data, hdata, rfl⟩ := List.mem_map.mp hm
  exact hne (hnil ▸ hdata)

/-- Two segments with special bytes, received one after the other. -/
theorem segments_received_iff_two :
    let settings := (init (ascii "/dev/ttyUSB0") 9600 0 1600 1500 5).1
    let calls := [[0xC0, 0x41], [0xDB]].map SendCall.whole
    ∀ its, byteStream settings.receiving .start its =
        (SegmentSender.start.sendAll settings calls).written →
      (run (ReceiveLoop.iterate settings.receiving) .start its).ingressSegments =
        SegmentSender.start.completed settings calls := by
  intro settings calls
  have hiff := segments_received_iff (ascii "/dev/ttyUSB0") (ascii "/dev/ttyUSB0") 9600 9600 5 5
    calls (data_ne_nil_of_mem_map_whole (by decide)) undivided_of_mem_map_whole
  exact hiff.mpr (by decide)

theorem completed_whole {data : List UInt8} (hlen : data.length ≤ settings.ltpMtu) :
    SegmentSender.start.completed settings ([data].map SendCall.whole) = [data] := by
  have hshort : ¬data.length > settings.ltpMtu := by omega
  simp [SegmentSender.completed, SegmentSender.sendSegment, SendCall.whole, hshort]

/-- A run of delimiters is dropped once it fills half the peer's buffer. -/
theorem delimiters_outgrow_buffer {n : ℕ} (hpos : 0 < n) (hsent : n ≤ settings.ltpMtu)
    (hport : commandByte settings.kissPort ≠ fend) (plugin : KissClaPlugin)
    (hcallback : plugin.onIngressSegment = true) (hfull : plugin.maxFrameSize ≤ n + n)
    {its : List Iteration}
    (hits : byteStream plugin .start its = (SegmentSender.start.sendAll settings
      ([List.replicate n fend].map SendCall.whole)).written) :
    (run (ReceiveLoop.iterate plugin) .start its).ingressSegments = [] := by
  have hne : ([] : List UInt8) ∉ [List.replicate n fend] := by
    rw [List.mem_singleton, eq_comm, List.replicate_eq_nil_iff]
    omega
  have hspecial : (List.replicate n fend).countP kissStuffing.isSpecial = n := by
    rw [List.countP_replicate]
    exact if_pos (by decide)
  have hlen : (List.replicate n fend).length = n := List.length_replicate
  have hreceived := received_of_sendAll plugin hcallback hport
    (data_ne_nil_of_mem_map_whole hne) undivided_of_mem_map_whole hits
  rw [completed_whole (by omega), List.filter_cons_of_neg
    (by simp only [hlen, hspecial, decide_eq_true_eq]; omega)] at hreceived
  exact hreceived

/-- A segment of 800 delimiters, about half of what may be sent, is sent
completely and never received. -/
theorem special_bytes_outgrow_buffer :
    let settings := (init (ascii "/dev/ttyUSB0") 9600 0 1600 1500 5).1
    let calls := [List.replicate 800 fend].map SendCall.whole
    let stream := (SegmentSender.start.sendAll settings calls).written
    let its := stream.map fun b => ⟨true, .byte b⟩
    SegmentSender.start.completed settings calls = [List.replicate 800 fend] ∧
      byteStream settings.receiving .start its = stream ∧
      (run (ReceiveLoop.iterate settings.receiving) .start its).ingressSegments = [] := by
  intro settings calls stream its
  have hbytes : byteStream settings.receiving .start its = stream :=
    byteStream_bytes settings.receiving stream .start
  have hlen : (List.replicate 800 fend).length = 800 := List.length_replicate
  have hmtu : settings.ltpMtu = 1500 := rfl
  have hlimit : settings.receiving.maxFrameSize = 1600 := rfl
  exact ⟨completed_whole (by omega), hbytes, delimiters_outgrow_buffer (by omega) (by omega)
    (by decide) settings.receiving rfl (by omega) hbytes⟩

end sequences

end CislunarDtn.KissSegments
