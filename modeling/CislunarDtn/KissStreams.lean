import CislunarDtn.KissReceivers

/-!
# KISS streams

Payloads that are encoded and sent with any fill between them are read back
exactly; a reader that starts inside other bytes loses no payload but the
first. The plugin's receive loop and the controller's reader obtain the same
segments from the same bytes. A data frame that the reader accepts is the one
encoding of its payload.
-/

namespace CislunarDtn.KissStreams

open Bundles DelimitedFrames StuffedFrames KissFrames KissReceivers LabelledRuns

/-- The stream of payloads encoded one after the other, with so many fill
delimiters before the first and after each. -/
def transmit (lead : ℕ) : List (List UInt8 × ℕ) → Except KissError (List UInt8)
  | [] => .ok (List.replicate lead fend)
  | (data, fill) :: rest => do
    let frame ← encode data
    let stream ← transmit fill rest
    return List.replicate lead fend ++ frame ++ stream

theorem transmit_eq {payloads : List (List UInt8 × ℕ)} (hne : ∀ p ∈ payloads, p.1 ≠ [])
    (lead : ℕ) :
    transmit lead payloads =
      .ok (transmission fend lead (payloads.map fun p => (bodyOf p.1, p.2))) := by
  induction payloads generalizing lead with
  | nil => simp [transmit, transmission]
  | cons p payloads ih =>
    obtain ⟨data, fill⟩ := p
    have hhead : encode data = .ok (enclose fend (bodyOf data)) :=
      encode_eq (hne _ (List.mem_cons_self ..))
    have htail := ih (fun p hm => hne p (List.mem_cons_of_mem _ hm)) fill
    simp only [transmit, hhead, htail, bind, Except.bind, pure, Except.pure]
    simp [transmission]

theorem enclosable_bodies (payloads : List (List UInt8 × ℕ)) :
    ∀ b ∈ payloads.map fun p => (bodyOf p.1, p.2), Enclosable fend b.1 := by
  intro b hb
  obtain ⟨p, -, rfl⟩ := List.mem_map.mp hb
  exact enclosable_bodyOf p.1

theorem filterMap_payloadOf_bodies (payloads : List (List UInt8 × ℕ)) :
    ((payloads.map fun p => (bodyOf p.1, p.2)).map Prod.fst).filterMap payloadOf =
      payloads.map Prod.fst := by
  rw [List.map_map, List.filterMap_map]
  simp [Function.comp_def, payloadOf_bodyOf]

theorem receivedPayloads_append (garbage stream : List UInt8) :
    receivedPayloads (garbage ++ stream) = receivedPayloads garbage ++
      (frames fend (after fend .hunting garbage) stream).filterMap payloadOf := by
  rw [receivedPayloads_eq, frames_append, List.filterMap_append, ← receivedPayloads_eq]

/-- Reading a stream of encoded payloads yields the payloads. After any other
bytes it yields what these bytes hold, at most one payload more in which they
end, and the payloads with at most the first one missing. -/
theorem stream_round_trip (lead : ℕ) (payloads : List (List UInt8 × ℕ))
    (hne : ∀ p ∈ payloads, p.1 ≠ []) :
    ∃ stream, transmit lead payloads = .ok stream ∧
      receivedPayloads stream = payloads.map Prod.fst ∧
      ∀ garbage, ∃ cut, cut.length ≤ 1 ∧
        (receivedPayloads (garbage ++ stream) =
            receivedPayloads garbage ++ cut ++ payloads.map Prod.fst ∨
          receivedPayloads (garbage ++ stream) =
            receivedPayloads garbage ++ cut ++ (payloads.map Prod.fst).tail) := by
  have hbodies := enclosable_bodies payloads
  refine ⟨_, transmit_eq hne lead, ?_, ?_⟩
  · rw [receivedPayloads_eq, (frames_transmission hbodies lead).1, filterMap_payloadOf_bodies]
  · intro garbage
    obtain ⟨cut, hcut, hframes⟩ :=
      frames_transmission_resync hbodies lead (after fend .hunting garbage)
    have hlen : (cut.filterMap payloadOf).length ≤ 1 :=
      (List.length_filterMap_le _ _).trans hcut
    refine ⟨cut.filterMap payloadOf, hlen, ?_⟩
    rw [receivedPayloads_append]
    rcases hframes with hframes | hframes
    · left
      rw [hframes, List.filterMap_append, filterMap_payloadOf_bodies, List.append_assoc]
    · right
      have htail := filterMap_payloadOf_bodies payloads.tail
      rw [hframes, List.filterMap_append, List.append_assoc, ← List.map_tail, ← List.map_tail,
        htail, List.map_tail]

/-- Two payloads with special bytes, the second after three fill delimiters. -/
def specimenPayloads : List (List UInt8 × ℕ) := [([0xC0, 0x41], 3), ([0xDB, 0xDC], 0)]

theorem stream_round_trip_specimen :
    ∃ stream, transmit 1 specimenPayloads = .ok stream ∧
      receivedPayloads stream = [[0xC0, 0x41], [0xDB, 0xDC]] := by
  have hne : ∀ p ∈ specimenPayloads, p.1 ≠ [] := by decide
  obtain ⟨stream, hstream, hreceived, -⟩ := stream_round_trip 1 specimenPayloads hne
  exact ⟨stream, hstream, hreceived⟩

/-- Command byte of a frame, the first one behind its opening delimiters. -/
def commandByte (frame : List UInt8) : Option UInt8 := frame.find? (· ≠ fend)

theorem enclosable_of_read {stream frame rest : List UInt8}
    (h : readKISSFrameFromReader stream = .ok (frame, rest)) :
    ∃ body, frame = enclose fend body ∧ Enclosable fend body := by
  have hspec := readKISSFrameFromReader_spec stream
  simp only [h] at hspec
  obtain ⟨body, hframe, hframes⟩ := hspec
  have hmem : body ∈ frames fend .hunting stream := by simp [hframes]
  exact ⟨body, hframe, enclosable_of_mem_frames (by simp) hmem⟩

theorem commandByte_enclose {x : UInt8} {body : List UInt8}
    (hb : Enclosable fend (x :: body)) : commandByte (enclose fend (x :: body)) = some x := by
  have hx : x ≠ fend := Ne.symm (List.ne_of_not_mem_cons hb.2)
  simp [commandByte, enclose, hx]

/-- The only frame that encodes a payload is the one it was decoded from. -/
theorem encode_of_decode {body data : List UInt8} (hb : Enclosable fend body)
    (hcmd : commandByte (enclose fend body) = some cmdDataFrame) (hne : data ≠ [])
    (h : decode (enclose fend body) = .ok data) :
    encode data = .ok (enclose fend body) := by
  obtain ⟨x, body, rfl⟩ := List.exists_cons_of_ne_nil hb.1
  have hfree : fend ∉ body := List.not_mem_of_not_mem_cons hb.2
  rw [commandByte_enclose hb] at hcmd
  rw [decode_enclose hb, List.tail_cons] at h
  cases hunstuff : kissStuffing.unstuff false body with
  | error e => simp [hunstuff, Except.mapError] at h
  | ok payload =>
    simp only [hunstuff, Except.mapError, Except.ok.injEq] at h
    have hstuff := kissStuffing.stuff_of_unstuff hfree hunstuff
    rw [encode_eq hne, bodyOf, ← h, hstuff, Option.some.inj hcmd]
    rfl

/-- Whatever the stream, decoding the frame read from it stays inside the
frame, a data frame is the encoding of its payload, and no other data frame
that can be read has that payload. -/
theorem read_frame_canonical {stream frame rest : List UInt8}
    (h : readKISSFrameFromReader stream = .ok (frame, rest)) :
    (∀ i n, decode frame ≠ .error (.indexOutOfRange i n)) ∧
      (commandByte frame = some cmdDataFrame → ∀ data, data ≠ [] → decode frame = .ok data →
        encode data = .ok frame ∧
          ∀ stream' frame' rest', readKISSFrameFromReader stream' = .ok (frame', rest') →
            commandByte frame' = some cmdDataFrame → decode frame' = .ok data →
              frame' = frame) := by
  obtain ⟨body, rfl, hb⟩ := enclosable_of_read h
  constructor
  · intro i n hdecode
    rw [decode_enclose hb] at hdecode
    cases hunstuff : kissStuffing.unstuff false body.tail with
    | ok payload => simp [hunstuff, Except.mapError] at hdecode
    | error e => cases e <;> simp [hunstuff, Except.mapError, KissFrames.decodeReports] at hdecode
  · intro hcmd data hne hdecode
    have hencode := encode_of_decode hb hcmd hne hdecode
    refine ⟨hencode, ?_⟩
    intro stream' frame' rest' h' hcmd' hdecode'
    obtain ⟨body', rfl, hb'⟩ := enclosable_of_read h'
    have hencode' := encode_of_decode hb' hcmd' hne hdecode'
    rw [hencode] at hencode'
    exact (Except.ok.inj hencode').symm

/-- A payload of a delimiter and an escape character, read after other bytes. -/
theorem read_frame_canonical_specimen :
    decode [0xC0, 0x00, 0xDB, 0xDC, 0xDB, 0xDD, 0xC0] = .ok [0xC0, 0xDB] ∧
      encode [0xC0, 0xDB] = .ok [0xC0, 0x00, 0xDB, 0xDC, 0xDB, 0xDD, 0xC0] := by
  have hread : readKISSFrameFromReader
      [0x07, 0xC0, 0xC0, 0x00, 0xDB, 0xDC, 0xDB, 0xDD, 0xC0, 0x09] =
        .ok ([0xC0, 0x00, 0xDB, 0xDC, 0xDB, 0xDD, 0xC0], [0x09]) := by rfl
  have hdecode : decode [0xC0, 0x00, 0xDB, 0xDC, 0xDB, 0xDD, 0xC0] = .ok [0xC0, 0xDB] := by rfl
  exact ⟨hdecode, ((read_frame_canonical hread).2 (by decide) _ (by decide) hdecode).1⟩

/-- However the port delivers a stream in which no stretch between delimiters
exceeds the frame size, the plugin passes on the non-empty payloads that the
controller's reader obtains from it. -/
theorem receivers_agree (plugin : KissClaPlugin) (hcallback : plugin.onIngressSegment = true)
    (stream : List UInt8) (hwithin : StretchesWithin plugin.maxFrameSize stream) :
    (∃ its, byteStream plugin .start its = stream) ∧
      ∀ its, byteStream plugin .start its = stream →
        (run (ReceiveLoop.iterate plugin) .start its).ingressSegments =
          (receivedPayloads stream).filter (· ≠ []) := by
  refine ⟨⟨_, byteStream_bytes plugin stream .start⟩, ?_⟩
  rintro its rfl
  have hrun := run_ingressSegments (s := .start) hcallback (by simp [ReceiveLoop.start]) hwithin
  rw [hrun, receivedPayloads_eq]
  rfl

/-- Garbage, a frame with an escaped delimiter, a bad frame and an empty one. -/
def specimenStream : List UInt8 :=
  [0x07, 0xC0, 0x00, 0xDB, 0xDC, 0xC0, 0xC0, 0x00, 0xDB, 0x01, 0xC0, 0xC0, 0x00, 0xC0]

theorem receivers_agree_specimen :
    (receivedPayloads specimenStream).filter (· ≠ []) = [[0xC0]] := by
  have hwithin : StretchesWithin 1600 specimenStream := fun _ hi _ => hi.length_le.trans (by decide)
  have hagree := (receivers_agree ⟨1600, true⟩ rfl specimenStream hwithin).2
    (specimenStream.map fun b => ⟨true, .byte b⟩) (byteStream_bytes _ _ _)
  rw [← hagree]
  decide

end CislunarDtn.KissStreams
