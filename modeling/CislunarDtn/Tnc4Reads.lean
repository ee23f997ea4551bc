import CislunarDtn.LabelledRuns
import CislunarDtn.Tnc4Frames
import Mathlib.Data.List.ReduceOption

/-!
# Reads of the TNC4 adapter

A read of the serial port takes one byte, times out or fails; a time-out is no
error, and both loops of the reader go on after it. A call of RecvBundle holds
the adapter's lock until the reader has returned. Over a port that falls silent
after some bytes the reader returns only with a frame, and so the call ends
exactly when the bytes hold one.
-/

namespace CislunarDtn.Tnc4Reads

open Bundles KissFrames LabelledRuns Tnc4Frames

/-- What one read into a buffer of one byte returns. -/
inductive ReadResult where
  /-- One byte. -/
  | byte (b : UInt8)
  /-- No byte and no error: the read timeout has passed. -/
  | timeout
  /-- An error. -/
  | failed (err : GoError)
  deriving DecidableEq

/-- Where the reader of a frame stands. -/
inductive FrameReader where
  /-- In the loop that waits for the start delimiter. -/
  | waiting
  /-- In the loop that reads until the end delimiter. -/
  | reading (frame : List UInt8)
  /-- It has returned. -/
  | returned (result : Except GoError (List UInt8))
  deriving DecidableEq

/-- One read of the reader, and what the loop does with it. -/
def FrameReader.read : FrameReader → ReadResult → FrameReader
  | .waiting, .byte b => if b = fend then .reading [b] else .waiting
  | .waiting, .timeout => .waiting
  | .waiting, .failed err => .returned (.error err)
  | .reading frame, .byte b =>
    let frame := frame ++ [b]
    if b = fend ∧ frame.length > 2 then .returned (.ok frame) else .reading frame
  | .reading frame, .timeout => .reading frame
  | .reading _, .failed err => .returned (.error err)
  | .returned result, _ => .returned result

/-- Current status of an adapter. -/
inductive CLAStatus where
  /-- Nothing is going on. -/
  | idle
  /-- A bundle is being sent. -/
  | transmitting
  /-- A bundle is being received. -/
  | receiving
  /-- Sending has failed. -/
  | error
  deriving DecidableEq

/-- The adapter as far as reception uses it. -/
structure TNC4CLA where
  /-- Whether the link is open. -/
  isOpen : Bool
  /-- Current status. -/
  status : CLAStatus
  /-- Bytes transferred so far. -/
  bytesTransferred : Int64
  /-- Whether a call holds the lock. -/
  locked : Bool
  deriving DecidableEq

/-- Payload of the bundle in the data; the other fields of that bundle are
fixed or read from the clock. -/
def deserializeBundle (data : List UInt8) : Except GoError (List UInt8) :=
  if data.length < 10 then .error (.errorf (ascii "data too short")) else .ok data

/-- Where a call of RecvBundle stands. -/
inductive RecvStage where
  /-- In the reader of a frame. -/
  | reading (reader : FrameReader)
  /-- It has returned the payload of a bundle or an error. -/
  | returned (result : Except GoError (List UInt8))

/-- The adapter and a call of RecvBundle. -/
structure RecvCall where
  /-- The adapter. -/
  cla : TNC4CLA
  /-- The call. -/
  stage : RecvStage

/-- The call takes the lock; on an open link it starts to read. -/
def RecvCall.start (t : TNC4CLA) : RecvCall :=
  if t.isOpen then
    ⟨{ t with locked := true, status := .receiving }, .reading .waiting⟩
  else ⟨{ t with locked := false }, .returned (.error (.errorf (ascii "link not open")))⟩

/-- What the call does when the reader has returned. -/
def TNC4CLA.finish (t : TNC4CLA) : Except GoError (List UInt8) → RecvCall
  | .error err =>
    ⟨{ t with locked := false, status := .idle },
      .returned (.error (.wrap "failed to read KISS frame" err))⟩
  | .ok kissFrame =>
    match deserializeBundle (decodeKISS kissFrame) with
    | .error err =>
      ⟨{ t with locked := false, status := .idle },
        .returned (.error (.wrap "failed to deserialize bundle" err))⟩
    | .ok bundle =>
      ⟨{ t with
          locked := false
          status := .idle
          bytesTransferred := t.bytesTransferred + Int64.ofNat kissFrame.length },
        .returned (.ok bundle)⟩

/-- One read of a call of RecvBundle. -/
def RecvCall.read (c : RecvCall) (r : ReadResult) : RecvCall :=
  match c.stage with
  | .returned _ => c
  | .reading reader =>
    match reader.read r with
    | .returned result => c.cla.finish result
    | next => { c with stage := .reading next }

/-- Results of the first reads of a port. -/
def firstReads (port : ℕ → ReadResult) (n : ℕ) : List ReadResult := (List.range n).map port

/-- Reader of a frame after so many reads of a port. -/
def readKISSFrame (port : ℕ → ReadResult) (n : ℕ) : FrameReader :=
  run FrameReader.read .waiting (firstReads port n)

/-- A call of RecvBundle after so many reads of a port. -/
def recvBundle (t : TNC4CLA) (port : ℕ → ReadResult) (n : ℕ) : RecvCall :=
  run RecvCall.read (.start t) (firstReads port n)

/-- What a byte, or none before the timeout, is as a read. -/
def arrival : Option UInt8 → ReadResult
  | some b => .byte b
  | none => .timeout

/-- A port that delivers bytes with time-outs between them, and from then on
only times out. -/
def fallingSilent (arrivals : List (Option UInt8)) (i : ℕ) : ReadResult :=
  arrival arrivals[i]?.join

/-- Two delimiters with a byte between them. -/
def HoldsFrame (bytes : List UInt8) : Prop :=
  ∃ i j, i + 2 ≤ j ∧ bytes[i]? = some fend ∧ bytes[j]? = some fend

section reader

/-- What the reader has returned it keeps. -/
theorem run_returned (result : Except GoError (List UInt8)) (reads : List ReadResult) :
    run FrameReader.read (.returned result) reads = .returned result := by
  induction reads with
  | nil => rfl
  | cons r reads ih =>
    rw [run_cons, FrameReader.read]
    exact ih

theorem read_timeout (reader : FrameReader) : reader.read .timeout = reader := by
  cases reader <;> rfl

/-- Time-outs change nothing. -/
theorem run_arrivals (reader : FrameReader) (arrivals : List (Option UInt8)) :
    run FrameReader.read reader (arrivals.map arrival) =
      run FrameReader.read reader (arrivals.reduceOption.map .byte) := by
  induction arrivals generalizing reader with
  | nil => rfl
  | cons a arrivals ih =>
    cases a with
    | none =>
      rw [List.map_cons, run_cons, arrival, read_timeout, List.reduceOption_cons_of_none]
      exact ih reader
    | some b =>
      rw [List.map_cons, run_cons, List.reduceOption_cons_of_some, List.map_cons, run_cons]
      exact ih _

theorem run_timeouts (reader : FrameReader) (n : ℕ) :
    run FrameReader.read reader (List.replicate n .timeout) = reader := by
  induction n with
  | zero => rfl
  | succ n ih => rw [List.replicate_succ, run_cons, read_timeout, ih]

/-- The second loop ends with the frame that the bytes close, if they close one. -/
theorem run_reading (frame bytes : List UInt8) :
    match readToEnd frame bytes with
    | some (whole, _) =>
      run FrameReader.read (.reading frame) (bytes.map .byte) = .returned (.ok whole)
    | none =>
      ∃ longer, run FrameReader.read (.reading frame) (bytes.map .byte) = .reading longer := by
  induction bytes generalizing frame with
  | nil => exact ⟨frame, rfl⟩
  | cons b bytes ih =>
    rw [readToEnd, List.map_cons, run_cons, FrameReader.read]
    by_cases hclose : b = fend ∧ (frame ++ [b]).length > 2
    · rw [if_pos hclose, if_pos hclose]
      exact run_returned _ _
    · rw [if_neg hclose, if_neg hclose]
      exact ih _

/-- The first delimiter opens the frame. -/
theorem readKISSFrame_fend_cons (bytes : List UInt8) :
    Tnc4Frames.readKISSFrame (fend :: bytes) = readToEnd [fend] bytes := by
  simp [Tnc4Frames.readKISSFrame, Tnc4Frames.awaitStart]

/-- What stands before it is skipped. -/
theorem readKISSFrame_cons_of_ne {b : UInt8} (hb : b ≠ fend) (bytes : List UInt8) :
    Tnc4Frames.readKISSFrame (b :: bytes) = Tnc4Frames.readKISSFrame bytes := by
  simp [Tnc4Frames.readKISSFrame, Tnc4Frames.awaitStart, hb]

/-- The reader on bytes: it has returned the first frame, or it still reads. -/
theorem run_waiting (bytes : List UInt8) :
    match Tnc4Frames.readKISSFrame bytes with
    | some (whole, _) => run FrameReader.read .waiting (bytes.map .byte) = .returned (.ok whole)
    | none => ∀ result, run FrameReader.read .waiting (bytes.map .byte) ≠ .returned result := by
  induction bytes with
  | nil => exact fun result h => by cases h
  | cons b bytes ih =>
    rw [List.map_cons, run_cons, FrameReader.read]
    by_cases hb : b = fend
    · have hreading := run_reading [fend] bytes
      rw [if_pos hb, hb, readKISSFrame_fend_cons]
      cases hread : readToEnd [fend] bytes with
      | none =>
        rw [hread] at hreading
        obtain ⟨longer, hlonger⟩ := hreading
        intro result h
        rw [hlonger] at h
        cases h
      | some whole =>
        rw [hread] at hreading
        exact hreading
    · rw [readKISSFrame_cons_of_ne hb, if_neg hb]
      exact ih

theorem isSome_readToEnd_iff {frame : List UInt8} (hlen : 2 ≤ frame.length)
    (bytes : List UInt8) : (readToEnd frame bytes).isSome = true ↔ fend ∈ bytes := by
  rcases split_first bytes with hfree | ⟨before, rest, rfl, hfree⟩
  · simp [readToEnd_of_notMem frame hfree, hfree]
  · simp [readToEnd_append frame hlen hfree]

theorem holdsFrame_cons {b : UInt8} (hb : b ≠ fend) (bytes : List UInt8) :
    HoldsFrame (b :: bytes) ↔ HoldsFrame bytes := by
  constructor
  · rintro ⟨i, j, hij, hi, hj⟩
    cases i with
    | zero => simp [hb] at hi
    | succ i =>
      obtain ⟨j, rfl⟩ : ∃ k, j = k + 1 := ⟨j - 1, by omega⟩
      exact ⟨i, j, by omega, by simpa using hi, by simpa using hj⟩
  · rintro ⟨i, j, hij, hi, hj⟩
    exact ⟨i + 1, j + 1, by omega, by simpa using hi, by simpa using hj⟩

/-- After the first delimiter any later one closes a frame, but for the next byte. -/
theorem holdsFrame_fend_cons (b : UInt8) (bytes : List UInt8) :
    HoldsFrame (fend :: b :: bytes) ↔ fend ∈ bytes := by
  constructor
  · rintro ⟨i, j, hij, -, hj⟩
    obtain ⟨j, rfl⟩ : ∃ k, j = k + 2 := ⟨j - 2, by omega⟩
    exact List.mem_of_getElem? (by simpa using hj)
  · intro hm
    obtain ⟨j, hj⟩ := List.mem_iff_getElem?.mp hm
    exact ⟨0, j + 2, by omega, rfl, by simpa using hj⟩

theorem isSome_readKISSFrame_iff (bytes : List UInt8) :
    (Tnc4Frames.readKISSFrame bytes).isSome = true ↔ HoldsFrame bytes := by
  induction bytes with
  | nil => simp [Tnc4Frames.readKISSFrame, Tnc4Frames.awaitStart, HoldsFrame]
  | cons b bytes ih =>
    by_cases hb : b = fend
    · rw [hb, readKISSFrame_fend_cons]
      cases bytes with
      | nil =>
        have hshort : ¬HoldsFrame [fend] := by
          rintro ⟨i, j, hij, -, hj⟩
          have := (List.getElem?_eq_some_iff.mp hj).1
          simp only [List.length_singleton] at this
          omega
        simp [readToEnd, hshort]
      | cons c bytes =>
        rw [readToEnd_second, holdsFrame_fend_cons]
        exact isSome_readToEnd_iff (by simp) bytes
    · rw [readKISSFrame_cons_of_ne hb, holdsFrame_cons hb]
      exact ih

theorem firstReads_fallingSilent (arrivals : List (Option UInt8)) (extra : ℕ) :
    firstReads (fallingSilent arrivals) (arrivals.length + extra) =
      arrivals.map arrival ++ List.replicate extra .timeout := by
  apply List.ext_getElem?
  intro i
  rw [firstReads, List.getElem?_map]
  by_cases hi : i < arrivals.length
  · rw [List.getElem?_append_left (by simpa using hi), List.getElem?_map,
      List.getElem?_range (by omega), Option.map_some, fallingSilent,
      List.getElem?_eq_getElem hi]
    rfl
  · rw [List.getElem?_append_right (by simpa using hi), List.length_map]
    by_cases hend : i < arrivals.length + extra
    · rw [List.getElem?_range hend, List.getElem?_replicate_of_lt (by omega), Option.map_some,
        fallingSilent, List.getElem?_eq_none (by omega)]
      rfl
    · rw [List.getElem?_eq_none (by simp only [List.length_range]; omega),
        List.getElem?_eq_none (by simp only [List.length_replicate]; omega)]
      rfl

theorem readKISSFrame_add (port : ℕ → ReadResult) (n extra : ℕ) :
    readKISSFrame port (n + extra) =
      run FrameReader.read (readKISSFrame port n)
        ((List.range extra).map fun i => port (n + i)) := by
  rw [readKISSFrame, firstReads, List.range_add, List.map_append, run_append, List.map_map]
  rfl

/-- Over a port that falls silent the reader returns exactly when the bytes
delivered hold a frame. -/
theorem returned_iff (arrivals : List (Option UInt8)) :
    (∃ n result, readKISSFrame (fallingSilent arrivals) n = .returned result) ↔
      HoldsFrame arrivals.reduceOption := by
  have hlast : ∀ extra, readKISSFrame (fallingSilent arrivals) (arrivals.length + extra) =
      run FrameReader.read .waiting (arrivals.reduceOption.map .byte) := by
    intro extra
    rw [readKISSFrame, firstReads_fallingSilent, run_append, run_timeouts, run_arrivals]
  have hbytes := run_waiting arrivals.reduceOption
  have hiff := isSome_readKISSFrame_iff arrivals.reduceOption
  cases hframe : Tnc4Frames.readKISSFrame arrivals.reduceOption with
  | some found =>
    rw [hframe] at hbytes hiff
    have hholds : HoldsFrame arrivals.reduceOption := hiff.mp rfl
    have hreturned : readKISSFrame (fallingSilent arrivals) arrivals.length =
        .returned (.ok found.1) := (hlast 0).trans hbytes
    exact ⟨fun _ => hholds, fun _ => ⟨_, _, hreturned⟩⟩
  | none =>
    rw [hframe] at hbytes hiff
    have hholds : ¬HoldsFrame arrivals.reduceOption := fun h => by simpa using hiff.mpr h
    refine ⟨?_, fun h => absurd h hholds⟩
    rintro ⟨n, result, hn⟩
    -- a reader that had returned earlier would still have returned after all bytes
    have hlater : readKISSFrame (fallingSilent arrivals) (n + arrivals.length) =
        .returned result := by
      rw [readKISSFrame_add, hn, run_returned]
    rw [Nat.add_comm, hlast n] at hlater
    exact absurd hlater (hbytes result)

end reader

section call

theorem finish_spec (t : TNC4CLA) (result : Except GoError (List UInt8)) :
    (t.finish result).cla.locked = false ∧
      ∃ outcome, (t.finish result).stage = .returned outcome := by
  cases result with
  | error err => exact ⟨rfl, _, rfl⟩
  | ok kissFrame =>
    rw [TNC4CLA.finish]
    split
    · exact ⟨rfl, _, rfl⟩
    · exact ⟨rfl, _, rfl⟩

/-- The call has the lock while its reader reads, and has given it back once
the reader has returned. -/
def Holds (c : RecvCall) (reader : FrameReader) : Prop :=
  (c.stage = .reading reader ∧ c.cla.locked = true ∧ ∀ result, reader ≠ .returned result) ∨
    ((∃ result, reader = .returned result) ∧ c.cla.locked = false ∧
      ∃ outcome, c.stage = .returned outcome)

theorem Holds.read {c : RecvCall} {reader : FrameReader} (h : Holds c reader) (r : ReadResult) :
    Holds (c.read r) (reader.read r) := by
  rcases h with ⟨hstage, hlocked, -⟩ | ⟨⟨result, rfl⟩, hlocked, outcome, hstage⟩
  · cases hnext : reader.read r with
    | waiting =>
      simp only [RecvCall.read, hstage, hnext]
      exact Or.inl ⟨rfl, hlocked, by simp⟩
    | reading frame =>
      simp only [RecvCall.read, hstage, hnext]
      exact Or.inl ⟨rfl, hlocked, by simp⟩
    | returned result =>
      simp only [RecvCall.read, hstage, hnext]
      exact Or.inr ⟨⟨result, rfl⟩, finish_spec c.cla result⟩
  · rw [RecvCall.read, hstage, FrameReader.read]
    exact Or.inr ⟨⟨result, rfl⟩, hlocked, outcome, hstage⟩

theorem Holds.run {c : RecvCall} {reader : FrameReader} (h : Holds c reader)
    (reads : List ReadResult) :
    Holds (run RecvCall.read c reads) (run FrameReader.read reader reads) := by
  induction reads generalizing c reader with
  | nil => exact h
  | cons r reads ih => exact ih (h.read r)

/-- On an open link the call has returned, and given the lock back, exactly
when the reader has returned. -/
theorem recvBundle_returned_iff {t : TNC4CLA} (hopen : t.isOpen = true)
    (port : ℕ → ReadResult) (n : ℕ) :
    ((recvBundle t port n).cla.locked = false ∧
        ∃ outcome, (recvBundle t port n).stage = .returned outcome) ↔
      ∃ result, readKISSFrame port n = .returned result := by
  have hstart : Holds (.start t) .waiting := by
    rw [RecvCall.start, if_pos hopen]
    exact Or.inl ⟨rfl, rfl, by simp⟩
  have hholds : Holds (recvBundle t port n) (readKISSFrame port n) :=
    hstart.run (firstReads port n)
  rcases hholds with ⟨-, hlocked, hreading⟩ | ⟨hreturned, hlocked, houtcome⟩
  · have hnone : ¬∃ result, readKISSFrame port n = .returned result := by
      rintro ⟨result, hresult⟩
      exact hreading result hresult
    simp [hlocked, hnone]
  · exact ⟨fun _ => hreturned, fun _ => ⟨hlocked, houtcome⟩⟩

end call

/-- Over a port that falls silent the reader of frames returns, and a call of
RecvBundle on an open link ends and gives its lock back, if and only if two
delimiters with a byte between them are delivered. -/
theorem recvBundle_ends_iff {t : TNC4CLA} (hopen : t.isOpen = true)
    (arrivals : List (Option UInt8)) :
    ((∃ n result, readKISSFrame (fallingSilent arrivals) n = .returned result) ↔
        HoldsFrame arrivals.reduceOption) ∧
      ((∃ n, (recvBundle t (fallingSilent arrivals) n).cla.locked = false ∧
          ∃ outcome, (recvBundle t (fallingSilent arrivals) n).stage = .returned outcome) ↔
        HoldsFrame arrivals.reduceOption) := by
  refine ⟨returned_iff arrivals, ?_⟩
  rw [← returned_iff arrivals]
  exact exists_congr fun n => recvBundle_returned_iff hopen _ n

/-- An adapter whose link has just been opened. -/
def openedLink : TNC4CLA := ⟨true, .idle, 0, false⟩

theorem recvBundle_ends_silence :
    ¬(∃ n, (recvBundle openedLink (fallingSilent [some 0x41, none]) n).cla.locked = false ∧
        ∃ outcome,
          (recvBundle openedLink (fallingSilent [some 0x41, none]) n).stage =
            .returned outcome) := by
  have hbytes : ¬HoldsFrame [0x41] := by
    rintro ⟨i, j, hij, -, hj⟩
    have := (List.getElem?_eq_some_iff.mp hj).1
    simp only [List.length_singleton] at this
    omega
  exact fun h => hbytes ((recvBundle_ends_iff (t := openedLink) rfl [some 0x41, none]).2.mp h)

/-- No byte ever arrives: neither the reader nor the call returns, and the lock
stays taken. -/
theorem silent_port_never_returns :
    ¬∀ arrivals : List (Option UInt8),
      (∃ n result, readKISSFrame (fallingSilent arrivals) n = .returned result) ∧
        ∃ n, (recvBundle openedLink (fallingSilent arrivals) n).cla.locked = false := by
  intro h
  obtain ⟨-, n, hn⟩ := h []
  have hreads : firstReads (fallingSilent []) n = List.replicate n .timeout := by
    have hfirst := firstReads_fallingSilent [] n
    simpa using hfirst
  have hstep : ∀ m, run RecvCall.read (.start openedLink) (List.replicate m .timeout) =
      .start openedLink := by
    intro m
    induction m with
    | zero => rfl
    | succ m ih => exact ih
  rw [recvBundle, hreads, hstep] at hn
  cases hn

end CislunarDtn.Tnc4Reads
