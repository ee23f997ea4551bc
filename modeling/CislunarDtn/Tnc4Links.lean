import CislunarDtn.Tnc4Reads
import Mathlib.Tactic.FinCases

/-!
# Bundles over a pair of TNC4 adapters

One station opens its link, which writes an empty frame, and sends bundles; the
other one calls RecvBundle again and again over the bytes that come through the
line, one at a time and with time-outs in between. The bundles arrive in order,
each as the serialised form of what was sent.
-/

namespace CislunarDtn.Tnc4Links

open Bundles StuffedFrames KissFrames Tnc4Frames Tnc4Reads LabelledRuns

/-- What one write to the serial port returns. -/
structure WriteResult where
  /-- Number of bytes taken, as far as there are so many. -/
  taken : ℕ
  /-- The error, if there is one. -/
  err : Option GoError

/-- A data frame of the adapter. -/
def encodeKISS (data : List UInt8) : List UInt8 :=
  data.foldl appendEscaped [fend, cmdDataFrame] ++ [fend]

/-- What is written to enter KISS mode. -/
def initSeq : List UInt8 := [fend, cmdDataFrame, fend]

/-- The adapter's serialised form of a bundle. -/
def serializeBundle (bundle : Bundle) : List UInt8 :=
  bundle.id.sourceEID.string ++ [0] ++ bundle.destination.string ++ [0] ++ bundle.payload.bytes

/-- Open, given whether the port opens and how the write of the initial
sequence ends: the adapter, the bytes on the line and the error. -/
def openLink (devicePath : GoString) (t : TNC4CLA) (portError : Option GoError)
    (init : WriteResult) : TNC4CLA × List UInt8 × Option GoError :=
  if t.isOpen then (t, [], some (.errorf (ascii "link already open")))
  else
    match portError with
    | some err =>
      (t, [], some (.errorf (ascii "failed to open serial port " ++ devicePath ++ ascii ": " ++
        err.text)))
    | none =>
      match init.err with
      | some err =>
        ({ t with status := .idle }, initSeq.take init.taken,
          some (err.wrap "failed to initialize KISS mode"))
      | none => ({ t with isOpen := true, status := .idle }, initSeq.take init.taken, none)

/-- Close, given the error of the port's Close. -/
def close (t : TNC4CLA) (portError : Option GoError) : TNC4CLA × Option GoError :=
  if t.isOpen = false then (t, some (.errorf (ascii "link not open")))
  else
    match portError with
    | some err => (t, some (err.wrap "failed to close serial port"))
    | none => ({ t with isOpen := false, status := .idle }, none)

/-- SendBundle, given how the write ends. -/
def sendBundle (t : TNC4CLA) (bundle : Bundle) (write : WriteResult) :
    TNC4CLA × List UInt8 × Option GoError :=
  if t.isOpen = false then (t, [], some (.errorf (ascii "link not open")))
  else
    let taken := (encodeKISS (serializeBundle bundle)).take write.taken
    match write.err with
    | some err =>
      ({ t with status := .error }, taken, some (err.wrap "failed to write to serial port"))
    | none =>
      let n := Int64.ofNat taken.length
      ({ t with status := .idle, bytesTransferred := t.bytesTransferred + n }, taken, none)

/-- What a frame carries: a bundle, or nothing for the initial sequence. -/
def dataOf : Option Bundle → List UInt8
  | some bundle => serializeBundle bundle
  | none => []

/-- What RecvBundle makes of a frame with this data. -/
def outcomeOf (data : List UInt8) : Except GoError (List UInt8) :=
  match deserializeBundle data with
  | .error err => .error (.wrap "failed to deserialize bundle" err)
  | .ok bundle => .ok bundle

/-- Both stations and the line between them. -/
structure Tnc4Link where
  /-- The sending adapter. -/
  sender : TNC4CLA
  /-- The receiving adapter. -/
  receiver : TNC4CLA
  /-- The call of RecvBundle in progress. -/
  call : Option RecvCall
  /-- Bytes on their way. -/
  line : List UInt8
  /-- What the frames of the successful writes carry, in order. -/
  sent : List (Option Bundle)
  /-- What RecvBundle has returned, in order. -/
  outcomes : List (Except GoError (List UInt8))

/-- Before the sender opens its link. The receiver's is open. -/
def Tnc4Link.start : Tnc4Link :=
  ⟨⟨false, .idle, 0, false⟩, ⟨true, .idle, 0, false⟩, none, [], [], []⟩

/-- What can happen next. -/
inductive LinkEvent where
  /-- The sender opens its link. -/
  | openLink (devicePath : GoString) (portError : Option GoError) (init : WriteResult)
  /-- The sender closes its link. -/
  | close (portError : Option GoError)
  /-- The sender sends a bundle. -/
  | send (bundle : Bundle) (write : WriteResult)
  /-- The receiver calls RecvBundle. -/
  | recv
  /-- The receiver's read takes the next byte of the line, or times out. -/
  | read
  /-- The receiver's read times out. -/
  | timeout

namespace Tnc4Link

/-- The call in progress makes a read. -/
def readWith (s : Tnc4Link) (r : ReadResult) : Tnc4Link :=
  match s.call with
  | none => s
  | some c =>
    match (c.read r).stage with
    | .reading _ => { s with call := some (c.read r) }
    | .returned result =>
      { s with
        receiver := (c.read r).cla
        call := none
        outcomes := s.outcomes ++ [result] }

/-- One step of either station. -/
def step (s : Tnc4Link) : LinkEvent → Tnc4Link
  | .openLink devicePath portError init =>
    let opened := Tnc4Links.openLink devicePath s.sender portError init
    { s with
      sender := opened.1
      line := s.line ++ opened.2.1
      sent := s.sent ++ if opened.2.2 = none then [none] else [] }
  | .close portError => { s with sender := (Tnc4Links.close s.sender portError).1 }
  | .send bundle write =>
    let result := sendBundle s.sender bundle write
    { s with
      sender := result.1
      line := s.line ++ result.2.1
      sent := s.sent ++ if result.2.2 = none then [some bundle] else [] }
  | .recv =>
    match s.call with
    | some _ => s
    | none => { s with call := some (.start s.receiver) }
  | .read =>
    match s.call, s.line with
    | some _, b :: rest => { s with line := rest }.readWith (.byte b)
    | _, _ => s.readWith .timeout
  | .timeout => s.readWith .timeout

end Tnc4Link

/-- A write is taken as a whole or, with an error, not at all. -/
def WriteResult.Undivided (frame : List UInt8) (write : WriteResult) : Prop :=
  match write.err with
  | none => frame.length ≤ write.taken
  | some _ => write.taken = 0

/-- No event leaves part of a frame on the line. -/
def Undivided (_ : Tnc4Link) : LinkEvent → Prop
  | .openLink _ _ init => init.Undivided initSeq
  | .send bundle write => write.Undivided (encodeKISS (serializeBundle bundle))
  | _ => True

section frames

theorem encodeKISS_eq (data : List UInt8) :
    encodeKISS data = fend :: cmdDataFrame :: (kissStuffing.stuff data ++ [fend]) := by
  rw [encodeKISS, foldl_appendEscaped]
  rfl

theorem initSeq_eq : initSeq = encodeKISS [] := rfl

/-- The adapter's decoder undoes its encoder. -/
theorem decodeKISS_encodeKISS (data : List UInt8) : decodeKISS (encodeKISS data) = data := by
  have hround := unstuff_toOption (kissStuffing.stuff data) false
  rw [kissStuffing.unstuff_stuff] at hround
  rw [encodeKISS_eq, decodeKISS_enclosed]
  split at hround
  · exact (Option.some.inj hround).symm
  · cases hround

/-- Where a reader stands that has taken a part of a frame. -/
def readerAt (part : List UInt8) : FrameReader := if part = [] then .waiting else .reading part

/-- The reader goes on until it has the whole frame, and then returns it. -/
theorem read_part {data part : List UInt8} {b : UInt8}
    (hpart : part ++ [b] <+: encodeKISS data) :
    (readerAt part).read (.byte b) =
      if part ++ [b] = encodeKISS data then .returned (.ok (encodeKISS data))
      else readerAt (part ++ [b]) := by
  have hfree : fend ∉ kissStuffing.stuff data := kissStuffing.delimiter_notMem_stuff data
  have hnext : readerAt (part ++ [b]) = .reading (part ++ [b]) := if_neg (by simp)
  rw [hnext]
  rw [encodeKISS_eq] at hpart ⊢
  match part with
  | [] =>
    have hb : b = fend := by simpa using hpart
    simp [readerAt, FrameReader.read, hb]
  | [x] =>
    obtain ⟨hx, hb⟩ : x = fend ∧ b = cmdDataFrame := by simpa using hpart
    simp [readerAt, FrameReader.read, hx, hb]
  | x :: y :: part =>
    obtain ⟨rfl, rfl, hrest⟩ : x = fend ∧ y = cmdDataFrame ∧
        part ++ [b] <+: kissStuffing.stuff data ++ [fend] := by simpa using hpart
    have hread : (readerAt (fend :: cmdDataFrame :: part)).read (.byte b) =
        if b = fend then .returned (.ok (fend :: cmdDataFrame :: (part ++ [b])))
        else .reading (fend :: cmdDataFrame :: (part ++ [b])) := by
      simp [readerAt, FrameReader.read]
    rw [hread]
    rcases List.prefix_concat_iff.mp hrest with hwhole | hinner
    · have hb : b = fend := (List.append_inj' hwhole rfl).2 |> List.singleton_inj.mp
      rw [if_pos hb, List.cons_append, List.cons_append, hwhole, if_pos rfl]
    · have hmem : b ∈ kissStuffing.stuff data := hinner.subset (by simp)
      have hb : b ≠ fend := fun h => hfree (h ▸ hmem)
      have hshort : part ++ [b] ≠ kissStuffing.stuff data ++ [fend] := by
        intro heq
        exact hb (List.singleton_inj.mp (List.append_inj' heq rfl).2)
      rw [if_neg hb, List.cons_append, List.cons_append, if_neg (by simpa using hshort)]

end frames

/-- The bytes the call in progress has taken of a frame. -/
def held (s : Tnc4Link) : List UInt8 :=
  match s.call.map RecvCall.stage with
  | some (.reading (.reading frame)) => frame
  | _ => []

/-- Of the frames that were written whole, some have been received and returned,
and the bytes of the others are in the hands of the call in progress and on the
line. -/
structure Orderly (s : Tnc4Link) : Prop where
  /-- Frames received and frames underway. -/
  frames : ∃ rest, s.sent.map (fun item => outcomeOf (dataOf item)) =
      s.outcomes ++ rest.map outcomeOf ∧
    held s ++ s.line = rest.flatMap encodeKISS ∧
    ∀ data later, rest = data :: later → (held s).length < (encodeKISS data).length
  /-- The call in progress reads a frame. -/
  reading : ∀ c, s.call = some c → c.stage = .reading (readerAt (held s))
  /-- The receiver's link is open. -/
  isOpen : s.receiver.isOpen = true
  /-- So it is for the call. -/
  callOpen : ∀ c, s.call = some c → c.cla.isOpen = true

section steps

variable {s : Tnc4Link}

theorem held_eq_nil (h : s.call = none) : held s = [] := by
  rw [held, h]
  rfl

theorem outcomeOf_finish (t : TNC4CLA) (data : List UInt8) :
    (t.finish (.ok (encodeKISS data))).stage = .returned (outcomeOf data) ∧
      (t.finish (.ok (encodeKISS data))).cla.isOpen = t.isOpen := by
  simp only [TNC4CLA.finish, decodeKISS_encodeKISS, outcomeOf]
  cases deserializeBundle data with
  | error err => exact ⟨rfl, rfl⟩
  | ok bundle => exact ⟨rfl, rfl⟩

/-- Whole frames that are written join those underway. -/
theorem Orderly.written {s' : Tnc4Link} (h : Orderly s) (items : List (Option Bundle))
    (hcall : s'.call = s.call) (hreceiver : s'.receiver = s.receiver)
    (houtcomes : s'.outcomes = s.outcomes) (hsent : s'.sent = s.sent ++ items)
    (hline : s'.line = s.line ++ items.flatMap fun item => encodeKISS (dataOf item)) :
    Orderly s' := by
  obtain ⟨⟨rest, hmatched, hbytes, hpart⟩, hreading, hopen, hcallOpen⟩ := h
  have hheld : held s' = held s := by rw [held, held, hcall]
  refine ⟨⟨rest ++ items.map dataOf, ?_, ?_, ?_⟩, ?_, ?_, ?_⟩
  · rw [hsent, houtcomes, List.map_append, hmatched, List.append_assoc, List.map_append,
      List.map_map]
    rfl
  · rw [hheld, hline, ← List.append_assoc, hbytes, List.flatMap_append, List.flatMap_map]
  · intro data later hsplit
    rw [hheld]
    cases rest with
    | nil =>
      -- nothing was underway, so the call has taken nothing
      have hnone : held s = [] := (List.append_eq_nil_iff.mp hbytes).1
      rw [hnone, encodeKISS_eq]
      exact Nat.succ_pos _
    | cons first rest =>
      rw [List.cons_append] at hsplit
      obtain ⟨rfl, -⟩ := List.cons.inj hsplit
      exact hpart _ rest rfl
  · rw [hcall, hheld]
    exact hreading
  · rw [hreceiver]
    exact hopen
  · rw [hcall]
    exact hcallOpen

theorem orderly_openLink (h : Orderly s) {devicePath : GoString} {portError : Option GoError}
    {init : WriteResult} (hwhole : init.Undivided initSeq) :
    Orderly (s.step (.openLink devicePath portError init)) := by
  have hcases : (openLink devicePath s.sender portError init).2.2 = none ∧
      (openLink devicePath s.sender portError init).2.1 = initSeq ∨
      (openLink devicePath s.sender portError init).2.2 ≠ none ∧
      (openLink devicePath s.sender portError init).2.1 = [] := by
    unfold openLink
    unfold WriteResult.Undivided at hwhole
    split
    · exact Or.inr ⟨Option.some_ne_none _, rfl⟩
    · cases portError with
      | some err => exact Or.inr ⟨Option.some_ne_none _, rfl⟩
      | none =>
        cases herr : init.err with
        | some err =>
          rw [herr] at hwhole
          refine Or.inr ⟨Option.some_ne_none _, ?_⟩
          dsimp only at hwhole ⊢
          rw [hwhole, List.take_zero]
        | none =>
          rw [herr] at hwhole
          exact Or.inl ⟨rfl, List.take_of_length_le hwhole⟩
  rcases hcases with ⟨hnone, hbytes⟩ | ⟨hsome, hbytes⟩
  · refine h.written [none] rfl rfl rfl ?_ ?_
    · simp only [Tnc4Link.step, if_pos hnone]
    · simp only [Tnc4Link.step, hbytes, List.flatMap_singleton, initSeq_eq, dataOf]
  · refine h.written [] rfl rfl rfl ?_ ?_
    · simp only [Tnc4Link.step, if_neg hsome]
    · simp only [Tnc4Link.step, hbytes, List.flatMap_nil]

theorem orderly_send (h : Orderly s) {bundle : Bundle} {write : WriteResult}
    (hwhole : write.Undivided (encodeKISS (serializeBundle bundle))) :
    Orderly (s.step (.send bundle write)) := by
  have hcases : (sendBundle s.sender bundle write).2.2 = none ∧
      (sendBundle s.sender bundle write).2.1 = encodeKISS (serializeBundle bundle) ∨
      (sendBundle s.sender bundle write).2.2 ≠ none ∧
      (sendBundle s.sender bundle write).2.1 = [] := by
    unfold sendBundle
    unfold WriteResult.Undivided at hwhole
    split
    · exact Or.inr ⟨Option.some_ne_none _, rfl⟩
    · cases herr : write.err with
      | some err =>
        rw [herr] at hwhole
        refine Or.inr ⟨Option.some_ne_none _, ?_⟩
        dsimp only at hwhole ⊢
        rw [hwhole, List.take_zero]
      | none =>
        rw [herr] at hwhole
        exact Or.inl ⟨rfl, List.take_of_length_le hwhole⟩
  rcases hcases with ⟨hnone, hbytes⟩ | ⟨hsome, hbytes⟩
  · refine h.written [some bundle] rfl rfl rfl ?_ ?_
    · simp only [Tnc4Link.step, if_pos hnone]
    · simp only [Tnc4Link.step, hbytes, List.flatMap_singleton, dataOf]
  · refine h.written [] rfl rfl rfl ?_ ?_
    · simp only [Tnc4Link.step, if_neg hsome]
    · simp only [Tnc4Link.step, hbytes, List.flatMap_nil]

theorem orderly_recv (h : Orderly s) : Orderly (s.step .recv) := by
  simp only [Tnc4Link.step]
  cases hcall : s.call with
  | some c => exact h
  | none =>
    obtain ⟨⟨rest, hmatched, hbytes, hpart⟩, -, hopen, -⟩ := h
    have hstart : RecvCall.start s.receiver =
        ⟨{ s.receiver with locked := true, status := .receiving }, .reading .waiting⟩ := by
      rw [RecvCall.start, if_pos hopen]
    have hheld : held { s with call := some (.start s.receiver) } = [] := by
      rw [held, Option.map_some, hstart]
    rw [held_eq_nil hcall] at hbytes hpart
    refine ⟨⟨rest, hmatched, ?_, ?_⟩, ?_, hopen, ?_⟩
    · rw [hheld]
      exact hbytes
    · rw [hheld]
      exact hpart
    · intro c hc
      rw [hheld]
      cases hc
      rw [hstart]
      rfl
    · intro c hc
      cases hc
      rw [hstart]
      exact hopen

/-- A read that leaves the reader in its loops leaves the call there. -/
theorem read_stays {t : TNC4CLA} {part next : List UInt8} {r : ReadResult}
    (hread : (readerAt part).read r = readerAt next) :
    RecvCall.read ⟨t, .reading (readerAt part)⟩ r = ⟨t, .reading (readerAt next)⟩ := by
  rw [RecvCall.read]
  dsimp only
  rw [hread]
  by_cases hnext : next = []
  · rw [readerAt, if_pos hnext]
  · rw [readerAt, if_neg hnext]

/-- A read with which the reader returns ends the call. -/
theorem read_ends {t : TNC4CLA} {reader : FrameReader} {r : ReadResult}
    {result : Except GoError (List UInt8)} (hread : reader.read r = .returned result) :
    RecvCall.read ⟨t, .reading reader⟩ r = t.finish result := by
  rw [RecvCall.read]
  dsimp only
  rw [hread]

/-- A read that times out changes nothing. -/
theorem orderly_timeout (h : Orderly s) : Orderly (s.readWith .timeout) := by
  unfold Tnc4Link.readWith
  cases hcall : s.call with
  | none => exact h
  | some c =>
    have hstage := h.reading c hcall
    obtain ⟨t, stage⟩ := c
    cases hstage
    dsimp only
    rw [read_stays (read_timeout _)]
    dsimp only
    rw [← hcall]
    exact h

/-- A byte of the line is taken into the frame, or ends it and the call. -/
theorem orderly_byte (h : Orderly s) {c : RecvCall} (hcall : s.call = some c) {b : UInt8}
    {line : List UInt8} (hline : s.line = b :: line) :
    Orderly ({ s with line }.readWith (.byte b)) := by
  obtain ⟨⟨rest, hmatched, hbytes, hpart⟩, hreading, hopen, hcallOpen⟩ := h
  have hstage := hreading c hcall
  have hcallLink := hcallOpen c hcall
  obtain ⟨t, stage⟩ := c
  cases hstage
  rw [hline] at hbytes
  cases rest with
  | nil => simp at hbytes
  | cons data later =>
    have hroom := hpart data later rfl
    rw [List.flatMap_cons, List.append_cons] at hbytes
    have hunderway : held s ++ [b] <+: encodeKISS data ++ later.flatMap encodeKISS :=
      ⟨line, hbytes⟩
    have hprefix : held s ++ [b] <+: encodeKISS data := by
      refine List.prefix_of_prefix_length_le hunderway (List.prefix_append ..) ?_
      rw [List.length_append, List.length_singleton]
      omega
    have hread := read_part hprefix
    unfold Tnc4Link.readWith
    rw [hcall]
    dsimp only
    by_cases hwhole : held s ++ [b] = encodeKISS data
    · -- the frame is complete
      rw [if_pos hwhole] at hread
      obtain ⟨houtcome, hlink⟩ := outcomeOf_finish t data
      rw [read_ends hread, houtcome]
      dsimp only
      rw [hwhole] at hbytes
      refine ⟨⟨later, ?_, List.append_cancel_left hbytes, ?_⟩, ?_, ?_, ?_⟩
      · rw [hmatched, List.map_cons, List.append_assoc, List.singleton_append]
      · intro next _ _
        change 0 < (encodeKISS next).length
        rw [encodeKISS_eq]
        exact Nat.succ_pos _
      · intro c hc
        cases hc
      · exact hlink.trans hcallLink
      · intro c hc
        cases hc
    · rw [if_neg hwhole] at hread
      rw [read_stays hread]
      dsimp only
      have hheld : held { s with
          line
          call := some ⟨t, .reading (readerAt (held s ++ [b]))⟩ } = held s ++ [b] := by
        rw [held, Option.map_some, readerAt, if_neg (by simp)]
      refine ⟨⟨data :: later, hmatched, ?_, ?_⟩, ?_, hopen, ?_⟩
      · rw [hheld]
        exact hbytes
      · intro first others hsplit
        obtain ⟨rfl, -⟩ := List.cons.inj hsplit
        rw [hheld]
        refine Nat.lt_of_le_of_ne hprefix.length_le fun hlength => hwhole ?_
        exact hprefix.eq_of_length hlength
      · intro c hc
        cases hc
        rw [hheld]
      · intro c hc
        cases hc
        exact hcallLink

/-- Every step that leaves no part of a frame on the line keeps the order. -/
theorem orderly_step (h : Orderly s) {e : LinkEvent} (hwhole : Undivided s e) :
    Orderly (s.step e) := by
  cases e with
  | openLink devicePath portError init => exact orderly_openLink h hwhole
  | close portError =>
    exact h.written [] rfl rfl rfl (List.append_nil _).symm (List.append_nil _).symm
  | send bundle write => exact orderly_send h hwhole
  | recv => exact orderly_recv h
  | read =>
    simp only [Tnc4Link.step]
    split
    next c b rest hcall hline => exact orderly_byte h hcall hline
    next => exact orderly_timeout h
  | timeout => exact orderly_timeout h

end steps

/-- In every run whose writes are undivided, whatever the time-outs and however
the stations' steps are interleaved, the calls of RecvBundle have returned, in
order, what they make of the first of the written frames; the bytes of the
other frames are in the call in progress and on the line. -/
theorem bundles_received_in_order (events : List LinkEvent)
    (hwhole : Along Tnc4Link.step Undivided .start events) :
    ∃ rest : List (List UInt8),
      (run Tnc4Link.step .start events).sent.map (fun item => outcomeOf (dataOf item)) =
        (run Tnc4Link.step .start events).outcomes ++ rest.map outcomeOf ∧
      held (run Tnc4Link.step .start events) ++ (run Tnc4Link.step .start events).line =
        rest.flatMap encodeKISS := by
  have hstep : ∀ s e, Orderly s → Undivided s e → Orderly (s.step e) :=
    fun _ _ h hc => orderly_step h hc
  have hstart : Orderly .start :=
    ⟨⟨[], rfl, rfl, by simp⟩, by simp [Tnc4Link.start], rfl, by simp [Tnc4Link.start]⟩
  obtain ⟨rest, hmatched, hbytes, -⟩ := (hwhole.invariant hstep hstart).frames
  exact ⟨rest, hmatched, hbytes⟩

/-- A short bundle with both special bytes in its payload. -/
def stuffedSpecimen : Bundle := { specimen with payload := ⟨[0xC0, 0xDB], by decide⟩ }

/-- The receiver times out on the way, and calls again after the error for the
initial sequence. -/
def exchange : List LinkEvent :=
  [.recv, .timeout, .openLink (ascii "/dev/ttyUSB0") none ⟨3, none⟩, .read, .read, .timeout, .read,
    .send stuffedSpecimen ⟨100, none⟩, .recv] ++ List.replicate 100 .read

theorem bundles_received_in_order_exchange :
    let s := run Tnc4Link.step .start exchange
    s.outcomes = [.error (.wrap "failed to deserialize bundle" (.errorf (ascii "data too short"))),
        .ok (serializeBundle stuffedSpecimen)] ∧
      ∃ rest : List (List UInt8),
        s.sent.map (fun item => outcomeOf (dataOf item)) = s.outcomes ++ rest.map outcomeOf ∧
          held s ++ s.line = rest.flatMap encodeKISS := by
  have hwhole : Along Tnc4Link.step Undivided .start exchange := by
    refine along_of_forall_mem (fun e he s => ?_) Tnc4Link.start
    rcases List.mem_append.mp he with he | he
    · have hframe : (encodeKISS (serializeBundle stuffedSpecimen)).length ≤ 100 := by decide
      fin_cases he <;> first | trivial | exact hframe | exact le_rfl
    · rw [List.eq_of_mem_replicate he]
      trivial
  exact ⟨by decide +kernel, bundles_received_in_order exchange hwhole⟩

end CislunarDtn.Tnc4Links
