import CislunarDtn.KissSegments
import CislunarDtn.TncChannels
import Mathlib.Tactic.FinCases

/-!
# The TNC and the plugin on one serial line

At one end any number of callers send frames through the TNC, each taking the
write mutex for the time of its write, which the port may take in pieces; the
plugin's receive loop reads the bytes at the other end. In the other direction
the plugin writes segments and the TNC's receive loop hands their payloads to
its callers. All of this runs in any order.
-/

namespace CislunarDtn.SerialLinks

open Bundles DelimitedFrames StuffedFrames KissFrames KissReceivers KissSegments TncChannels
  DroppingChannels LabelledRuns

/-- Errors of Send. -/
inductive SendError where
  /-- ErrPortClosed. -/
  | portClosed
  /-- The data cannot be encoded. -/
  | encode (err : KissError)
  /-- The write failed. -/
  | writeFailed
  deriving DecidableEq

/-- Where a caller of Send stands. -/
inductive SendStage where
  /-- Not in a call. -/
  | idle
  /-- At the first check. -/
  | called (data : List UInt8)
  /-- Waiting for the mutex. -/
  | locking (data frame : List UInt8)
  /-- At the second check, with the mutex. -/
  | locked (data frame : List UInt8)
  /-- In the write: what the port has taken, and the rest. -/
  | writing (data taken rest : List UInt8)
  /-- The call has returned. -/
  | returned (result : Option SendError)
  deriving DecidableEq

/-- Whether a caller at this stage has the mutex. -/
def SendStage.holds : SendStage → Bool
  | .locked _ _ => true
  | .writing _ _ _ => true
  | _ => false

/-- Both ends and the line between them. -/
structure SerialLink where
  /-- The receiving side of the TNC. -/
  tnc : TNC
  /-- The callers of Send. -/
  stages : ℕ → SendStage
  /-- Who has the write mutex. -/
  writeMu : Option ℕ
  /-- Payloads whose frames the port has taken as a whole. -/
  sent : List (List UInt8)
  /-- Bytes on their way to the plugin. -/
  toPlugin : List UInt8
  /-- The receive loop of the plugin. -/
  loop : ReceiveLoop
  /-- The sending side of the plugin. -/
  sender : SegmentSender
  /-- Segments for which the plugin's call returned true. -/
  completed : List (List UInt8)
  /-- Bytes on their way to the TNC. -/
  toTnc : List UInt8

/-- Both ends as they start. -/
def SerialLink.start : SerialLink :=
  ⟨opened, fun _ => .idle, none, [], [], .start, .start, [], []⟩

/-- What can happen next. -/
inductive LinkEvent where
  /-- A caller enters Send. -/
  | send (caller : ℕ) (data : List UInt8)
  /-- A caller takes the next step of Send other than the port's. -/
  | proceed (caller : ℕ)
  /-- The port takes so many more bytes from a caller. -/
  | write (caller n : ℕ)
  /-- The write of a caller fails. -/
  | writeFails (caller : ℕ)
  /-- An iteration of the plugin's receive loop. -/
  | iterate (it : Iteration)
  /-- The plugin is handed a segment. -/
  | sendSegment (call : SendCall)
  /-- The TNC's read returns the next frame on the line, if there is one. -/
  | read
  /-- The TNC's read of an idle line fails. -/
  | readFails (err : KissError)
  /-- The TNC's receive loop takes its next step. -/
  | receiveLoop
  /-- The select of a caller of Receive takes a case. -/
  | receive (caller : ℕ) (ready : SelectCase)
  /-- Close of the TNC. -/
  | close

namespace SerialLink

/-- A caller at another stage. -/
def withStage (s : SerialLink) (caller : ℕ) (stage : SendStage) : SerialLink :=
  { s with stages := Function.update s.stages caller stage }

/-- The next step of a caller of Send other than the port's. -/
def proceed (s : SerialLink) (caller : ℕ) : SerialLink :=
  match s.stages caller with
  | .idle => s
  | .called data =>
    if s.tnc.closed then s.withStage caller (.returned (some .portClosed))
    else
      match encode data with
      | .error err => s.withStage caller (.returned (some (.encode err)))
      | .ok frame => s.withStage caller (.locking data frame)
  | .locking data frame =>
    if s.writeMu = none then { s.withStage caller (.locked data frame) with writeMu := some caller }
    else s
  | .locked data frame =>
    if s.tnc.closed then
      { s.withStage caller (.returned (some .portClosed)) with writeMu := none }
    else s.withStage caller (.writing data [] frame)
  | .writing data _ rest =>
    if rest = [] then
      { s.withStage caller (.returned none) with writeMu := none, sent := s.sent ++ [data] }
    else s
  | .returned _ => s

/-- What the port takes of a caller's write. -/
def write (s : SerialLink) (caller n : ℕ) : SerialLink :=
  match s.stages caller with
  | .writing data taken rest =>
    { s.withStage caller (.writing data (taken ++ rest.take n) (rest.drop n)) with
      toPlugin := s.toPlugin ++ rest.take n }
  | _ => s

variable (config : TNCConfig) (settings : KissClaSettings) (plugin : KissClaPlugin)

/-- One step of any party; a step that is not ready changes nothing. -/
def step (s : SerialLink) : LinkEvent → SerialLink
  | .send caller data =>
    match s.stages caller with
    | .idle => s.withStage caller (.called data)
    | .returned _ => s.withStage caller (.called data)
    | _ => s
  | .proceed caller => s.proceed caller
  | .write caller n => s.write caller n
  | .writeFails caller =>
    match s.stages caller with
    | .writing _ _ _ =>
      { s.withStage caller (.returned (some .writeFailed)) with writeMu := none }
    | _ => s
  | .iterate it =>
    -- the port returns no byte but the next one on the line
    if s.loop.bytesTaken it <+: s.toPlugin then
      { s with
        loop := s.loop.iterate plugin it
        toPlugin := s.toPlugin.drop (s.loop.bytesTaken it).length }
    else s
  | .sendSegment call =>
    let sent := s.sender.sendSegment settings call
    { s with
      sender := sent.1
      completed := s.completed ++ if sent.2 = true then [call.data] else []
      toTnc := s.toTnc ++ sent.1.written.drop s.sender.written.length }
  | .read =>
    match readKISSFrameFromReader s.toTnc with
    | .error _ => s
    | .ok (frame, rest) =>
      if s.tnc.loop = .reading then
        { s with tnc := s.tnc.step config (.readReturns (.ok frame)), toTnc := rest }
      else s
  | .readFails err =>
    if s.toTnc = [] then { s with tnc := s.tnc.step config (.readReturns (.error err)) } else s
  | .receiveLoop => { s with tnc := s.tnc.step config .receiveLoop }
  | .receive caller ready => { s with tnc := s.tnc.step config (.receive caller ready) }
  | .close => { s with tnc := s.tnc.step config .close }

/-- No part of a frame is left on the line by a write that fails. -/
def Undivided (s : SerialLink) : LinkEvent → Prop
  | .writeFails caller => ∀ data taken rest, s.stages caller = .writing data taken rest → taken = []
  | .sendSegment call => call.Undivided
  | _ => True

/-- The payload whose frame the port has taken in part, and that part. -/
def underway (s : SerialLink) : Option (List UInt8 × List UInt8) :=
  match s.writeMu.map s.stages with
  | some (.writing data taken _) => some (data, taken)
  | _ => none

/-- The frame on the line of a payload that is sent. -/
def frameOf (data : List UInt8) : List UInt8 := enclose fend (bodyOf data)

/-- All that the port of the TNC has taken. -/
def taken (s : SerialLink) : List UInt8 :=
  s.sent.flatMap frameOf ++ (s.underway.map Prod.snd).getD []

end SerialLink

/-- Frames at a stage are those of their payloads. -/
def SendStage.Sound : SendStage → Prop
  | .locking data frame => encode data = .ok frame
  | .locked data frame => encode data = .ok frame
  | .writing data taken rest => encode data = .ok (taken ++ rest)
  | _ => True

/-- Mutual exclusion, and frames that are those of their payloads. -/
structure Orderly (s : SerialLink) : Prop where
  /-- A caller is behind the mutex exactly when it has it. -/
  mutex : ∀ c, (s.stages c).holds = true ↔ s.writeMu = some c
  /-- The frames are those of their payloads. -/
  frames : ∀ c, (s.stages c).Sound
  /-- No empty payload was sent. -/
  sent : ∀ data ∈ s.sent, data ≠ []

section sending

variable {s : SerialLink} {caller : ℕ} {stage : SendStage}

theorem encode_ok {data frame : List UInt8} (h : encode data = .ok frame) :
    data ≠ [] ∧ frame = SerialLink.frameOf data := by
  by_cases hnil : data = []
  · rw [hnil] at h
    cases h
  · rw [encode_eq hnil] at h
    exact ⟨hnil, (Except.ok.inj h).symm⟩

theorem Orderly.writeMu_ne (h : Orderly s) (hstage : (s.stages caller).holds = false) :
    s.writeMu ≠ some caller := by
  intro hmu
  rw [(h.mutex caller).mpr hmu] at hstage
  cases hstage

/-- A caller that stays on its side of the mutex. -/
theorem Orderly.withStage (h : Orderly s) (hholds : stage.holds = (s.stages caller).holds)
    (hsound : stage.Sound) : Orderly (s.withStage caller stage) := by
  refine ⟨fun c => ?_, fun c => ?_, h.sent⟩
  · by_cases hc : c = caller
    · subst hc
      simp only [SerialLink.withStage, Function.update_self, hholds]
      exact h.mutex c
    · simp only [SerialLink.withStage, Function.update_of_ne hc]
      exact h.mutex c
  · by_cases hc : c = caller
    · subst hc
      simpa only [SerialLink.withStage, Function.update_self] using hsound
    · simpa only [SerialLink.withStage, Function.update_of_ne hc] using h.frames c

/-- A caller that takes the mutex. -/
theorem Orderly.lock (h : Orderly s) (hfree : s.writeMu = none) (hholds : stage.holds = true)
    (hsound : stage.Sound) :
    Orderly { s.withStage caller stage with writeMu := some caller } := by
  have hnone : ∀ c, (s.stages c).holds = true → False := by
    intro c hc
    rw [h.mutex c, hfree] at hc
    cases hc
  refine ⟨fun c => ?_, fun c => ?_, h.sent⟩
  · by_cases hc : c = caller
    · subst hc
      simp [SerialLink.withStage, hholds]
    · simp only [SerialLink.withStage, Function.update_of_ne hc, Option.some.injEq]
      exact iff_of_false (hnone c) (fun heq => hc heq.symm)
  · by_cases hc : c = caller
    · subst hc
      simpa only [SerialLink.withStage, Function.update_self] using hsound
    · simpa only [SerialLink.withStage, Function.update_of_ne hc] using h.frames c

/-- A caller that returns and gives the mutex back. -/
theorem Orderly.unlock (h : Orderly s) (hholder : (s.stages caller).holds = true)
    (result : Option SendError) :
    Orderly { s.withStage caller (.returned result) with writeMu := none } := by
  refine ⟨fun c => ?_, fun c => ?_, h.sent⟩
  · by_cases hc : c = caller
    · subst hc
      simp [SerialLink.withStage, SendStage.holds]
    · have hother : ¬(s.stages c).holds = true := by
        intro hholds
        rw [h.mutex c, (h.mutex caller).mp hholder] at hholds
        exact hc (Option.some.inj hholds).symm
      simp only [SerialLink.withStage, Function.update_of_ne hc]
      exact iff_of_false hother (by simp)
  · by_cases hc : c = caller
    · subst hc
      simp [SerialLink.withStage, SendStage.Sound]
    · simpa only [SerialLink.withStage, Function.update_of_ne hc] using h.frames c

/-- A caller outside the mutex leaves the write alone. -/
theorem underway_withStage (h : Orderly s) (hbefore : (s.stages caller).holds = false) :
    (s.withStage caller stage).underway = s.underway := by
  have hne := h.writeMu_ne hbefore
  unfold SerialLink.underway SerialLink.withStage
  dsimp only
  cases hmu : s.writeMu with
  | none => rfl
  | some c =>
    have hc : c ≠ caller := by
      intro heq
      rw [hmu, heq] at hne
      exact hne rfl
    simp only [Option.map_some, Function.update_of_ne hc]

theorem taken_withStage (h : Orderly s) (hbefore : (s.stages caller).holds = false) :
    (s.withStage caller stage).taken = s.taken := by
  rw [SerialLink.taken, underway_withStage h hbefore]
  rfl

/-- What a step of Send does to the callers and to what the port has taken. -/
theorem orderly_proceed (h : Orderly s) (caller : ℕ) :
    Orderly (s.proceed caller) ∧ (s.proceed caller).taken = s.taken ∧
      (s.proceed caller).loop = s.loop ∧ (s.proceed caller).toPlugin = s.toPlugin := by
  have hsound := h.frames caller
  unfold SerialLink.proceed
  cases hstage : s.stages caller with
  | idle => exact ⟨h, rfl, rfl, rfl⟩
  | called data =>
    have hholds : (s.stages caller).holds = false := by rw [hstage]; rfl
    dsimp only
    split
    · exact ⟨h.withStage (by rw [hholds]; rfl) trivial, taken_withStage h hholds, rfl, rfl⟩
    · split
      · exact ⟨h.withStage (by rw [hholds]; rfl) trivial, taken_withStage h hholds, rfl, rfl⟩
      · next frame hframe =>
        exact ⟨h.withStage (by rw [hholds]; rfl) hframe, taken_withStage h hholds, rfl, rfl⟩
  | locking data frame =>
    rw [hstage] at hsound
    dsimp only
    split
    · next hfree =>
      refine ⟨h.lock hfree rfl hsound, ?_, rfl, rfl⟩
      simp [SerialLink.taken, SerialLink.underway, SerialLink.withStage, hfree]
    · exact ⟨h, rfl, rfl, rfl⟩
  | locked data frame =>
    have hholds : (s.stages caller).holds = true := by rw [hstage]; rfl
    have hmu := (h.mutex caller).mp hholds
    rw [hstage] at hsound
    have htaken : s.taken = s.sent.flatMap SerialLink.frameOf := by
      simp [SerialLink.taken, SerialLink.underway, hmu, hstage]
    dsimp only
    split
    · refine ⟨h.unlock hholds _, ?_, rfl, rfl⟩
      rw [htaken]
      simp [SerialLink.taken, SerialLink.underway, SerialLink.withStage]
    · refine ⟨h.withStage (by rw [hholds]; rfl) hsound, ?_, rfl, rfl⟩
      rw [htaken]
      simp [SerialLink.taken, SerialLink.underway, SerialLink.withStage, hmu]
  | writing data taken rest =>
    have hholds : (s.stages caller).holds = true := by rw [hstage]; rfl
    have hmu := (h.mutex caller).mp hholds
    rw [hstage] at hsound
    dsimp only
    split
    · next hrest =>
      have hframe : data ≠ [] ∧ taken = SerialLink.frameOf data := by
        rw [SendStage.Sound, hrest, List.append_nil] at hsound
        exact encode_ok hsound
      refine ⟨?_, ?_, rfl, rfl⟩
      · have hunlocked := h.unlock hholds none
        refine ⟨hunlocked.mutex, hunlocked.frames, fun other hother => ?_⟩
        rcases List.mem_append.mp hother with hother | hother
        · exact h.sent other hother
        · rw [List.mem_singleton.mp hother]
          exact hframe.1
      · simp [SerialLink.taken, SerialLink.underway, SerialLink.withStage, hmu, hstage, hframe.2]
    · exact ⟨h, rfl, rfl, rfl⟩
  | returned result => exact ⟨h, rfl, rfl, rfl⟩

/-- What the port takes is appended to the line. -/
theorem orderly_write (h : Orderly s) (caller n : ℕ) :
    Orderly (s.write caller n) ∧ (s.write caller n).loop = s.loop ∧
      ∃ t, (s.write caller n).taken = s.taken ++ t ∧
        (s.write caller n).toPlugin = s.toPlugin ++ t := by
  have hsound := h.frames caller
  unfold SerialLink.write
  cases hstage : s.stages caller with
  | writing data taken rest =>
    have hholds : (s.stages caller).holds = true := by rw [hstage]; rfl
    have hmu := (h.mutex caller).mp hholds
    have hsplit : SendStage.Sound (.writing data (taken ++ rest.take n) (rest.drop n)) := by
      rw [hstage] at hsound
      rw [SendStage.Sound, List.append_assoc, List.take_append_drop]
      exact hsound
    have hkept : Orderly (s.withStage caller _) := h.withStage (by rw [hholds]; rfl) hsplit
    refine ⟨⟨hkept.mutex, hkept.frames, hkept.sent⟩, rfl, rest.take n, ?_, rfl⟩
    simp [SerialLink.taken, SerialLink.underway, SerialLink.withStage, hmu, hstage]
  | _ => exact ⟨h, rfl, [], by simp, by simp⟩

/-- A write that fails before the port has taken anything leaves nothing on the line. -/
theorem orderly_writeFails (h : Orderly s) {data rest : List UInt8}
    (hstage : s.stages caller = .writing data [] rest) (result : Option SendError) :
    Orderly { s.withStage caller (.returned result) with writeMu := none } ∧
      SerialLink.taken { s.withStage caller (.returned result) with writeMu := none } =
        s.taken := by
  have hholds : (s.stages caller).holds = true := by rw [hstage]; rfl
  have hmu := (h.mutex caller).mp hholds
  refine ⟨h.unlock hholds result, ?_⟩
  simp [SerialLink.taken, SerialLink.underway, SerialLink.withStage, hmu, hstage]

end sending

section line

variable {config : TNCConfig} {settings : KissClaSettings} {plugin : KissClaPlugin}
  {s : SerialLink}

/-- What an event does to the callers of Send and to the line to the plugin:
the port takes more, or the plugin's loop takes from the line, or neither. -/
theorem orderly_step (h : Orderly s) {e : LinkEvent} (hundivided : s.Undivided e) :
    Orderly (s.step config settings plugin e) ∧
      ((∃ t, (s.step config settings plugin e).taken = s.taken ++ t ∧
          (s.step config settings plugin e).toPlugin = s.toPlugin ++ t ∧
          (s.step config settings plugin e).loop = s.loop) ∨
        ∃ it rest, s.toPlugin = s.loop.bytesTaken it ++ rest ∧
          (s.step config settings plugin e).taken = s.taken ∧
          (s.step config settings plugin e).toPlugin = rest ∧
          (s.step config settings plugin e).loop = s.loop.iterate plugin it) := by
  cases e with
  | send caller data =>
    simp only [SerialLink.step]
    cases hstage : s.stages caller with
    | idle =>
      have hholds : (s.stages caller).holds = false := by rw [hstage]; rfl
      exact ⟨h.withStage (by rw [hholds]; rfl) trivial, .inl ⟨[], by
        rw [taken_withStage h hholds, List.append_nil], (List.append_nil _).symm, rfl⟩⟩
    | returned result =>
      have hholds : (s.stages caller).holds = false := by rw [hstage]; rfl
      exact ⟨h.withStage (by rw [hholds]; rfl) trivial, .inl ⟨[], by
        rw [taken_withStage h hholds, List.append_nil], (List.append_nil _).symm, rfl⟩⟩
    | _ => exact ⟨h, .inl ⟨[], (List.append_nil _).symm, (List.append_nil _).symm, rfl⟩⟩
  | proceed caller =>
    obtain ⟨horderly, htaken, hloop, hline⟩ := orderly_proceed h caller
    exact ⟨horderly, .inl ⟨[], by rw [List.append_nil]; exact htaken,
      by rw [List.append_nil]; exact hline, hloop⟩⟩
  | write caller n =>
    obtain ⟨horderly, hloop, t, htaken, hline⟩ := orderly_write h caller n
    exact ⟨horderly, .inl ⟨t, htaken, hline, hloop⟩⟩
  | writeFails caller =>
    simp only [SerialLink.step]
    cases hstage : s.stages caller with
    | writing data taken rest =>
      obtain rfl := hundivided data taken rest hstage
      obtain ⟨horderly, htaken⟩ := orderly_writeFails h hstage (some .writeFailed)
      exact ⟨horderly, .inl ⟨[], by simpa using htaken, (List.append_nil _).symm, rfl⟩⟩
    | _ => exact ⟨h, .inl ⟨[], (List.append_nil _).symm, (List.append_nil _).symm, rfl⟩⟩
  | iterate it =>
    simp only [SerialLink.step]
    split
    · next hline =>
      obtain ⟨rest, hrest⟩ := hline
      refine ⟨⟨h.mutex, h.frames, h.sent⟩, .inr ⟨it, rest, hrest.symm, rfl, ?_, rfl⟩⟩
      simp [← hrest]
    · exact ⟨h, .inl ⟨[], (List.append_nil _).symm, (List.append_nil _).symm, rfl⟩⟩
  | read =>
    simp only [SerialLink.step]
    split
    · exact ⟨h, .inl ⟨[], (List.append_nil _).symm, (List.append_nil _).symm, rfl⟩⟩
    · split
      · exact ⟨⟨h.mutex, h.frames, h.sent⟩,
          .inl ⟨[], (List.append_nil _).symm, (List.append_nil _).symm, rfl⟩⟩
      · exact ⟨h, .inl ⟨[], (List.append_nil _).symm, (List.append_nil _).symm, rfl⟩⟩
  | readFails err =>
    simp only [SerialLink.step]
    split
    · exact ⟨⟨h.mutex, h.frames, h.sent⟩,
        .inl ⟨[], (List.append_nil _).symm, (List.append_nil _).symm, rfl⟩⟩
    · exact ⟨h, .inl ⟨[], (List.append_nil _).symm, (List.append_nil _).symm, rfl⟩⟩
  | _ => exact ⟨⟨h.mutex, h.frames, h.sent⟩,
      .inl ⟨[], (List.append_nil _).symm, (List.append_nil _).symm, rfl⟩⟩

/-- What the plugin has passed on and will pass on of the line is what a
receiver that limits its frames makes of all the port has taken. -/
structure Delivering (plugin : KissClaPlugin) (s : SerialLink) : Prop where
  /-- The open frame has no delimiter. -/
  buffer : fend ∉ s.loop.frameBuffer
  /-- Whatever the port takes next. -/
  line : ∀ future, s.loop.ingressSegments ++
      segmentsOf (framesWithin plugin.maxFrameSize fend s.loop.receiver (s.toPlugin ++ future)) =
    segmentsOf (framesWithin plugin.maxFrameSize fend .hunting (s.taken ++ future))

theorem delivering_iterate (hcallback : plugin.onIngressSegment = true) {loop : ReceiveLoop}
    (hbuffer : fend ∉ loop.frameBuffer) (it : Iteration) (future : List UInt8) :
    fend ∉ (loop.iterate plugin it).frameBuffer ∧
      (loop.iterate plugin it).ingressSegments ++ segmentsOf (framesWithin plugin.maxFrameSize
          fend (loop.iterate plugin it).receiver future) =
        loop.ingressSegments ++ segmentsOf (framesWithin plugin.maxFrameSize fend loop.receiver
          (loop.bytesTaken it ++ future)) := by
  by_cases htaken : loop.bytesTaken it = []
  · obtain ⟨hrecv, hseg, hbuf⟩ := @iterate_of_bytesTaken_nil plugin loop it htaken
    rw [hbuf, hseg, hrecv, htaken, List.nil_append]
    exact ⟨hbuffer, rfl⟩
  · obtain ⟨b, hb, hiterate⟩ := @iterate_of_bytesTaken_ne_nil plugin loop it htaken
    have hspec := @processByte_spec plugin { loop with portOpen := true } hcallback hbuffer b
    rw [← hiterate] at hspec
    obtain ⟨hrecv, hseg, hfree⟩ := hspec
    refine ⟨hfree, ?_⟩
    rw [hb, hseg, hrecv, List.singleton_append, List.append_assoc, ← segmentsOf_append]
    rfl

theorem delivering_step (hcallback : plugin.onIngressSegment = true) (h : Orderly s)
    (hd : Delivering plugin s) {e : LinkEvent} (hundivided : s.Undivided e) :
    Delivering plugin (s.step config settings plugin e) := by
  obtain ⟨-, ⟨t, htaken, hline, hloop⟩ | ⟨it, rest, hsplit, htaken, hline, hloop⟩⟩ :=
    @orderly_step config settings plugin s h e hundivided
  · refine ⟨by rw [hloop]; exact hd.buffer, fun future => ?_⟩
    rw [hloop, hline, htaken, List.append_assoc, List.append_assoc]
    exact hd.line (t ++ future)
  · refine ⟨by rw [hloop]; exact (delivering_iterate hcallback hd.buffer it []).1,
      fun future => ?_⟩
    have hnext := (delivering_iterate hcallback hd.buffer it (rest ++ future)).2
    rw [hloop, hline, htaken, hnext, ← List.append_assoc, ← hsplit]
    exact hd.line future

end line

section returning

variable {config : TNCConfig} {settings : KissClaSettings} {plugin : KissClaPlugin}
  {s : SerialLink}

/-- A frame at the front of the line is read as a whole. -/
theorem read_enclose {body : List UInt8} (hb : Enclosable fend body) (rest : List UInt8) :
    readKISSFrameFromReader (enclose fend body ++ rest) = .ok (enclose fend body, rest) := by
  have hclosing : ∀ (buf body : List UInt8), fend ∉ body →
      readToClosing buf (body ++ fend :: rest) = .ok (buf ++ body ++ [fend], rest) := by
    intro buf body hfree
    induction body generalizing buf with
    | nil => simp [readToClosing]
    | cons b body ih =>
      obtain ⟨hb, hbody⟩ := List.ne_and_not_mem_of_not_mem_cons hfree
      rw [List.cons_append, readToClosing, if_neg hb.symm, ih _ hbody]
      simp
  obtain ⟨hne, hfree⟩ := hb
  cases body with
  | nil => exact absurd rfl hne
  | cons b body =>
    obtain ⟨hb, hbody⟩ := List.ne_and_not_mem_of_not_mem_cons hfree
    have hread := hclosing [fend, b] body hbody
    simp only [enclose, List.cons_append, List.append_assoc, List.nil_append,
      readKISSFrameFromReader, awaitStart, if_true, bind, Except.bind, skipFill]
    rw [if_pos hb.symm]
    simpa using hread

theorem decode_kissEncode (hport : commandByte settings.kissPort ≠ fend) (data : List UInt8) :
    decode (kissEncode settings data) = .ok data := by
  have hround := kissStuffing.unstuff_stuff data
  rw [kissEncode_eq, decode_enclose (enclosable_segmentBody hport data), segmentBody,
    List.tail_cons, hround]
  rfl

/-- The segment in the hands of the TNC's receive loop, before it is decoded. -/
def InHand (settings : KissClaSettings) (loop : LoopStage) (held : List (List UInt8)) : Prop :=
  match loop with
  | .decoding frame => ∃ data, frame = kissEncode settings data ∧ held = [data]
  | _ => held = []

/-- The completed segments are those decoded, the one in the loop's hands and
those whose frames are on the line. -/
def Returning (settings : KissClaSettings) (s : SerialLink) : Prop :=
  ∃ held pending, InHand settings s.tnc.loop held ∧
    s.toTnc = pending.flatMap (kissEncode settings) ∧
    s.completed = s.tnc.decoded ++ held ++ pending

theorem returning_read (hport : commandByte settings.kissPort ≠ fend) (h : Returning settings s) :
    Returning settings (s.step config settings plugin .read) := by
  obtain ⟨held, pending, hheld, hline, hcompleted⟩ := h
  simp only [SerialLink.step]
  cases pending with
  | nil =>
    have hnothing : readKISSFrameFromReader s.toTnc =
        .error (readError "kiss: read error waiting for frame start") := by
      rw [hline]
      rfl
    rw [hnothing]
    exact ⟨held, [], hheld, hline, hcompleted⟩
  | cons data pending =>
    have hread : readKISSFrameFromReader s.toTnc =
        .ok (kissEncode settings data, pending.flatMap (kissEncode settings)) := by
      rw [hline, List.flatMap_cons, kissEncode_eq]
      exact read_enclose (enclosable_segmentBody hport data) _
    rw [hread]
    dsimp only
    by_cases hloop : s.tnc.loop = .reading
    · have hnone : held = [] := by rwa [hloop] at hheld
      rw [if_pos hloop]
      refine ⟨[data], pending, ?_, rfl, ?_⟩
      · simp only [TNC.step, hloop]
        exact ⟨data, rfl, rfl⟩
      · simp only [TNC.step, hloop]
        rw [hcompleted, hnone]
        simp
    · rw [if_neg hloop]
      exact ⟨held, data :: pending, hheld, hline, hcompleted⟩

theorem returning_receiveLoop (hport : commandByte settings.kissPort ≠ fend)
    (h : Returning settings s) :
    Returning settings (s.step config settings plugin .receiveLoop) := by
  obtain ⟨held, pending, hheld, hline, hcompleted⟩ := h
  simp only [SerialLink.step, TNC.step]
  cases hloop : s.tnc.loop with
  | decoding frame =>
    rw [hloop] at hheld
    obtain ⟨data, rfl, rfl⟩ := hheld
    have hdecode := decode_kissEncode hport data
    refine ⟨[], pending, ?_, hline, ?_⟩
    · simp [TNC.receiveLoop, hloop, hdecode, InHand]
    · simp [TNC.receiveLoop, hloop, hdecode, hcompleted]
  | makingRoom data =>
    have hnone : held = [] := by rwa [hloop] at hheld
    refine ⟨[], pending, ?_, hline, ?_⟩
    · cases hrx : s.tnc.rxCh <;> simp [TNC.receiveLoop, hloop, hrx, InHand]
    · cases hrx : s.tnc.rxCh <;> simp [TNC.receiveLoop, hloop, hrx, hcompleted, hnone]
  | _ =>
    have hnone : held = [] := by rwa [hloop] at hheld
    refine ⟨[], pending, ?_, hline, ?_⟩
    · simp only [TNC.receiveLoop, hloop]
      repeat' split
      all_goals first | rfl | (rw [hloop]; rfl)
    · rw [hcompleted, hnone]
      simp only [TNC.receiveLoop, hloop]
      repeat' split
      all_goals rfl

theorem returning_sendSegment (h : Returning settings s) {call : SendCall}
    (hwhole : call.Undivided) :
    Returning settings (s.step config settings plugin (.sendSegment call)) := by
  obtain ⟨held, pending, hheld, hline, hcompleted⟩ := h
  have hwritten := sendSegment_written settings s.sender hwhole
  refine ⟨held, pending ++ if (s.sender.sendSegment settings call).2 = true then [call.data]
    else [], hheld, ?_, ?_⟩
  · simp only [SerialLink.step]
    rw [hwritten, List.drop_left, hline, List.flatMap_append]
  · simp only [SerialLink.step]
    rw [hcompleted, List.append_assoc _ pending]

/-- What concerns the line to the plugin leaves the other direction alone. -/
def LinkEvent.towardsPlugin : LinkEvent → Bool
  | .send _ _ => true
  | .proceed _ => true
  | .write _ _ => true
  | .writeFails _ => true
  | .iterate _ => true
  | _ => false

theorem step_towardsPlugin {e : LinkEvent} (he : e.towardsPlugin = true) :
    (s.step config settings plugin e).tnc = s.tnc ∧
      (s.step config settings plugin e).toTnc = s.toTnc ∧
      (s.step config settings plugin e).completed = s.completed := by
  cases e with
  | send caller data =>
    simp only [SerialLink.step]
    cases s.stages caller <;> exact ⟨rfl, rfl, rfl⟩
  | proceed caller =>
    simp only [SerialLink.step, SerialLink.proceed]
    cases s.stages caller with
    | called data =>
      dsimp only
      split
      · exact ⟨rfl, rfl, rfl⟩
      · split <;> exact ⟨rfl, rfl, rfl⟩
    | locking data frame =>
      dsimp only
      split <;> exact ⟨rfl, rfl, rfl⟩
    | locked data frame =>
      dsimp only
      split <;> exact ⟨rfl, rfl, rfl⟩
    | writing data taken rest =>
      dsimp only
      split <;> exact ⟨rfl, rfl, rfl⟩
    | _ => exact ⟨rfl, rfl, rfl⟩
  | write caller n =>
    simp only [SerialLink.step, SerialLink.write]
    cases s.stages caller <;> exact ⟨rfl, rfl, rfl⟩
  | writeFails caller =>
    simp only [SerialLink.step]
    cases s.stages caller <;> exact ⟨rfl, rfl, rfl⟩
  | iterate it =>
    simp only [SerialLink.step]
    split <;> exact ⟨rfl, rfl, rfl⟩
  | _ => cases he

/-- A caller that takes from a channel leaves the receive loop alone. -/
theorem returning_receive (h : Returning settings s) (caller : ℕ) (ready : SelectCase) :
    Returning settings (s.step config settings plugin (.receive caller ready)) := by
  have hsame : (s.tnc.step config (.receive caller ready)).loop = s.tnc.loop ∧
      (s.tnc.step config (.receive caller ready)).decoded = s.tnc.decoded := by
    cases ready with
    | rxCh => cases hrx : s.tnc.rxCh <;> simp [TNC.step, TNC.receive, hrx]
    | errCh => cases herr : s.tnc.errCh <;> simp [TNC.step, TNC.receive, herr]
    | timer =>
      simp only [TNC.step, TNC.receive]
      split <;> exact ⟨rfl, rfl⟩
    | done =>
      simp only [TNC.step, TNC.receive]
      split <;> exact ⟨rfl, rfl⟩
  obtain ⟨held, pending, hheld, hline, hcompleted⟩ := h
  refine ⟨held, pending, ?_, hline, ?_⟩
  · rw [SerialLink.step, hsame.1]
    exact hheld
  · rw [SerialLink.step, hsame.2]
    exact hcompleted

theorem returning_step (hport : commandByte settings.kissPort ≠ fend) (h : Returning settings s)
    {e : LinkEvent} (hundivided : s.Undivided e) :
    Returning settings (s.step config settings plugin e) := by
  cases htowards : e.towardsPlugin with
  | true =>
    obtain ⟨htnc, hline, hcompleted⟩ :=
      @step_towardsPlugin config settings plugin s e htowards
    rw [Returning, htnc, hline, hcompleted]
    exact h
  | false =>
    cases e with
    | sendSegment call => exact returning_sendSegment h hundivided
    | read => exact returning_read hport h
    | readFails err =>
      simp only [SerialLink.step]
      split
      · obtain ⟨held, pending, hheld, hline, hcompleted⟩ := h
        simp only [TNC.step]
        cases hloop : s.tnc.loop with
        | reading =>
          rw [hloop] at hheld
          exact ⟨held, pending, hheld, hline, hcompleted⟩
        | _ => exact ⟨held, pending, hheld, hline, hcompleted⟩
      · exact h
    | receiveLoop => exact returning_receiveLoop hport h
    | receive caller ready => exact returning_receive h caller ready
    | close => exact h
    | _ => cases htowards

/-- The frame channel of the TNC stays sound. -/
theorem sound_step (h : s.tnc.frames.Sound rxChCapacity) (e : LinkEvent) :
    (s.step config settings plugin e).tnc.frames.Sound rxChCapacity := by
  have hevent : ∀ event, (s.tnc.step config event).frames.Sound rxChCapacity := by
    intro event
    rw [frames_step]
    cases frameAction s.tnc event with
    | none => exact h
    | some action => exact h.perform (by decide) action
  cases htowards : e.towardsPlugin with
  | true =>
    rw [(@step_towardsPlugin config settings plugin s e htowards).1]
    exact h
  | false =>
    cases e with
    | sendSegment call => exact h
    | read =>
      simp only [SerialLink.step]
      split
      · exact h
      · split
        · exact hevent _
        · exact h
    | readFails err =>
      simp only [SerialLink.step]
      split
      · exact hevent _
      · exact h
    | receiveLoop => exact hevent _
    | receive caller ready => exact hevent _
    | close => exact hevent _
    | _ => cases htowards

end returning

section runs

variable {config : TNCConfig} {settings : KissClaSettings} {plugin : KissClaPlugin}
  {s : SerialLink}

/-- What holds of the line in every state that is reached. -/
structure Linked (settings : KissClaSettings) (plugin : KissClaPlugin) (s : SerialLink) : Prop where
  /-- Of the callers of Send. -/
  orderly : Orderly s
  /-- Of what the plugin passes on. -/
  delivering : Delivering plugin s
  /-- Of what the TNC decodes. -/
  returning : Returning settings s
  /-- Of the TNC's frame channel. -/
  sound : s.tnc.frames.Sound rxChCapacity

theorem linked_start : Linked settings plugin .start := by
  refine ⟨⟨fun c => ?_, fun c => trivial, fun data hd => absurd hd List.not_mem_nil⟩,
    ⟨by simp [SerialLink.start, ReceiveLoop.start], fun future => rfl⟩,
    ⟨[], [], rfl, rfl, rfl⟩, Channel.sound_empty _⟩
  simp [SerialLink.start, SendStage.holds]

theorem linked_step (hcallback : plugin.onIngressSegment = true)
    (hport : commandByte settings.kissPort ≠ fend) (h : Linked settings plugin s) {e : LinkEvent}
    (hundivided : s.Undivided e) : Linked settings plugin (s.step config settings plugin e) :=
  ⟨(orderly_step h.orderly hundivided).1,
    delivering_step hcallback h.orderly h.delivering hundivided,
    returning_step hport h.returning hundivided, sound_step h.sound e⟩

/-- What a limited receiver makes of frames that the TNC has sent. -/
theorem segmentsOf_flatMap_frameOf (limit : ℕ) {payloads : List (List UInt8)}
    (hne : ∀ data ∈ payloads, data ≠ []) :
    segmentsOf (framesWithin limit fend .hunting (payloads.flatMap SerialLink.frameOf)) =
      payloads.filter fun data => data.length + data.countP kissStuffing.isSpecial < limit := by
  have hport : commandByte KissClaSettings.new.kissPort ≠ fend := by decide
  have hsame : SerialLink.frameOf = kissEncode KissClaSettings.new := by
    funext data
    rw [kissEncode_eq]
    rfl
  rw [hsame]
  exact segmentsOf_flatMap_kissEncode limit hport hne

/-- What the plugin has passed on is a first part of what the TNC has sent, as far
as it fits; all of it once the line is empty and no write is under way. -/
theorem Linked.ingressSegments (h : Linked settings plugin s) :
    let fits := fun data : List UInt8 =>
      decide (data.length + data.countP kissStuffing.isSpecial < plugin.maxFrameSize)
    s.loop.ingressSegments <+: (s.sent ++ (s.underway.map Prod.fst).toList).filter fits ∧
      (s.toPlugin = [] → s.underway = none → s.loop.ingressSegments = s.sent.filter fits) := by
  intro fits
  cases hunderway : s.underway with
  | none =>
    have htaken : s.taken = s.sent.flatMap SerialLink.frameOf := by
      simp [SerialLink.taken, hunderway]
    have hline := h.delivering.line []
    rw [htaken, List.append_nil, List.append_nil,
      segmentsOf_flatMap_frameOf _ h.orderly.sent] at hline
    refine ⟨?_, fun hempty _ => ?_⟩
    · rw [Option.map_none, Option.toList_none, List.append_nil, ← hline]
      exact List.prefix_append _ _
    · rw [hempty, framesWithin_nil] at hline
      rw [← hline]
      simp [segmentsOf]
  | some pair =>
    obtain ⟨c, data, taken, rest, hstage, hpair⟩ : ∃ c data taken rest,
        s.stages c = .writing data taken rest ∧ pair = (data, taken) := by
      unfold SerialLink.underway at hunderway
      cases hmu : s.writeMu with
      | none => simp [hmu] at hunderway
      | some c =>
        rw [hmu, Option.map_some] at hunderway
        cases hstage : s.stages c with
        | writing data taken rest =>
          simp only [hstage, Option.some.injEq] at hunderway
          exact ⟨c, data, taken, rest, hstage, hunderway.symm⟩
        | _ => simp [hstage] at hunderway
    have hframe := h.orderly.frames c
    rw [hstage, SendStage.Sound] at hframe
    obtain ⟨hne, hwhole⟩ := encode_ok hframe
    -- once the port has taken the rest, the line has the whole frame
    have hline := h.delivering.line rest
    have htaken : s.taken ++ rest = (s.sent ++ [data]).flatMap SerialLink.frameOf := by
      simp [SerialLink.taken, hunderway, hpair, ← hwhole]
    have hsent : ∀ payload ∈ s.sent ++ [data], payload ≠ [] := by
      intro payload hpayload
      rcases List.mem_append.mp hpayload with hsent | hlast
      · exact h.orderly.sent payload hsent
      · rw [List.mem_singleton.mp hlast]
        exact hne
    rw [htaken, segmentsOf_flatMap_frameOf _ hsent] at hline
    refine ⟨?_, fun _ hnone => by cases hnone⟩
    rw [hpair, Option.map_some, Option.toList_some, ← hline]
    exact List.prefix_append _ _

/-- What the TNC has decoded is a first part of what the plugin has completed;
all of it once the line is empty and the loop has no frame in its hands. -/
theorem Linked.decoded (h : Linked settings plugin s) :
    s.tnc.decoded <+: s.completed ∧
      (s.toTnc = [] → (∀ frame, s.tnc.loop ≠ .decoding frame) →
        s.tnc.decoded = s.completed) := by
  obtain ⟨held, pending, hheld, hline, hcompleted⟩ := h.returning
  refine ⟨?_, fun hempty hloop => ?_⟩
  · rw [hcompleted, List.append_assoc]
    exact List.prefix_append _ _
  · have hnone : held = [] := by
      unfold InHand at hheld
      split at hheld
      · next frame hdecoding => exact absurd hdecoding (hloop frame)
      · exact hheld
    have hpending : pending = [] := by
      cases pending with
      | nil => rfl
      | cons data pending =>
        rw [hempty, List.flatMap_cons, kissEncode_eq] at hline
        cases hline
    rw [hcompleted, hnone, hpending, List.append_nil, List.append_nil]

/-- Two callers send at one time and the plugin answers. -/
def exchanged : List LinkEvent :=
  [.send 1 [0xC0], .send 2 [0x41], .proceed 1, .proceed 2, .proceed 1, .proceed 2, .proceed 1,
    .write 1 2, .proceed 2, .write 1 9, .proceed 1, .proceed 2, .proceed 2, .write 2 9,
    .proceed 2, .sendSegment (.whole [0xDB]), .receiveLoop, .read, .receiveLoop, .receiveLoop,
    .receive 7 .rxCh] ++
  [0xC0, 0x00, 0xDB, 0xDC, 0xC0, 0xC0, 0x00, 0x41, 0xC0].map fun b => .iterate ⟨true, .byte b⟩

end runs

end CislunarDtn.SerialLinks
