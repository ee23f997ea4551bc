import CislunarDtn.DroppingChannels
import CislunarDtn.KissFrames

/-!
# The TNC's receive channel

The receive loop runs beside any number of Receive callers; each of its channel
operations is a step of its own, and so is each case that a caller's select
takes. Reads may return anything. Seen from the frame channel, every run is a
run of a channel that drops its oldest item.
-/

namespace CislunarDtn.TncChannels

open KissFrames LabelledRuns DroppingChannels

/-- Slots of the frame channel. -/
def rxChCapacity : ℕ := 16

/-- Slots of the error channel. -/
def errChCapacity : ℕ := 16

/-- Configuration as far as Receive reads it. -/
structure TNCConfig where
  /-- Read timeout in nanoseconds, zero to block forever. -/
  timeout : Int64

/-- Where the receive loop stands. -/
inductive LoopStage where
  /-- At the head of the loop. -/
  | head
  /-- In the read of a frame. -/
  | reading
  /-- The read has failed. -/
  | readFailed (err : KissError)
  /-- About to offer an error to the error channel. -/
  | reporting (err : KissError)
  /-- A frame has been read. -/
  | decoding (frame : List UInt8)
  /-- At the non-blocking send. -/
  | offering (data : List UInt8)
  /-- The channel was full: at the non-blocking receive. -/
  | makingRoom (data : List UInt8)
  /-- At the send after it. -/
  | sending (data : List UInt8)
  /-- The loop has returned. -/
  | returned
  deriving DecidableEq

/-- The channels, the flags and the receive loop, with what has happened to the
frames so far. -/
structure TNC where
  /-- Frames received, oldest first. -/
  rxCh : List (List UInt8)
  /-- Receive errors, oldest first. -/
  errCh : List KissError
  /-- Set by Close. -/
  closed : Bool
  /-- Whether the channel that signals the loop's exit is closed. -/
  done : Bool
  /-- The receive loop. -/
  loop : LoopStage
  /-- Payloads decoded so far, oldest first. -/
  decoded : List (List UInt8)
  /-- Frames that have left the channel: returned to a caller, or dropped. -/
  departed : List (Departure ℕ (List UInt8))

/-- The TNC as Open returns it. -/
def opened : TNC := ⟨[], [], false, false, .head, [], []⟩

/-- Frames returned to callers, in the order in which they left the channel. -/
def TNC.received (t : TNC) : List (List UInt8) := t.departed.filterMap Departure.takenItem

/-- The next step of the receive loop, other than the return of a read. -/
def TNC.receiveLoop (t : TNC) : TNC :=
  match t.loop with
  | .head =>
    if t.closed then { t with loop := .returned, done := true } else { t with loop := .reading }
  | .reading => t
  | .readFailed err =>
    if t.closed then { t with loop := .returned, done := true }
    else { t with loop := .reporting err }
  | .reporting err =>
    if t.errCh.length < errChCapacity then
      { t with errCh := t.errCh ++ [err], loop := .head }
    else { t with loop := .head }
  | .decoding frame =>
    match decode frame with
    | .ok data => { t with loop := .offering data, decoded := t.decoded ++ [data] }
    | .error err => { t with loop := .reporting err }
  | .offering data =>
    if t.rxCh.length < rxChCapacity then { t with rxCh := t.rxCh ++ [data], loop := .head }
    else { t with loop := .makingRoom data }
  | .makingRoom data =>
    match t.rxCh with
    | [] => { t with loop := .sending data }
    | oldest :: rest =>
      { t with
        rxCh := rest
        departed := t.departed ++ [.dropped oldest]
        loop := .sending data }
  | .sending data =>
    -- a full channel blocks the send
    if t.rxCh.length < rxChCapacity then { t with rxCh := t.rxCh ++ [data], loop := .head }
    else t
  | .returned => t

/-- Cases of the select in Receive. -/
inductive SelectCase where
  /-- A frame from the frame channel. -/
  | rxCh
  /-- An error from the error channel. -/
  | errCh
  /-- The timer has fired. -/
  | timer
  /-- The receive loop has returned. -/
  | done
  deriving DecidableEq

/-- Errors of Receive. -/
inductive ReceiveError where
  /-- ErrPortClosed. -/
  | portClosed
  /-- ErrReadTimeout. -/
  | readTimeout
  /-- An error of the receive loop. -/
  | loop (err : KissError)
  deriving DecidableEq

/-- What a caller's Receive returns when its select takes a case, if that case
is ready. -/
def TNC.receive (config : TNCConfig) (t : TNC) (caller : ℕ) :
    SelectCase → Option (Except ReceiveError (List UInt8) × TNC)
  | .rxCh =>
    match t.rxCh with
    | [] => none
    | frame :: rest =>
      some (.ok frame, { t with rxCh := rest, departed := t.departed ++ [.taken caller frame] })
  | .errCh =>
    match t.errCh with
    | [] => none
    | err :: rest => some (.error (.loop err), { t with errCh := rest })
  | .timer => if 0 < config.timeout then some (.error .readTimeout, t) else none
  | .done => if t.done then some (.error .portClosed, t) else none

/-- What can happen next. -/
inductive Event where
  /-- The loop's read of a frame returns. -/
  | readReturns (result : Except KissError (List UInt8))
  /-- The loop takes its next step. -/
  | receiveLoop
  /-- The select of a waiting caller takes a case. -/
  | receive (caller : ℕ) (ready : SelectCase)
  /-- Close sets its flag and closes the port. -/
  | close

/-- One step of any party; a step that is not ready changes nothing. -/
def TNC.step (config : TNCConfig) (t : TNC) : Event → TNC
  | .readReturns result =>
    match t.loop with
    | .reading =>
      match result with
      | .ok frame => { t with loop := .decoding frame }
      | .error err => { t with loop := .readFailed err }
    | _ => t
  | .receiveLoop => t.receiveLoop
  | .receive caller ready => ((t.receive config caller ready).map Prod.snd).getD t
  | .close => { t with closed := true }

section refinement

variable {config : TNCConfig} {t : TNC}

/-- The stage of a producer that has the payload in its hands. -/
def LoopStage.toStage : LoopStage → Stage (List UInt8)
  | .offering data => .offering data
  | .makingRoom data => .makingRoom data
  | .sending data => .sending data
  | _ => .idle

/-- The TNC seen from its frame channel. -/
def TNC.frames (t : TNC) : Channel ℕ (List UInt8) :=
  ⟨t.rxCh, t.loop.toStage, t.decoded, t.departed⟩

/-- What an event does to the frame channel. -/
def frameAction (t : TNC) : Event → Option (Action ℕ (List UInt8))
  | .receiveLoop =>
    match t.loop with
    | .decoding frame => (decode frame).toOption.map .produce
    | .offering _ => some .proceed
    | .makingRoom _ => some .proceed
    | .sending _ => some .proceed
    | _ => none
  | .receive caller .rxCh => some (.take caller)
  | _ => none

theorem frames_receiveLoop (t : TNC) :
    t.receiveLoop.frames =
      run (Channel.perform rxChCapacity) t.frames (frameAction t .receiveLoop).toList := by
  cases hloop : t.loop with
  | head =>
    simp only [TNC.receiveLoop, frameAction, hloop, Option.toList_none, run_nil]
    split <;> simp [TNC.frames, hloop, LoopStage.toStage]
  | reading => simp [TNC.receiveLoop, frameAction, hloop]
  | readFailed err =>
    simp only [TNC.receiveLoop, frameAction, hloop, Option.toList_none, run_nil]
    split <;> simp [TNC.frames, hloop, LoopStage.toStage]
  | reporting err =>
    simp only [TNC.receiveLoop, frameAction, hloop, Option.toList_none, run_nil]
    split <;> simp [TNC.frames, hloop, LoopStage.toStage]
  | decoding frame =>
    cases hdecode : decode frame with
    | ok data =>
      simp [TNC.receiveLoop, frameAction, hloop, hdecode, TNC.frames, LoopStage.toStage,
        Channel.perform, Except.toOption]
    | error err =>
      simp [TNC.receiveLoop, frameAction, hloop, hdecode, TNC.frames, LoopStage.toStage,
        Except.toOption]
  | offering data =>
    simp only [TNC.receiveLoop, frameAction, hloop, Option.toList_some, run_cons, run_nil,
      Channel.perform, Channel.proceed, TNC.frames, LoopStage.toStage]
    split <;> rfl
  | makingRoom data =>
    simp only [TNC.receiveLoop, frameAction, hloop, Option.toList_some, run_cons, run_nil,
      Channel.perform, Channel.proceed, TNC.frames, LoopStage.toStage]
    cases t.rxCh <;> rfl
  | sending data =>
    simp only [TNC.receiveLoop, frameAction, hloop, Option.toList_some, run_cons, run_nil,
      Channel.perform, Channel.proceed, TNC.frames, LoopStage.toStage]
    split
    · rfl
    · simp [hloop]
  | returned => simp [TNC.receiveLoop, frameAction, hloop]

theorem frames_receive (t : TNC) (caller : ℕ) (ready : SelectCase) :
    (t.step config (.receive caller ready)).frames =
      run (Channel.perform rxChCapacity) t.frames
        (frameAction t (.receive caller ready)).toList := by
  cases ready with
  | rxCh =>
    cases hrx : t.rxCh with
    | nil => simp [TNC.step, TNC.receive, hrx, frameAction, Channel.perform, TNC.frames]
    | cons frame rest =>
      simp [TNC.step, TNC.receive, hrx, frameAction, Channel.perform, TNC.frames]
  | errCh =>
    cases herr : t.errCh <;> simp [TNC.step, TNC.receive, herr, frameAction, TNC.frames]
  | timer =>
    simp only [TNC.step, TNC.receive, frameAction, Option.toList_none, run_nil]
    split <;> rfl
  | done =>
    simp only [TNC.step, TNC.receive, frameAction, Option.toList_none, run_nil]
    split <;> rfl

/-- Every event is at most one step of the frame channel. -/
theorem frames_step (t : TNC) (e : Event) :
    (t.step config e).frames =
      run (Channel.perform rxChCapacity) t.frames (frameAction t e).toList := by
  cases e with
  | readReturns result =>
    simp only [TNC.step, frameAction, Option.toList_none, run_nil]
    split
    · rename_i hloop
      split <;> simp [TNC.frames, hloop, LoopStage.toStage]
    · rfl
  | receiveLoop => exact frames_receiveLoop t
  | receive caller ready => exact frames_receive t caller ready
  | close => rfl

/-- What the run of the TNC does to its frame channel. -/
def frameActions (config : TNCConfig) (events : List Event) : List (Action ℕ (List UInt8)) :=
  labelsOf (TNC.step config) frameAction opened events

theorem frames_run (config : TNCConfig) (events : List Event) :
    (run (TNC.step config) opened events).frames =
      run (Channel.perform rxChCapacity) .empty (frameActions config events) :=
  run_labelsOf frames_step opened events

theorem sound_frames (config : TNCConfig) (events : List Event) :
    (run (TNC.step config) opened events).frames.Sound rxChCapacity := by
  rw [frames_run]
  exact Channel.sound_run (by decide) _

/-- A payload enters the hands of the loop when a frame decodes to it. -/
theorem decoding_of_produce {e : Event} {data : List UInt8}
    (h : frameAction t e = some (.produce data)) :
    e = .receiveLoop ∧ ∃ frame, t.loop = .decoding frame ∧ decode frame = .ok data := by
  cases e with
  | readReturns result => cases h
  | close => cases h
  | receive caller ready => cases ready <;> simp [frameAction] at h
  | receiveLoop =>
    cases hloop : t.loop with
    | decoding frame =>
      cases hdecode : decode frame with
      | ok decoded =>
        simp only [frameAction, hloop, hdecode, Except.toOption, Option.map_some,
          Option.some.injEq, Action.produce.injEq] at h
        exact ⟨rfl, frame, rfl, by rw [← h]; exact hdecode⟩
      | error err => simp [frameAction, hloop, hdecode, Except.toOption] at h
    | _ => simp [frameAction, hloop] at h

/-- A frame that is dropped leaves the frame channel in its next step. -/
theorem frameAction_of_dropped {e : Event} {x : List UInt8}
    (h : (t.step config e).departed = t.departed ++ [.dropped x]) :
    ∃ a, (t.frames.perform rxChCapacity a).departed = t.frames.departed ++ [.dropped x] := by
  have hstep := congrArg Channel.departed (@frames_step config t e)
  have hdeparted : (t.step config e).frames.departed = t.frames.departed ++ [.dropped x] := h
  rw [hdeparted] at hstep
  cases ha : frameAction t e with
  | none => simp [ha] at hstep
  | some a =>
    rw [ha, Option.toList_some, run_cons, run_nil] at hstep
    exact ⟨a, hstep.symm⟩

end refinement

/-- Whatever the interleaving: the decoded frames are those that have left the
channel, those in it and the one in the loop's hands, in this order; the frames
returned stand at increasing positions among them; the channel keeps its bound,
and the send after making room finds room; and a frame is dropped, the oldest
one left, only when a newer one was decoded while the channel was full. -/
theorem receive_order (config : TNCConfig) (events : List Event) :
    let t := run (TNC.step config) opened events
    t.departed.map Departure.item ++ t.rxCh ++ t.frames.inHand = t.decoded ∧
      (∃ positions : List (Fin t.decoded.length),
        t.received = positions.map (fun i => t.decoded[i]) ∧
          positions.Pairwise (· < ·)) ∧
      t.rxCh.length ≤ 16 ∧
      (∀ data, t.loop = .sending data → t.rxCh.length < 16) ∧
      ∀ e x, (t.step config e).departed = t.departed ++ [.dropped x] →
        ∃ early frame data late, events = early ++ .receiveLoop :: late ∧
          let earlier := run (TNC.step config) opened early
          earlier.loop = .decoding frame ∧ decode frame = .ok data ∧
            earlier.rxCh.length = 16 ∧ t.decoded = earlier.decoded ++ [data] ∧
            earlier.decoded[t.departed.length]? = some x := by
  intro t
  have hsound := sound_frames config events
  refine ⟨hsound.conserved, ?_, hsound.bounded, ?_, ?_⟩
  · exact List.sublist_eq_map_getElem hsound.takenItems_sublist
  · intro data hdata
    exact hsound.room data (by rw [TNC.frames, hdata]; rfl)
  · intro e x hdropped
    obtain ⟨a, ha⟩ := frameAction_of_dropped hdropped
    have hrun := frames_run config events
    rw [hrun] at ha
    obtain ⟨early, data, late, hactions, -, hfull, hproduced, holdest⟩ :=
      Channel.produced_later_of_dropped (by decide) ha
    obtain ⟨first, i, second, hevents, hfirst, hi⟩ := exists_of_labelsOf_eq hactions
    obtain ⟨rfl, frame, hloop, hdecode⟩ := decoding_of_produce hi
    have hearly := frames_run config first
    rw [frameActions, hfirst] at hearly
    rw [← hearly, ← hrun] at hproduced holdest
    rw [← hearly] at hfull
    exact ⟨first, frame, data, second, hevents, hloop, hdecode, hfull, hproduced, holdest⟩

end CislunarDtn.TncChannels
