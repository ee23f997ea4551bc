import CislunarDtn.BroadcastChannels
import CislunarDtn.LabelledRuns
import CislunarDtn.ManagementApis

/-!
# Event streams

The event bus of the management API and the streams its clients read over
`GET /events`. A stream has its own receiver of the bus; each poll of it gives
the client the next event as a frame, or a warning with the number of events
that the bus has dropped before the stream got to them. The frames of a stream
account for what was published since the client connected, without a gap.
-/

namespace CislunarDtn.EventStreams

open BroadcastChannels DecimalTexts LabelledRuns ManagementApis

/-- Activity of a link to a neighbor. -/
inductive LinkActivity where
  /-- Capable of carrying traffic. -/
  | active
  /-- No connectivity. -/
  | inactive

/-- What was done to the contact plan. -/
inductive ContactAction where
  /-- A contact was added. -/
  | added
  /-- A contact was removed. -/
  | removed

/-- A contact in an event. -/
structure ContactSummary where
  /-- Node that sends. -/
  sourceNode : UInt64
  /-- Node that receives. -/
  destNode : UInt64
  /-- Start in seconds of the Unix epoch. -/
  startTime : ℤ
  /-- End in seconds of the Unix epoch. -/
  endTime : ℤ

/-- Events of the engine, each with its time in nanoseconds of the Unix epoch. -/
inductive DtnEvent where
  /-- A link became active or inactive. -/
  | linkStateChange (timestamp : ℤ) (neighborNode : UInt64) (linkId : Text)
    (newState : LinkActivity)
  /-- The contact plan was changed. -/
  | contactPlanChange (timestamp : ℤ) (action : ContactAction) (contact : ContactSummary)
  /-- The engine went to another state. -/
  | engineStateChange (timestamp : ℤ) (oldState newState : EngineState) (reason : Option Text)

/-- A frame of a stream: the type of the event and its data. -/
structure Event where
  /-- Type of the event. -/
  event : Text
  /-- Its payload. -/
  data : Text

/-- What a poll of a stream gives. -/
inductive Poll where
  /-- A frame, or the end of the stream. -/
  | ready (item : Option Event)
  /-- Nothing yet. -/
  | pending

/-- The type a frame names for each kind of event. -/
def eventType : DtnEvent → Text
  | .linkStateChange .. => chars "link_state_change"
  | .contactPlanChange .. => chars "contact_plan_change"
  | .engineStateChange .. => chars "engine_state_change"

/-- The frame for events that were missed. -/
def warning (n : ℕ) : Event :=
  ⟨chars "warning", chars "\x7b\"lagged_events\": " ++ decimal n ++ chars "\x7d"⟩

theorem eventType_ne_warning (e : DtnEvent) : eventType e ≠ chars "warning" := by
  cases e <;> exact of_decide_eq_true rfl

/-- A stream as the server and its client see it. -/
structure EventStream where
  /-- Position of its receiver. -/
  rx : ℕ
  /-- The client is still connected and the stream has not ended. -/
  connected : Bool
  /-- Frames the client has got. -/
  frames : List Event

/-- The bus and the streams, in the order in which their clients connected. -/
structure Server where
  /-- The bus. -/
  eventBus : Channel DtnEvent
  /-- The streams. -/
  streams : List EventStream

/-- What happens to a server. -/
inductive Step where
  /-- The adapter publishes an event. -/
  | publish (event : DtnEvent)
  /-- A client connects. -/
  | getEvents
  /-- A stream is polled. -/
  | poll (i : ℕ)
  /-- A client disconnects. -/
  | disconnect (i : ℕ)
  /-- The bus goes away. -/
  | drop

namespace EventBus

/-- A bus that keeps as many events as the channel was made for. -/
def new (kept : ℕ) : Channel DtnEvent := ⟨[], kept, false⟩

/-- Publish an event. Without a receiver the channel refuses it, which is ignored. -/
def publish (bus : Channel DtnEvent) (receivers : Bool) (event : DtnEvent) : Channel DtnEvent :=
  if receivers then bus.send event else bus

end EventBus

variable (toString : DtnEvent → Option Text)

/-- The frame of an event. -/
def frame (event : DtnEvent) : Event :=
  ⟨eventType event, (toString event).getD (chars "\x7b\x7d")⟩

/-- Poll a stream, and where its receiver is afterwards. -/
def pollNext (bus : Channel DtnEvent) (rx : ℕ) : Poll × ℕ :=
  match bus.tryRecv rx with
  | (.message event, next) => (.ready (some (frame toString event)), next)
  | (.empty, next) => (.pending, next)
  | (.lagged n, next) => (.ready (some (warning n)), next)
  | (.closed, next) => (.ready none, next)

/-- A stream after it is polled: a frame goes to the client, and the end of the
stream disconnects it. -/
def EventStream.poll (bus : Channel DtnEvent) (stream : EventStream) : EventStream :=
  if stream.connected then
    match pollNext toString bus stream.rx with
    | (.ready (some event), next) => ⟨next, true, stream.frames ++ [event]⟩
    | (.ready none, next) => ⟨next, false, stream.frames⟩
    | (.pending, next) => ⟨next, true, stream.frames⟩
  else stream

/-- A stream whose client is gone. -/
def EventStream.disconnect (stream : EventStream) : EventStream :=
  { stream with connected := false }

namespace Server

/-- A server without clients. -/
def new (kept : ℕ) : Server := ⟨EventBus.new kept, []⟩

/-- Some stream has a receiver. -/
def receivers (s : Server) : Bool := s.streams.any (·.connected)

/-- Take a step. Without the bus nobody can publish or connect. -/
def step (s : Server) : Step → Server
  | .publish event =>
    if s.eventBus.closed then s
    else { s with eventBus := EventBus.publish s.eventBus s.receivers event }
  | .getEvents =>
    if s.eventBus.closed then s
    else { s with streams := s.streams ++ [⟨s.eventBus.subscribe, true, []⟩] }
  | .poll i => { s with streams := s.streams.modify i (EventStream.poll toString s.eventBus) }
  | .disconnect i => { s with streams := s.streams.modify i EventStream.disconnect }
  | .drop => { s with eventBus := { s.eventBus with closed := true } }

/-- The event that a step publishes. -/
def published (s : Server) : Step → Option DtnEvent
  | .publish event => if s.eventBus.closed then none else some event
  | _ => none

end Server

/-- Frames account for events: one frame for each event in order, or a warning
with the number of those that are left out. -/
inductive Accounts : List Event → List DtnEvent → Prop
  /-- No frame accounts for no event. -/
  | nil : Accounts [] []
  /-- A frame accounts for its event. -/
  | event {frames : List Event} {events : List DtnEvent} (event : DtnEvent) :
    Accounts frames events → Accounts (frames ++ [frame toString event]) (events ++ [event])
  /-- A warning accounts for the events it counts. -/
  | missed {frames : List Event} {events : List DtnEvent} (missed : List DtnEvent) :
    Accounts frames events → Accounts (frames ++ [warning missed.length]) (events ++ missed)

variable {toString}

/-- Frames without a warning are those of the events they account for. -/
theorem Accounts.eq_map {frames : List Event} {events : List DtnEvent}
    (h : Accounts toString frames events) (hno : ∀ f ∈ frames, f.event ≠ chars "warning") :
    frames = events.map (frame toString) := by
  induction h with
  | nil => rfl
  | event event _ ih =>
    rw [ih fun f hf => hno f (List.mem_append_left _ hf), List.map_append]
    rfl
  | missed missed _ _ =>
    exact absurd rfl (hno _ (List.mem_append_right _ (List.mem_singleton_self _)))

section polls

variable {bus : Channel DtnEvent} {stream : EventStream}

/-- What a poll of a connected stream does. -/
theorem EventStream.poll_cases (toString : DtnEvent → Option Text) (bus : Channel DtnEvent)
    (h : stream.connected = true) :
    (∃ event, bus.unread stream.rx = event :: bus.unread (stream.poll toString bus).rx ∧
      (stream.poll toString bus).connected = true ∧
        (stream.poll toString bus).frames = stream.frames ++ [frame toString event] ∧
          (bus.unread stream.rx).length ≤ bus.kept) ∨
      (∃ missed, bus.unread stream.rx = missed ++ bus.unread (stream.poll toString bus).rx ∧
        (stream.poll toString bus).connected = true ∧
          (stream.poll toString bus).frames = stream.frames ++ [warning missed.length] ∧
            0 < missed.length ∧ bus.kept < (bus.unread stream.rx).length) ∨
        bus.unread stream.rx = [] ∧ (stream.poll toString bus).rx = stream.rx ∧
          (stream.poll toString bus).frames = stream.frames := by
  unfold EventStream.poll pollNext
  rw [if_pos h]
  rcases hr : bus.tryRecv stream.rx with ⟨received, next⟩
  have hfst : (bus.tryRecv stream.rx).1 = received := by rw [hr]
  cases received with
  | message event =>
    obtain ⟨hunread, hle⟩ := Channel.unread_of_message hfst
    rw [hr] at hunread
    exact .inl ⟨event, hunread, rfl, rfl, hle⟩
  | lagged n =>
    obtain ⟨missed, rfl, hunread, hpos, hsum⟩ := Channel.unread_of_lagged hfst
    rw [hr] at hunread
    exact .inr (.inl ⟨missed, hunread, rfl, rfl, hpos, by omega⟩)
  | empty =>
    obtain ⟨hnext, hunread⟩ := Channel.unread_of_empty (.inl hfst)
    rw [hr] at hnext
    exact .inr (.inr ⟨hunread, hnext, rfl⟩)
  | closed =>
    obtain ⟨hnext, hunread⟩ := Channel.unread_of_empty (.inr hfst)
    rw [hr] at hnext
    exact .inr (.inr ⟨hunread, hnext, rfl⟩)

theorem EventStream.poll_of_not_connected (h : ¬ stream.connected = true) :
    stream.poll toString bus = stream := if_neg h

/-- A poll keeps the receiver within what was sent. -/
theorem EventStream.rx_poll_le (h : stream.rx ≤ bus.sent.length) :
    (stream.poll toString bus).rx ≤ bus.sent.length := by
  have hle := Channel.tryRecv_le h
  unfold EventStream.poll pollNext
  split
  · rcases hr : bus.tryRecv stream.rx with ⟨received, next⟩
    rw [hr] at hle
    cases received <;> exact hle
  · exact h

/-- A poll gives a warning exactly where more is unread than is kept. -/
theorem EventStream.unwarned_poll_iff :
    (∀ f ∈ (stream.poll toString bus).frames, f.event ≠ chars "warning") ↔
      (∀ f ∈ stream.frames, f.event ≠ chars "warning") ∧
        (stream.connected = true → (bus.unread stream.rx).length ≤ bus.kept) := by
  by_cases h : stream.connected = true
  · rcases EventStream.poll_cases toString bus h with
      ⟨event, _, _, hframes, hle⟩ | ⟨missed, _, _, hframes, _, hlt⟩ | ⟨hunread, _, hframes⟩
    · rw [hframes, List.forall_mem_append, List.forall_mem_singleton]
      exact ⟨fun hno => ⟨hno.1, fun _ => hle⟩, fun hno => ⟨hno.1, eventType_ne_warning event⟩⟩
    · rw [hframes, List.forall_mem_append, List.forall_mem_singleton]
      exact ⟨fun hno => absurd rfl hno.2, fun hno => absurd (hno.2 h) (Nat.not_le_of_lt hlt)⟩
    · rw [hframes, hunread]
      exact ⟨fun hno => ⟨hno, fun _ => Nat.zero_le _⟩, fun hno => hno.1⟩
  · rw [EventStream.poll_of_not_connected h]
    exact ⟨fun hno => ⟨hno, fun hc => absurd hc h⟩, fun hno => hno.1⟩

/-- A stream's frames account for the first of the events, and the others are
unread as long as the client is connected. -/
def EventStream.Follows (toString : DtnEvent → Option Text) (bus : Channel DtnEvent)
    (stream : EventStream) (events : List DtnEvent) : Prop :=
  ∃ accounted rest, Accounts toString stream.frames accounted ∧ events = accounted ++ rest ∧
    stream.rx ≤ bus.sent.length ∧ (stream.connected = true → bus.unread stream.rx = rest)

namespace EventStream.Follows

variable {events : List DtnEvent}

theorem subscribe : EventStream.Follows toString bus ⟨bus.subscribe, true, []⟩ [] :=
  ⟨[], [], .nil, rfl, Nat.le_refl _, fun _ => Channel.unread_subscribe⟩

theorem poll (h : stream.Follows toString bus events) :
    (stream.poll toString bus).Follows toString bus events := by
  obtain ⟨accounted, rest, haccounts, rfl, hle, hrest⟩ := h
  by_cases hc : stream.connected = true
  · have hlepoll : (stream.poll toString bus).rx ≤ bus.sent.length := EventStream.rx_poll_le hle
    rcases EventStream.poll_cases toString bus hc with
      ⟨event, hunread, _, hframes, _⟩ | ⟨missed, hunread, _, hframes, _⟩ | ⟨_, hrx, hframes⟩
    · refine ⟨accounted ++ [event], bus.unread (stream.poll toString bus).rx, ?_, ?_, hlepoll,
        fun _ => rfl⟩
      · rw [hframes]
        exact haccounts.event event
      · rw [← hrest hc, hunread, List.append_assoc]
        rfl
    · refine ⟨accounted ++ missed, bus.unread (stream.poll toString bus).rx, ?_, ?_, hlepoll,
        fun _ => rfl⟩
      · rw [hframes]
        exact haccounts.missed missed
      · rw [← hrest hc, hunread, List.append_assoc]
    · refine ⟨accounted, rest, ?_, rfl, hlepoll, fun _ => ?_⟩
      · rw [hframes]
        exact haccounts
      · rw [hrx]
        exact hrest hc
  · rw [EventStream.poll_of_not_connected hc]
    exact ⟨accounted, rest, haccounts, rfl, hle, hrest⟩

theorem disconnect (h : stream.Follows toString bus events) :
    stream.disconnect.Follows toString bus events := by
  obtain ⟨accounted, rest, haccounts, hevents, hle, _⟩ := h
  exact ⟨accounted, rest, haccounts, hevents, hle, fun hc => absurd hc Bool.false_ne_true⟩

theorem send (h : stream.Follows toString bus events) (event : DtnEvent) :
    stream.Follows toString (bus.send event) (events ++ [event]) := by
  obtain ⟨accounted, rest, haccounts, rfl, hle, hrest⟩ := h
  refine ⟨accounted, rest ++ [event], haccounts, List.append_assoc .., ?_, fun hc => ?_⟩
  · rw [Channel.send, List.length_append]
    exact Nat.le_add_right_of_le hle
  · rw [Channel.unread_send hle, hrest hc]

/-- A stream without a client has nothing to do with events that are not sent. -/
theorem extend (h : stream.Follows toString bus events) (hc : ¬ stream.connected = true)
    (event : DtnEvent) : stream.Follows toString bus (events ++ [event]) := by
  obtain ⟨accounted, rest, haccounts, rfl, hle, _⟩ := h
  exact ⟨accounted, rest ++ [event], haccounts, List.append_assoc .., hle,
    fun hconn => absurd hconn hc⟩

end EventStream.Follows

end polls

namespace Server

variable {s : Server} {i : ℕ}

/-- The stream of a client follows what was published. -/
def Follows (toString : DtnEvent → Option Text) (s : Server) (i : ℕ)
    (events : List DtnEvent) : Prop :=
  ∃ stream, s.streams[i]? = some stream ∧ stream.Follows toString s.eventBus events

/-- A stream's place after what happens to the stream of one place. -/
theorem getElem?_modify {streams : List EventStream} {stream : EventStream}
    (h : streams[i]? = some stream) (j : ℕ) (f : EventStream → EventStream) :
    (streams.modify j f)[i]? = some (if j = i then f stream else stream) := by
  rw [List.getElem?_modify, h]
  rfl

/-- A connected stream with nothing unread accounts for everything. -/
theorem Follows.accounts {events : List DtnEvent} (h : s.Follows toString i events)
    {stream : EventStream} (hget : s.streams[i]? = some stream) (hc : stream.connected = true)
    (hunread : s.eventBus.unread stream.rx = []) : Accounts toString stream.frames events := by
  obtain ⟨other, hother, accounted, rest, haccounts, hevents, _, hrest⟩ := h
  obtain rfl : stream = other := Option.some.inj (hget.symm.trans hother)
  have hnil : rest = [] := (hrest hc).symm.trans hunread
  rw [hevents, hnil, List.append_nil]
  exact haccounts

theorem follows_step {events : List DtnEvent} (h : s.Follows toString i events) (a : Step) :
    (s.step toString a).Follows toString i (events ++ (s.published a).toList) := by
  obtain ⟨stream, hget, hfollows⟩ := h
  have hsame : events ++ [] = events := List.append_nil events
  cases a with
  | publish event =>
    simp only [Server.step, published]
    split
    · exact ⟨stream, hget, hsame.symm ▸ hfollows⟩
    refine ⟨stream, hget, ?_⟩
    unfold EventBus.publish
    split
    · exact hfollows.send event
    next hno =>
      refine hfollows.extend (fun hc => hno ?_) event
      exact List.any_eq_true.mpr ⟨stream, List.mem_of_getElem? hget, hc⟩
  | getEvents =>
    simp only [Server.step, published, Option.toList_none, hsame]
    split
    · exact ⟨stream, hget, hfollows⟩
    · refine ⟨stream, ?_, hfollows⟩
      rw [List.getElem?_append_left (List.getElem?_eq_some_iff.mp hget).1]
      exact hget
  | poll j =>
    simp only [published, Option.toList_none, hsame]
    refine ⟨_, getElem?_modify hget j _, ?_⟩
    split
    · exact hfollows.poll
    · exact hfollows
  | disconnect j =>
    simp only [published, Option.toList_none, hsame]
    refine ⟨_, getElem?_modify hget j _, ?_⟩
    split
    · exact hfollows.disconnect
    · exact hfollows
  | drop =>
    simp only [published, Option.toList_none, hsame]
    exact ⟨stream, hget, hfollows⟩

/-- A stream follows what a run publishes. -/
theorem follows_run {events : List DtnEvent} (h : s.Follows toString i events)
    (steps : List Step) : (run (step toString) s steps).Follows toString i
      (events ++ labelsOf (step toString) published s steps) := by
  induction steps generalizing s events with
  | nil =>
    rw [run_nil, labelsOf, List.append_nil]
    exact h
  | cons a steps ih =>
    rw [run_cons, labelsOf, ← List.append_assoc]
    exact ih (follows_step h a)

/-- A client that connects to a bus follows what is published from then on. -/
theorem follows_getEvents (h : s.eventBus.closed = false) :
    (s.step toString .getEvents).Follows toString s.streams.length [] := by
  simp only [Server.step, h, Bool.false_eq_true, if_false]
  exact ⟨_, List.getElem?_concat_length, EventStream.Follows.subscribe⟩

/-- The frames of a stream have no warning among them. -/
def Unwarned (i : ℕ) (s : Server) : Prop :=
  ∀ stream, s.streams[i]? = some stream → ∀ f ∈ stream.frames, f.event ≠ chars "warning"

/-- When the stream is polled, no more of what was published is unread than the
bus keeps. -/
def InTime (kept i : ℕ) (s : Server) (a : Step) : Prop :=
  a = .poll i → ∀ stream, s.streams[i]? = some stream → stream.connected = true →
    (s.eventBus.unread stream.rx).length ≤ kept

theorem unwarned_iff {stream : EventStream} (h : s.streams[i]? = some stream) :
    Unwarned i s ↔ ∀ f ∈ stream.frames, f.event ≠ chars "warning" := by
  constructor
  · intro hno
    exact hno stream h
  · intro hno other hother
    have heq : stream = other := Option.some.inj (h.symm.trans hother)
    exact heq ▸ hno

theorem inTime_of_ne {a : Step} (h : a ≠ .poll i) (kept : ℕ) : InTime kept i s a :=
  fun ha => absurd ha h

/-- A client that has just connected has got no warning. -/
theorem unwarned_step_of_none (h : s.streams[i]? = none) (a : Step) :
    Unwarned i (s.step toString a) := by
  have hmodify : ∀ j f, (s.streams.modify j f)[i]? = none := by
    intro j f
    rw [List.getElem?_modify, h]
    rfl
  intro stream hget f hf
  cases a with
  | publish event =>
    simp only [step] at hget
    split at hget <;> exact absurd (h.symm.trans hget) (Option.some_ne_none _).symm
  | getEvents =>
    simp only [step] at hget
    split at hget
    · exact absurd (h.symm.trans hget) (Option.some_ne_none _).symm
    rw [List.getElem?_append_right (List.getElem?_eq_none_iff.mp h)] at hget
    have hnew := List.eq_of_mem_singleton (List.mem_of_getElem? hget)
    rw [hnew] at hf
    exact absurd hf List.not_mem_nil
  | poll j => exact absurd ((hmodify j _).symm.trans hget) (Option.some_ne_none _).symm
  | disconnect j => exact absurd ((hmodify j _).symm.trans hget) (Option.some_ne_none _).symm
  | drop => exact absurd (h.symm.trans hget) (Option.some_ne_none _).symm

/-- What no poll does leaves a stream's frames alone. -/
theorem frames_step (toString : DtnEvent → Option Text) {stream : EventStream}
    (h : s.streams[i]? = some stream) {a : Step} (ha : a ≠ .poll i) :
    ∃ after, (s.step toString a).streams[i]? = some after ∧ after.frames = stream.frames := by
  cases a with
  | publish event =>
    refine ⟨stream, ?_, rfl⟩
    simp only [step]
    split <;> exact h
  | getEvents =>
    refine ⟨stream, ?_, rfl⟩
    simp only [step]
    split
    · exact h
    · rw [List.getElem?_append_left (List.getElem?_eq_some_iff.mp h).1]
      exact h
  | poll j =>
    have hne : ¬ j = i := fun hj => ha (congrArg Step.poll hj)
    exact ⟨stream, (getElem?_modify h j _).trans (by rw [if_neg hne]), rfl⟩
  | disconnect j =>
    refine ⟨_, getElem?_modify h j _, ?_⟩
    split <;> rfl
  | drop => exact ⟨stream, h, rfl⟩

theorem unwarned_step_iff (a : Step) : Unwarned i (s.step toString a) ↔
    Unwarned i s ∧ InTime s.eventBus.kept i s a := by
  cases hget : s.streams[i]? with
  | none =>
    have hnone : ∀ stream, s.streams[i]? ≠ some stream := fun stream h =>
      Option.some_ne_none _ (h.symm.trans hget)
    exact iff_of_true (unwarned_step_of_none hget a)
      ⟨fun stream h => absurd h (hnone stream), fun _ stream h => absurd h (hnone stream)⟩
  | some stream =>
    by_cases ha : a = .poll i
    · have hafter : (s.step toString a).streams[i]? = some (stream.poll toString s.eventBus) := by
        rw [ha]
        exact (getElem?_modify hget i _).trans (by rw [if_pos rfl])
      rw [unwarned_iff hafter, unwarned_iff hget, EventStream.unwarned_poll_iff]
      refine and_congr_right fun _ => ⟨fun hle _ other hother => ?_, fun hle => hle ha stream hget⟩
      have heq : stream = other := Option.some.inj (hget.symm.trans hother)
      exact heq ▸ hle
    · obtain ⟨after, hafter, hframes⟩ := frames_step toString hget ha
      rw [unwarned_iff hafter, unwarned_iff hget, hframes]
      exact (and_iff_left (inTime_of_ne ha _)).symm

theorem kept_step (a : Step) : (s.step toString a).eventBus.kept = s.eventBus.kept := by
  cases a with
  | publish event =>
    simp only [step, EventBus.publish]
    split
    · rfl
    · split <;> rfl
  | getEvents =>
    simp only [step]
    split <;> rfl
  | poll j => rfl
  | disconnect j => rfl
  | drop => rfl

/-- A stream gets no warning exactly if it is polled in time. -/
theorem unwarned_run_iff {kept : ℕ} (hkept : s.eventBus.kept = kept) (steps : List Step) :
    Unwarned i (run (step toString) s steps) ↔
      Unwarned i s ∧ Along (step toString) (InTime kept i) s steps := by
  have hall : Unwarned i (run (step toString) s steps) ↔
      Unwarned i s ∧ Along (step toString) (fun s a => InTime s.eventBus.kept i s a) s steps :=
    run_iff_along (fun s a => unwarned_step_iff a) steps
  have hcongr : ∀ (s : Server) (a : Step), s.eventBus.kept = kept →
      (InTime s.eventBus.kept i s a ↔ InTime kept i s a) := fun s a h => by rw [h]
  rw [hall, along_congr_of_invariant hcongr (fun s a h => (kept_step a).trans h) hkept steps]

/-- A stream that is polled as often as it has events unread accounts for all of
them: each poll leaves less unread, and none is left when the stream ends. -/
theorem accounts_polls {stream : EventStream} (hget : s.streams[i]? = some stream) {m : ℕ}
    (hm : stream.connected = true → (s.eventBus.unread stream.rx).length ≤ m)
    {events : List DtnEvent} (h : s.Follows toString i events)
    (hended : ¬ stream.connected = true → Accounts toString stream.frames events) :
    ∃ after, (run (step toString) s (List.replicate m (.poll i))).streams[i]? = some after ∧
      Accounts toString after.frames events := by
  induction m generalizing s stream with
  | zero =>
    refine ⟨stream, hget, ?_⟩
    by_cases hc : stream.connected = true
    · exact h.accounts hget hc (List.eq_nil_of_length_eq_zero (Nat.le_zero.mp (hm hc)))
    · exact hended hc
  | succ m ih =>
    have hafter : (s.step toString (.poll i)).streams[i]? =
        some (stream.poll toString s.eventBus) :=
      (getElem?_modify hget i _).trans (by rw [if_pos rfl])
    have hfollows : (s.step toString (.poll i)).Follows toString i events := by
      have hstep := follows_step h (.poll i)
      have hnone : s.published (.poll i) = none := rfl
      rwa [hnone, Option.toList_none, List.append_nil] at hstep
    rw [List.replicate_succ, run_cons]
    by_cases hc : stream.connected = true
    · have hlen := hm hc
      rcases EventStream.poll_cases toString s.eventBus hc with
        ⟨event, hunread, hconn, _, _⟩ | ⟨missed, hunread, hconn, _, hpos, _⟩ |
          ⟨hunread, hrx, hframes⟩
      · rw [hunread, List.length_cons] at hlen
        exact ih hafter (fun _ => Nat.le_of_succ_le_succ hlen) hfollows
          fun hno => absurd hconn hno
      · rw [hunread, List.length_append] at hlen
        refine ih hafter (fun _ => ?_) hfollows fun hno => absurd hconn hno
        have hrest : (s.eventBus.unread (stream.poll toString s.eventBus).rx).length ≤ m := by
          omega
        exact hrest
      · refine ih hafter (fun _ => ?_) hfollows fun _ => ?_
        · have hnil : s.eventBus.unread (stream.poll toString s.eventBus).rx = [] := by
            rw [hrx, hunread]
          exact (congrArg List.length hnil).le.trans (Nat.zero_le m)
        · rw [hframes]
          exact h.accounts hget hc hunread
    · rw [EventStream.poll_of_not_connected hc] at hafter
      exact ih hafter (fun hconn => absurd hconn hc) hfollows hended

/-- A link that becomes active. -/
def linkUp : DtnEvent :=
  .linkStateChange 1700000000000000000 20 (chars "ltp-to-orbiter") .active

/-- The payload of that event. -/
def linkUpJson : DtnEvent → Option Text := fun _ => some
  (chars "\x7b\"type\":\"LinkStateChange\",\"timestamp\":\"2023-11-14T22:13:20Z\"," ++
    chars "\"neighbor_node\":20,\"link_id\":\"ltp-to-orbiter\",\"new_state\":\"Active\"\x7d")

/-- A second client is polled after one event more than the bus keeps. -/
def pollLate : List Step := [.publish linkUp, .publish linkUp, .publish linkUp, .poll 1]

/-- The client learns of the event that was dropped. -/
example : (run (step linkUpJson) (new 2) (.getEvents :: .getEvents :: pollLate)).streams.map
    (·.frames) = [[], [warning 1]] := rfl

end Server

end CislunarDtn.EventStreams
