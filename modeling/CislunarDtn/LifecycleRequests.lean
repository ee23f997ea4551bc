import CislunarDtn.LabelledRuns
import CislunarDtn.ManagementApis

/-!
# Interleaved lifecycle requests

Requests to start, stop and restart the engine run beside each other. Each
holds the lock on the configuration to its end, so that the configuration
stays, and each takes the lock on the state machine twice at most: before it
calls the adapter, and with the answer. A call is in flight until its handler
has recorded the answer; a restart has nothing to record.
-/

namespace CislunarDtn.LifecycleRequests

open DecimalTexts IonDeployments LabelledRuns ManagementApis NetworkConfigurations

/-- A call of the adapter in flight. -/
structure Call where
  /-- What has been requested. -/
  kind : Lifecycle
  /-- The answer, once it is there. -/
  answer : Option (Except AbstractionError Unit)
  deriving DecidableEq

/-- The interface with its calls. -/
structure System where
  /-- What the handlers share. -/
  app : AppState
  /-- Calls in flight. -/
  calls : List Call
  /-- Answered calls, the last one first, and whether they have succeeded. -/
  history : List (Lifecycle × Bool)
  deriving DecidableEq

/-- Steps of the handlers. Handlers at the same point are interchangeable. -/
inductive Event where
  /-- A handler passes the checks and calls the adapter, or is refused. -/
  | request (kind : Lifecycle)
  /-- The adapter answers a call. -/
  | answer (kind : Lifecycle) (outcome : Except AbstractionError Unit)
  /-- A handler records the answer. -/
  | record (kind : Lifecycle) (outcome : Except AbstractionError Unit)

/-- Whether the configuration names a registered adapter. -/
def AdapterFound (s : AppState) : Prop := ∃ config ∈ s.config, config.backend ∈ s.registry

instance (s : AppState) : Decidable (AdapterFound s) :=
  inferInstanceAs (Decidable (∃ config ∈ s.config, config.backend ∈ s.registry))

/-- Check a request and call the adapter. -/
def request (kind : Lifecycle) (s : System) : System :=
  match configuredAdapter kind.missing kind.operation s.app with
  | .error _ => s
  | .ok _ =>
    match kind.enter s.app.machine with
    | (_, .error _) => s
    | (machine, .ok ()) =>
      { s with app := { s.app with machine }, calls := ⟨kind, none⟩ :: s.calls }

/-- Answer a call. The answer of a restart goes to the client at once. -/
def answer (kind : Lifecycle) (outcome : Except AbstractionError Unit) (s : System) : System :=
  if ⟨kind, none⟩ ∈ s.calls then
    { s with
      calls :=
        match kind with
        | .restart => s.calls.erase ⟨.restart, none⟩
        | kind => ⟨kind, some outcome⟩ :: s.calls.erase ⟨kind, none⟩
      history := (kind, outcome.isOk) :: s.history }
  else s

/-- Record the answer of a call. -/
def record (kind : Lifecycle) (outcome : Except AbstractionError Unit) (s : System) : System :=
  if ⟨kind, some outcome⟩ ∈ s.calls then
    { s with
      app := { s.app with machine := kind.record s.app.machine outcome }
      calls := s.calls.erase ⟨kind, some outcome⟩ }
  else s

/-- One step of a handler. -/
def step (s : System) : Event → System
  | .request kind => request kind s
  | .answer kind outcome => answer kind outcome s
  | .record kind outcome => record kind outcome s

/-- The interface before the first request, alone or after the serve command has
started the engine. -/
def initial (served : Bool) (registry : List Text) (config : Option NetworkConfiguration) :
    System :=
  ⟨{ AppState.new registry with config }, [], if served then [(.start, true)] else []⟩

section requests

variable {s : System} {kind : Lifecycle} {outcome : Except AbstractionError Unit}

theorem configuredAdapter_ok_iff (message operation : Text) (s : AppState) :
    (∃ name, configuredAdapter message operation s = .ok name) ↔ AdapterFound s := by
  unfold configuredAdapter AdapterFound registryGet
  cases s.config with
  | none => simp
  | some config => by_cases h : config.backend ∈ s.registry <;> simp [h]

/-- What a request does that is not refused. -/
theorem request_eq (kind : Lifecycle) (s : System) :
    request kind s =
      if AdapterFound s.app ∧ (kind.enter s.app.machine).2.isOk then
        { s with
          app := { s.app with machine := (kind.enter s.app.machine).1 }
          calls := ⟨kind, none⟩ :: s.calls }
      else s := by
  have hfound := configuredAdapter_ok_iff kind.missing kind.operation s.app
  unfold request
  cases hc : configuredAdapter kind.missing kind.operation s.app with
  | error e => simp [← hfound, hc]
  | ok name =>
    obtain ⟨machine, result⟩ := kind.enter s.app.machine
    cases result <;> simp [← hfound, hc, Except.toBool]

/-- A start is let through when the engine is stopped or has failed. -/
theorem enter_start (m : StateMachine) : (Lifecycle.start.enter m).2.isOk ↔
    m.state = .stopped ∨ m.state = .failed := by
  obtain ⟨state, reason⟩ := m
  cases state <;>
    simp [Lifecycle.enter, StateMachine.transitionTo, StateMachine.isValidTransition, Except.toBool]

/-- A stop is let through when the engine is running. -/
theorem enter_stop (m : StateMachine) : (Lifecycle.stop.enter m).2.isOk ↔ m.state = .running := by
  obtain ⟨state, reason⟩ := m
  cases state <;>
    simp [Lifecycle.enter, StateMachine.transitionTo, StateMachine.isValidTransition, Except.toBool]

/-- The handlers share the same adapter at every time. -/
theorem adapterFound_step (s : System) (e : Event) :
    AdapterFound (step s e).app ↔ AdapterFound s.app := by
  cases e with
  | request kind => rw [step, request_eq]; split <;> rfl
  | answer kind outcome => unfold step answer; dsimp only; split <;> rfl
  | record kind outcome => unfold step record; dsimp only; split <;> rfl

end requests

section sequential

/-- The steps of a request with nothing beside it. -/
def requestEvents (kind : Lifecycle) (outcome : Except AbstractionError Unit) : List Event :=
  [.request kind, .answer kind outcome, .record kind outcome]

/-- With nothing beside it, a request does what its handler does. -/
theorem run_requestEvents {s : System} (hs : s.calls = []) (kind : Lifecycle)
    (outcome : Except AbstractionError Unit) :
    (run step s (requestEvents kind outcome)).app =
        (lifecycleRequest kind (fun _ _ => outcome) s.app).state ∧
      (run step s (requestEvents kind outcome)).calls = [] := by
  obtain ⟨app, calls, history⟩ := s
  subst hs
  simp only [requestEvents, run_cons, run_nil, step, request, lifecycleRequest]
  cases configuredAdapter kind.missing kind.operation app with
  | error e => simp [answer, record]
  | ok name =>
    dsimp only
    obtain ⟨machine, result⟩ := kind.enter app.machine
    cases result with
    | error e => simp [answer, record]
    | ok _ => cases kind <;> simp [answer, record, Lifecycle.record]

end sequential

section phases

/-- Calls in flight that begin and end with a transition: all but restarts. -/
def paired (calls : List Call) : List Call := calls.filter (fun c => c.kind ≠ .restart)

/-- Which of these calls go with a state of the machine, and whether a stop has failed. -/
def Accompanies (wedged : Prop) (calls : List Call) : EngineState → Prop
  | .starting => ¬wedged ∧ ∃ answer, calls = [⟨.start, answer⟩]
  | .stopping => (∃ answer, calls = [⟨.stop, answer⟩] ∧ (wedged ↔ ∃ e, answer = some (.error e))) ∨
      wedged ∧ calls = []
  | _ => ¬wedged ∧ calls = []

/-- The machine goes with the calls in flight. -/
def Phased (s : System) : Prop :=
  Accompanies ((.stop, false) ∈ s.history) (paired s.calls) s.app.machine.state

variable {s : System}

@[simp]
theorem paired_nil : paired [] = [] := rfl

@[simp]
theorem paired_cons (c : Call) (calls : List Call) :
    paired (c :: calls) = if c.kind = .restart then paired calls else c :: paired calls := by
  by_cases h : c.kind = .restart <;> simp [paired, h]

theorem mem_paired {c : Call} {calls : List Call} :
    c ∈ paired calls ↔ c ∈ calls ∧ c.kind ≠ .restart := by
  simp [paired]

@[simp]
theorem paired_erase (c : Call) (calls : List Call) :
    paired (calls.erase c) = (paired calls).erase c := List.erase_filter.symm

theorem phased_initial (served : Bool) (registry : List Text)
    (config : Option NetworkConfiguration) : Phased (initial served registry config) := by
  cases served <;> simp [Phased, initial, AppState.new, StateMachine.new, Accompanies]

/-- A start in flight belongs to a starting engine. -/
theorem Phased.starting {a : Option (Except AbstractionError Unit)} (h : Phased s)
    (hc : ⟨.start, a⟩ ∈ s.calls) : s.app.machine.state = .starting ∧
      paired s.calls = [⟨.start, a⟩] ∧ (.stop, false) ∉ s.history := by
  have hmem : (⟨.start, a⟩ : Call) ∈ paired s.calls := mem_paired.mpr ⟨hc, by simp⟩
  unfold Phased at h
  cases hs : s.app.machine.state <;> rw [hs] at h <;> unfold Accompanies at h <;> grind

/-- A stop in flight belongs to a stopping engine. -/
theorem Phased.stopping {a : Option (Except AbstractionError Unit)} (h : Phased s)
    (hc : ⟨.stop, a⟩ ∈ s.calls) : s.app.machine.state = .stopping ∧
      paired s.calls = [⟨.stop, a⟩] ∧
      ((.stop, false) ∈ s.history ↔ ∃ e, a = some (.error e)) := by
  have hmem : (⟨.stop, a⟩ : Call) ∈ paired s.calls := mem_paired.mpr ⟨hc, by simp⟩
  unfold Phased at h
  cases hs : s.app.machine.state <;> rw [hs] at h <;> unfold Accompanies at h <;> grind

/-- A start or a stop is let through only if neither is in flight and no stop has failed. -/
theorem Phased.paired_of_pass (h : Phased s) {kind : Lifecycle} (hkind : kind ≠ .restart)
    (hpass : (kind.enter s.app.machine).2.isOk) :
    (.stop, false) ∉ s.history ∧ paired s.calls = [] := by
  unfold Phased at h
  cases kind with
  | restart => exact absurd rfl hkind
  | start =>
    rcases (enter_start _).mp hpass with hstate | hstate
    · rw [hstate] at h
      exact h
    · rw [hstate] at h
      exact h
  | stop =>
    rw [(enter_stop _).mp hpass] at h
    exact h

theorem phased_request (h : Phased s) (kind : Lifecycle) : Phased (request kind s) := by
  rw [request_eq]
  split
  case isFalse => exact h
  case isTrue hpass =>
    cases kind with
    | restart => simpa [Phased, Lifecycle.enter] using h
    | start =>
      obtain ⟨hwedged, hpaired⟩ := h.paired_of_pass (by simp) hpass.2
      rcases (enter_start _).mp hpass.2 with hstate | hstate <;>
        simp [Phased, Accompanies, Lifecycle.enter, StateMachine.transitionTo,
          StateMachine.isValidTransition, hstate, hwedged, hpaired]
    | stop =>
      obtain ⟨hwedged, hpaired⟩ := h.paired_of_pass (by simp) hpass.2
      simp [Phased, Accompanies, Lifecycle.enter, StateMachine.transitionTo,
        StateMachine.isValidTransition, (enter_stop _).mp hpass.2, hwedged, hpaired]

theorem phased_answer (h : Phased s) (kind : Lifecycle) (outcome : Except AbstractionError Unit) :
    Phased (answer kind outcome s) := by
  unfold answer
  split
  case isFalse => exact h
  case isTrue hmem =>
    cases kind with
    | restart =>
      have herase : (paired s.calls).erase ⟨.restart, none⟩ = paired s.calls :=
        List.erase_of_not_mem (by simp [mem_paired])
      simpa [Phased, herase] using h
    | start =>
      obtain ⟨hstate, hcalls, hwedged⟩ := h.starting hmem
      simp [Phased, Accompanies, hstate, hcalls, hwedged]
    | stop =>
      obtain ⟨hstate, hcalls, hwedged⟩ := h.stopping hmem
      cases outcome <;> simp [Phased, Accompanies, hstate, hcalls, hwedged, Except.toBool]

theorem phased_record (h : Phased s) (kind : Lifecycle) (outcome : Except AbstractionError Unit) :
    Phased (record kind outcome s) := by
  unfold record
  split
  case isFalse => exact h
  case isTrue hmem =>
    cases kind with
    | restart =>
      have herase : (paired s.calls).erase ⟨.restart, some outcome⟩ = paired s.calls :=
        List.erase_of_not_mem (by simp [mem_paired])
      simpa [Phased, herase, Lifecycle.record] using h
    | start =>
      obtain ⟨hstate, hcalls, hwedged⟩ := h.starting hmem
      cases outcome <;> simp [Phased, Accompanies, hstate, hcalls, hwedged, Lifecycle.record,
        StateMachine.transitionTo, StateMachine.transitionToFailed, StateMachine.isValidTransition]
    | stop =>
      obtain ⟨hstate, hcalls, hwedged⟩ := h.stopping hmem
      cases outcome <;> simp_all [Phased, Accompanies, Lifecycle.record,
        StateMachine.transitionTo, StateMachine.isValidTransition]

/-- Every step keeps the machine with the calls in flight. -/
theorem phased_step (s : System) (e : Event) (h : Phased s) : Phased (step s e) := by
  cases e with
  | request kind => exact phased_request h kind
  | answer kind outcome => exact phased_answer h kind outcome
  | record kind outcome => exact phased_record h kind outcome

end phases

section correspondence

/-- The last call that has succeeded is a start or a restart, and no stop came later. -/
def startedLast : List (Lifecycle × Bool) → Bool
  | [] => false
  | (.stop, _) :: _ => false
  | (_, true) :: _ => true
  | (_, false) :: history => startedLast history

/-- No two calls are in flight, and with none the engine is running by its
state exactly when the adapter has left it started. -/
def Corresponds (s : System) : Prop :=
  s.calls.length ≤ 1 ∧
    (s.calls = [] → (s.app.machine.state = .running ↔ startedLast s.history))

instance (s : System) : Decidable (Corresponds s) :=
  inferInstanceAs (Decidable (s.calls.length ≤ 1 ∧
    (s.calls = [] → (s.app.machine.state = .running ↔ startedLast s.history))))

/-- Restarts keep apart from the other calls, and succeed on a running engine only. -/
def Orderly (s : System) : Event → Prop
  | .request .restart => AdapterFound s.app → s.calls = []
  | .request kind => AdapterFound s.app ∧ (kind.enter s.app.machine).2.isOk →
      ⟨.restart, none⟩ ∉ s.calls
  | .answer .restart (.ok ()) => ⟨.restart, none⟩ ∈ s.calls → s.app.machine.state = .running
  | _ => True

/-- The machine corresponds to the answered calls, once the call in flight is recorded. -/
def Settling (s : System) : Prop :=
  match s.calls with
  | [] | [⟨.restart, none⟩] => s.app.machine.state = .running ↔ startedLast s.history
  | [⟨.start, none⟩] => startedLast s.history = false
  | [⟨.stop, none⟩] => True
  | [⟨.start, some outcome⟩] => startedLast s.history = outcome.isOk
  | [⟨.stop, some _⟩] => startedLast s.history = false
  | _ => False

variable {s : System}

theorem Settling.corresponds (h : Settling s) : Corresponds s := by
  unfold Settling at h
  unfold Corresponds
  split at h <;> simp_all

/-- The calls in flight are at most one, and an answered one is no restart. -/
theorem Settling.calls_cases (h : Settling s) : s.calls = [] ∨ s.calls = [⟨.restart, none⟩] ∨
    ∃ a, s.calls = [⟨.start, a⟩] ∨ s.calls = [⟨.stop, a⟩] := by
  unfold Settling at h
  split at h <;> simp_all

/-- No call accompanies a request that an orderly step lets through. -/
theorem Settling.calls_eq_nil (h : Settling s) (hp : Phased s) {kind : Lifecycle}
    (hpass : AdapterFound s.app ∧ (kind.enter s.app.machine).2.isOk)
    (ho : Orderly s (.request kind)) : s.calls = [] := by
  by_cases hkind : kind = .restart
  · subst hkind
    exact ho hpass.1
  · have hnone : ⟨.restart, none⟩ ∉ s.calls := by
      cases kind with
      | restart => exact absurd rfl hkind
      | start => exact ho hpass
      | stop => exact ho hpass
    have hpaired := (hp.paired_of_pass hkind hpass.2).2
    rcases h.calls_cases with hc | hc | ⟨a, hc | hc⟩
    · exact hc
    · simp [hc] at hnone
    · simp [hc] at hpaired
    · simp [hc] at hpaired

theorem settling_request (h : Settling s) (hp : Phased s) {kind : Lifecycle}
    (ho : Orderly s (.request kind)) : Settling (request kind s) := by
  rw [request_eq]
  split
  case isFalse => exact h
  case isTrue hpass =>
    have hcalls := h.calls_eq_nil hp hpass ho
    have hsettled : s.app.machine.state = .running ↔ startedLast s.history :=
      h.corresponds.2 hcalls
    cases kind with
    | restart => simpa [Settling, hcalls, Lifecycle.enter] using hsettled
    | stop => simp [Settling, hcalls]
    | start =>
      have hstate := (enter_start _).mp hpass.2
      have hidle : s.app.machine.state ≠ .running := by
        rcases hstate with hstate | hstate <;> simp [hstate]
      simp [Settling, hcalls, ← Bool.not_eq_true, ← hsettled, hidle]

/-- A request that goes through beside another call makes two of them. -/
theorem orderly_of_corresponds_request {kind : Lifecycle} (h : Corresponds (request kind s)) :
    Orderly s (.request kind) := by
  have hlength := h.1
  rw [request_eq] at hlength
  have hnil : AdapterFound s.app ∧ (kind.enter s.app.machine).2.isOk → s.calls = [] := by
    intro hpass
    rw [if_pos hpass] at hlength
    exact List.length_eq_zero_iff.mp (by simpa using hlength)
  cases kind with
  | restart => exact fun hfound => hnil ⟨hfound, rfl⟩
  | start => exact fun hpass => by simp [hnil hpass]
  | stop => exact fun hpass => by simp [hnil hpass]

theorem settling_answer (h : Settling s) {kind : Lifecycle}
    {outcome : Except AbstractionError Unit} (ho : Orderly s (.answer kind outcome)) :
    Settling (answer kind outcome s) := by
  unfold answer
  split
  case isFalse => exact h
  case isTrue hmem =>
    rcases h.calls_cases with hcalls | hcalls | ⟨a, hcalls | hcalls⟩ <;> simp [hcalls] at hmem
    · obtain rfl := hmem
      have hsettled : s.app.machine.state = .running ↔ startedLast s.history := by
        simpa [Settling, hcalls] using h
      cases outcome with
      | error e => simpa [Settling, hcalls, startedLast, Except.toBool] using hsettled
      | ok _ =>
        have hrunning : s.app.machine.state = .running := ho (by simp [hcalls])
        simp [Settling, hcalls, startedLast, hrunning, Except.toBool]
    · obtain ⟨rfl, rfl⟩ := hmem
      have hidle : startedLast s.history = false := by simpa [Settling, hcalls] using h
      cases outcome <;> simp [Settling, hcalls, startedLast, hidle, Except.toBool]
    · obtain ⟨rfl, rfl⟩ := hmem
      simp [Settling, hcalls, startedLast]

/-- A restart that succeeds with nothing beside it must find the engine running. -/
theorem orderly_of_corresponds_answer (hs : Settling s) {kind : Lifecycle}
    {outcome : Except AbstractionError Unit} (h : Corresponds (answer kind outcome s)) :
    Orderly s (.answer kind outcome) := by
  cases kind with
  | start => trivial
  | stop => trivial
  | restart =>
    cases outcome with
    | error e => trivial
    | ok _ =>
      intro hmem
      have hcalls : s.calls = [⟨.restart, none⟩] := by
        rcases hs.calls_cases with hc | hc | ⟨a, hc | hc⟩ <;> simp [hc] at hmem
        exact hc
      have hafter := h.2
      simpa [answer, hcalls, startedLast, Except.toBool] using hafter

theorem settling_record (h : Settling s) (hp : Phased s) (kind : Lifecycle)
    (outcome : Except AbstractionError Unit) : Settling (record kind outcome s) := by
  unfold record
  split
  case isFalse => exact h
  case isTrue hmem =>
    rcases h.calls_cases with hcalls | hcalls | ⟨a, hcalls | hcalls⟩ <;> simp [hcalls] at hmem
    · obtain ⟨rfl, rfl⟩ := hmem
      have hstate := (hp.starting (a := some outcome) (by simp [hcalls])).1
      have hstarted : startedLast s.history = outcome.isOk := by simpa [Settling, hcalls] using h
      cases outcome <;> simp [Settling, hcalls, hstate, hstarted, Lifecycle.record,
        StateMachine.transitionTo, StateMachine.transitionToFailed, StateMachine.isValidTransition,
        Except.toBool]
    · obtain ⟨rfl, rfl⟩ := hmem
      have hstate := (hp.stopping (a := some outcome) (by simp [hcalls])).1
      have hstopped : startedLast s.history = false := by simpa [Settling, hcalls] using h
      cases outcome <;> simp [Settling, hcalls, hstate, hstopped, Lifecycle.record,
        StateMachine.transitionTo, StateMachine.isValidTransition]

theorem settling_step (s : System) (e : Event) (h : Settling s) (hp : Phased s)
    (ho : Orderly s e) : Settling (step s e) := by
  cases e with
  | request kind => exact settling_request h hp ho
  | answer kind outcome => exact settling_answer h ho
  | record kind outcome => exact settling_record h hp kind outcome

theorem orderly_of_corresponds (s : System) (e : Event) (hs : Settling s)
    (h : Corresponds (step s e)) : Orderly s e := by
  cases e with
  | request kind => exact orderly_of_corresponds_request h
  | answer kind outcome => exact orderly_of_corresponds_answer hs h
  | record kind outcome => trivial

/-- Throughout a run no two calls are in flight and the state corresponds to
the answered calls, if and only if the engine was not started by the serve
command and restarts keep apart from other calls and succeed on a running
engine only. -/
theorem corresponds_iff (served : Bool) (registry : List Text)
    (config : Option NetworkConfiguration) (events : List Event) :
    (∀ first, first <+: events →
        Corresponds (run step (initial served registry config) first)) ↔
      served = false ∧ Along step Orderly (initial served registry config) events := by
  cases served with
  | true =>
    have hstart : ¬Corresponds (initial true registry config) := by
      simp [Corresponds, initial, AppState.new, StateMachine.new, startedLast]
    simp only [Bool.true_eq_false, false_and, iff_false]
    exact fun h => hstart (h [] (List.nil_prefix ..))
  | false =>
    have hphased : Along step (fun s _ => Phased s) (initial false registry config) events :=
      along_of_invariant phased_step (fun _ _ hp => hp) (phased_initial ..) events
    have hsettling : Settling (initial false registry config) := by
      simp [Settling, initial, AppState.new, StateMachine.new, startedLast]
    simp only [true_and]
    exact forall_prefix_iff_along_of_imp (fun _ h => h.corresponds) settling_step
      (fun s e hs _ h => orderly_of_corresponds s e hs h) hphased hsettling

/-- Two restarts call the adapter at once, a restart leaves a stopped engine
stopped, and the serve command does so from the beginning. -/
theorem restarts_overlap :
    ¬Corresponds (run step (initial false [chars "ion-dtn"] (some (lone 10)))
        [.request .restart, .request .restart]) ∧
      ¬Corresponds (run step (initial false [chars "ion-dtn"] (some (lone 10)))
        (requestEvents .restart (.ok ()))) ∧
      ¬Corresponds (initial true [chars "ion-dtn"] (some (lone 10))) := by
  decide

end correspondence

section recovery

/-- A sequence of requests whose calls succeed gets the engine to run. -/
def Recoverable (s : System) : Prop :=
  ∃ kinds : List Lifecycle,
    (run step s (kinds.flatMap (requestEvents · (.ok ())))).app.machine.state = .running

/-- No stop of the adapter fails. -/
def StopsSucceed (s : System) : Event → Prop
  | .answer .stop (.error _) => ⟨.stop, none⟩ ∉ s.calls
  | _ => True

variable {s : System}

theorem wedged_step_iff (s : System) (e : Event) : (.stop, false) ∉ (step s e).history ↔
    (.stop, false) ∉ s.history ∧ StopsSucceed s e := by
  cases e with
  | request kind => rw [step, request_eq]; split <;> simp [StopsSucceed]
  | record kind outcome => unfold step record; dsimp only; split <;> simp [StopsSucceed]
  | answer kind outcome =>
    unfold step answer
    cases kind <;> cases outcome <;> dsimp only <;> split <;>
      simp_all [StopsSucceed, Except.toBool]

/-- A stop that fails is remembered. -/
theorem wedged_run_iff (s : System) (events : List Event) :
    (.stop, false) ∉ (run step s events).history ↔
      (.stop, false) ∉ s.history ∧ Along step StopsSucceed s events := by
  induction events generalizing s with
  | nil => simp [Along]
  | cons e events ih => rw [run_cons, ih, wedged_step_iff, Along, and_assoc]

theorem adapterFound_run (s : System) (events : List Event) :
    AdapterFound (run step s events).app ↔ AdapterFound s.app := by
  induction events generalizing s with
  | nil => rfl
  | cons e events ih => rw [run_cons, ih, adapterFound_step]

/-- Without calls in flight a stopping engine is one whose stop has failed. -/
theorem Phased.stopping_iff (h : Phased s) (hs : s.calls = []) :
    s.app.machine.state = .stopping ↔ (.stop, false) ∈ s.history := by
  unfold Phased at h
  cases hstate : s.app.machine.state <;> simp_all [Accompanies]

theorem Phased.ne_starting (h : Phased s) (hs : s.calls = []) :
    s.app.machine.state ≠ .starting := by
  intro hstate
  simp [Phased, hs, hstate, Accompanies] at h

/-- What a request whose call succeeds does to the machine. -/
theorem run_requestEvents_state {s : System} (hs : s.calls = []) (kind : Lifecycle) :
    (run step s (requestEvents kind (.ok ()))).app.machine.state =
      if AdapterFound s.app then
        match kind, s.app.machine.state with
        | .start, .stopped | .start, .failed => .running
        | .stop, .running => .stopped
        | _, state => state
      else s.app.machine.state := by
  have hfound := configuredAdapter_ok_iff kind.missing kind.operation s.app
  rw [(run_requestEvents hs kind _).1, lifecycleRequest]
  cases hc : configuredAdapter kind.missing kind.operation s.app with
  | error e => simp [← hfound, hc]
  | ok name =>
    have hadapter : AdapterFound s.app := hfound.mp ⟨name, hc⟩
    cases kind <;> cases hstate : s.app.machine.state <;>
      simp [hadapter, hstate, Lifecycle.enter, Lifecycle.record, StateMachine.transitionTo,
        StateMachine.isValidTransition]

/-- Without an adapter, or stopping with nothing in flight, requests change nothing. -/
theorem run_requests_eq (hs : s.calls = [])
    (hstuck : ¬AdapterFound s.app ∨ s.app.machine.state = .stopping) (kinds : List Lifecycle) :
    (run step s (kinds.flatMap (requestEvents · (.ok ())))).app.machine.state =
      s.app.machine.state := by
  induction kinds generalizing s with
  | nil => rfl
  | cons kind kinds ih =>
    have hstate := run_requestEvents_state hs kind
    have hkept : (run step s (requestEvents kind (.ok ()))).app.machine.state =
        s.app.machine.state := by
      rw [hstate]
      rcases hstuck with hnone | hstopping
      · rw [if_neg hnone]
      · cases kind <;> simp [hstopping]
    rw [List.flatMap_cons, run_append, ih (run_requestEvents hs kind _).2 ?_, hkept]
    rwa [adapterFound_run, hkept]

/-- Without an adapter no call is made and the engine stays stopped. -/
theorem run_initial_of_not_adapterFound (served : Bool) {registry : List Text}
    {config : Option NetworkConfiguration}
    (hnone : ¬AdapterFound (initial served registry config).app) (events : List Event) :
    run step (initial served registry config) events = initial served registry config := by
  induction events with
  | nil => rfl
  | cons e events ih =>
    have hsame : step (initial served registry config) e = initial served registry config := by
      cases e with
      | request kind => rw [step, request_eq, if_neg (fun h => hnone h.1)]
      | answer kind outcome => simp [step, answer, initial]
      | record kind outcome => simp [step, record, initial]
    rw [run_cons, hsame, ih]

/-- With no call in flight, an engine can be got to run if and only if there is
an adapter and no stop has failed so far. -/
theorem recoverable_iff (served : Bool) (registry : List Text)
    (config : Option NetworkConfiguration) (events : List Event)
    (hquiet : (run step (initial served registry config) events).calls = []) :
    Recoverable (run step (initial served registry config) events) ↔
      AdapterFound (initial served registry config).app ∧
        Along step StopsSucceed (initial served registry config) events := by
  have hfresh : (.stop, false) ∉ (initial served registry config).history := by
    cases served <;> simp [initial]
  have hphased : Phased (run step (initial served registry config) events) :=
    run_invariant phased_step (phased_initial served registry config) events
  have halong := wedged_run_iff (initial served registry config) events
  have hfound := adapterFound_run (initial served registry config) events
  constructor
  · rintro ⟨kinds, hrunning⟩
    have hadapter : AdapterFound (initial served registry config).app := by
      by_contra hnone
      rw [run_requests_eq hquiet (.inl (mt hfound.mp hnone)),
        run_initial_of_not_adapterFound served hnone] at hrunning
      simp [initial, AppState.new, StateMachine.new] at hrunning
    refine ⟨hadapter, (halong.mp fun hfailed => ?_).2⟩
    have hstopping := (hphased.stopping_iff hquiet).mpr hfailed
    rw [run_requests_eq hquiet (.inr hstopping), hstopping] at hrunning
    simp at hrunning
  · rintro ⟨hadapter, hsucceed⟩
    have hnotStopping := mt (hphased.stopping_iff hquiet).mp (halong.mpr ⟨hfresh, hsucceed⟩)
    have hnotStarting := hphased.ne_starting hquiet
    cases hstate : (run step (initial served registry config) events).app.machine.state with
    | starting => exact absurd hstate hnotStarting
    | stopping => exact absurd hstate hnotStopping
    | running => exact ⟨[], hstate⟩
    | stopped | failed =>
      refine ⟨[.start], ?_⟩
      simp [run_requestEvents_state hquiet, hstate, hfound.mpr hadapter]

/-- The error of a command of the engine that cannot be executed. -/
def notExecuted (operation : Text) : AbstractionError :=
  ⟨.lifecycleError, chars "Failed to execute command", operation, none, some (chars "ion-dtn")⟩

/-- An engine recovers from a start that has failed. -/
theorem recoverable_after_failed_start :
    Recoverable (run step (initial false [chars "ion-dtn"] (some (lone 10)))
      (requestEvents .start (.error (notExecuted (chars "start"))))) :=
  (recoverable_iff false _ _ _ (by decide)).mpr
    ⟨by decide, ⟨trivial, trivial, trivial, trivial⟩⟩

/-- A stop that fails leaves an engine that no request gets to run again. -/
theorem wedged_by_failed_stop :
    ¬ ∀ events, (run step (initial false [chars "ion-dtn"] (some (lone 10))) events).calls = [] →
      Recoverable (run step (initial false [chars "ion-dtn"] (some (lone 10))) events) := by
  intro h
  obtain ⟨kinds, hrunning⟩ := h (requestEvents .start (.ok ()) ++
    requestEvents .stop (.error (notExecuted (chars "stop")))) (by decide)
  rw [run_requests_eq (by decide) (.inr (by decide))] at hrunning
  exact absurd hrunning (by decide)

end recovery

end CislunarDtn.LifecycleRequests
