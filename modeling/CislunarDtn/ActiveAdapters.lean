import CislunarDtn.LabelledRuns
import CislunarDtn.ManagementApis

/-!
# The adapter of a running engine

Every handler takes the adapter from the stored configuration, which other
requests replace at any time. Beside the state of the interface, a session
keeps the adapter whose start has succeeded last.
-/

namespace CislunarDtn.ActiveAdapters

open DecimalTexts IonDeployments LabelledRuns ManagementApis NetworkConfigurations

/-- The interface, and the adapter that has started the engine. -/
structure Session where
  /-- What the handlers share. -/
  app : AppState
  /-- The adapter whose start has succeeded last. -/
  started : Option Text

/-- A request with the answers that adapters give to it. -/
structure Exchange where
  /-- The request. -/
  request : Request
  /-- How the adapters answer. -/
  answers : Answers

/-- The adapter of the stored configuration, if it is registered. -/
def target (s : AppState) : Option Text :=
  (s.config.map NetworkConfiguration.backend).filter (· ∈ s.registry)

/-- The adapter that a request has started. -/
def startedBy (request : Request) (reply : Reply) : Option Text :=
  match request, reply.calls, reply.result with
  | .lifecycle .start, [(name, _)], .ok () => some name
  | _, _, _ => none

/-- One request. -/
def step (s : Session) (e : Exchange) : Session :=
  let reply := handle e.answers s.app e.request
  ⟨reply.state, (startedBy e.request reply).or s.started⟩

/-- The interface before the first request. -/
def initial (registry : List Text) (config : Option NetworkConfiguration) : Session :=
  ⟨⟨registry, config, .new⟩, none⟩

/-- The call of a request that stops, checks or administers the running engine. -/
def administers : Request → Option AdapterCall
  | .lifecycle .stop => some (.lifecycle .stop)
  | .health => some .health
  | .addContact contact => some (.addContact contact)
  | .removeContact ref => some (.removeContact ref)
  | .addNeighbor neighbor => some (.addNeighbor neighbor)
  | .removeNeighbor node => some (.removeNeighbor node)
  | .enableLink id => some (.enableLink id)
  | .disableLink id => some (.disableLink id)
  | .stats => some .collectStats
  | .statsLinks => some .linkStates
  | _ => none

/-- While the engine is running, the requests that stop, check or administer it
reach no adapter but the one that has started it. -/
def Bound (s : Session) : Prop :=
  s.app.machine.state = .running → ∀ e : Exchange, (administers e.request).isSome →
    ∀ call ∈ (handle e.answers s.app e.request).calls, s.started = some call.1

/-- A request that stores the configuration of a registered adapter while the
engine is running names the one that has started it. -/
def KeepsBackend (s : Session) (e : Exchange) : Prop :=
  s.app.machine.state = .running →
    match e.request with
    | .config config => validate config = .ok () → config.backend ∈ s.app.registry →
        s.started = some config.backend
    | .deploy config => validate config = .ok () → config.backend ∈ s.app.registry →
        e.answers config.backend (.validate config) = .ok () →
        e.answers config.backend (.deploy config) = .ok () → s.started = some config.backend
    | _ => True

section targets

theorem registryGet_eq (registry : List Text) (name : Text) :
    (registryGet registry name).toOption = if name ∈ registry then some name else none := by
  unfold registryGet
  split <;> rfl

/-- The adapter of a request is the one of the stored configuration. -/
theorem configuredAdapter_toOption (message operation : Text) (s : AppState) :
    (configuredAdapter message operation s).toOption = target s := by
  unfold configuredAdapter target
  cases s.config with
  | none => rfl
  | some config => simp [registryGet_eq, Option.filter_some]

theorem ask_calls (message operation : Text) (call : AdapterCall) (answers : Answers)
    (s : AppState) : (ask message operation call answers s).calls =
      (target s).toList.map (·, call) := by
  rw [← configuredAdapter_toOption message operation, ask]
  cases configuredAdapter message operation s <;> rfl

theorem lifecycleRequest_stop_calls (answers : Answers) {s : AppState}
    (hs : s.machine.state = .running) : (lifecycleRequest .stop answers s).calls =
      (target s).toList.map (·, .lifecycle .stop) := by
  rw [← configuredAdapter_toOption Lifecycle.stop.missing Lifecycle.stop.operation,
    lifecycleRequest]
  cases configuredAdapter Lifecycle.stop.missing Lifecycle.stop.operation s <;>
    simp [Lifecycle.enter, StateMachine.transitionTo, StateMachine.isValidTransition, hs,
      Except.toOption]

/-- While the engine is running, such a request is passed on to the adapter of the
stored configuration. -/
theorem handle_calls {s : AppState} (hs : s.machine.state = .running) (answers : Answers)
    {request : Request} {call : AdapterCall} (h : administers request = some call) :
    (handle answers s request).calls = (target s).toList.map (·, call) := by
  cases request with
  | lifecycle kind =>
    cases kind <;> simp only [administers, Option.some.injEq, reduceCtorEq] at h
    subst h
    exact lifecycleRequest_stop_calls answers hs
  | config | preview | deploy | version | capabilities => simp [administers] at h
  | _ =>
    obtain rfl := Option.some.inj h
    exact ask_calls ..

end targets

section steps

variable {s : Session} {e : Exchange}

theorem bound_iff (s : Session) : Bound s ↔
    (s.app.machine.state = .running → ∀ name ∈ target s.app, s.started = some name) := by
  refine imp_congr_right fun hrunning => ⟨fun h name hname => ?_, fun h e he call hcall => ?_⟩
  · refine h ⟨.health, fun _ _ => .ok ()⟩ rfl (name, .health) ?_
    rw [handle_calls hrunning _ (show administers .health = some .health from rfl)]
    simpa using hname
  · obtain ⟨kind, hkind⟩ := Option.isSome_iff_exists.mp he
    rw [handle_calls hrunning _ hkind] at hcall
    obtain ⟨name, hname, rfl⟩ := List.mem_map.mp hcall
    exact h name (by simpa using hname)

/-- With a new configuration the target is its adapter. -/
theorem target_config (s : AppState) (config : NetworkConfiguration) :
    target { s with config := some config } =
      if config.backend ∈ s.registry then some config.backend else none := by
  simp [target, Option.filter_some]

theorem bound_store_iff (s : Session) (config : NetworkConfiguration) :
    Bound ⟨{ s.app with config := some config }, s.started⟩ ↔
      (s.app.machine.state = .running → config.backend ∈ s.app.registry →
        s.started = some config.backend) := by
  rw [bound_iff, target_config]
  refine imp_congr_right fun _ => ?_
  by_cases hfound : config.backend ∈ s.app.registry <;> simp [hfound]

theorem bound_config_iff (h : Bound s) (config : NetworkConfiguration) (answers : Answers) :
    Bound (step s ⟨.config config, answers⟩) ↔ KeepsBackend s ⟨.config config, answers⟩ := by
  simp only [step, handle, postConfig, startedBy, KeepsBackend, Option.none_or]
  cases hvalid : validate config with
  | error details => simp [h]
  | ok _ => simp [bound_store_iff]

/-- A deployment stores its configuration if every step before has succeeded. -/
theorem postConfigDeploy_state (config : NetworkConfiguration) (answers : Answers) (s : AppState) :
    (ManagementApis.postConfigDeploy config answers s).state =
      if validate config = .ok () ∧ config.backend ∈ s.registry ∧
          answers config.backend (.validate config) = .ok () ∧
          answers config.backend (.deploy config) = .ok () then { s with config := some config }
      else s := by
  unfold ManagementApis.postConfigDeploy processConfig registryGet
  cases validate config with
  | error details => simp
  | ok _ =>
    by_cases hfound : config.backend ∈ s.registry
    · simp only [if_pos hfound]
      cases answers config.backend (.validate config) with
      | error e => simp
      | ok _ => cases answers config.backend (.deploy config) <;> simp [hfound]
    · simp [hfound]

theorem bound_deploy_iff (h : Bound s) (config : NetworkConfiguration) (answers : Answers) :
    Bound (step s ⟨.deploy config, answers⟩) ↔ KeepsBackend s ⟨.deploy config, answers⟩ := by
  simp only [step, handle, postConfigDeploy_state, startedBy, KeepsBackend, Option.none_or]
  split
  case isTrue hstored => simp [bound_store_iff, hstored]
  case isFalse hkept => exact iff_of_true h (fun _ h1 h2 h3 h4 => absurd ⟨h1, h2, h3, h4⟩ hkept)

/-- The machine after a start: running if it has succeeded, failed if not. -/
theorem record_start_eq_running_iff {m : StateMachine} (hm : (Lifecycle.start.enter m).2 = .ok ())
    (outcome : Except AbstractionError Unit) :
    (Lifecycle.start.record (Lifecycle.start.enter m).1 outcome).state = .running ↔
      outcome = .ok () := by
  obtain ⟨state, reason⟩ := m
  cases state <;> cases outcome <;>
    simp_all [Lifecycle.enter, Lifecycle.record, StateMachine.transitionTo,
      StateMachine.transitionToFailed, StateMachine.isValidTransition]

/-- A stop leaves the engine stopped or stopping. -/
theorem record_stop_ne_running {m : StateMachine} (hm : (Lifecycle.stop.enter m).2 = .ok ())
    (outcome : Except AbstractionError Unit) :
    (Lifecycle.stop.record (Lifecycle.stop.enter m).1 outcome).state ≠ .running := by
  obtain ⟨state, reason⟩ := m
  cases state <;> cases outcome <;>
    simp_all [Lifecycle.enter, Lifecycle.record, StateMachine.transitionTo,
      StateMachine.isValidTransition]

/-- A start that succeeds makes the target the adapter that has started the engine, and
other lifecycle requests leave the one there was. -/
theorem bound_lifecycle (h : Bound s) (kind : Lifecycle) (answers : Answers) :
    Bound (step s ⟨.lifecycle kind, answers⟩) := by
  rw [bound_iff] at h ⊢
  have hhandle : handle answers s.app (.lifecycle kind) = lifecycleRequest kind answers s.app := by
    cases kind <;> rfl
  have htarget := configuredAdapter_toOption kind.missing kind.operation s.app
  simp only [step, hhandle, lifecycleRequest]
  cases hc : configuredAdapter kind.missing kind.operation s.app with
  | error e => simpa [startedBy] using h
  | ok name =>
    have hname : target s.app = some name := by simp [← htarget, hc, Except.toOption]
    rcases hm : kind.enter s.app.machine with ⟨machine, e | ⟨⟩⟩
    · simpa [startedBy] using h
    · intro hrunning other hother
      have hsame : other = name := by simpa [target, hname] using hother.symm.trans hname
      cases kind with
      | restart =>
        obtain rfl : s.app.machine = machine := congrArg Prod.fst hm
        simpa [startedBy] using h hrunning other hother
      | stop =>
        have hstop := record_stop_ne_running (m := s.app.machine) (by rw [hm])
          (answers name (.lifecycle .stop))
        rw [hm] at hstop
        exact absurd hrunning hstop
      | start =>
        have hstart := record_start_eq_running_iff (m := s.app.machine) (by rw [hm])
          (answers name (.lifecycle .start))
        rw [hm] at hstart
        simp [startedBy, hstart.mp hrunning, hsame]

/-- Requests that neither store a configuration nor start or stop the engine
leave the interface as it is. -/
theorem ask_state (message operation : Text) (call : AdapterCall) (answers : Answers)
    (s : AppState) : (ask message operation call answers s).state = s := by
  unfold ask
  split <;> rfl

theorem postConfigPreview_state (config : NetworkConfiguration) (answers : Answers)
    (s : AppState) : (postConfigPreview config answers s).state = s := by
  unfold postConfigPreview processConfig
  repeat' split
  all_goals rfl

/-- The running engine stays bound to its adapter exactly when the step keeps the backend. -/
theorem bound_step_iff (s : Session) (e : Exchange) (h : Bound s) :
    Bound (step s e) ↔ KeepsBackend s e := by
  obtain ⟨request, answers⟩ := e
  cases request with
  | config config => exact bound_config_iff h config answers
  | deploy config => exact bound_deploy_iff h config answers
  | lifecycle kind => exact iff_of_true (bound_lifecycle h kind answers) fun _ => trivial
  | preview config =>
    refine iff_of_true ?_ fun _ => trivial
    simpa [step, handle, postConfigPreview_state, startedBy] using h
  | _ =>
    refine iff_of_true ?_ fun _ => trivial
    show Bound ⟨(ask _ _ _ answers s.app).state, s.started⟩
    rw [ask_state]
    exact h

end steps

/-- Throughout a session the running engine is reached through the adapter that
has started it, if and only if no configuration of another registered adapter
is stored while the engine is running. -/
theorem bound_iff_keepsBackend (registry : List Text) (config : Option NetworkConfiguration)
    (requests : List Exchange) :
    (∀ first, first <+: requests → Bound (run step (initial registry config) first)) ↔
      Along step KeepsBackend (initial registry config) requests := by
  refine forall_prefix_iff_along (fun s e h _ => bound_step_iff s e h) (along_true requests) ?_
  intro hrunning
  simp [initial, StateMachine.new] at hrunning

/-- The requests of a client whose calls all succeed. -/
def succeeding (requests : List Request) : List Exchange :=
  requests.map (⟨·, fun _ _ => .ok ()⟩)

/-- Once the configuration of another backend is stored, the running engine is out of reach. -/
theorem not_bound_after_config :
    ¬Bound (run step (initial [chars "ion-dtn", chars "hardy"] none)
      (succeeding [.config (lone 10), .lifecycle .start,
        .config { lone 10 with backend := chars "hardy" }])) := by
  rw [bound_iff]
  intro h
  exact absurd (h (by decide) (chars "hardy") (by decide)) (by decide)

end CislunarDtn.ActiveAdapters
