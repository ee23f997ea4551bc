import CislunarDtn.ActiveAdapters

/-!
# Calls of the handlers

What the handlers of the management interface call, and what they leave behind:
each request makes a few calls of its own, only a deployment deploys and only
lifecycle requests start and stop. The state machine comes to say Running by a
start that has succeeded.
-/

namespace CislunarDtn.RequestCalls

open DecimalTexts IonDeployments ManagementApis NetworkConfigurations

variable (answers : Answers) (s : AppState)

theorem handle_lifecycle (kind : Lifecycle) :
    handle answers s (.lifecycle kind) = lifecycleRequest kind answers s := by
  cases kind <;> rfl

/-- A lifecycle request is passed on if there is an adapter and the machine allows it. -/
theorem lifecycleRequest_cases (kind : Lifecycle) :
    (ActiveAdapters.target s = none ∨ (kind.enter s.machine).2 ≠ .ok ()) ∧
        (lifecycleRequest kind answers s).calls = [] ∧
        (lifecycleRequest kind answers s).state = s ∨
      ∃ name, ActiveAdapters.target s = some name ∧ (kind.enter s.machine).2 = .ok () ∧
        (lifecycleRequest kind answers s).calls = [(name, .lifecycle kind)] ∧
        (lifecycleRequest kind answers s).state = { s with
          machine := kind.record (kind.enter s.machine).1 (answers name (.lifecycle kind)) } := by
  rw [← ActiveAdapters.configuredAdapter_toOption kind.missing kind.operation]
  unfold lifecycleRequest
  cases configuredAdapter kind.missing kind.operation s with
  | error e => exact .inl ⟨.inl rfl, rfl, rfl⟩
  | ok name =>
    rcases kind.enter s.machine with ⟨machine, e | ⟨⟩⟩
    · exact .inl ⟨.inr fun h => (nomatch h), rfl, rfl⟩
    · exact .inr ⟨name, rfl, rfl, rfl, rfl⟩

/-- The other requests leave all but the stored configuration. -/
theorem state_handle {request : Request} (h : ∀ kind, request ≠ .lifecycle kind) :
    ∃ config, (handle answers s request).state = { s with config } := by
  cases request with
  | config config =>
    rw [handle, postConfig]
    cases validate config with
    | error details => exact ⟨s.config, rfl⟩
    | ok _ => exact ⟨some config, rfl⟩
  | preview config =>
    rw [handle, ActiveAdapters.postConfigPreview_state]
    exact ⟨s.config, rfl⟩
  | deploy config =>
    rw [handle, ActiveAdapters.postConfigDeploy_state]
    split
    · exact ⟨some config, rfl⟩
    · exact ⟨s.config, rfl⟩
  | lifecycle kind => exact absurd rfl (h kind)
  | _ => exact ⟨s.config, ActiveAdapters.ask_state ..⟩

/-- Handlers keep the registered adapters. -/
theorem registry_handle (request : Request) :
    (handle answers s request).state.registry = s.registry := by
  by_cases hlifecycle : ∃ kind, request = .lifecycle kind
  · obtain ⟨kind, rfl⟩ := hlifecycle
    rw [handle_lifecycle]
    rcases lifecycleRequest_cases answers s kind with ⟨-, -, hstate⟩ | ⟨_, -, -, -, hstate⟩ <;>
      rw [hstate]
  · obtain ⟨config, hstate⟩ := state_handle answers s fun kind heq => hlifecycle ⟨kind, heq⟩
    rw [hstate]

/-- Only lifecycle requests change the machine. -/
theorem machine_handle {request : Request} (h : ∀ kind, request ≠ .lifecycle kind) :
    (handle answers s request).state.machine = s.machine := by
  obtain ⟨config, hstate⟩ := state_handle answers s h
  rw [hstate]

/-- A request to deploy or preview has the adapter validate the configuration and process it. -/
theorem mem_calls_processConfig {call : AdapterCall} {config : NetworkConfiguration}
    {processed : AppState} {c : Text × AdapterCall}
    (h : c ∈ (processConfig call config answers s processed).calls) :
    c.2 = .validate config ∨ c.2 = call := by
  unfold processConfig at h
  split at h
  case h_1 => exact absurd h List.not_mem_nil
  case h_2 =>
    split at h
    case h_1 => exact absurd h List.not_mem_nil
    case h_2 name _ =>
      split at h
      case h_1 => exact .inl (congrArg Prod.snd (List.mem_singleton.mp h))
      case h_2 =>
        have hboth : c = (name, .validate config) ∨ c = (name, call) := by
          split at h <;> simpa using h
        exact hboth.imp (congrArg Prod.snd) (congrArg Prod.snd)

/-- The other requests call the adapter with what they pass on. -/
theorem mem_calls_ask {message operation : Text} {call : AdapterCall} {c : Text × AdapterCall}
    (h : c ∈ (ask message operation call answers s).calls) : c.2 = call := by
  rw [ActiveAdapters.ask_calls] at h
  obtain ⟨name, -, rfl⟩ := List.mem_map.mp h
  rfl

theorem mem_calls_lifecycleRequest {kind : Lifecycle} {c : Text × AdapterCall}
    (h : c ∈ (lifecycleRequest kind answers s).calls) : c.2 = .lifecycle kind := by
  rcases lifecycleRequest_cases answers s kind with ⟨-, hcalls, -⟩ | ⟨name, -, -, hcalls, -⟩
  · rw [hcalls] at h
    exact absurd h List.not_mem_nil
  · rw [hcalls] at h
    exact congrArg Prod.snd (List.mem_singleton.mp h)

/-- Calls that a request may make. -/
def callsFor : Request → List AdapterCall
  | .config _ => []
  | .preview config => [.validate config, .generateConfig config]
  | .deploy config => [.validate config, .deploy config]
  | .lifecycle kind => [.lifecycle kind]
  | .health => [.health]
  | .version => [.version]
  | .capabilities => [.capabilities]
  | .addContact contact => [.addContact contact]
  | .removeContact ref => [.removeContact ref]
  | .addNeighbor neighbor => [.addNeighbor neighbor]
  | .removeNeighbor node => [.removeNeighbor node]
  | .enableLink id => [.enableLink id]
  | .disableLink id => [.disableLink id]
  | .stats => [.collectStats]
  | .statsLinks => [.linkStates]

/-- No request makes other calls. -/
theorem mem_callsFor {request : Request} {c : Text × AdapterCall}
    (h : c ∈ (handle answers s request).calls) : c.2 ∈ callsFor request := by
  cases request with
  | config config =>
    rw [handle, postConfig] at h
    cases hvalid : validate config <;> rw [hvalid] at h <;> exact absurd h List.not_mem_nil
  | preview config =>
    rcases mem_calls_processConfig answers s h with heq | heq <;> rw [heq] <;> simp [callsFor]
  | deploy config =>
    rcases mem_calls_processConfig answers s h with heq | heq <;> rw [heq] <;> simp [callsFor]
  | lifecycle kind =>
    rw [handle_lifecycle] at h
    exact List.mem_singleton.mpr (mem_calls_lifecycleRequest answers s h)
  | _ => exact List.mem_singleton.mpr (mem_calls_ask answers s h)

/-- Only a request to deploy makes a call that deploys. -/
theorem calls_ne_deploy {request : Request} (h : ∀ config, request ≠ .deploy config) :
    ∀ call ∈ (handle answers s request).calls, ∀ config, call.2 ≠ .deploy config := by
  intro call hcall config hdeploy
  have hmem := mem_callsFor answers s hcall
  rw [hdeploy] at hmem
  cases request with
  | deploy config => exact h config rfl
  | _ => simp [callsFor] at hmem

/-- Only lifecycle requests start and stop. -/
theorem calls_ne_lifecycle {request : Request} (h : ∀ kind, request ≠ .lifecycle kind) :
    ∀ call ∈ (handle answers s request).calls, ∀ kind, call.2 ≠ .lifecycle kind := by
  intro call hcall kind hlifecycle
  have hmem := mem_callsFor answers s hcall
  rw [hlifecycle] at hmem
  cases request with
  | lifecycle kind => exact h kind rfl
  | _ => simp [callsFor] at hmem

/-- The calls of a deployment, whether they succeed or not. -/
theorem calls_postConfigDeploy {config : NetworkConfiguration}
    (hregistry : s.registry = [chars "ion-dtn"])
    (hanswer : answers config.backend (.validate config) = .ok ()) :
    (ManagementApis.postConfigDeploy config answers s).calls =
      if validate config = .ok () ∧ config.backend = chars "ion-dtn" then
        [(config.backend, .validate config), (config.backend, .deploy config)]
      else [] := by
  unfold ManagementApis.postConfigDeploy processConfig registryGet
  cases validate config with
  | error details => simp
  | ok _ =>
    by_cases hbackend : config.backend = chars "ion-dtn"
    · rw [hregistry, if_pos (List.mem_singleton.mpr hbackend), if_pos ⟨rfl, hbackend⟩]
      dsimp only
      rw [hanswer]
      cases answers config.backend (.deploy config) <;> rfl
    · rw [hregistry, if_neg fun h => hbackend (List.mem_singleton.mp h),
        if_neg fun h => hbackend h.2]

/-- The machine says Running if it did so before, or after a start that has succeeded. -/
theorem running_handle {request : Request}
    (h : (handle answers s request).state.machine.state = .running) :
    s.machine.state = .running ∨ request = .lifecycle .start ∧ ∃ name,
      (handle answers s request).calls = [(name, .lifecycle .start)] ∧
        answers name (.lifecycle .start) = .ok () := by
  by_cases hlifecycle : ∃ kind, request = .lifecycle kind
  · obtain ⟨kind, rfl⟩ := hlifecycle
    rw [handle_lifecycle] at h ⊢
    rcases lifecycleRequest_cases answers s kind with
      ⟨-, -, hstate⟩ | ⟨name, -, henter, hcalls, hstate⟩
    · rw [hstate] at h
      exact .inl h
    · rw [hstate] at h
      cases kind with
      | start =>
        have hok := (ActiveAdapters.record_start_eq_running_iff henter _).mp h
        exact .inr ⟨rfl, name, hcalls, hok⟩
      | stop => exact absurd h (ActiveAdapters.record_stop_ne_running henter _)
      | restart => exact .inl h
  · rw [machine_handle answers s fun kind heq => hlifecycle ⟨kind, heq⟩] at h
    exact .inl h

end CislunarDtn.RequestCalls
