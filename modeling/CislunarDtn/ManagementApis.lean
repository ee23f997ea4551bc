import CislunarDtn.IonDeployments

/-!
# The management interface

Handlers of the HTTP interface: they validate and store a configuration, take
the adapter from the stored configuration, call it, and keep the state machine
of the engine. A call to an adapter is answered from outside. What a request
returns is given up to its success, and requests that neither change anything
nor call an adapter are left out.
-/

namespace CislunarDtn.ManagementApis

open DecimalTexts IonDeployments IonScripts NetworkConfigurations

section machine

/-- States of the engine. -/
inductive EngineState where
  /-- Not running. -/
  | stopped
  /-- Starting up. -/
  | starting
  /-- Running. -/
  | running
  /-- Shutting down. -/
  | stopping
  /-- After a fatal error. -/
  | failed
  deriving DecidableEq

/-- Name of a state. -/
def EngineState.display : EngineState → Text
  | .stopped => chars "Stopped"
  | .starting => chars "Starting"
  | .running => chars "Running"
  | .stopping => chars "Stopping"
  | .failed => chars "Failed"

/-- The state of the engine, with the reason of a failure. -/
structure StateMachine where
  /-- The state. -/
  state : EngineState
  /-- Why the engine has failed. -/
  failureReason : Option Text
  deriving DecidableEq

namespace StateMachine

/-- A new machine. -/
def new : StateMachine := ⟨.stopped, none⟩

/-- Legal transitions. -/
def isValidTransition : EngineState → EngineState → Bool
  | .stopped, .starting => true
  | .starting, .running => true
  | .starting, .failed => true
  | .running, .stopping => true
  | .running, .failed => true
  | .stopping, .stopped => true
  | .failed, .starting => true
  | .failed, .stopped => true
  | _, _ => false

/-- The error of a transition. -/
def transitionError (message : Text) : AbstractionError :=
  ⟨.lifecycleError, message, chars "state_transition", none, none⟩

/-- Go to a state other than the failed one, if that is legal. -/
def transitionTo (m : StateMachine) (state : EngineState) :
    StateMachine × Except AbstractionError Unit :=
  if state = .failed then
    (m, .error (transitionError (chars
      "Use transition_to_failed() to transition to the Failed state with a reason")))
  else if isValidTransition m.state state then (⟨state, none⟩, .ok ())
  else
    (m, .error (transitionError (chars "Illegal state transition: " ++ m.state.display ++
      chars " → " ++ state.display)))

/-- Go to the failed state, if that is legal. -/
def transitionToFailed (m : StateMachine) (reason : Text) :
    StateMachine × Except AbstractionError Unit :=
  if isValidTransition m.state .failed then (⟨.failed, some reason⟩, .ok ())
  else
    (m, .error (transitionError (chars "Illegal state transition: " ++ m.state.display ++
      chars " → Failed")))

end StateMachine

end machine

section calls

/-- Requests that start and stop the engine. -/
inductive Lifecycle where
  /-- Start. -/
  | start
  /-- Stop. -/
  | stop
  /-- Stop and start. -/
  | restart
  deriving DecidableEq

/-- Calls of the adapter interface. -/
inductive AdapterCall where
  /-- Validation for the backend. -/
  | validate (config : NetworkConfiguration)
  /-- Generation of files. -/
  | generateConfig (config : NetworkConfiguration)
  /-- Generation of files, which are written. -/
  | deploy (config : NetworkConfiguration)
  /-- Start, stop or restart. -/
  | lifecycle (kind : Lifecycle)
  /-- Health check. -/
  | health
  /-- Version of the engine. -/
  | version
  /-- Add a contact. -/
  | addContact (contact : Contact)
  /-- Remove a contact. -/
  | removeContact (ref : ContactRef)
  /-- Add a neighbor. -/
  | addNeighbor (neighbor : Neighbor)
  /-- Remove a neighbor. -/
  | removeNeighbor (node : UInt64)
  /-- Enable a link. -/
  | enableLink (id : Text)
  /-- Disable a link. -/
  | disableLink (id : Text)
  /-- Statistics of bundles. -/
  | collectStats
  /-- States of the links. -/
  | linkStates
  /-- Capabilities of the backend. -/
  | capabilities

/-- How the adapter of each name answers calls. -/
abbrev Answers := Text → AdapterCall → Except AbstractionError Unit

/-- What the handlers share. -/
structure AppState where
  /-- Names of the registered adapters. -/
  registry : List Text
  /-- The stored configuration. -/
  config : Option NetworkConfiguration
  /-- State of the engine. -/
  machine : StateMachine
  deriving DecidableEq

/-- What a handler leaves behind, the adapters it has called, and how it ends. -/
structure Reply where
  /-- The state afterwards. -/
  state : AppState
  /-- Adapters with the calls they were given. -/
  calls : List (Text × AdapterCall)
  /-- Success or the error. -/
  result : Except AbstractionError Unit

/-- Without a configuration and stopped. -/
def AppState.new (registry : List Text) : AppState := ⟨registry, none, .new⟩

/-- The adapter of a name. -/
def registryGet (registry : List Text) (name : Text) : Except AbstractionError Text :=
  if name ∈ registry then .ok name
  else
    .error ⟨.configurationError, chars "Adapter not found: " ++ name, chars "get", some name, none⟩

/-- The adapter of the stored configuration. -/
def configuredAdapter (message operation : Text) (s : AppState) : Except AbstractionError Text :=
  match s.config with
  | none => .error ⟨.configurationError, message, operation, none, none⟩
  | some config => registryGet s.registry config.backend

end calls

section configuration

/-- Validate and store a configuration. -/
def postConfig (config : NetworkConfiguration) (s : AppState) : Reply :=
  match validate config with
  | .error details => ⟨s, [], .error (validationError details)⟩
  | .ok () => ⟨{ s with config := some config }, [], .ok ()⟩

/-- Validate a configuration and have its adapter validate and process it. -/
def processConfig (call : AdapterCall) (config : NetworkConfiguration) (answers : Answers)
    (s : AppState) (processed : AppState) : Reply :=
  match validate config with
  | .error details => ⟨s, [], .error (validationError details)⟩
  | .ok () =>
    match registryGet s.registry config.backend with
    | .error e => ⟨s, [], .error e⟩
    | .ok name =>
      match answers name (.validate config) with
      | .error e => ⟨s, [(name, .validate config)], .error e⟩
      | .ok () =>
        match answers name call with
        | .error e => ⟨s, [(name, .validate config), (name, call)], .error e⟩
        | .ok () => ⟨processed, [(name, .validate config), (name, call)], .ok ()⟩

/-- Generate files without writing them. -/
def postConfigPreview (config : NetworkConfiguration) (answers : Answers) (s : AppState) : Reply :=
  processConfig (.generateConfig config) config answers s s

/-- Generate and write files, and store the configuration. -/
def postConfigDeploy (config : NetworkConfiguration) (answers : Answers) (s : AppState) : Reply :=
  processConfig (.deploy config) config answers s { s with config := some config }

end configuration

section lifecycle

/-- The error message of a lifecycle request without a configuration. -/
def Lifecycle.missing : Lifecycle → Text
  | .start => chars "No configuration stored. Use POST /config first."
  | _ => chars "No configuration stored."

/-- Name of a lifecycle request. -/
def Lifecycle.operation : Lifecycle → Text
  | .start => chars "start"
  | .stop => chars "stop"
  | .restart => chars "restart"

/-- What a handler does to the machine before it calls the adapter. A restart does nothing. -/
def Lifecycle.enter (m : StateMachine) : Lifecycle → StateMachine × Except AbstractionError Unit
  | .start => m.transitionTo .starting
  | .stop => m.transitionTo .stopping
  | .restart => (m, .ok ())

/-- What a handler does to the machine with the answer. A stop that fails and a restart do
nothing, and transitions that are not legal are passed over. -/
def Lifecycle.record (m : StateMachine) : Lifecycle → Except AbstractionError Unit → StateMachine
  | .start, .ok () => (m.transitionTo .running).1
  | .start, .error e => (m.transitionToFailed e.message).1
  | .stop, .ok () => (m.transitionTo .stopped).1
  | .stop, .error _ => m
  | .restart, _ => m

/-- A lifecycle request with nothing beside it. -/
def lifecycleRequest (kind : Lifecycle) (answers : Answers) (s : AppState) : Reply :=
  match configuredAdapter kind.missing kind.operation s with
  | .error e => ⟨s, [], .error e⟩
  | .ok name =>
    match kind.enter s.machine with
    | (_, .error e) => ⟨s, [], .error e⟩
    | (machine, .ok ()) =>
      ⟨{ s with machine := kind.record machine (answers name (.lifecycle kind)) },
        [(name, .lifecycle kind)], answers name (.lifecycle kind)⟩

/-- Start the engine. -/
def postLifecycleStart : Answers → AppState → Reply := lifecycleRequest .start

/-- Stop the engine. -/
def postLifecycleStop : Answers → AppState → Reply := lifecycleRequest .stop

/-- Restart the engine. -/
def postLifecycleRestart : Answers → AppState → Reply := lifecycleRequest .restart

end lifecycle

section administration

/-- Pass a call on to the adapter of the stored configuration. -/
def ask (message operation : Text) (call : AdapterCall) (answers : Answers) (s : AppState) :
    Reply :=
  match configuredAdapter message operation s with
  | .error e => ⟨s, [], .error e⟩
  | .ok name => ⟨s, [(name, call)], answers name call⟩

/-- Health of the engine. -/
def getLifecycleHealth : Answers → AppState → Reply :=
  ask (chars "No configuration stored.") (chars "health") .health

/-- Version of the engine. -/
def getLifecycleVersion : Answers → AppState → Reply :=
  ask (chars "No configuration stored.") (chars "version") .version

/-- Capabilities of the backend. -/
def getCapabilities : Answers → AppState → Reply :=
  ask (chars "No configuration stored. Use POST /config to set backend.") (chars "capabilities")
    .capabilities

/-- Pass a call on to the adapter that is taken for the active one. -/
def askActive : AdapterCall → Answers → AppState → Reply :=
  ask (chars "No configuration stored.") (chars "get_active_adapter")

/-- Add a contact to the running engine. -/
def postRuntimeContact (contact : Contact) : Answers → AppState → Reply :=
  askActive (.addContact contact)

/-- Remove a contact from the running engine. -/
def deleteRuntimeContact (ref : ContactRef) : Answers → AppState → Reply :=
  askActive (.removeContact ref)

/-- Add a neighbor to the running engine. -/
def postRuntimeNeighbor (neighbor : Neighbor) : Answers → AppState → Reply :=
  askActive (.addNeighbor neighbor)

/-- Remove a neighbor from the running engine. -/
def deleteRuntimeNeighbor (node : UInt64) : Answers → AppState → Reply :=
  askActive (.removeNeighbor node)

/-- Enable a link. -/
def postLinkEnable (id : Text) : Answers → AppState → Reply := askActive (.enableLink id)

/-- Disable a link. -/
def postLinkDisable (id : Text) : Answers → AppState → Reply := askActive (.disableLink id)

/-- Statistics of the running engine. -/
def getStats : Answers → AppState → Reply := askActive .collectStats

/-- Link states of the running engine. -/
def getStatsLinks : Answers → AppState → Reply := askActive .linkStates

end administration

section requests

/-- Requests to the interface. -/
inductive Request where
  /-- POST /config -/
  | config (config : NetworkConfiguration)
  /-- POST /config/preview -/
  | preview (config : NetworkConfiguration)
  /-- POST /config/deploy -/
  | deploy (config : NetworkConfiguration)
  /-- POST /lifecycle/start, /lifecycle/stop and /lifecycle/restart -/
  | lifecycle (kind : Lifecycle)
  /-- GET /lifecycle/health -/
  | health
  /-- GET /lifecycle/version -/
  | version
  /-- GET /capabilities -/
  | capabilities
  /-- POST /runtime/contacts -/
  | addContact (contact : Contact)
  /-- DELETE /runtime/contacts -/
  | removeContact (ref : ContactRef)
  /-- POST /runtime/neighbors -/
  | addNeighbor (neighbor : Neighbor)
  /-- DELETE /runtime/neighbors -/
  | removeNeighbor (node : UInt64)
  /-- POST /runtime/links/:id/enable -/
  | enableLink (id : Text)
  /-- POST /runtime/links/:id/disable -/
  | disableLink (id : Text)
  /-- GET /stats -/
  | stats
  /-- GET /stats/links -/
  | statsLinks

/-- The handler of a request. -/
def handle (answers : Answers) (s : AppState) : Request → Reply
  | .config config => postConfig config s
  | .preview config => postConfigPreview config answers s
  | .deploy config => postConfigDeploy config answers s
  | .lifecycle .start => postLifecycleStart answers s
  | .lifecycle .stop => postLifecycleStop answers s
  | .lifecycle .restart => postLifecycleRestart answers s
  | .health => getLifecycleHealth answers s
  | .version => getLifecycleVersion answers s
  | .capabilities => getCapabilities answers s
  | .addContact contact => postRuntimeContact contact answers s
  | .removeContact ref => deleteRuntimeContact ref answers s
  | .addNeighbor neighbor => postRuntimeNeighbor neighbor answers s
  | .removeNeighbor node => deleteRuntimeNeighbor node answers s
  | .enableLink id => postLinkEnable id answers s
  | .disableLink id => postLinkDisable id answers s
  | .stats => getStats answers s
  | .statsLinks => getStatsLinks answers s

end requests

end CislunarDtn.ManagementApis
