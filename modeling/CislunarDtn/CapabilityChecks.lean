import CislunarDtn.ActiveAdapters

/-!
# Operations that a backend does not declare

An adapter declares which operations it can perform on its running engine, and
a check rejects the others. No handler of the management interface makes that
check, so that every operation is passed on.
-/

namespace CislunarDtn.CapabilityChecks

open ActiveAdapters DecimalTexts IonDeployments LabelledRuns ManagementApis NetworkConfigurations

section declarations

/-- Operations on a running engine. -/
inductive HotReconfigOp where
  /-- Add a contact. -/
  | addContact
  /-- Remove a contact. -/
  | removeContact
  /-- Add a neighbor. -/
  | addNeighbor
  /-- Remove a neighbor. -/
  | removeNeighbor
  /-- Enable a link. -/
  | enableLink
  /-- Disable a link. -/
  | disableLink
  deriving DecidableEq

/-- Name of an operation in errors. -/
def HotReconfigOp.operationName : HotReconfigOp → Text
  | .addContact => chars "add_contact"
  | .removeContact => chars "remove_contact"
  | .addNeighbor => chars "add_neighbor"
  | .removeNeighbor => chars "remove_neighbor"
  | .enableLink => chars "enable_link"
  | .disableLink => chars "disable_link"

/-- Operations that a backend performs without a restart. -/
structure HotReconfigCapabilities where
  /-- Adding contacts. -/
  addContact : Bool
  /-- Removing contacts. -/
  removeContact : Bool
  /-- Adding neighbors. -/
  addNeighbor : Bool
  /-- Removing neighbors. -/
  removeNeighbor : Bool
  /-- Enabling a link. -/
  enableLink : Bool
  /-- Disabling a link. -/
  disableLink : Bool
  deriving DecidableEq

/-- What a backend supports, as far as it concerns a running engine. -/
structure CapabilitySet where
  /-- Operations on a running engine. -/
  hotReconfig : HotReconfigCapabilities
  deriving DecidableEq

/-- Whether an operation is declared. -/
def CapabilitySet.supports (capabilities : CapabilitySet) : HotReconfigOp → Bool
  | .addContact => capabilities.hotReconfig.addContact
  | .removeContact => capabilities.hotReconfig.removeContact
  | .addNeighbor => capabilities.hotReconfig.addNeighbor
  | .removeNeighbor => capabilities.hotReconfig.removeNeighbor
  | .enableLink => capabilities.hotReconfig.enableLink
  | .disableLink => capabilities.hotReconfig.disableLink

/-- Reject an operation that is not declared. -/
def checkHotReconfigCapability (capabilities : CapabilitySet) (operation : HotReconfigOp)
    (backendName : Text) : Except AbstractionError Unit :=
  if capabilities.supports operation then .ok ()
  else
    .error ⟨.unsupportedOperation, chars "Operation '" ++ operation.operationName ++
      chars "' is not supported by backend '" ++ backendName ++ chars "'",
      operation.operationName, none, some backendName⟩

/-- Capabilities of the hardy backend, which restarts for a neighbor. -/
def hardyCapabilities : CapabilitySet := ⟨⟨true, true, false, false, true, true⟩⟩

theorem checkHotReconfigCapability_ok_iff {capabilities : CapabilitySet}
    {operation : HotReconfigOp} {backendName : Text} :
    checkHotReconfigCapability capabilities operation backendName = .ok () ↔
      capabilities.supports operation = true := by
  unfold checkHotReconfigCapability
  by_cases h : capabilities.supports operation = true
  · simp [h]
  · simp [h]

end declarations

section enforcement

/-- The operation of a call on a running engine. -/
def operationOf : AdapterCall → Option HotReconfigOp
  | .addContact _ => some .addContact
  | .removeContact _ => some .removeContact
  | .addNeighbor _ => some .addNeighbor
  | .removeNeighbor _ => some .removeNeighbor
  | .enableLink _ => some .enableLink
  | .disableLink _ => some .disableLink
  | _ => none

/-- The operation that a request asks for. -/
def requested (request : Request) : Option HotReconfigOp :=
  (administers request).bind operationOf

/-- Operations are only performed by adapters that declare them, and a request
for another one fails without a call. -/
structure Enforces (declared : Text → CapabilitySet) (s : AppState) (e : Exchange) : Prop where
  /-- Called adapters declare what they are called for. -/
  performed : ∀ name call, (name, call) ∈ (handle e.answers s e.request).calls →
    ∀ operation, operationOf call = some operation → (declared name).supports operation = true
  /-- An operation that the adapter does not declare is rejected. -/
  rejected : ∀ operation name, requested e.request = some operation → target s = some name →
    (declared name).supports operation = false →
      (handle e.answers s e.request).calls = [] ∧
        ∃ err, (handle e.answers s e.request).result = .error err ∧
          err.category = .unsupportedOperation

/-- The check would let the request pass. -/
def PassesCheck (declared : Text → CapabilitySet) (s : AppState) (e : Exchange) : Prop :=
  ∀ operation name, requested e.request = some operation → target s = some name →
    checkHotReconfigCapability (declared name) operation name = .ok ()

/-- A request for an operation is passed on to the adapter of the stored configuration. -/
theorem handle_calls_of_requested {request : Request} {operation : HotReconfigOp}
    (h : requested request = some operation) (answers : Answers) (s : AppState) :
    ∃ call, operationOf call = some operation ∧
      (handle answers s request).calls = (target s).toList.map (·, call) := by
  obtain ⟨call, hcall, hoperation⟩ := Option.bind_eq_some_iff.mp h
  refine ⟨call, hoperation, ?_⟩
  cases request with
  | config | preview | deploy | version | capabilities => simp [administers] at hcall
  | lifecycle kind =>
    cases kind with
    | stop =>
      obtain rfl := Option.some.inj hcall
      simp [operationOf] at hoperation
    | start => simp [administers] at hcall
    | restart => simp [administers] at hcall
  | _ =>
    obtain rfl := Option.some.inj hcall
    exact ask_calls ..

/-- A handler that asks the adapter makes its one call. -/
theorem eq_of_mem_ask_calls {message text : Text} {call other : AdapterCall} {answers : Answers}
    {s : AppState} {name : Text} (h : (name, call) ∈ (ask message text other answers s).calls) :
    call = other ∧ target s = some name := by
  rw [ask_calls] at h
  obtain ⟨found, hfound, heq⟩ := List.mem_map.mp h
  obtain ⟨rfl, rfl⟩ := Prod.mk.inj heq
  exact ⟨rfl, by simpa using hfound⟩

/-- A configuration is validated and passed on. -/
theorem eq_of_mem_processConfig_calls {call other : AdapterCall} {config : NetworkConfiguration}
    {answers : Answers} {s processed : AppState} {name : Text}
    (h : (name, call) ∈ (processConfig other config answers s processed).calls) :
    call = .validate config ∨ call = other := by
  unfold processConfig at h
  split at h
  · exact absurd h List.not_mem_nil
  · split at h
    · exact absurd h List.not_mem_nil
    · split at h
      · simp only [List.mem_singleton, Prod.mk.injEq] at h
        exact Or.inl h.2
      · split at h
        all_goals
          simp only [List.mem_cons, Prod.mk.injEq, List.not_mem_nil, or_false] at h
          exact h.imp And.right And.right

/-- A request of the lifecycle makes its one call. -/
theorem eq_of_mem_lifecycle_calls {call : AdapterCall} {kind : Lifecycle}
    {answers : Answers} {s : AppState} {name : Text}
    (h : (name, call) ∈ (handle answers s (.lifecycle kind)).calls) : call = .lifecycle kind := by
  have hhandle : handle answers s (.lifecycle kind) = lifecycleRequest kind answers s := by
    cases kind <;> rfl
  rw [hhandle, lifecycleRequest] at h
  split at h
  · exact absurd h List.not_mem_nil
  · split at h
    · exact absurd h List.not_mem_nil
    · exact (Prod.mk.inj (List.mem_singleton.mp h)).2

/-- Operations are called for by such requests only. -/
theorem requested_of_call {request : Request} {answers : Answers} {s : AppState} {name : Text}
    {call : AdapterCall} (h : (name, call) ∈ (handle answers s request).calls)
    {operation : HotReconfigOp} (hcall : operationOf call = some operation) :
    requested request = some operation ∧ target s = some name := by
  cases request with
  | config config =>
    simp only [handle, postConfig] at h
    split at h
    · exact absurd h List.not_mem_nil
    · exact absurd h List.not_mem_nil
  | preview config =>
    rcases eq_of_mem_processConfig_calls h with rfl | rfl
    · simp [operationOf] at hcall
    · simp [operationOf] at hcall
  | deploy config =>
    rcases eq_of_mem_processConfig_calls h with rfl | rfl
    · simp [operationOf] at hcall
    · simp [operationOf] at hcall
  | lifecycle kind =>
    rw [eq_of_mem_lifecycle_calls h] at hcall
    simp [operationOf] at hcall
  | _ =>
    obtain ⟨rfl, htarget⟩ := eq_of_mem_ask_calls h
    exact ⟨hcall, htarget⟩

/-- One request is handled as declared exactly if the check would let it pass. -/
theorem enforces_iff (declared : Text → CapabilitySet) (s : AppState) (e : Exchange) :
    Enforces declared s e ↔ PassesCheck declared s e := by
  constructor
  · intro h operation name hrequested htarget
    rw [checkHotReconfigCapability_ok_iff]
    by_contra hunsupported
    rw [Bool.not_eq_true] at hunsupported
    obtain ⟨call, -, hcalls⟩ := handle_calls_of_requested hrequested e.answers s
    have hnone := (h.rejected operation name hrequested htarget hunsupported).1
    rw [hcalls, htarget] at hnone
    exact absurd hnone (List.cons_ne_nil _ _)
  · intro h
    refine ⟨fun name call hmem operation hcall => ?_,
      fun operation name hrequested htarget hunsupported => ?_⟩
    · obtain ⟨hrequested, htarget⟩ := requested_of_call hmem hcall
      exact checkHotReconfigCapability_ok_iff.mp (h operation name hrequested htarget)
    · have hsupported := checkHotReconfigCapability_ok_iff.mp (h operation name hrequested htarget)
      rw [hunsupported] at hsupported
      exact Bool.noConfusion hsupported

/-- Capabilities are enforced throughout a session exactly if every request in
it would pass the check that no handler makes. -/
theorem enforced_iff (declared : Text → CapabilitySet) (registry : List Text)
    (config : Option NetworkConfiguration) (requests : List Exchange) :
    Along step (fun s e => Enforces declared s.app e) (initial registry config) requests ↔
      Along step (fun s e => PassesCheck declared s.app e) (initial registry config) requests :=
  ⟨Along.mono fun (s : Session) e => (enforces_iff declared s.app e).mp,
    Along.mono fun (s : Session) e => (enforces_iff declared s.app e).mpr⟩

/-- A neighbor is added through an adapter that does not declare it. -/
theorem not_enforced_for_neighbor :
    ¬∀ (declared : Text → CapabilitySet) (registry : List Text)
      (config : Option NetworkConfiguration) (requests : List Exchange),
      Along step (fun s e => Enforces declared s.app e) (initial registry config) requests := by
  intro h
  have hrun := (enforces_iff _ _ _).mp (h (fun _ => hardyCapabilities) [chars "hardy"]
    (some { lone 10 with backend := chars "hardy" })
    (succeeding [.addNeighbor ⟨20, []⟩])).1
  exact absurd (hrun .addNeighbor (chars "hardy") rfl (by decide)) (by decide)

end enforcement

end CislunarDtn.CapabilityChecks
