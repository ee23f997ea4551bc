import CislunarDtn.LabelledRuns
import CislunarDtn.ManagementApis

/-!
# The routes of a configuration

A configuration comes in by a request to the interface or as the document of a
command. The requests validate it before they use it; the commands load it and
go on.
-/

namespace CislunarDtn.ConfigurationRoutes

open DecimalTexts LabelledRuns ManagementApis NetworkConfigurations

/-- What has been done with configurations. -/
structure World where
  /-- What the handlers of the interface share. -/
  app : AppState
  /-- Configurations from which files were generated. -/
  generated : List NetworkConfiguration

/-- The commands with their documents, and the requests. -/
inductive Event where
  /-- The command that generates files. -/
  | generate (document : NetworkConfiguration)
  /-- The command that starts the engine, and whether its directory can be created. -/
  | start (document : NetworkConfiguration) (created : Bool)
  /-- The command that starts the engine and the interface, whether its directory can be
  created, and whether the engine starts. -/
  | serve (document : NetworkConfiguration) (created started : Bool)
  /-- A request to the interface, with the answers of the adapters. -/
  | request (request : Request) (answers : Answers)

/-- The configuration that a call of an adapter generates files from. -/
def generatedBy : AdapterCall → Option NetworkConfiguration
  | .generateConfig config | .deploy config => some config
  | _ => none

/-- The interface as the command sets it up. -/
def served (document : NetworkConfiguration) : AppState :=
  { AppState.new [chars "ion-dtn"] with config := some document }

/-- One command or request. -/
def step (w : World) : Event → World
  | .generate document => { w with generated := document :: w.generated }
  | .start document created =>
    if created then { w with generated := document :: w.generated } else w
  | .serve document created started =>
    if created then
      ⟨if started then served document else w.app, document :: w.generated⟩
    else w
  | .request request answers =>
    let reply := handle answers w.app request
    ⟨reply.state, reply.calls.filterMap (generatedBy ·.2) ++ w.generated⟩

/-- The interface on its own before the first request. -/
def initial (registry : List Text) : World := ⟨AppState.new registry, []⟩

/-- Every stored configuration and every one that files were generated from is valid. -/
def AllValid (w : World) : Prop :=
  (∀ config ∈ w.app.config, validate config = .ok ()) ∧
    ∀ config ∈ w.generated, validate config = .ok ()

/-- The document of a command that gets to use it is valid. -/
def Checked : Event → Prop
  | .generate document => validate document = .ok ()
  | .start document created | .serve document created _ => created → validate document = .ok ()
  | .request .. => True

section requests

/-- What a reply stores and what its calls generate is valid. -/
structure Reply.Validated (reply : Reply) : Prop where
  /-- The stored configuration. -/
  stored : ∀ config ∈ reply.state.config, validate config = .ok ()
  /-- Configurations that files are generated from. -/
  generated : ∀ call ∈ reply.calls, ∀ config ∈ generatedBy call.2, validate config = .ok ()

variable {s : AppState} {answers : Answers}

theorem postConfig_validated (h : ∀ config ∈ s.config, validate config = .ok ())
    (config : NetworkConfiguration) : Reply.Validated (postConfig config s) := by
  unfold postConfig
  cases hvalid : validate config with
  | error details => exact ⟨h, by simp⟩
  | ok _ => exact ⟨by simpa using hvalid, by simp⟩

/-- A configuration is processed once it is valid. -/
theorem processConfig_validated (h : ∀ config ∈ s.config, validate config = .ok ())
    {processed : AppState} {config : NetworkConfiguration}
    (hp : validate config = .ok () → ∀ other ∈ processed.config, validate other = .ok ())
    {call : AdapterCall} (hc : generatedBy call = some config) :
    Reply.Validated (processConfig call config answers s processed) := by
  unfold processConfig
  cases hvalid : validate config with
  | error details => exact ⟨h, by simp⟩
  | ok _ =>
    dsimp only
    cases registryGet s.registry config.backend with
    | error e => exact ⟨h, by simp⟩
    | ok name =>
      dsimp only
      cases answers name (.validate config) with
      | error e => exact ⟨h, by simp [generatedBy]⟩
      | ok _ =>
        have hcalls : ∀ asked ∈ [(name, .validate config), (name, call)],
            ∀ other ∈ generatedBy asked.2, validate other = .ok () := by
          intro asked hasked other hother
          rcases List.mem_pair.mp hasked with rfl | rfl
          · simp [generatedBy] at hother
          · obtain rfl : config = other := by simpa [hc] using hother
            exact hvalid
        dsimp only
        cases answers name call with
        | error e => exact ⟨h, hcalls⟩
        | ok _ => exact ⟨hp hvalid, hcalls⟩

theorem lifecycleRequest_validated (h : ∀ config ∈ s.config, validate config = .ok ())
    (kind : Lifecycle) : Reply.Validated (lifecycleRequest kind answers s) := by
  unfold lifecycleRequest
  split
  · exact ⟨h, by simp⟩
  · split
    · exact ⟨h, by simp⟩
    · exact ⟨h, by simp [generatedBy]⟩

theorem ask_validated (h : ∀ config ∈ s.config, validate config = .ok ())
    {message operation : Text} {call : AdapterCall} (hc : generatedBy call = none) :
    Reply.Validated (ask message operation call answers s) := by
  unfold ask
  split
  · exact ⟨h, by simp⟩
  · exact ⟨h, by simp [hc]⟩

/-- The handlers validate a configuration before they use it. -/
theorem handle_validated (h : ∀ config ∈ s.config, validate config = .ok ()) (request : Request) :
    Reply.Validated (handle answers s request) := by
  cases request with
  | config config => exact postConfig_validated h config
  | preview config => exact processConfig_validated h (fun _ => h) rfl
  | deploy config => exact processConfig_validated h (fun hvalid => by simpa using hvalid) rfl
  | lifecycle kind => cases kind <;> exact lifecycleRequest_validated h _
  | _ => exact ask_validated h rfl

end requests

/-- Files generated from a document keep configurations valid if and only if it is. -/
theorem allValid_document_iff {w : World} (h : AllValid w) {document : NetworkConfiguration}
    {app : AppState} (happ : validate document = .ok () →
      ∀ config ∈ app.config, validate config = .ok ()) :
    AllValid ⟨app, document :: w.generated⟩ ↔ validate document = .ok () := by
  constructor
  · intro hafter
    exact hafter.2 document List.mem_cons_self
  · intro hvalid
    exact ⟨happ hvalid, List.forall_mem_cons.mpr ⟨hvalid, h.2⟩⟩

/-- A step keeps configurations valid if and only if its document is. -/
theorem allValid_step_iff (w : World) (e : Event) (h : AllValid w) :
    AllValid (step w e) ↔ Checked e := by
  cases e with
  | generate document => exact allValid_document_iff h fun _ => h.1
  | start document created =>
    cases created with
    | false => exact iff_of_true h nofun
    | true => simpa [step, Checked] using allValid_document_iff h fun _ => h.1
  | serve document created started =>
    cases created with
    | false => exact iff_of_true h nofun
    | true =>
      have happ : validate document = .ok () →
          ∀ config ∈ (if started then served document else w.app).config,
            validate config = .ok () := by
        cases started with
        | false => exact fun _ => h.1
        | true => exact fun hvalid => by simpa [served] using hvalid
      simpa [step, Checked] using allValid_document_iff h happ
  | request request answers =>
    have hvalidated : Reply.Validated (handle answers w.app request) :=
      handle_validated h.1 request
    refine iff_of_true ⟨hvalidated.stored, fun config hmem => ?_⟩ trivial
    rcases List.mem_append.mp hmem with hmem | hmem
    · obtain ⟨call, hcall, hconfig⟩ := List.mem_filterMap.mp hmem
      exact hvalidated.generated call hcall config hconfig
    · exact h.2 config hmem

/-- Throughout a run of commands and requests all used and stored configurations are
valid, if and only if the documents are that the commands get to use. -/
theorem allValid_iff (registry : List Text) (events : List Event) :
    (∀ first, first <+: events → AllValid (run step (initial registry) first)) ↔
      ∀ e ∈ events, Checked e := by
  have hchecked : Along step (fun _ e => Checked e) (initial registry) events ↔
      ∀ e ∈ events, Checked e := along_iff_forall_mem
  rw [← hchecked]
  refine forall_prefix_iff_along (fun w e h _ => allValid_step_iff w e h) (along_true events) ?_
  simp [AllValid, initial, AppState.new]

/-- A document in which a node is its own neighbor. -/
def selfNeighbor : NetworkConfiguration :=
  ⟨chars "ion-dtn", ⟨10, none, []⟩, [⟨10, []⟩], ⟨[], []⟩, ⟨.cgr, []⟩, none, []⟩

/-- The serve command generates files from a document that is not valid and stores it. -/
theorem served_without_validation :
    ¬AllValid (run step (initial []) [.serve selfNeighbor true true]) := by
  intro h
  exact absurd (h.2 selfNeighbor (List.mem_singleton_self _)) (by decide)

end CislunarDtn.ConfigurationRoutes
