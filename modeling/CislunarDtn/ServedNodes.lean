import CislunarDtn.ConfigurationRoutes
import CislunarDtn.LifecycleRequests
import CislunarDtn.ManagedNodes

/-!
# Nodes that are served

The serve command starts the engine from files of its own and opens the
interface, whose requests use another directory and whose state machine says
Stopped. As long as nothing is deployed over the interface, nothing starts the
engine, and it keeps the spans of its configuration until the first restart
that stops it.
-/

namespace CislunarDtn.ServedNodes

open CommandSequences DecimalTexts IonDatabases IonDeclarations IonDeployments IonRuns IonScripts
  KeyedMaps LabelledRuns ManagedNodes ManagementApis NetworkConfigurations RequestCalls

section command

variable (read : ConfigFile → List Line) (tools : Tools)

/-- Generate the files in a directory of its own, start the engine from there, which has been told
nothing before, and set up the interface, which deploys to another directory. -/
def cmdServe (config : NetworkConfiguration) (temporary files : Directory) : Option ManagedNode :=
  match deployIon tools config ⟨temporary, .empty⟩ with
  | (_, .error _) => none
  | (site, .ok ()) =>
    match startIon read tools site with
    | (_, .error _) => none
    | (site, .ok ()) => some ⟨ConfigurationRoutes.served config, ⟨files, site.engine⟩⟩

variable {read tools} {config : NetworkConfiguration} {site : Site}

/-- A deployment that succeeds has written all files. -/
theorem deployIon_of_ok (h : (deployIon tools config site).2 = .ok ()) :
    (deployIon tools config site).1 =
      { site with files := deploy tools.order config site.files } := by
  rw [deployIon] at h ⊢
  cases hcreated : tools.created with
  | error e =>
    rw [hcreated] at h
    cases h
  | ok _ =>
    rw [hcreated] at h
    have hfiles : (perform KeyedMap.insert tools.writing site.files
        (tools.order.arrange (generateIonConfig config))).1 =
          deploy tools.order config site.files := perform_of_ok KeyedMap.insert h
    dsimp only
    rw [hfiles]

/-- What is set up when the command succeeds, in a directory that has at most the scripts of an
earlier configuration of the node. -/
theorem cmdServe_eq_some {temporary files : Directory} {earlier : Option NetworkConfiguration}
    {node : ManagedNode} (htemporary : Has temporary earlier)
    (hnumber : ∀ old ∈ earlier, old.localNode.nodeNumber = config.localNode.nodeNumber)
    (hread : ReadsScripts read (some config))
    (h : cmdServe read tools config temporary files = some node) :
    node = ⟨ConfigurationRoutes.served config, ⟨files, databaseOf config⟩⟩ := by
  rw [cmdServe] at h
  rcases hdeploy : deployIon tools config ⟨temporary, .empty⟩ with ⟨site, e | ⟨⟩⟩
  · rw [hdeploy] at h
    cases h
  · rw [hdeploy] at h
    dsimp only at h
    have hsite : site = ⟨deploy tools.order config temporary, .empty⟩ := by
      have heq := deployIon_of_ok (congrArg Prod.snd hdeploy)
      rw [hdeploy] at heq
      exact heq
    have hfiles : Has site.files (some config) := by
      rw [hsite]
      exact htemporary.deploy hnumber tools.order
    rcases hstart : startIon read tools site with ⟨running, e | ⟨⟩⟩
    · rw [hstart] at h
      cases h
    · rw [hstart] at h
      have hstarted := ((startIon_ok_iff hfiles).mp (congrArg Prod.snd hstart)).2
      have hrunning : (startIon read tools site).1 = { site with
          engine := run IonRuns.step site.engine (startEvents tools (some config)) } :=
        startIon_eq hfiles hread
      rw [hstart, hsite, startEvents, Option.map_some, Option.toList_some, run_cons, run_nil,
        linesPerformed, hstarted, IonRuns.step, started, List.take_length] at hrunning
      obtain rfl : running = ⟨deploy tools.order config temporary, databaseOf config⟩ := hrunning
      exact (Option.some.inj h).symm

end command

section runs

variable {read : ConfigFile → List Line} {number : UInt64} {t : Trace} {handling : Handling}

/-- A restart that reaches the adapter and stops the engine. -/
def TakesDown (node : ManagedNode) (handling : Handling) : Prop :=
  handling.1 = .lifecycle .restart ∧ handling.2.stopped = .ok () ∧
    ActiveAdapters.target node.api ≠ none

theorem spans_run_of_kept {events : List (AdminEvent AbstractionError)}
    (h : ∀ e ∈ events, ∀ db, (IonRuns.step db e).spans = db.spans) (db : EngineDatabase) :
    (run IonRuns.step db events).spans = db.spans := by
  induction events generalizing db with
  | nil => rfl
  | cons e events ih =>
    rw [run_cons, ih fun e he => h e (List.mem_cons_of_mem _ he)]
    exact h e List.mem_cons_self db

/-- Calls that start and stop nothing keep the spans. -/
theorem spans_step_of_mem_eventsOf {tools : Tools} {deployed : Option NetworkConfiguration}
    {call : AdapterCall} (hcall : ∀ kind, call ≠ .lifecycle kind) {e : AdminEvent AbstractionError}
    (he : e ∈ eventsOf tools deployed call) (db : EngineDatabase) :
    (IonRuns.step db e).spans = db.spans := by
  cases call with
  | lifecycle kind => exact absurd rfl (hcall kind)
  | addNeighbor neighbor =>
    obtain rfl := List.mem_singleton.mp he
    exact spans_addNeighbor tools.change neighbor
  | removeNeighbor node =>
    obtain rfl := List.mem_singleton.mp he
    exact spans_removeNeighbor tools.change node
  | _ => exact absurd he List.not_mem_nil

/-- Without a deployment, lifecycle requests can only stop the engine, and only by a restart. -/
theorem spans_step_lifecycle_iff (h : Managed read number t) (hnone : t.deployed = none)
    (kind : Lifecycle) (tools : Tools) (entry : UInt64 × UInt32 × SpanOutput) :
    entry ∈ (step read t.node (.lifecycle kind, tools)).site.engine.spans ↔
      entry ∈ t.node.site.engine.spans ∧ ¬TakesDown t.node (.lifecycle kind, tools) := by
  have hdeploy : ∀ config, (Request.lifecycle kind, tools).1 ≠ .deploy config := by
    intro config heq
    cases heq
  rw [site_step_of_ne_deploy h hdeploy, reply, handle_lifecycle]
  rcases lifecycleRequest_cases (fun _ call => (callIon read tools t.node.site call).2) t.node.api
    kind with ⟨hrefused, hcalls, -⟩ | ⟨name, htarget, henter, hcalls, -⟩
  · rw [hcalls]
    refine (and_iff_left fun htakes => ?_).symm
    obtain rfl : kind = .restart := Request.lifecycle.inj htakes.1
    rcases hrefused with hmissing | henter
    · exact htakes.2.2 hmissing
    · exact henter rfl
  · rw [hcalls, List.flatMap_singleton, hnone]
    cases kind with
    | start =>
      refine (and_iff_left fun htakes => ?_).symm
      cases htakes.1
    | stop =>
      have hok : (Lifecycle.stop.enter t.node.api.machine).2.isOk := by
        rw [henter]
        rfl
      have hsome := h.running ((LifecycleRequests.enter_stop t.node.api.machine).mp hok)
      rw [hnone] at hsome
      cases hsome
    | restart =>
      have hevents : eventsOf tools none (.lifecycle .restart) = stopEvents tools :=
        List.append_nil _
      rw [hevents, stopEvents]
      cases hstopped : tools.stopped with
      | error e =>
        refine (and_iff_left fun htakes => ?_).symm
        cases hstopped.symm.trans htakes.2.1
      | ok _ =>
        have htakes : TakesDown t.node (.lifecycle .restart, tools) := by
          refine ⟨rfl, hstopped, ?_⟩
          rw [htarget]
          exact Option.some_ne_none name
        exact iff_of_false (Finset.notMem_empty entry) fun hboth => hboth.2 htakes

/-- Where nothing was deployed, a request keeps the spans or takes all of them. -/
theorem spans_step_iff (h : Managed read number t) (hnone : t.deployed = none)
    (hdeployed : deployedBy handling = none) (entry : UInt64 × UInt32 × SpanOutput) :
    entry ∈ (step read t.node handling).site.engine.spans ↔
      entry ∈ t.node.site.engine.spans ∧ ¬TakesDown t.node handling := by
  obtain ⟨request, tools⟩ := handling
  by_cases hlifecycle : ∃ kind, request = .lifecycle kind
  · obtain ⟨kind, rfl⟩ := hlifecycle
    exact spans_step_lifecycle_iff h hnone kind tools entry
  · have hrequest : ∀ kind, request ≠ .lifecycle kind := fun kind heq => hlifecycle ⟨kind, heq⟩
    have hkept : (step read t.node (request, tools)).site.engine.spans =
        t.node.site.engine.spans := by
      by_cases hdeploys : ∃ config, request = .deploy config
      · obtain ⟨config, rfl⟩ := hdeploys
        have hproper : Proper read number (.deploy config, tools) := by
          intro other hother
          rw [hdeployed] at hother
          cases hother
        have hsite := site_step_deploy h hproper
        rw [hdeployed] at hsite
        exact congrArg (fun site : Site => site.engine.spans) hsite
      · have hdeploy : ∀ config, request ≠ .deploy config := fun config heq =>
          hdeploys ⟨config, heq⟩
        have hcalls : ∀ call ∈ (reply read t.node (request, tools)).calls,
            ∀ kind, call.2 ≠ .lifecycle kind := calls_ne_lifecycle _ _ hrequest
        rw [site_step_of_ne_deploy h hdeploy]
        refine spans_run_of_kept (fun e he db => ?_) _
        obtain ⟨call, hcall, hevent⟩ := List.mem_flatMap.mp he
        exact spans_step_of_mem_eventsOf (hcalls call hcall) hevent db
    rw [hkept]
    exact (and_iff_left fun htakes => hrequest .restart htakes.1).symm

/-- A served node to which nothing has happened yet. -/
def servedTrace (config : NetworkConfiguration) : Trace :=
  ⟨⟨ConfigurationRoutes.served config, ⟨.empty, databaseOf config⟩⟩, none,
    [.start config (startLines config).length]⟩

theorem managed_served (config : NetworkConfiguration) :
    Managed read number (servedTrace config) where
  registry := rfl
  files := rfl
  scripts := by
    intro other hother
    cases hother
  number := by
    intro other hother
    cases hother
  engine := by
    rw [servedTrace, run_cons, run_nil, IonRuns.step, started, List.take_length]
    rfl
  running := by
    intro hrunning
    cases hrunning

/-- What runs without a deployment keep of a node. -/
def Undeployed (read : ConfigFile → List Line) (number : UInt64) (node : ManagedNode) : Prop :=
  ∃ t : Trace, t.node = node ∧ t.deployed = none ∧ Managed read number t

theorem undeployed_step {node : ManagedNode} (h : Undeployed read number node)
    (hdeployed : deployedBy handling = none) :
    Undeployed read number (step read node handling) := by
  obtain ⟨t, rfl, hnone, hmanaged⟩ := h
  have hproper : Proper read number handling := by
    intro config hconfig
    rw [hdeployed] at hconfig
    cases hconfig
  refine ⟨t.step read handling, rfl, ?_, managed_step hmanaged hproper⟩
  rw [Trace.step, hdeployed, hnone]
  rfl

/-- Until something is deployed over the interface of a served node, the interface never says
Running, and the engine has the spans of the served configuration exactly as long as no restart
has stopped it. -/
theorem spans_of_served {tools : Tools} {config : NetworkConfiguration} {temporary : Directory}
    {earlier : Option NetworkConfiguration} {node : ManagedNode}
    (htemporary : Has temporary earlier)
    (hnumber : ∀ old ∈ earlier, old.localNode.nodeNumber = config.localNode.nodeNumber)
    (hread : ReadsScripts read (some config))
    (hserve : cmdServe read tools config temporary .empty = some node)
    {handlings : List Handling} (hnone : ∀ handling ∈ handlings, deployedBy handling = none) :
    (run (step read) node handlings).api.machine.state ≠ .running ∧
      ∀ entry, entry ∈ (run (step read) node handlings).site.engine.spans ↔
        entry ∈ (databaseOf config).spans ∧
          Along (step read) (fun node handling => ¬TakesDown node handling) node handlings := by
  have hnode : node = (servedTrace config).node :=
    cmdServe_eq_some htemporary hnumber hread hserve
  have hundeployed : Undeployed read 0 node :=
    ⟨servedTrace config, hnode.symm, rfl, managed_served config⟩
  have hpremise : Along (step read) (fun _ handling => deployedBy handling = none) node
      handlings := along_iff_forall_mem.mpr hnone
  constructor
  · obtain ⟨t, ht, hlast, hmanaged⟩ :=
      hpremise.invariant (fun _ _ hinv => undeployed_step hinv) hundeployed
    intro hrunning
    rw [← ht] at hrunning
    have hsome := hmanaged.running hrunning
    rw [hlast] at hsome
    cases hsome
  · intro entry
    have hspans : (databaseOf config).spans = node.site.engine.spans := by
      rw [hnode]
      rfl
    rw [hspans]
    have hstep : ∀ node handling, Undeployed read 0 node → deployedBy handling = none →
        (entry ∈ (step read node handling).site.engine.spans ↔
          entry ∈ node.site.engine.spans ∧ ¬TakesDown node handling) := by
      rintro node handling ⟨t, rfl, hlast, hmanaged⟩ hdeployed
      exact spans_step_iff hmanaged hlast hdeployed entry
    exact run_iff_along_of_invariant (fun node => entry ∈ node.site.engine.spans) hstep
      (fun _ _ hinv => undeployed_step hinv) hpremise hundeployed

/-- A restart of a served node takes its spans, and a start does not bring them back. -/
theorem spans_of_served_restarted :
    ∃ node, cmdServe (readScripts station) reliable station .empty .empty = some node ∧
      ∀ entry, entry ∉ (run (step (readScripts station)) node
        [(.lifecycle .restart, reliable), (.lifecycle .start, reliable)]).site.engine.spans := by
  have hserved : (cmdServe (readScripts station) reliable station .empty .empty).isSome := by
    decide +kernel
  obtain ⟨node, hserve⟩ := Option.isSome_iff_exists.mp hserved
  have hread : ReadsScripts (readScripts station) (some station) := by
    rintro config ⟨⟩
    exact readScripts_scriptFiles station
  have hempty : Has .empty none := rfl
  have hnone : ∀ handling ∈ [(.lifecycle .restart, reliable), (.lifecycle .start, reliable)],
      deployedBy handling = none := by
    simp [deployedBy]
  have hspans := spans_of_served hempty (fun _ hold => by cases hold) hread hserve hnone
  have htarget : ActiveAdapters.target (ConfigurationRoutes.served station) ≠ none := by
    decide +kernel
  refine ⟨node, hserve, fun entry hentry => ?_⟩
  obtain ⟨-, hnever⟩ := (hspans.2 entry).mp hentry
  rw [cmdServe_eq_some hempty (fun _ hold => by cases hold) hread hserve] at hnever
  exact hnever.1 ⟨rfl, rfl, htarget⟩

end runs

end CislunarDtn.ServedNodes
