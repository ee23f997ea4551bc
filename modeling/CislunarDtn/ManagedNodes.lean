import CislunarDtn.IonRuns
import CislunarDtn.RequestCalls

/-!
# Nodes managed over the interface

The management interface with the ION adapter behind it: requests change the
stored configuration and the state machine, and the calls they make write
files, run the admin tools and so change the engine. What the engine has been
told is the outcome of starts with what was deployed last before each of them,
whatever configuration is stored.
-/

namespace CislunarDtn.ManagedNodes

open CommandSequences DecimalTexts IonDatabases IonDeclarations IonDeployments IonRuns IonScripts
  KeyedMaps LabelledRuns ManagementApis NetworkConfigurations RequestCalls

section adapter

/-- How the file system and the tools of ION behave during a request. -/
structure Tools where
  /-- The order in which a deployment writes its files. -/
  order : IterationOrder ConfigFile
  /-- How the creation of the directory ends. -/
  created : Except AbstractionError Unit
  /-- How the files are written, by position. -/
  writing : ℕ → Except AbstractionError Unit
  /-- The order in which a start finds the directory listed, for each kind of file. -/
  listing : Script → IterationOrder ConfigFile
  /-- How the admin tools of a start end. -/
  started : Except AbstractionError Unit
  /-- How many lines of its scripts a start performs that fails. -/
  lines : ℕ
  /-- How a stop ends. -/
  stopped : Except AbstractionError Unit
  /-- How the commands of a change of neighbors end, by position. -/
  change : ℕ → Except AbstractionError Unit
  /-- How the other calls end. -/
  answer : AdapterCall → Except AbstractionError Unit

/-- What the adapter works on. -/
structure Site where
  /-- The configuration directory. -/
  files : Directory
  /-- The engine. -/
  engine : EngineDatabase

/-- Where files are deployed. -/
def outputDir : Text := chars "/var/radiant/config"

variable (read : ConfigFile → List Line) (tools : Tools)

/-- Write the files of a configuration up to the first that fails. -/
def deployIon (config : NetworkConfiguration) (site : Site) :
    Site × Except AbstractionError Unit :=
  match tools.created with
  | .error e => (site, .error e)
  | .ok () =>
    match perform KeyedMap.insert tools.writing site.files
        (tools.order.arrange (generateIonConfig config)) with
    | (files, result) => ({ site with files }, result)

/-- The lines of some files that the tools of a start perform: all of them, unless a tool fails. -/
def performed (script : List Line) : List Line :=
  match tools.started with
  | .ok () => script
  | .error _ => script.take tools.lines

/-- Hand the files of the directory to the admin tools. -/
def startIon (site : Site) : Site × Except AbstractionError Unit :=
  match findConfigFiles tools.listing outputDir site.files with
  | .error e => (site, .error e)
  | .ok handed =>
    ({ site with
      engine := (declared some (performed tools (handed.flatMap fun file => read file.2))).foldl
        EngineDatabase.declare site.engine }, tools.started)

/-- Stop the engine, which forgets what it has been told. -/
def stopIon (site : Site) : Site × Except AbstractionError Unit :=
  match tools.stopped with
  | .error e => (site, .error e)
  | .ok () => ({ site with engine := .empty }, .ok ())

/-- A call of the ION adapter. A restart ignores how the stop ends. The identifier of a link is
taken to be one line, so that the engine's entries stay as they are. -/
def callIon (site : Site) : AdapterCall → Site × Except AbstractionError Unit
  | .validate _ => (site, .ok ())
  | .generateConfig _ => (site, .ok ())
  | .deploy config => deployIon tools config site
  | .lifecycle .start => startIon read tools site
  | .lifecycle .stop => stopIon tools site
  | .lifecycle .restart => startIon read tools (stopIon tools site).1
  | .addNeighbor neighbor =>
    match addNeighbor tools.change site.engine neighbor with
    | (engine, result) => ({ site with engine }, result)
  | .removeNeighbor node =>
    match removeNeighbor tools.change site.engine node with
    | (engine, result) => ({ site with engine }, result)
  | call => (site, tools.answer call)

end adapter

section nodes

/-- A node with its interface. -/
structure ManagedNode where
  /-- What the handlers share. -/
  api : AppState
  /-- What the adapter works on. -/
  site : Site

/-- A node on which nothing was deployed, with the ION adapter. -/
def ManagedNode.new : ManagedNode := ⟨.new [chars "ion-dtn"], ⟨.empty, .empty⟩⟩

/-- A request, and how the tools behave while it is handled. -/
abbrev Handling := Request × Tools

variable (read : ConfigFile → List Line)

/-- What the handler of a request returns. At most the last of its calls changes anything, so that
all of them are answered by the site before the request. -/
def reply (node : ManagedNode) (handling : Handling) : Reply :=
  handle (fun _ call => (callIon read handling.2 node.site call).2) node.api handling.1

/-- The node after a request: its handler's calls are made one after the other. -/
def step (node : ManagedNode) (handling : Handling) : ManagedNode :=
  ⟨(reply read node handling).state, (reply read node handling).calls.foldl
    (fun site call => (callIon read handling.2 site call.2).1) node.site⟩

end nodes

section histories

/-- How many lines of its scripts a start performs. -/
def linesPerformed (tools : Tools) (config : NetworkConfiguration) : ℕ :=
  match tools.started with
  | .ok () => (startLines config).length
  | .error _ => tools.lines

/-- The start of the engine, if something was deployed. -/
def startEvents (tools : Tools) (deployed : Option NetworkConfiguration) :
    List (AdminEvent AbstractionError) :=
  (deployed.map fun config => .start config (linesPerformed tools config)).toList

/-- The stop of the engine, unless it fails. -/
def stopEvents (tools : Tools) : List (AdminEvent AbstractionError) :=
  match tools.stopped with
  | .ok () => [.stop]
  | .error _ => []

/-- What a call means for the engine, given what was deployed last. -/
def eventsOf (tools : Tools) (deployed : Option NetworkConfiguration) :
    AdapterCall → List (AdminEvent AbstractionError)
  | .lifecycle .start => startEvents tools deployed
  | .lifecycle .stop => stopEvents tools
  | .lifecycle .restart => stopEvents tools ++ startEvents tools deployed
  | .addNeighbor neighbor => [.addNeighbor neighbor tools.change]
  | .removeNeighbor node => [.removeNeighbor node tools.change]
  | _ => []

/-- The configuration whose files a request writes. -/
def deployedBy : Handling → Option NetworkConfiguration
  | (.deploy config, tools) =>
    if validate config = .ok () ∧ config.backend = chars "ion-dtn" ∧ tools.created = .ok () then
      some config
    else none
  | _ => none

/-- A node with what has happened to it. -/
structure Trace where
  /-- The node. -/
  node : ManagedNode
  /-- What was deployed last. -/
  deployed : Option NetworkConfiguration
  /-- What has happened to the engine. -/
  events : List (AdminEvent AbstractionError)

/-- A node to which nothing has happened. -/
def Trace.new : Trace := ⟨.new, none, []⟩

variable (read : ConfigFile → List Line)

/-- A request, which is recorded: its calls in order, each start with what was deployed last before
it. -/
def Trace.step (t : Trace) (handling : Handling) : Trace :=
  ⟨ManagedNodes.step read t.node handling, deployedBy handling <|> t.deployed,
    t.events ++ (reply read t.node handling).calls.flatMap fun call =>
      eventsOf handling.2 t.deployed call.2⟩

theorem run_step_node (t : Trace) (handlings : List Handling) :
    (run (Trace.step read) t handlings).node = run (step read) t.node handlings := by
  induction handlings generalizing t with
  | nil => rfl
  | cons handling handlings ih => exact ih (t.step read handling)

/-- A deployment is for the one node, writes all of its files, and the tools read the lines of its
scripts as they were written. -/
def Proper (number : UInt64) (handling : Handling) : Prop :=
  ∀ config, deployedBy handling = some config → config.localNode.nodeNumber = number ∧
    handling.2.writing = allSucceed ∧
      ((scriptFiles config).flatMap fun file => read file.2) = startLines config

end histories

section files

/-- The directory has the scripts of what was deployed last and nothing else. -/
def Has (files : Directory) : Option NetworkConfiguration → Prop
  | none => files = .empty
  | some config => (∀ script, scriptFile config script ∈ files) ∧
    ∀ file ∈ files, ∃ script, scriptFile config script = file

variable {files : Directory} {config : NetworkConfiguration}

theorem Has.findConfigFiles (h : Has files (some config))
    (listing : Script → IterationOrder ConfigFile) (configDir : Text) :
    findConfigFiles listing configDir files = .ok (scriptFiles config) := by
  have hstart := start_of_unique h.1 h.2 listing (fun _ _ => .ok ()) configDir
  rw [runAdmins_of_ok] at hstart
  cases hfound : IonDeployments.findConfigFiles listing configDir files with
  | error e =>
    rw [start, hfound] at hstart
    exact absurd (congrArg StartReport.handed hstart) (List.cons_ne_nil _ _).symm
  | ok handed =>
    rw [start_of_ok hfound, runAdmins_of_ok] at hstart
    exact congrArg Except.ok (congrArg StartReport.handed hstart)

theorem findConfigFiles_empty (listing : Script → IterationOrder ConfigFile) (configDir : Text) :
    ∃ e, findConfigFiles listing configDir .empty = .error e := by
  have hnil : ∀ order : IterationOrder ConfigFile,
      order.arrange (KeyedMap.empty : Directory).values = [] := by
    intro order
    exact List.Perm.eq_nil (order.arrange_perm [])
  exact ⟨_, by simp [findConfigFiles, findConfigFile, hnil, bind, Except.bind]; rfl⟩

/-- A deployment for the same node leaves its own scripts. -/
theorem Has.deploy {deployed : Option NetworkConfiguration} (h : Has files deployed)
    (hnumber : ∀ old ∈ deployed, old.localNode.nodeNumber = config.localNode.nodeNumber)
    (order : IterationOrder ConfigFile) : Has (deploy order config files) (some config) := by
  refine ⟨fun script => mem_deploy.mpr (.inl ⟨script, rfl⟩), fun file hfile => ?_⟩
  rcases mem_deploy.mp hfile with hscript | ⟨hold, hname⟩
  · exact hscript
  · cases deployed with
    | none =>
      rw [h] at hold
      exact absurd hold List.not_mem_nil
    | some old =>
      obtain ⟨script, rfl⟩ := h.2 file hold
      have hsame : (scriptFile config script).name = (scriptFile old script).name :=
        name_scriptFile_inj.mpr ⟨(hnumber old rfl).symm, rfl⟩
      exact absurd hsame (hname script)

end files

section calls

variable {read : ConfigFile → List Line} {tools : Tools} {site : Site}
  {deployed : Option NetworkConfiguration}

/-- The tools read the scripts of what was deployed last as they were written. -/
def ReadsScripts (read : ConfigFile → List Line) (deployed : Option NetworkConfiguration) : Prop :=
  ∀ config ∈ deployed, ((scriptFiles config).flatMap fun file => read file.2) = startLines config

/-- A start performs the scripts of what was deployed last. -/
theorem startIon_eq (hfiles : Has site.files deployed) (hread : ReadsScripts read deployed) :
    (startIon read tools site).1 =
      { site with engine := run IonRuns.step site.engine (startEvents tools deployed) } := by
  cases deployed with
  | none =>
    obtain ⟨e, herror⟩ := findConfigFiles_empty tools.listing outputDir
    have hfound : findConfigFiles tools.listing outputDir site.files = .error e := by
      rw [show site.files = .empty from hfiles]
      exact herror
    rw [startIon, hfound]
    rfl
  | some config =>
    rw [startIon, hfiles.findConfigFiles]
    dsimp only
    rw [hread config rfl, startEvents, Option.map_some, Option.toList_some, run_cons, run_nil,
      IonRuns.step, started, performed, linesPerformed]
    cases tools.started with
    | error e => rfl
    | ok => rw [List.take_length]

/-- A start succeeds if something was deployed and no tool fails. -/
theorem startIon_ok_iff (hfiles : Has site.files deployed) :
    (startIon read tools site).2 = .ok () ↔ deployed.isSome = true ∧ tools.started = .ok () := by
  cases deployed with
  | none =>
    obtain ⟨e, herror⟩ := findConfigFiles_empty tools.listing outputDir
    have hfound : findConfigFiles tools.listing outputDir site.files = .error e := by
      rw [show site.files = .empty from hfiles]
      exact herror
    rw [startIon, hfound]
    simp
  | some config =>
    rw [startIon, hfiles.findConfigFiles]
    simp

theorem stopIon_eq : (stopIon tools site).1 =
    { site with engine := run IonRuns.step site.engine (stopEvents tools) } := by
  unfold stopIon stopEvents
  cases tools.stopped <;> rfl

/-- A call that deploys nothing leaves the files and does to the engine what it means. -/
theorem callIon_eq (hfiles : Has site.files deployed) (hread : ReadsScripts read deployed)
    {call : AdapterCall} (hcall : ∀ config, call ≠ .deploy config) :
    (callIon read tools site call).1 =
      { site with engine := run IonRuns.step site.engine (eventsOf tools deployed call) } := by
  cases call with
  | deploy config => exact absurd rfl (hcall config)
  | lifecycle kind =>
    cases kind with
    | start => exact startIon_eq hfiles hread
    | stop => exact stopIon_eq
    | restart =>
      have hstop : (stopIon tools site).1 =
          { site with engine := run IonRuns.step site.engine (stopEvents tools) } := stopIon_eq
      have hfiles' : Has (stopIon tools site).1.files deployed := by
        rw [hstop]
        exact hfiles
      rw [callIon, startIon_eq hfiles' hread, hstop, eventsOf, run_append]
  | _ => rfl

theorem calls_eq (hread : ReadsScripts read deployed) {calls : List (Text × AdapterCall)}
    (hcalls : ∀ call ∈ calls, ∀ config, call.2 ≠ .deploy config)
    (hfiles : Has site.files deployed) :
    calls.foldl (fun site call => (callIon read tools site call.2).1) site =
      { site with
        engine := run IonRuns.step site.engine
          (calls.flatMap fun call => eventsOf tools deployed call.2) } := by
  induction calls generalizing site with
  | nil => rfl
  | cons call calls ih =>
    have hfirst : (callIon read tools site call.2).1 =
        { site with engine := run IonRuns.step site.engine (eventsOf tools deployed call.2) } :=
      callIon_eq hfiles hread (hcalls call List.mem_cons_self)
    rw [List.foldl_cons, hfirst, List.flatMap_cons, run_append]
    exact ih (fun c hc => hcalls c (List.mem_cons_of_mem _ hc)) hfiles

end calls

section steps

variable {read : ConfigFile → List Line} {number : UInt64} {t : Trace} {handling : Handling}

/-- What runs keep: the engine is what has happened to it, the directory has the scripts of what
was deployed last, and a state machine that says Running stands for an engine that was started. -/
structure Managed (read : ConfigFile → List Line) (number : UInt64) (t : Trace) : Prop where
  /-- The adapter. -/
  registry : t.node.api.registry = [chars "ion-dtn"]
  /-- The scripts. -/
  files : Has t.node.site.files t.deployed
  /-- How the tools read them. -/
  scripts : ReadsScripts read t.deployed
  /-- The node they are for. -/
  number : ∀ config ∈ t.deployed, config.localNode.nodeNumber = number
  /-- The engine. -/
  engine : t.node.site.engine = run IonRuns.step .empty t.events
  /-- The state machine. -/
  running : t.node.api.machine.state = .running → t.deployed.isSome

theorem managed_new : Managed read number .new :=
  ⟨rfl, rfl, fun _ h => (nomatch h), fun _ h => (nomatch h), rfl, fun h => (nomatch h)⟩

/-- A request that deploys nothing leaves the files and does to the engine what its calls mean. -/
theorem site_step_of_ne_deploy (h : Managed read number t)
    (hdeploy : ∀ config, handling.1 ≠ .deploy config) :
    (step read t.node handling).site = { t.node.site with
      engine := run IonRuns.step t.node.site.engine
        ((reply read t.node handling).calls.flatMap fun call =>
          eventsOf handling.2 t.deployed call.2) } :=
  calls_eq h.scripts (calls_ne_deploy _ _ hdeploy) h.files

theorem site_step (h : Managed read number t) (hdeploy : ∀ config, handling.1 ≠ .deploy config) :
    (t.step read handling).node.site =
      { t.node.site with engine := run IonRuns.step .empty (t.step read handling).events } := by
  have hcalls := site_step_of_ne_deploy h hdeploy
  rw [h.engine, ← run_append] at hcalls
  exact hcalls

theorem deployIon_eq {tools : Tools} {site : Site} {config : NetworkConfiguration}
    (hcreated : tools.created = .ok ()) (hwriting : tools.writing = allSucceed) :
    (deployIon tools config site).1 =
      { site with files := deploy tools.order config site.files } := by
  rw [deployIon, hcreated]
  dsimp only
  rw [hwriting, perform_allSucceed]
  rfl

/-- A deployment means nothing for the engine. -/
theorem events_step_deploy {config : NetworkConfiguration} {tools : Tools} :
    (t.step read (.deploy config, tools)).events = t.events := by
  have hnil : ∀ call ∈ (reply read t.node (.deploy config, tools)).calls,
      eventsOf tools t.deployed call.2 = [] := by
    intro call hcall
    rcases mem_calls_processConfig _ _ hcall with heq | heq <;>
      rw [heq] <;> rfl
  rw [Trace.step, List.flatMap_eq_nil_iff.mpr hnil, List.append_nil]

/-- The site after a request to deploy: with the scripts, if they were written. -/
theorem site_step_deploy (h : Managed read number t) {config : NetworkConfiguration}
    {tools : Tools} (hproper : Proper read number (.deploy config, tools)) :
    (t.step read (.deploy config, tools)).node.site =
      match deployedBy (.deploy config, tools) with
      | none => t.node.site
      | some config =>
        { t.node.site with files := deploy tools.order config t.node.site.files } := by
  have hcalls : (reply read t.node (.deploy config, tools)).calls =
      if validate config = .ok () ∧ config.backend = chars "ion-dtn" then
        [(config.backend, .validate config), (config.backend, .deploy config)]
      else [] := calls_postConfigDeploy _ _ h.registry rfl
  have hsite : (t.step read (.deploy config, tools)).node.site =
      (reply read t.node (.deploy config, tools)).calls.foldl
        (fun site call => (callIon read tools site call.2).1) t.node.site := rfl
  rw [hsite, hcalls, deployedBy]
  by_cases hdeploys : validate config = .ok () ∧ config.backend = chars "ion-dtn"
  · rw [if_pos hdeploys]
    cases hcreated : tools.created with
    | error e =>
      rw [if_neg fun h => by cases h.2.2]
      show (deployIon tools config t.node.site).1 = t.node.site
      rw [deployIon, hcreated]
    | ok _ =>
      have hdeployed : deployedBy (.deploy config, tools) = some config :=
        if_pos ⟨hdeploys.1, hdeploys.2, hcreated⟩
      rw [if_pos ⟨hdeploys.1, hdeploys.2, rfl⟩]
      exact deployIon_eq hcreated (hproper config hdeployed).2.1
  · rw [if_neg hdeploys, if_neg fun h => hdeploys ⟨h.1, h.2.1⟩]
    rfl

theorem managed_step_deploy (h : Managed read number t) {config : NetworkConfiguration}
    {tools : Tools} (hproper : Proper read number (.deploy config, tools)) :
    Managed read number (t.step read (.deploy config, tools)) := by
  have hregistry : (t.step read (.deploy config, tools)).node.api.registry = [chars "ion-dtn"] :=
    (registry_handle _ _ (.deploy config)).trans h.registry
  have hmachine : (t.step read (.deploy config, tools)).node.api.machine = t.node.api.machine :=
    machine_handle _ _ fun kind heq => by cases heq
  have hsite := site_step_deploy h hproper
  cases hdeployed : deployedBy (.deploy config, tools) with
  | none =>
    rw [hdeployed] at hsite
    have hlast : (t.step read (.deploy config, tools)).deployed = t.deployed := by
      rw [Trace.step, hdeployed]
      rfl
    refine ⟨hregistry, ?_, ?_, ?_, ?_, ?_⟩
    · rw [hsite, hlast]
      exact h.files
    · rw [hlast]
      exact h.scripts
    · rw [hlast]
      exact h.number
    · rw [hsite, events_step_deploy]
      exact h.engine
    · rw [hmachine, hlast]
      exact h.running
  | some written =>
    obtain ⟨hnumber, -, hread⟩ := hproper written hdeployed
    rw [hdeployed] at hsite
    have hlast : (t.step read (.deploy config, tools)).deployed = some written := by
      rw [Trace.step, hdeployed]
      rfl
    refine ⟨hregistry, ?_, ?_, ?_, ?_, ?_⟩
    · rw [hsite, hlast]
      exact h.files.deploy (fun old hold => (h.number old hold).trans hnumber.symm) tools.order
    · rw [hlast]
      rintro config ⟨⟩
      exact hread
    · rw [hlast]
      rintro config ⟨⟩
      exact hnumber
    · rw [hsite, events_step_deploy]
      exact h.engine
    · rw [hlast]
      exact fun _ => rfl

theorem deployedBy_eq_none (hdeploy : ∀ config, handling.1 ≠ .deploy config) :
    deployedBy handling = none := by
  obtain ⟨request, tools⟩ := handling
  cases request with
  | deploy config => exact absurd rfl (hdeploy config)
  | _ => rfl

/-- Every proper request keeps them. -/
theorem managed_step (h : Managed read number t) (hproper : Proper read number handling) :
    Managed read number (t.step read handling) := by
  by_cases hdeploys : ∃ config, handling.1 = .deploy config
  · obtain ⟨request, tools⟩ := handling
    obtain ⟨config, hrequest⟩ := hdeploys
    obtain rfl : request = .deploy config := hrequest
    exact managed_step_deploy h hproper
  · have hdeploy : ∀ config, handling.1 ≠ .deploy config := fun config heq => hdeploys ⟨config, heq⟩
    have hsite := site_step h hdeploy
    have hlast : (t.step read handling).deployed = t.deployed := by
      rw [Trace.step, deployedBy_eq_none hdeploy]
      rfl
    refine ⟨(registry_handle _ _ handling.1).trans h.registry, ?_, ?_, ?_, ?_, ?_⟩
    · rw [hsite, hlast]
      exact h.files
    · rw [hlast]
      exact h.scripts
    · rw [hlast]
      exact h.number
    · rw [hsite]
    · rw [hlast]
      intro hrunning
      rcases running_handle _ _ hrunning with hbefore | ⟨-, name, -, hok⟩
      · exact h.running hbefore
      · exact ((startIon_ok_iff h.files).mp hok).1

end steps

section runs

variable (read : ConfigFile → List Line) {number : UInt64} {handlings : List Handling}

theorem managed_run (h : ∀ handling ∈ handlings, Proper read number handling) :
    Managed read number (run (Trace.step read) .new handlings) := by
  have hproper : Along (Trace.step read) (fun _ handling => Proper read number handling) .new
      handlings := along_iff_forall_mem.mpr h
  exact hproper.invariant (fun _ _ => managed_step) managed_new

/-- A node with one neighbor. -/
def station : NetworkConfiguration :=
  ⟨chars "ion-dtn", ⟨10, none, []⟩, [⟨20, [.ltpUdp [] 10 20 (chars "10.0.0.20") 1113 1113 none]⟩],
    ⟨[], []⟩, ⟨.cgr, []⟩, none, []⟩

/-- Tools that never fail. -/
def reliable : Tools where
  order := .listed ConfigFile
  created := .ok ()
  writing := allSucceed
  listing := fun _ => .listed ConfigFile
  started := .ok ()
  lines := 0
  stopped := .ok ()
  change := allSucceed
  answer := fun _ => .ok ()

/-- The lines of the scripts of a configuration, by file name. -/
def readScripts (config : NetworkConfiguration) (file : ConfigFile) : List Line :=
  if file.name = (scriptFile config .ionrc).name then ionrcLines config
  else if file.name = (scriptFile config .ltprc).name then ltprcLines config
  else if file.name = (scriptFile config .bprc).name then bprcLines config
  else ipnrcLines config

theorem readScripts_scriptFiles (config : NetworkConfiguration) :
    ((scriptFiles config).flatMap fun file => readScripts config file.2) = startLines config := by
  simp [scriptFiles, readScripts, startLines, name_scriptFile_inj]

/-- The node is deployed and started, and gets another neighbor. -/
def session : List Handling :=
  [(.deploy station, reliable), (.lifecycle .start, reliable),
    (.addNeighbor ⟨30, [.ltpUdp [] 10 20 (chars "10.0.0.20") 1113 1113 none]⟩, reliable)]

theorem proper_of_mem_session {handlings : List Handling}
    (h : ∀ handling ∈ handlings, handling = (.deploy station, reliable) ∨
      ∀ config, handling.1 ≠ .deploy config) :
    ∀ handling ∈ handlings, Proper (readScripts station) 10 handling := by
  intro handling hmem config hdeployed
  rcases h handling hmem with rfl | hother
  · have hwritten : deployedBy (.deploy station, reliable) = some station := by decide +kernel
    obtain rfl : station = config := Option.some.inj (hwritten.symm.trans hdeployed)
    exact ⟨rfl, rfl, readScripts_scriptFiles station⟩
  · rw [deployedBy_eq_none hother] at hdeployed
    cases hdeployed

theorem proper_session : ∀ handling ∈ session, Proper (readScripts station) 10 handling :=
  proper_of_mem_session (by simp [session])

end runs

end CislunarDtn.ManagedNodes
