import CislunarDtn.IonScripts
import CislunarDtn.KeyedMaps

/-!
# Deployments of ION configurations

A deployment writes four files that are named after the node, and removes none.
A start takes the first file of each kind in the order in which the directory
is listed, whatever node it is named after.
-/

namespace CislunarDtn.IonDeployments

open DecimalTexts TerminatedLines NetworkConfigurations IonScripts KeyedMaps

/-- A file of the configuration directory. -/
structure ConfigFile where
  /-- Name within the directory. -/
  name : Text
  /-- What is in the file. -/
  content : Text
  deriving DecidableEq

/-- The configuration directory: files with different names. -/
abbrev Directory := KeyedMap ConfigFile.name

/-- Kinds of errors. -/
inductive ErrorCategory where
  /-- An invalid configuration. -/
  | validationError
  /-- An unknown adapter. -/
  | configurationError
  /-- A failed start or stop. -/
  | lifecycleError
  /-- A rejected command. -/
  | runtimeError
  /-- An operation that the backend lacks. -/
  | unsupportedOperation
  /-- An engine out of reach. -/
  | communicationError
  deriving DecidableEq

/-- An error, without the code of the backend. -/
structure AbstractionError where
  /-- Kind of the error. -/
  category : ErrorCategory
  /-- Description. -/
  message : Text
  /-- What was being done. -/
  operation : Text
  /-- What it was done to. -/
  resource : Option Text
  /-- The adapter. -/
  backend : Option Text
  deriving DecidableEq

/-- The scripts of a node. -/
inductive Script where
  /-- Script of ionadmin. -/
  | ionrc
  /-- Script of bpadmin. -/
  | bprc
  /-- Script of ltpadmin. -/
  | ltprc
  /-- Script of ipnadmin. -/
  | ipnrc
  deriving DecidableEq

/-- File name extension of a script. -/
def Script.extension : Script → Text
  | .ionrc => chars "ionrc"
  | .bprc => chars "bprc"
  | .ltprc => chars "ltprc"
  | .ipnrc => chars "ipnrc"

/-- What a script consists of. -/
def Script.generate : Script → NetworkConfiguration → Text
  | .ionrc => generateIonrc
  | .bprc => generateBprc
  | .ltprc => generateLtprc
  | .ipnrc => generateIpnrc

section deployment

/-- The file of a script. -/
def scriptFile (config : NetworkConfiguration) (script : Script) : ConfigFile :=
  ⟨chars "node" ++ decimal config.localNode.nodeNumber.toNat ++ '.' :: script.extension,
    script.generate config⟩

/-- The files of a node. -/
def generateIonConfig (config : NetworkConfiguration) : List ConfigFile :=
  [.ionrc, .bprc, .ltprc, .ipnrc].map (scriptFile config)

/-- Write the files, one after the other in some order. -/
def deploy (order : IterationOrder ConfigFile) (config : NetworkConfiguration)
    (dir : Directory) : Directory :=
  dir.insertAll (order.arrange (generateIonConfig config))

/-- The error of a configuration that is not valid. -/
def validationError (details : List ValidationDetail) : AbstractionError :=
  ⟨.validationError, chars "Configuration validation failed: " ++
    (chars "; ").intercalate (details.map ValidationDetail.message), chars "validate", none, none⟩

/-- A deployment request, with the order in which the files are written. -/
structure DeployRequest where
  /-- The configuration. -/
  config : NetworkConfiguration
  /-- The order of the files. -/
  order : IterationOrder ConfigFile

/-- A request to deploy with the ION adapter. -/
def postConfigDeploy (dir : Directory) (request : DeployRequest) :
    Except AbstractionError Directory :=
  match validate request.config with
  | .error details => .error (validationError details)
  | .ok () =>
    if request.config.backend = chars "ion-dtn" then
      .ok (deploy request.order request.config dir)
    else
      .error ⟨.configurationError, chars "Adapter not found: " ++ request.config.backend,
        chars "get", some request.config.backend, none⟩

end deployment

section start

/-- The part of a file name after the last dot, unless nothing precedes that dot. -/
def extension (name : Text) : Option Text :=
  if name = chars ".." then none
  else
    match name.reverse.dropWhile (· ≠ '.') with
    | _ :: _ :: _ => some (name.reverse.takeWhile (· ≠ '.')).reverse
    | _ => none

/-- The first file with an extension, in the order in which the directory is listed. -/
def findConfigFile (order : IterationOrder ConfigFile) (configDir : Text) (dir : Directory)
    (ext : Text) : Except AbstractionError ConfigFile :=
  match (order.arrange dir.values).find? fun file => extension file.name = some ext with
  | some file => .ok file
  | none => .error ⟨.lifecycleError, chars "No ." ++ ext ++ chars " config file found in '" ++
      configDir ++ chars "'", chars "start", none, some (chars "ion-dtn")⟩

/-- The admin tools. -/
inductive Tool where
  /-- For contacts and ranges. -/
  | ionadmin
  /-- For LTP. -/
  | ltpadmin
  /-- For the bundle protocol. -/
  | bpadmin
  /-- For routing. -/
  | ipnadmin
  deriving DecidableEq

/-- What the tools were handed, and how that ended. -/
structure StartReport where
  /-- Tools with their files. -/
  handed : List (Tool × ConfigFile)
  /-- Outcome. -/
  result : Except AbstractionError Unit

/-- Hand files to tools up to the first tool that fails. -/
def runAdmins (run : Tool → ConfigFile → Except AbstractionError Unit) :
    List (Tool × ConfigFile) → StartReport
  | [] => ⟨[], .ok ()⟩
  | (tool, file) :: rest =>
    match run tool file with
    | .error e => ⟨[(tool, file)], .error e⟩
    | .ok () => ⟨(tool, file) :: (runAdmins run rest).handed, (runAdmins run rest).result⟩

/-- The files that a start finds. Each of them is looked for in a listing of its own. -/
def findConfigFiles (listing : Script → IterationOrder ConfigFile) (configDir : Text)
    (dir : Directory) : Except AbstractionError (List (Tool × ConfigFile)) := do
  let ionrc ← findConfigFile (listing .ionrc) configDir dir (chars "ionrc")
  let ltprc ← findConfigFile (listing .ltprc) configDir dir (chars "ltprc")
  let bprc ← findConfigFile (listing .bprc) configDir dir (chars "bprc")
  let ipnrc ← findConfigFile (listing .ipnrc) configDir dir (chars "ipnrc")
  return [(.ionadmin, ionrc), (.ltpadmin, ltprc), (.bpadmin, bprc), (.ipnadmin, ipnrc)]

/-- Start the engine from a directory. -/
def start (listing : Script → IterationOrder ConfigFile)
    (run : Tool → ConfigFile → Except AbstractionError Unit) (configDir : Text)
    (dir : Directory) : StartReport :=
  match findConfigFiles listing configDir dir with
  | .error e => ⟨[], .error e⟩
  | .ok files => runAdmins run files

end start

section names

theorem dot_notMem_extension (script : Script) : '.' ∉ script.extension := by
  cases script <;> decide

theorem extension_inj {script script' : Script} :
    script.extension = script'.extension ↔ script = script' := by
  cases script <;> cases script' <;> decide

/-- Names are made of the node's number and the extension. -/
theorem name_scriptFile_inj {config config' : NetworkConfiguration} {script script' : Script} :
    (scriptFile config script).name = (scriptFile config' script').name ↔
      config.localNode.nodeNumber = config'.localNode.nodeNumber ∧ script = script' := by
  simp only [scriptFile, append_cons_inj (dot_notMem_extension script)
    (dot_notMem_extension script'), List.append_cancel_left_eq, decimal_inj, UInt64.toNat_inj,
    extension_inj]

/-- What follows the last dot of a name is its extension. -/
theorem extension_append {base ext : Text} (hbase : base ≠ []) (hext : '.' ∉ ext)
    (hname : base ++ '.' :: ext ≠ chars "..") : extension (base ++ '.' :: ext) = some ext := by
  have hreverse : (base ++ '.' :: ext).reverse = ext.reverse ++ '.' :: base.reverse := by simp
  have hall : ∀ c ∈ ext.reverse, decide (c ≠ '.') = true := by
    intro c hc
    exact decide_eq_true fun h => hext (h ▸ List.mem_reverse.mp hc)
  obtain ⟨c, rest, hrest⟩ := List.exists_cons_of_ne_nil (List.reverse_ne_nil_iff.mpr hbase)
  rw [extension, if_neg hname, hreverse, List.dropWhile_append_of_pos hall,
    List.takeWhile_append_of_pos hall, hrest]
  simp

/-- The extension of a script's file. -/
theorem extension_name_scriptFile (config : NetworkConfiguration) (script : Script) :
    extension (scriptFile config script).name = some script.extension :=
  extension_append (by simp [chars]) (dot_notMem_extension script) (by simp [chars])

theorem mem_generateIonConfig {config : NetworkConfiguration} {file : ConfigFile} :
    file ∈ generateIonConfig config ↔ ∃ script, scriptFile config script = file := by
  rw [generateIonConfig, List.mem_map]
  constructor
  · rintro ⟨script, -, hfile⟩
    exact ⟨script, hfile⟩
  · rintro ⟨script, hfile⟩
    exact ⟨script, by cases script <;> simp, hfile⟩

theorem nodup_generateIonConfig (config : NetworkConfiguration) :
    ((generateIonConfig config).map ConfigFile.name).Nodup := by
  have hinjective : Function.Injective (ConfigFile.name ∘ scriptFile config) := by
    intro script script' h
    exact (name_scriptFile_inj.mp h).2
  rw [generateIonConfig, List.map_map, List.nodup_map_iff hinjective]
  decide

end names

section history

/-- A deployment leaves its own files, and the others under all other names. -/
theorem mem_deploy {order : IterationOrder ConfigFile} {config : NetworkConfiguration}
    {dir : Directory} {file : ConfigFile} :
    file ∈ deploy order config dir ↔ (∃ script, scriptFile config script = file) ∨
      file ∈ dir ∧ ∀ script, (scriptFile config script).name ≠ file.name := by
  have hnodup : ((order.arrange (generateIonConfig config)).map ConfigFile.name).Nodup :=
    ((order.arrange_perm _).map _).nodup_iff.mpr (nodup_generateIonConfig config)
  rw [deploy, KeyedMap.mem_insertAll hnodup]
  simp [mem_generateIonConfig]

/-- A request succeeds by deploying a valid configuration. -/
theorem postConfigDeploy_eq_ok_iff {dir dir' : Directory} {request : DeployRequest} :
    postConfigDeploy dir request = .ok dir' ↔ validate request.config = .ok () ∧
      request.config.backend = chars "ion-dtn" ∧
        deploy request.order request.config dir = dir' := by
  unfold postConfigDeploy
  cases validate request.config with
  | error details => simp
  | ok => 
    by_cases hbackend : request.config.backend = chars "ion-dtn" <;> simp [hbackend]

/-- Deployments one after the other. -/
def deployAll (requests : List DeployRequest) (dir : Directory) :
    Except AbstractionError Directory :=
  requests.foldlM postConfigDeploy dir

theorem deployAll_cons_eq_ok_iff {request : DeployRequest} {requests : List DeployRequest}
    {dir dir' : Directory} : deployAll (request :: requests) dir = .ok dir' ↔ ∃ middle,
      postConfigDeploy dir request = .ok middle ∧ deployAll requests middle = .ok dir' := by
  rw [deployAll, List.foldlM_cons]
  cases postConfigDeploy dir request with
  | error e => simp [bind, Except.bind]
  | ok middle => simp [bind, Except.bind, deployAll]

theorem deployAll_append_eq_ok_iff {requests : List DeployRequest} {last : DeployRequest}
    {dir dir' : Directory} : deployAll (requests ++ [last]) dir = .ok dir' ↔
      ∃ middle, deployAll requests dir = .ok middle ∧ postConfigDeploy middle last = .ok dir' := by
  rw [deployAll, List.foldlM_append]
  simp only [List.foldlM_cons, List.foldlM_nil, bind_pure]
  change (deployAll requests dir >>= _) = _ ↔ _
  cases deployAll requests dir with
  | error e => simp [bind, Except.bind]
  | ok middle => simp [bind, Except.bind]

/-- Every file of the directory comes from some request. -/
theorem origin_along {requests : List DeployRequest} {dir dir' : Directory}
    (h : deployAll requests dir = .ok dir') {file : ConfigFile} (hfile : file ∈ dir') :
    file ∈ dir ∨ ∃ request ∈ requests, ∃ script, scriptFile request.config script = file := by
  induction requests generalizing dir with
  | nil =>
    obtain rfl : dir = dir' := Except.ok.inj h
    exact Or.inl hfile
  | cons request requests ih =>
    obtain ⟨middle, hpost, hrest⟩ := deployAll_cons_eq_ok_iff.mp h
    obtain ⟨-, -, rfl⟩ := postConfigDeploy_eq_ok_iff.mp hpost
    rcases ih hrest with hmiddle | ⟨other, hother, hscript⟩
    · rcases mem_deploy.mp hmiddle with hscript | ⟨hdir, -⟩
      · exact Or.inr ⟨request, List.mem_cons_self, hscript⟩
      · exact Or.inl hdir
    · exact Or.inr ⟨other, List.mem_cons_of_mem _ hother, hscript⟩

/-- No name disappears from the directory. -/
theorem name_kept_along {requests : List DeployRequest} {dir dir' : Directory}
    (h : deployAll requests dir = .ok dir') {file : ConfigFile} (hfile : file ∈ dir) :
    ∃ file' ∈ dir', file'.name = file.name := by
  induction requests generalizing dir file with
  | nil =>
    obtain rfl : dir = dir' := Except.ok.inj h
    exact ⟨file, hfile, rfl⟩
  | cons request requests ih =>
    obtain ⟨middle, hpost, hrest⟩ := deployAll_cons_eq_ok_iff.mp h
    obtain ⟨-, -, rfl⟩ := postConfigDeploy_eq_ok_iff.mp hpost
    by_cases hoverwritten : ∃ script, (scriptFile request.config script).name = file.name
    · obtain ⟨script, hname⟩ := hoverwritten
      rw [← hname]
      exact ih hrest (mem_deploy.mpr (Or.inl ⟨script, rfl⟩))
    · exact ih hrest (mem_deploy.mpr (Or.inr ⟨hfile, fun script hname =>
        hoverwritten ⟨script, hname⟩⟩))

/-- The directory has files named after every request's node. -/
theorem exists_name_along {requests : List DeployRequest} {dir dir' : Directory}
    (h : deployAll requests dir = .ok dir') {request : DeployRequest}
    (hrequest : request ∈ requests) (script : Script) :
    ∃ file ∈ dir', file.name = (scriptFile request.config script).name := by
  induction requests generalizing dir with
  | nil => exact absurd hrequest List.not_mem_nil
  | cons first requests ih =>
    obtain ⟨middle, hpost, hrest⟩ := deployAll_cons_eq_ok_iff.mp h
    rcases List.mem_cons.mp hrequest with rfl | hrequest
    · obtain ⟨-, -, rfl⟩ := postConfigDeploy_eq_ok_iff.mp hpost
      exact name_kept_along hrest (mem_deploy.mpr (Or.inl ⟨script, rfl⟩))
    · exact ih hrest hrequest

end history

section starting

/-- The files of a configuration with their tools, in the order of the start. -/
def scriptFiles (config : NetworkConfiguration) : List (Tool × ConfigFile) :=
  [(.ionadmin, scriptFile config .ionrc), (.ltpadmin, scriptFile config .ltprc),
    (.bpadmin, scriptFile config .bprc), (.ipnadmin, scriptFile config .ipnrc)]

/-- A file that is the only one with its extension is found in every listing. -/
theorem findConfigFile_of_unique {order : IterationOrder ConfigFile} {configDir ext : Text}
    {dir : Directory} {file : ConfigFile} (hfile : file ∈ dir)
    (hext : extension file.name = some ext)
    (hunique : ∀ other ∈ dir, extension other.name = some ext → other = file) :
    findConfigFile order configDir dir ext = .ok file := by
  have hfind : (order.arrange dir.values).find? (fun file => extension file.name = some ext) =
      some file := by
    cases hfind : (order.arrange dir.values).find? fun file => extension file.name = some ext with
    | none =>
      have hnone := List.find?_eq_none.mp hfind file (order.mem_arrange.mpr hfile)
      exact absurd (decide_eq_true hext) hnone
    | some other =>
      have hother : other ∈ dir := order.mem_arrange.mp (List.mem_of_find?_eq_some hfind)
      have hotherext : extension other.name = some ext := by simpa using List.find?_some hfind
      rw [hunique other hother hotherext]
  rw [findConfigFile, hfind]

/-- A file is found in a listing that begins with it. -/
theorem findConfigFile_first {configDir ext : Text} {dir : Directory} {file : ConfigFile}
    (hfile : file ∈ dir) (hext : extension file.name = some ext) :
    findConfigFile (.first file) configDir dir ext = .ok file := by
  have harrange : (IterationOrder.first file).arrange dir.values = file :: dir.values.erase file :=
    if_pos hfile
  simp [findConfigFile, harrange, hext]

/-- Tools that all succeed are handed all files. -/
theorem runAdmins_of_ok (files : List (Tool × ConfigFile)) :
    runAdmins (fun _ _ => .ok ()) files = ⟨files, .ok ()⟩ := by
  induction files with
  | nil => rfl
  | cons file files ih => simp [runAdmins, ih]

/-- The first file that a start finds is the .ionrc file of its listing. -/
theorem exists_ionrc_of_findConfigFiles {listing : Script → IterationOrder ConfigFile}
    {configDir : Text} {dir : Directory} {files : List (Tool × ConfigFile)}
    (h : findConfigFiles listing configDir dir = .ok files) : ∃ ionrc rest,
      findConfigFile (listing .ionrc) configDir dir (chars "ionrc") = .ok ionrc ∧
        files = (.ionadmin, ionrc) :: rest := by
  unfold findConfigFiles at h
  cases hionrc : findConfigFile (listing .ionrc) configDir dir (chars "ionrc") with
  | error e => simp [hionrc, bind, Except.bind] at h
  | ok ionrc =>
    refine ⟨ionrc, files.tail, rfl, ?_⟩
    cases hltprc : findConfigFile (listing .ltprc) configDir dir (chars "ltprc") <;>
      cases hbprc : findConfigFile (listing .bprc) configDir dir (chars "bprc") <;>
        cases hipnrc : findConfigFile (listing .ipnrc) configDir dir (chars "ipnrc") <;>
          simp_all [bind, Except.bind, pure, Except.pure]
    rw [← h]
    rfl

/-- A start hands over the files it finds. -/
theorem start_of_ok {listing : Script → IterationOrder ConfigFile}
    {run : Tool → ConfigFile → Except AbstractionError Unit} {configDir : Text} {dir : Directory}
    {files : List (Tool × ConfigFile)} (h : findConfigFiles listing configDir dir = .ok files) :
    start listing run configDir dir = runAdmins run files := by
  rw [start, h]

/-- If all scripts are the only files with their extensions, a start hands them over. -/
theorem start_of_unique {config : NetworkConfiguration} {dir : Directory}
    (hfiles : ∀ script, scriptFile config script ∈ dir)
    (hunique : ∀ file ∈ dir, ∃ script, scriptFile config script = file)
    (listing : Script → IterationOrder ConfigFile)
    (run : Tool → ConfigFile → Except AbstractionError Unit) (configDir : Text) :
    start listing run configDir dir = runAdmins run (scriptFiles config) := by
  have hfound (script : Script) :
      findConfigFile (listing script) configDir dir script.extension =
        .ok (scriptFile config script) := by
    refine findConfigFile_of_unique (hfiles script) (extension_name_scriptFile config script) ?_
    intro other hother hext
    obtain ⟨script', rfl⟩ := hunique other hother
    rw [extension_name_scriptFile, Option.some.injEq, extension_inj] at hext
    rw [hext]
  have hall : findConfigFiles listing configDir dir = .ok (scriptFiles config) := by
    have hionrc := hfound .ionrc
    have hltprc := hfound .ltprc
    have hbprc := hfound .bprc
    have hipnrc := hfound .ipnrc
    simp only [Script.extension] at hionrc hltprc hbprc hipnrc
    simp [findConfigFiles, hionrc, hltprc, hbprc, hipnrc, bind, Except.bind, pure, Except.pure,
      scriptFiles]
  exact start_of_ok hall

/-- The last deployment of a history is what every start hands to the tools, however the directory
is listed, exactly if all deployments are for one node number. -/
theorem startsLast_iff {history : List DeployRequest} {last : DeployRequest} {dir : Directory}
    (h : deployAll (history ++ [last]) KeyedMap.empty = .ok dir) :
    (∀ listing run configDir,
        start listing run configDir dir = runAdmins run (scriptFiles last.config)) ↔
      ∀ request ∈ history,
        request.config.localNode.nodeNumber = last.config.localNode.nodeNumber := by
  constructor
  · intro hstart request hrequest
    obtain ⟨file, hfile, hname⟩ :=
      exists_name_along h (List.mem_append_left [last] hrequest) .ionrc
    have hext : extension file.name = some (chars "ionrc") := by
      rw [hname]
      exact extension_name_scriptFile request.config .ionrc
    have hfirst := hstart (fun _ => .first file) (fun _ _ => .ok ()) []
    rw [runAdmins_of_ok] at hfirst
    cases hfound : findConfigFiles (fun _ => .first file) [] dir with
    | error e =>
      rw [start, hfound] at hfirst
      exact absurd (congrArg StartReport.handed hfirst) (List.cons_ne_nil _ _).symm
    | ok files =>
      obtain ⟨ionrc, rest, hionrc, rfl⟩ := exists_ionrc_of_findConfigFiles hfound
      rw [findConfigFile_first hfile hext] at hionrc
      obtain rfl := Except.ok.inj hionrc
      rw [start_of_ok hfound, runAdmins_of_ok, StartReport.mk.injEq, scriptFiles,
        List.cons.injEq, Prod.mk.injEq] at hfirst
      rw [hfirst.1.1.2] at hname
      exact (name_scriptFile_inj.mp hname).1.symm
  · intro hnumbers listing run configDir
    obtain ⟨middle, hhistory, hpost⟩ := deployAll_append_eq_ok_iff.mp h
    obtain ⟨-, -, rfl⟩ := postConfigDeploy_eq_ok_iff.mp hpost
    refine start_of_unique (fun script => mem_deploy.mpr (Or.inl ⟨script, rfl⟩)) ?_ listing run
      configDir
    intro file hfile
    rcases mem_deploy.mp hfile with hscript | ⟨hmiddle, hname⟩
    · exact hscript
    · rcases origin_along hhistory hmiddle with hempty | ⟨request, hrequest, script, rfl⟩
      · exact absurd hempty List.not_mem_nil
      · have hsame : (scriptFile last.config script).name =
            (scriptFile request.config script).name :=
          name_scriptFile_inj.mpr ⟨(hnumbers request hrequest).symm, rfl⟩
        exact absurd hsame (hname script)

/-- A valid configuration of a node on its own. -/
def lone (node : UInt64) : NetworkConfiguration :=
  ⟨chars "ion-dtn", ⟨node, none, []⟩, [], ⟨[], []⟩, ⟨.cgr, []⟩, none, []⟩

/-- A deployment of it. -/
def deployLone (node : UInt64) : DeployRequest := ⟨lone node, .listed ConfigFile⟩

theorem exists_deployAll_lone (first last : UInt64) :
    ∃ dir, deployAll ([deployLone first] ++ [deployLone last]) KeyedMap.empty = .ok dir := by
  have hpost (node : UInt64) (dir : Directory) : postConfigDeploy dir (deployLone node) =
      .ok (deploy (.listed ConfigFile) (lone node) dir) :=
    postConfigDeploy_eq_ok_iff.mpr ⟨rfl, rfl, rfl⟩
  have hfirst : deployAll [deployLone first] KeyedMap.empty =
      .ok (deploy (.listed ConfigFile) (lone first) KeyedMap.empty) :=
    deployAll_cons_eq_ok_iff.mpr ⟨_, hpost first _, rfl⟩
  exact ⟨_, deployAll_append_eq_ok_iff.mpr ⟨_, hfirst, hpost last _⟩⟩

theorem startsLast_same_node :
    ∃ dir, deployAll ([deployLone 10] ++ [deployLone 10]) KeyedMap.empty = .ok dir ∧
      ∀ listing run configDir,
        start listing run configDir dir = runAdmins run (scriptFiles (lone 10)) := by
  obtain ⟨dir, h⟩ := exists_deployAll_lone 10 10
  exact ⟨dir, h, (startsLast_iff h).mpr (by simp [deployLone, lone])⟩

/-- After deployments for two nodes, the files of the first can be handed over. -/
theorem earlier_deployment_started :
    ¬ ∀ (history : List DeployRequest) (last : DeployRequest) (dir : Directory),
      deployAll (history ++ [last]) KeyedMap.empty = .ok dir → ∀ listing run configDir,
        start listing run configDir dir = runAdmins run (scriptFiles last.config) := by
  intro h
  obtain ⟨dir, hdir⟩ := exists_deployAll_lone 10 20
  have hnumbers := (startsLast_iff hdir).mp (h _ _ dir hdir) (deployLone 10) List.mem_cons_self
  exact absurd hnumbers (by decide)

end starting

end CislunarDtn.IonDeployments
