import CislunarDtn.CommandSequences
import CislunarDtn.IonDeclarations
import CislunarDtn.IonDeployments
import Mathlib.Data.Finset.Lattice.Lemmas
import Mathlib.Data.Finset.Option

/-!
# The engine's database and its changes at run time

The engine's database is what the admin commands have declared. A neighbor that
is added at run time gets outducts for its LTP links and a plan through the
first of them. A removal knows the node number alone and takes it for the
engine of the outduct.
-/

namespace CislunarDtn.IonDatabases

open CommandSequences DecimalTexts IonDeclarations IonDeployments IonScripts
  NetworkConfigurations TerminatedLines

/-- What the engine has been told. -/
structure EngineDatabase where
  /-- Inducts. -/
  inducts : Finset Duct
  /-- Outducts. -/
  outducts : Finset Duct
  /-- Spans: engine, segment size and output. -/
  spans : Finset (UInt64 × UInt32 × SpanOutput)
  /-- Plans: destination and duct. -/
  plans : Finset (UInt64 × Duct)
  deriving DecidableEq

/-- A command that is piped to an admin tool at run time. -/
inductive RuntimeCommand where
  /-- A command that the scripts have as well. -/
  | declare (c : Command)
  /-- Removal of the plan for a node. -/
  | deletePlan (node : UInt64)
  /-- Removal of an LTP outduct. -/
  | deleteOutduct (engineId : UInt64)
  deriving DecidableEq

/-- Text of a command. -/
def RuntimeCommand.text : RuntimeCommand → Text
  | .declare c => c.text
  | .deletePlan node => chars "d plan " ++ decimal node.toNat
  | .deleteOutduct engineId => chars "d outduct ltp " ++ decimal engineId.toNat

/-- What is piped to a tool: one command and the end of the input. -/
def RuntimeCommand.piped (c : RuntimeCommand) : Text := written '\n' [c.text, chars "q"]

/-- What the scripts have as well is piped as it stands there. -/
theorem piped_declare (c : Command) : (RuntimeCommand.declare c).piped = IonScripts.piped c := rfl

namespace EngineDatabase

/-- A database without entries. -/
def empty : EngineDatabase := ⟨∅, ∅, ∅, ∅⟩

/-- Perform a command of a script. -/
def declare (db : EngineDatabase) : Command → EngineDatabase
  | .addInduct duct => { db with inducts := insert duct db.inducts }
  | .addOutduct duct => { db with outducts := insert duct db.outducts }
  | .addSpan engineId segmentSize output =>
    { db with spans := insert (engineId, segmentSize, output) db.spans }
  | .addPlan node duct => { db with plans := insert (node, duct) db.plans }
  | _ => db

/-- Perform a command that a tool was handed. -/
def execute (db : EngineDatabase) : Tool × RuntimeCommand → EngineDatabase
  | (_, .declare c) => db.declare c
  | (_, .deletePlan node) => { db with plans := db.plans.filter fun plan => plan.1 ≠ node }
  | (_, .deleteOutduct engineId) => { db with outducts := db.outducts.erase (.ltp engineId) }

end EngineDatabase

section runtime

/-- Engine at the other end of a link that uses LTP. -/
def extractEngineId : ConvergenceLayerLink → Option UInt64
  | .ltpUdp _ _ remoteEngineId .. => some remoteEngineId
  | .kiss _ _ _ remoteEngineId _ => some remoteEngineId
  | _ => none

/-- Commands that add a neighbor: an outduct for each LTP link, then a plan through the first. -/
def addNeighborCommands (neighbor : Neighbor) : List (Tool × RuntimeCommand) :=
  (neighbor.links.filterMap fun link => (extractEngineId link).map fun engineId =>
    (.bpadmin, .declare (.addOutduct (.ltp engineId)))) ++
    ((neighbor.links.findSome? extractEngineId).map fun engineId =>
      (.ipnadmin, .declare (.addPlan neighbor.nodeNumber (.ltp engineId)))).toList

/-- Commands that remove a neighbor: its plan, then the outduct with its number. -/
def removeNeighborCommands (node : UInt64) : List (Tool × RuntimeCommand) :=
  [(.ipnadmin, .deletePlan node), (.bpadmin, .deleteOutduct node)]

variable {ε : Type*} (outcome : ℕ → Except ε Unit) (db : EngineDatabase)

/-- Add a neighbor, given how the tools end. -/
def addNeighbor (neighbor : Neighbor) : EngineDatabase × Except ε Unit :=
  perform EngineDatabase.execute outcome db (addNeighborCommands neighbor)

/-- Remove a neighbor, given how the tools end. -/
def removeNeighbor (node : UInt64) : EngineDatabase × Except ε Unit :=
  perform EngineDatabase.execute outcome db (removeNeighborCommands node)

end runtime

section database

/-- Engine, segment size and output of the span that a command declares. -/
def spanEntryIn : Command → Option (UInt64 × UInt32 × SpanOutput)
  | .addSpan engineId segmentSize output => some (engineId, segmentSize, output)
  | _ => none

/-- The lines that a start hands to the tools, in that order. -/
def startLines (config : NetworkConfiguration) : List Line :=
  ionrcLines config ++ ltprcLines config ++ bprcLines config ++ ipnrcLines config

/-- The database of an engine that was started with a configuration. -/
def databaseOf (config : NetworkConfiguration) : EngineDatabase :=
  (declared some (startLines config)).foldl EngineDatabase.declare .empty

/-- Commands add what they declare to a part of the database. -/
theorem mem_foldl_declare {α : Type*} {part : EngineDatabase → Finset α}
    {object : Command → Option α}
    (h : ∀ (db : EngineDatabase) c a, a ∈ part (db.declare c) ↔ a ∈ part db ∨ object c = some a)
    {commands : List Command} {db : EngineDatabase} {a : α} :
    a ∈ part (commands.foldl EngineDatabase.declare db) ↔
      a ∈ part db ∨ a ∈ commands.filterMap object := by
  induction commands generalizing db with
  | nil => simp
  | cons c commands ih =>
    rw [List.foldl_cons, ih, h, or_assoc]
    simp [List.mem_filterMap]

/-- What the scripts declare is what the database holds. -/
theorem mem_databaseOf {α : Type*} {part : EngineDatabase → Finset α}
    {object : Command → Option α}
    (h : ∀ (db : EngineDatabase) c a, a ∈ part (db.declare c) ↔ a ∈ part db ∨ object c = some a)
    (hempty : part .empty = ∅) {config : NetworkConfiguration} {a : α} :
    a ∈ part (databaseOf config) ↔ a ∈ declared object (startLines config) := by
  have hline : (fun line => (onLine some line).bind object) = onLine object := by
    funext line
    cases line <;> rfl
  have hobjects : (declared some (startLines config)).filterMap object =
      declared object (startLines config) := by
    rw [declared, declared, List.filterMap_filterMap, hline]
  rw [databaseOf, mem_foldl_declare h, hempty, hobjects]
  simp

variable {config : NetworkConfiguration}

/-- The span entry of a link that uses LTP. -/
def spanEntryOf : ConvergenceLayerLink → Option (UInt64 × UInt32 × SpanOutput)
  | .ltpUdp _ _ remoteEngineId remoteHost remotePort _ mtu =>
    some (remoteEngineId, mtu.getD 1400, .udplso remoteHost remotePort)
  | .kiss _ tncDevice _ remoteEngineId frameSize =>
    some (remoteEngineId, frameSize.getD 1400, .kisslo tncDevice)
  | _ => none

/-- The span entry that leads back to the node. -/
def loopbackEntry (config : NetworkConfiguration) : UInt64 × UInt32 × SpanOutput :=
  (config.localNode.nodeNumber, 1400, .udplso (chars "127.0.0.1") (findLocalLtpPort config))

/-- Neither ducts nor spans nor plans are declared to ionadmin. -/
theorem declared_ionrcLines : declared inductIn (ionrcLines config) = [] ∧
    declared outductIn (ionrcLines config) = [] ∧ declared spanEntryIn (ionrcLines config) = [] ∧
      declared planIn (ionrcLines config) = [] := by
  simp [ionrcLines, writeContactCommands, writeRangeCommands, declared_command_cons,
    contactCommand, rangeCommand, inductIn, outductIn, spanEntryIn, planIn]

/-- What the .ltprc file declares comes with spans. -/
theorem declared_ltprcLines {α : Type*} (object : Command → Option α) :
    declared object (ltprcLines config) =
      (object .initializeLtp).toList ++ (object (loopbackSpan config)).toList ++
        (config.links.flatMap fun link => declared object (writeLtprcSpan link)) ++
        (object (.startLtp (findLocalLtpPort config))).toList := by
  simp [ltprcLines, flatMap_links, declared_command_cons]

theorem declared_writeLtprcSpan (link : ConvergenceLayerLink) :
    declared inductIn (writeLtprcSpan link) = [] ∧
      declared outductIn (writeLtprcSpan link) = [] ∧
      declared spanEntryIn (writeLtprcSpan link) = (spanEntryOf link).toList ∧
      declared planIn (writeLtprcSpan link) = [] := by
  cases link <;> simp [writeLtprcSpan, declared_command_cons, inductIn, outductIn, spanEntryIn,
    spanEntryOf, planIn]

theorem declared_ipnrcLines : declared inductIn (ipnrcLines config) = [] ∧
    declared outductIn (ipnrcLines config) = [] ∧
      declared spanEntryIn (ipnrcLines config) = [] := by
  have hplan (neighbor : Neighbor) : declared inductIn (writeIpnrcPlan neighbor) = [] ∧
      declared outductIn (writeIpnrcPlan neighbor) = [] ∧
        declared spanEntryIn (writeIpnrcPlan neighbor) = [] := by
    unfold writeIpnrcPlan
    cases neighbor.links <;>
      simp [declared_command_cons, inductIn, outductIn, spanEntryIn]
  cases hstrategy : config.routing.strategy <;>
    simp [ipnrcLines, ipnrcHead, writeRoutingConfig, hstrategy, hplan, staticPlan, inductIn,
      outductIn, spanEntryIn]

theorem mem_inducts_databaseOf {duct : Duct} :
    duct ∈ (databaseOf config).inducts ↔ ∃ link ∈ config.links, inductOf link = duct := by
  have hdeclare : ∀ (db : EngineDatabase) c duct,
      duct ∈ (db.declare c).inducts ↔ duct ∈ db.inducts ∨ inductIn c = some duct := by
    intro db c duct
    cases c <;> simp [EngineDatabase.declare, inductIn, or_comm, eq_comm]
  rw [mem_databaseOf hdeclare rfl]
  simp [startLines, inducts_bprcLines, declared_ionrcLines, declared_ltprcLines,
    declared_writeLtprcSpan, declared_ipnrcLines, loopbackSpan, inductIn]

theorem mem_outducts_databaseOf {duct : Duct} :
    duct ∈ (databaseOf config).outducts ↔ ∃ link ∈ config.links, outductOf link = duct := by
  have hdeclare : ∀ (db : EngineDatabase) c duct,
      duct ∈ (db.declare c).outducts ↔ duct ∈ db.outducts ∨ outductIn c = some duct := by
    intro db c duct
    cases c <;> simp [EngineDatabase.declare, outductIn, or_comm, eq_comm]
  rw [mem_databaseOf hdeclare rfl]
  simp [startLines, outducts_bprcLines, declared_ionrcLines, declared_ltprcLines,
    declared_writeLtprcSpan, declared_ipnrcLines, loopbackSpan, outductIn]

theorem mem_spans_databaseOf {entry : UInt64 × UInt32 × SpanOutput} :
    entry ∈ (databaseOf config).spans ↔
      entry = loopbackEntry config ∨ ∃ link ∈ config.links, spanEntryOf link = some entry := by
  have hdeclare : ∀ (db : EngineDatabase) c entry,
      entry ∈ (db.declare c).spans ↔ entry ∈ db.spans ∨ spanEntryIn c = some entry := by
    intro db c entry
    cases c <;> simp [EngineDatabase.declare, spanEntryIn, or_comm, eq_comm]
  rw [mem_databaseOf hdeclare rfl]
  simp [startLines, declared_ionrcLines, declared_ltprcLines, declared_bprcLines,
    declared_bprcHead, declared_writeEndpoints,
    declared_writeLtprcSpan, declared_ipnrcLines, loopbackSpan, loopbackEntry, spanEntryIn]

theorem mem_plans_databaseOf {plan : UInt64 × Duct} :
    plan ∈ (databaseOf config).plans ↔
      (∃ route ∈ plannedRoutes config,
        (route.destinationNode, Duct.ltp route.nextHopNode) = plan) ∨
        ∃ neighbor ∈ config.neighbors, planOf neighbor = some plan := by
  have hdeclare : ∀ (db : EngineDatabase) c plan,
      plan ∈ (db.declare c).plans ↔ plan ∈ db.plans ∨ planIn c = some plan := by
    intro db c plan
    cases c <;> simp [EngineDatabase.declare, planIn, or_comm, eq_comm]
  rw [mem_databaseOf hdeclare rfl]
  simp [startLines, declared_ionrcLines, declared_ltprcLines, declared_bprcLines,
    declared_bprcHead, declared_writeEndpoints, ipnrcLines, plans_ipnrcHead, plans_writeIpnrcPlan,
    declared_writeLtprcSpan, loopbackSpan, planIn]

end database

section effects

variable {ε : Type*} (db : EngineDatabase) (neighbor : Neighbor) (node : UInt64)

/-- Engines of a neighbor's LTP links, in order. -/
def engineIds : List UInt64 := neighbor.links.filterMap extractEngineId

/-- The command that declares the outduct to an engine. -/
def outductCommand (engineId : UInt64) : Tool × RuntimeCommand :=
  (.bpadmin, .declare (.addOutduct (.ltp engineId)))

/-- The plan that is added for a neighbor. -/
def runtimePlan : Option (UInt64 × Duct) :=
  (engineIds neighbor).head?.map fun engineId => (neighbor.nodeNumber, .ltp engineId)

theorem addNeighborCommands_eq : addNeighborCommands neighbor =
    (engineIds neighbor).map outductCommand ++
      ((runtimePlan neighbor).map fun plan =>
        (.ipnadmin, .declare (.addPlan plan.1 plan.2))).toList := by
  have houtducts : (neighbor.links.filterMap fun link => (extractEngineId link).map outductCommand)
      = (engineIds neighbor).map outductCommand := by
    rw [engineIds, List.map_filterMap]
  rw [addNeighborCommands, runtimePlan, engineIds, List.head?_filterMap, Option.map_map]
  exact congrArg (· ++ _) houtducts

/-- The outducts of engines are declared one by one. -/
theorem foldl_outductCommands (ids : List UInt64) :
    (ids.map outductCommand).foldl EngineDatabase.execute db =
      { db with outducts := db.outducts ∪ (ids.map Duct.ltp).toFinset } := by
  induction ids generalizing db with
  | nil => simp
  | cons engineId ids ih =>
    rw [List.map_cons, List.foldl_cons, ih]
    simp [EngineDatabase.execute, EngineDatabase.declare, outductCommand, Finset.union_insert]

/-- What a neighbor adds if all commands succeed. -/
theorem addNeighbor_allSucceed :
    addNeighbor (allSucceed : ℕ → Except ε Unit) db neighbor =
      ({ db with
          outducts := db.outducts ∪ ((engineIds neighbor).map Duct.ltp).toFinset
          plans := db.plans ∪ (runtimePlan neighbor).toFinset }, .ok ()) := by
  rw [addNeighbor, perform_allSucceed, addNeighborCommands_eq, List.foldl_append,
    foldl_outductCommands]
  cases runtimePlan neighbor with
  | none => simp
  | some plan => simp [EngineDatabase.execute, EngineDatabase.declare]

/-- What a removal takes away if both commands succeed. -/
theorem removeNeighbor_allSucceed :
    removeNeighbor (allSucceed : ℕ → Except ε Unit) db node =
      ({ db with
          outducts := db.outducts.erase (.ltp node)
          plans := db.plans.filter fun plan => plan.1 ≠ node }, .ok ()) := by
  rw [removeNeighbor, perform_allSucceed]
  rfl

end effects

end CislunarDtn.IonDatabases
