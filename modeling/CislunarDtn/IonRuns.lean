import CislunarDtn.IonDatabases
import CislunarDtn.LabelledRuns

/-!
# Runs of a managed ION node

The engine of a node over any number of starts, stops and changes of neighbors,
with tools that may fail at any command. Plans keep leading through outducts as
long as no removal takes one away that another plan uses. Spans come from the
scripts of a start alone, so that bundles leave over no engine but those of the
configurations that were started.
-/

namespace CislunarDtn.IonRuns

open CommandSequences DecimalTexts IonDatabases IonDeclarations IonScripts LabelledRuns
  NetworkConfigurations

variable {ε : Type*}

/-- What happens to the engine. -/
inductive AdminEvent (ε : Type*) where
  /-- A start performs the scripts of a configuration up to some line. -/
  | start (config : NetworkConfiguration) (lines : ℕ)
  /-- A stop takes everything back. -/
  | stop
  /-- A neighbor is added, given how the tools end. -/
  | addNeighbor (neighbor : Neighbor) (outcome : ℕ → Except ε Unit)
  /-- A neighbor is removed, given how the tools end. -/
  | removeNeighbor (node : UInt64) (outcome : ℕ → Except ε Unit)

/-- Lines that a start performs. -/
def started (config : NetworkConfiguration) (lines : ℕ) : List Line :=
  (startLines config).take lines

/-- The database after a step. A start without a stop before it adds to what is there. -/
def step (db : EngineDatabase) : AdminEvent ε → EngineDatabase
  | .start config lines => (declared some (started config lines)).foldl EngineDatabase.declare db
  | .stop => .empty
  | .addNeighbor neighbor outcome => (addNeighbor outcome db neighbor).1
  | .removeNeighbor node outcome => (removeNeighbor outcome db node).1

/-- Plans lead through outducts that are declared. -/
def Leads (db : EngineDatabase) : Prop := ∀ plan ∈ db.plans, plan.2 ∈ db.outducts

/-- The static routes that are started have outducts, and no outduct is taken away that a plan of
another node uses. -/
def Keeps (db : EngineDatabase) : AdminEvent ε → Prop
  | .start config lines =>
    ∀ route ∈ plannedRoutes config, Line.command (staticPlan route) ∈ started config lines →
      .ltp route.nextHopNode ∈ db.outducts ∨
        ∃ link ∈ config.links, outductOf link = .ltp route.nextHopNode
  | .removeNeighbor node outcome =>
    outcome 0 = .ok () → outcome 1 = .ok () → ∀ plan ∈ db.plans, plan.2 = .ltp node → plan.1 = node
  | _ => True

section scripts

variable {script : List Line} {db : EngineDatabase}

/-- Objects of the declared commands are the declared objects. -/
theorem filterMap_declared {α : Type*} (object : Command → Option α) (script : List Line) :
    (declared some script).filterMap object = declared object script := by
  have hline : (fun line => (onLine some line).bind object) = onLine object := by
    funext line
    cases line <;> rfl
  rw [declared, declared, List.filterMap_filterMap, hline]

theorem mem_plans_declared {plan : UInt64 × Duct} :
    plan ∈ ((declared some script).foldl EngineDatabase.declare db).plans ↔
      plan ∈ db.plans ∨ plan ∈ declared planIn script := by
  have hdeclare : ∀ (db : EngineDatabase) c plan,
      plan ∈ (db.declare c).plans ↔ plan ∈ db.plans ∨ planIn c = some plan := by
    intro db c plan
    cases c <;> simp [EngineDatabase.declare, planIn, or_comm, eq_comm]
  rw [mem_foldl_declare hdeclare, filterMap_declared]

theorem mem_outducts_declared {duct : Duct} :
    duct ∈ ((declared some script).foldl EngineDatabase.declare db).outducts ↔
      duct ∈ db.outducts ∨ duct ∈ declared outductIn script := by
  have hdeclare : ∀ (db : EngineDatabase) c duct,
      duct ∈ (db.declare c).outducts ↔ duct ∈ db.outducts ∨ outductIn c = some duct := by
    intro db c duct
    cases c <;> simp [EngineDatabase.declare, outductIn, or_comm, eq_comm]
  rw [mem_foldl_declare hdeclare, filterMap_declared]

theorem mem_spans_declared {entry : UInt64 × UInt32 × SpanOutput} :
    entry ∈ ((declared some script).foldl EngineDatabase.declare db).spans ↔
      entry ∈ db.spans ∨ entry ∈ declared spanEntryIn script := by
  have hdeclare : ∀ (db : EngineDatabase) c entry,
      entry ∈ (db.declare c).spans ↔ entry ∈ db.spans ∨ spanEntryIn c = some entry := by
    intro db c entry
    cases c <;> simp [EngineDatabase.declare, spanEntryIn, or_comm, eq_comm]
  rw [mem_foldl_declare hdeclare, filterMap_declared]

end scripts

section starts

variable {config : NetworkConfiguration} {lines : ℕ} {db : EngineDatabase}

/-- What is declared by some lines of a start is declared by all of them. -/
theorem declared_started_subset {α : Type*} (object : Command → Option α) :
    declared object (started config lines) ⊆ declared object (startLines config) := by
  have hsublist : (started config lines).Sublist (startLines config) := List.take_sublist _ _
  exact (hsublist.filterMap _).subset

/-- Plans of a start are those of the configuration. -/
theorem plan_started {plan : UInt64 × Duct} (h : plan ∈ declared planIn (started config lines)) :
    (∃ route ∈ plannedRoutes config, (route.destinationNode, Duct.ltp route.nextHopNode) = plan) ∨
      ∃ neighbor ∈ config.neighbors, planOf neighbor = some plan := by
  rw [← mem_plans_databaseOf, databaseOf]
  exact mem_plans_declared.mpr (.inr (declared_started_subset planIn h))

/-- Outducts of a start are those of the links. -/
theorem outduct_started {duct : Duct} (h : duct ∈ declared outductIn (started config lines)) :
    ∃ link ∈ config.links, outductOf link = duct := by
  rw [← mem_outducts_databaseOf, databaseOf]
  exact mem_outducts_declared.mpr (.inr (declared_started_subset outductIn h))

/-- Spans of a start are those of the links and the one that leads back. -/
theorem span_started {entry : UInt64 × UInt32 × SpanOutput}
    (h : entry ∈ declared spanEntryIn (started config lines)) :
    entry = loopbackEntry config ∨ ∃ link ∈ config.links, spanEntryOf link = some entry := by
  rw [← mem_spans_databaseOf, databaseOf]
  exact mem_spans_declared.mpr (.inr (declared_started_subset spanEntryIn h))

/-- Lines of a start before the plans. -/
def ductLines (config : NetworkConfiguration) : List Line :=
  ionrcLines config ++ ltprcLines config ++ bprcLines config

/-- Plans come last: where one is declared, all ducts are. -/
theorem outducts_of_plan {plan : UInt64 × Duct}
    (h : plan ∈ declared planIn (started config lines)) :
    ∀ link ∈ config.links, outductOf link ∈ declared outductIn (started config lines) := by
  have hplans : declared planIn (ductLines config) = [] := by
    simp [ductLines, declared_ionrcLines, declared_ltprcLines, declared_writeLtprcSpan,
      declared_bprcLines, declared_bprcHead, declared_writeEndpoints, loopbackSpan, planIn]
  have hfirst : ductLines config <+: started config lines := by
    have htotal : started config lines <+: startLines config := List.take_prefix _ _
    rcases List.prefix_or_prefix_of_prefix htotal (List.prefix_append (ductLines config) _) with
      hshort | hlong
    · have hnone : plan ∈ declared planIn (ductLines config) :=
        (hshort.sublist.filterMap _).subset h
      rw [hplans] at hnone
      exact absurd hnone List.not_mem_nil
    · exact hlong
  intro link hl
  refine (hfirst.sublist.filterMap _).subset ?_
  have hbprc : outductOf link ∈ declared outductIn (bprcLines config) := by
    rw [outducts_bprcLines]
    exact List.mem_map_of_mem hl
  rw [← declared, ductLines, declared_append]
  exact List.mem_append_right _ hbprc

/-- A start keeps plans leading exactly if its static routes have outducts. -/
theorem leads_start_iff (h : Leads db) :
    Leads ((declared some (started config lines)).foldl EngineDatabase.declare db) ↔
      ∀ route ∈ plannedRoutes config, Line.command (staticPlan route) ∈ started config lines →
        .ltp route.nextHopNode ∈ db.outducts ∨
          ∃ link ∈ config.links, outductOf link = .ltp route.nextHopNode := by
  have hroute (route : StaticRoute) : Line.command (staticPlan route) ∈ started config lines ↔
      (route.destinationNode, .ltp route.nextHopNode) ∈ declared planIn (started config lines) := by
    refine command_mem_iff planIn fun c => ?_
    cases c <;> simp [planIn, staticPlan]
  constructor
  · intro hleads route _ hline
    have hplan : (route.destinationNode, .ltp route.nextHopNode) ∈
        ((declared some (started config lines)).foldl EngineDatabase.declare db).plans :=
      mem_plans_declared.mpr (.inr ((hroute route).mp hline))
    rcases mem_outducts_declared.mp (hleads _ hplan) with hold | hnew
    · exact .inl hold
    · exact .inr (outduct_started hnew)
  · intro hroutes plan hplan
    rw [mem_outducts_declared]
    rcases mem_plans_declared.mp hplan with hold | hnew
    · exact .inl (h plan hold)
    · rcases plan_started hnew with ⟨route, hmem, rfl⟩ | ⟨neighbor, hn, hof⟩
      · rcases hroutes route hmem ((hroute route).mpr hnew) with hold | ⟨link, hl, hduct⟩
        · exact .inl hold
        · exact .inr (hduct ▸ outducts_of_plan hnew link hl)
      · obtain ⟨link, hl, hduct⟩ := exists_link_of_planOf hof
        have hlink : link ∈ config.links := List.mem_flatMap.mpr ⟨neighbor, hn, hl⟩
        exact .inr (hduct ▸ outducts_of_plan hnew link hlink)

end starts

section neighbors

variable {db : EngineDatabase} (outcome : ℕ → Except ε Unit)

/-- The outducts of an addition come before its plan, so that it keeps plans leading wherever it
fails. -/
theorem leads_perform {ids : List UInt64} {plan : Option (UInt64 × Duct)}
    (hplan : ∀ p ∈ plan, p.2 ∈ db.outducts ∨ ∃ engineId ∈ ids, .ltp engineId = p.2)
    (h : Leads db) :
    Leads (perform EngineDatabase.execute outcome db (ids.map outductCommand ++
      (plan.map fun p => (IonDeployments.Tool.ipnadmin,
        RuntimeCommand.declare (.addPlan p.1 p.2))).toList)).1 := by
  induction ids generalizing db outcome with
  | nil =>
    cases plan with
    | none => exact h
    | some p =>
      have hduct : p.2 ∈ db.outducts := by simpa using hplan p rfl
      rw [List.map_nil, List.nil_append, Option.map_some, Option.toList_some, perform]
      cases outcome 0 with
      | error e => exact h
      | ok =>
        intro q hq
        rcases Finset.mem_insert.mp hq with rfl | hold
        · exact hduct
        · exact h q hold
  | cons engineId ids ih =>
    rw [List.map_cons, List.cons_append, perform]
    cases outcome 0 with
    | error e => exact h
    | ok =>
      refine ih _ (fun p hp => ?_) fun q hq => Finset.mem_insert_of_mem (h q hq)
      rcases hplan p hp with hold | ⟨id, hid, heq⟩
      · exact .inl (Finset.mem_insert_of_mem hold)
      · rcases List.mem_cons.mp hid with rfl | hid
        · exact .inl (Finset.mem_insert.mpr (.inl heq.symm))
        · exact .inr ⟨id, hid, heq⟩

theorem leads_addNeighbor (h : Leads db) (neighbor : Neighbor) :
    Leads (addNeighbor outcome db neighbor).1 := by
  rw [addNeighbor, addNeighborCommands_eq]
  refine leads_perform outcome (fun p hp => ?_) h
  obtain ⟨engineId, hfirst, rfl⟩ := Option.map_eq_some_iff.mp hp
  exact .inr ⟨engineId, List.mem_of_mem_head? hfirst, rfl⟩

theorem removeNeighbor_fst (node : UInt64) : (removeNeighbor outcome db node).1 =
    match outcome 0, outcome 1 with
    | .error _, _ => db
    | .ok (), .error _ => { db with plans := db.plans.filter fun plan => plan.1 ≠ node }
    | .ok (), .ok () =>
      { db with
        outducts := db.outducts.erase (.ltp node)
        plans := db.plans.filter fun plan => plan.1 ≠ node } := by
  rw [removeNeighbor, removeNeighborCommands, perform]
  cases outcome 0 with
  | error e => rfl
  | ok =>
    dsimp only
    rw [perform]
    cases outcome 1 <;> rfl

/-- A removal keeps plans leading exactly if it fails or takes an outduct that no plan of another
node uses. -/
theorem leads_removeNeighbor_iff (h : Leads db) (node : UInt64) :
    Leads (removeNeighbor outcome db node).1 ↔ (outcome 0 = .ok () → outcome 1 = .ok () →
      ∀ plan ∈ db.plans, plan.2 = .ltp node → plan.1 = node) := by
  rw [removeNeighbor_fst]
  cases outcome 0 with
  | error e => exact iff_of_true h fun hok => by cases hok
  | ok =>
    cases outcome 1 with
    | error e =>
      refine iff_of_true (fun plan hplan => ?_) fun _ hok => by cases hok
      exact h plan (Finset.mem_filter.mp hplan).1
    | ok =>
      constructor
      · intro hleads _ _ plan hplan hduct
        by_contra hother
        have hkept := hleads plan (Finset.mem_filter.mpr ⟨hplan, hother⟩)
        exact (Finset.mem_erase.mp hkept).1 hduct
      · intro hkeeps plan hplan
        obtain ⟨hold, hother⟩ := Finset.mem_filter.mp hplan
        refine Finset.mem_erase.mpr ⟨fun hduct => hother ?_, h plan hold⟩
        exact hkeeps rfl rfl plan hold hduct

/-- Additions leave the spans as they are. -/
theorem spans_addNeighbor (neighbor : Neighbor) :
    (addNeighbor outcome db neighbor).1.spans = db.spans := by
  have hkeep : ∀ other : EngineDatabase, ∀ c ∈ addNeighborCommands neighbor,
      other.spans = db.spans → (other.execute c).spans = db.spans := by
    intro other c hc hspans
    rw [addNeighborCommands_eq] at hc
    rcases List.mem_append.mp hc with houtduct | hplan
    · obtain ⟨engineId, -, rfl⟩ := List.mem_map.mp houtduct
      exact hspans
    · obtain ⟨plan, -, rfl⟩ := Option.map_eq_some_iff.mp (Option.mem_toList.mp hplan)
      exact hspans
  exact perform_invariant _ hkeep outcome rfl

/-- So do removals. -/
theorem spans_removeNeighbor (node : UInt64) :
    (removeNeighbor outcome db node).1.spans = db.spans := by
  rw [removeNeighbor_fst]
  cases outcome 0 with
  | error e => rfl
  | ok => cases outcome 1 <;> rfl

end neighbors

section runs

theorem leads_empty : Leads .empty := fun plan hplan => absurd hplan (Finset.notMem_empty plan)

theorem leads_step_iff (db : EngineDatabase) (e : AdminEvent ε) (h : Leads db) :
    Leads (step db e) ↔ Keeps db e := by
  cases e with
  | start config lines => exact leads_start_iff h
  | stop => exact iff_of_true leads_empty trivial
  | addNeighbor neighbor outcome => exact iff_of_true (leads_addNeighbor outcome h neighbor) trivial
  | removeNeighbor node outcome => exact leads_removeNeighbor_iff outcome h node

/-- A start since the last stop performed this much of the scripts of a configuration. -/
def Started (events : List (AdminEvent ε)) (config : NetworkConfiguration) (lines : ℕ) : Prop :=
  ∃ first later, events = first ++ .start config lines :: later ∧ .stop ∉ later

theorem not_started_nil (config : NetworkConfiguration) (lines : ℕ) :
    ¬Started ([] : List (AdminEvent ε)) config lines := by
  rintro ⟨first, later, heq, -⟩
  exact List.append_ne_nil_of_right_ne_nil first (List.cons_ne_nil _ _) heq.symm

theorem started_concat_iff {events : List (AdminEvent ε)} {e : AdminEvent ε}
    {config : NetworkConfiguration} {lines : ℕ} : Started (events ++ [e]) config lines ↔
      e = .start config lines ∨ e ≠ .stop ∧ Started events config lines := by
  constructor
  · rintro ⟨first, later, heq, hlater⟩
    rcases List.eq_nil_or_concat later with rfl | ⟨before, last, rfl⟩
    · have hlast : [e] = [.start config lines] := (List.append_inj' heq rfl).2
      exact .inl (List.singleton_inj.mp hlast)
    · have hsplit : events ++ [e] = (first ++ .start config lines :: before) ++ [last] := by
        rw [heq]
        simp
      obtain ⟨hbefore, hlast⟩ := List.append_inj' hsplit rfl
      rw [← List.singleton_inj.mp hlast, List.concat_eq_append, List.mem_append, not_or] at hlater
      refine .inr ⟨fun hstop => hlater.2 ?_, first, before, hbefore, hlater.1⟩
      rw [hstop]
      exact List.mem_singleton_self _
  · rintro (rfl | ⟨hstop, first, later, rfl, hlater⟩)
    · exact ⟨events, [], rfl, List.not_mem_nil⟩
    · refine ⟨first, later ++ [e], by simp, ?_⟩
      simp [hlater, hstop.symm]

/-- The spans of a run are those of the starts since the last stop. -/
theorem mem_spans_run_iff {events : List (AdminEvent ε)} {entry : UInt64 × UInt32 × SpanOutput} :
    entry ∈ (run step .empty events).spans ↔ ∃ config lines,
      Started events config lines ∧ entry ∈ declared spanEntryIn (started config lines) := by
  induction events using List.reverseRecOn with
  | nil => simp [not_started_nil, EngineDatabase.empty]
  | append_singleton events e ih =>
    rw [run_append]
    simp only [run_cons, run_nil, started_concat_iff]
    cases e with
    | start config lines =>
      rw [step, mem_spans_declared, ih]
      constructor
      · rintro (⟨config', lines', hstarted, hentry⟩ | hentry)
        · have hstep : AdminEvent.start config lines ≠ (.stop : AdminEvent ε) := by
            intro hstop
            cases hstop
          exact ⟨config', lines', .inr ⟨hstep, hstarted⟩, hentry⟩
        · exact ⟨config, lines, .inl rfl, hentry⟩
      · rintro ⟨config', lines', heq | ⟨-, hstarted⟩, hentry⟩
        · cases heq
          exact .inr hentry
        · exact .inl ⟨config', lines', hstarted, hentry⟩
    | stop => simp [step, EngineDatabase.empty]
    | addNeighbor neighbor outcome => simp [step, spans_addNeighbor, ih]
    | removeNeighbor node outcome => simp [step, spans_removeNeighbor, ih]

/-- Bundles for a destination leave over an engine: a plan leads to a declared outduct whose engine
has a span. -/
structure Reaches (db : EngineDatabase) (destination engineId : UInt64) : Prop where
  /-- The plan. -/
  plan : (destination, .ltp engineId) ∈ db.plans
  /-- Its outduct. -/
  outduct : .ltp engineId ∈ db.outducts
  /-- The span of the engine. -/
  span : ∃ segmentSize output, (engineId, segmentSize, output) ∈ db.spans

instance (db : EngineDatabase) (destination engineId : UInt64) :
    Decidable (Reaches db destination engineId) :=
  decidable_of_iff ((destination, .ltp engineId) ∈ db.plans ∧ .ltp engineId ∈ db.outducts ∧
    ∃ entry ∈ db.spans, entry.1 = engineId)
    ⟨fun ⟨hplan, houtduct, ⟨_, segmentSize, output⟩, hspan, heq⟩ =>
      ⟨hplan, houtduct, segmentSize, output, heq ▸ hspan⟩,
      fun ⟨hplan, houtduct, _, _, hspan⟩ => ⟨hplan, houtduct, _, hspan, rfl⟩⟩

end runs

end CislunarDtn.IonRuns
