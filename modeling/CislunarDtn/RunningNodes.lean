import CislunarDtn.ManagedNodes

/-!
# What Running stands for

The state machine of the interface says Running after a start of the adapter
that has succeeded. A restart calls the adapter and leaves the state machine as
it is, so that only restarts which give up make it say Running of an engine
without the complete scripts of what was deployed.
-/

namespace CislunarDtn.RunningNodes

open DecimalTexts IonDatabases IonDeclarations IonDeployments IonRuns IonScripts LabelledRuns
  ManagedNodes ManagementApis NetworkConfigurations RequestCalls

section truth

variable {ε : Type*}

/-- The last start after the last stop, with the lines that it performed. -/
def upSince (last : Option (NetworkConfiguration × ℕ)) :
    AdminEvent ε → Option (NetworkConfiguration × ℕ)
  | .start config lines => some (config, lines)
  | .stop => none
  | _ => last

/-- The engine was started last with all lines of the scripts. -/
def Whole (events : List (AdminEvent ε)) : Prop :=
  ∃ config lines, run upSince none events = some (config, lines) ∧
    (startLines config).length ≤ lines

/-- A state machine that says Running stands for an engine that was started whole. -/
def Truthful (t : Trace) : Prop :=
  t.node.api.machine.state = .running → Whole t.events

/-- A restart of the running engine that reaches the adapter performs all lines. -/
def RestartsWhole (t : Trace) (handling : Handling) : Prop :=
  t.node.api.machine.state = .running → handling.1 = .lifecycle .restart →
    ActiveAdapters.target t.node.api ≠ none → ∀ config ∈ t.deployed,
      handling.2.started = .ok () ∨ (startLines config).length ≤ handling.2.lines

variable {events : List (AdminEvent AbstractionError)} {tools : Tools}
  {config : NetworkConfiguration}

/-- After a start, the engine was started whole if that start was. -/
theorem whole_append_startEvents :
    Whole (events ++ startEvents tools (some config)) ↔
      tools.started = .ok () ∨ (startLines config).length ≤ tools.lines := by
  have hlast : run upSince none (events ++ startEvents tools (some config)) =
      some (config, linesPerformed tools config) := by
    rw [run_append]
    rfl
  rw [Whole, hlast, linesPerformed]
  cases tools.started with
  | error e => simp
  | ok _ => simp

/-- Changes of neighbors leave it. -/
theorem whole_append_of_kept {more : List (AdminEvent AbstractionError)}
    (h : ∀ e ∈ more, ∀ last, upSince last e = last) : Whole (events ++ more) ↔ Whole events := by
  have hsame : run upSince none (events ++ more) = run upSince none events := by
    rw [run_append]
    generalize run upSince none events = last
    induction more with
    | nil => rfl
    | cons e more ih =>
      rw [run_cons, h e List.mem_cons_self]
      exact ih fun e he => h e (List.mem_cons_of_mem _ he)
  rw [Whole, Whole, hsame]

theorem upSince_of_mem_eventsOf {deployed : Option NetworkConfiguration} {call : AdapterCall}
    (hcall : ∀ kind, call ≠ .lifecycle kind) {e : AdminEvent AbstractionError}
    (he : e ∈ eventsOf tools deployed call) (last : Option (NetworkConfiguration × ℕ)) :
    upSince last e = last := by
  cases call with
  | lifecycle kind => exact absurd rfl (hcall kind)
  | addNeighbor neighbor =>
    obtain rfl := List.mem_singleton.mp he
    rfl
  | removeNeighbor node =>
    obtain rfl := List.mem_singleton.mp he
    rfl
  | _ => exact absurd he List.not_mem_nil

variable {read : ConfigFile → List Line} {number : UInt64} {t : Trace} {handling : Handling}

/-- Requests that start and stop nothing keep it. -/
theorem truthful_step_of_ne (ht : Truthful t) (hrequest : ∀ kind, handling.1 ≠ .lifecycle kind) :
    Truthful (t.step read handling) := by
  intro hrunning
  have hmachine : (t.step read handling).node.api.machine = t.node.api.machine :=
    machine_handle _ _ hrequest
  rw [hmachine] at hrunning
  refine (whole_append_of_kept fun e he last => ?_).mpr (ht hrunning)
  obtain ⟨call, hcall, hevent⟩ := List.mem_flatMap.mp he
  exact upSince_of_mem_eventsOf (calls_ne_lifecycle _ _ hrequest call hcall) hevent last

theorem truthful_step_lifecycle_iff (h : Managed read number t) (ht : Truthful t)
    (kind : Lifecycle) (tools : Tools) :
    Truthful (t.step read (.lifecycle kind, tools)) ↔
      RestartsWhole t (.lifecycle kind, tools) := by
  rcases lifecycleRequest_cases (fun _ call => (callIon read tools t.node.site call).2) t.node.api
    kind with ⟨hnone, hcalls, hstate⟩ | ⟨name, htarget, henter, hcalls, hstate⟩
  all_goals rw [← handle_lifecycle] at hcalls hstate
  · have hevents : (t.step read (.lifecycle kind, tools)).events = t.events := by
      rw [Trace.step, reply, hcalls]
      exact List.append_nil _
    refine iff_of_true (fun hrunning => ?_) fun _ hrestart hsome => ?_
    · rw [hevents]
      refine ht ?_
      rw [← hrunning]
      exact congrArg (fun s : AppState => s.machine.state) hstate.symm
    · obtain rfl : kind = .restart := Request.lifecycle.inj hrestart
      rcases hnone with hmissing | henter
      · exact absurd hmissing hsome
      · exact absurd rfl henter
  · have hevents : (t.step read (.lifecycle kind, tools)).events =
        t.events ++ eventsOf tools t.deployed (.lifecycle kind) := by
      rw [Trace.step, reply, hcalls]
      simp
    have hmachine : (t.step read (.lifecycle kind, tools)).node.api.machine =
        kind.record (kind.enter t.node.api.machine).1
          (callIon read tools t.node.site (.lifecycle kind)).2 :=
      congrArg AppState.machine hstate
    cases kind with
    | start =>
      refine iff_of_true (fun hrunning => ?_) fun _ hrestart => by cases hrestart
      rw [hmachine] at hrunning
      have hok := (ActiveAdapters.record_start_eq_running_iff henter _).mp hrunning
      obtain ⟨hdeployed, hstarted⟩ := (startIon_ok_iff h.files).mp hok
      obtain ⟨config, hconfig⟩ := Option.isSome_iff_exists.mp hdeployed
      rw [hevents, hconfig]
      exact whole_append_startEvents.mpr (.inl hstarted)
    | stop =>
      refine iff_of_true (fun hrunning => ?_) fun _ hrestart => by cases hrestart
      rw [hmachine] at hrunning
      exact absurd hrunning (ActiveAdapters.record_stop_ne_running henter _)
    | restart =>
      have hsame : (t.step read (.lifecycle .restart, tools)).node.api.machine =
          t.node.api.machine := hmachine
      rw [Truthful, hsame, hevents, RestartsWhole]
      refine imp_congr_right fun hrunning => ?_
      obtain ⟨config, hconfig⟩ := Option.isSome_iff_exists.mp (h.running hrunning)
      rw [hconfig, eventsOf, ← List.append_assoc, whole_append_startEvents]
      simp [htarget]

/-- Only a restart can make the state machine say Running of an engine that is not. -/
theorem truthful_step_iff (h : Managed read number t) (ht : Truthful t) :
    Truthful (t.step read handling) ↔ RestartsWhole t handling := by
  by_cases hlifecycle : ∃ kind, handling.1 = .lifecycle kind
  · obtain ⟨request, tools⟩ := handling
    obtain ⟨kind, hrequest⟩ := hlifecycle
    obtain rfl : request = .lifecycle kind := hrequest
    exact truthful_step_lifecycle_iff h ht kind tools
  · have hrequest : ∀ kind, handling.1 ≠ .lifecycle kind := fun kind heq => hlifecycle ⟨kind, heq⟩
    exact iff_of_true (truthful_step_of_ne ht hrequest) fun _ hrestart =>
      absurd hrestart (hrequest .restart)

end truth

section runs

variable (read : ConfigFile → List Line) {number : UInt64} {handlings : List Handling}

/-- The interface says Running only of engines that were started whole, as long as no restart of
the running engine gives up before the last line: a restart leaves the state machine as it is. -/
theorem truthful_iff_restartsWhole (h : ∀ handling ∈ handlings, Proper read number handling) :
    (∀ first, first <+: handlings → Truthful (run (Trace.step read) .new first)) ↔
      Along (Trace.step read) RestartsWhole .new handlings := by
  have hproper : Along (Trace.step read) (fun _ handling => Proper read number handling) .new
      handlings := along_iff_forall_mem.mpr h
  have hmanaged : Along (Trace.step read) (fun t _ => Managed read number t) .new handlings :=
    hproper.mono_of_invariant (fun _ _ hm _ => hm) (fun _ _ => managed_step) managed_new
  refine forall_prefix_iff_along (fun t handling ht hm => truthful_step_iff hm ht) hmanaged ?_
  exact fun hrunning => by cases hrunning

/-- After a restart that fails at once, the interface still says Running. -/
theorem not_truthful_after_restart :
    ¬∀ first, first <+: session ++ [(.lifecycle .restart, { reliable with
        started := .error ⟨.lifecycleError, [], [], none, none⟩ })] →
      Truthful (run (Trace.step (readScripts station)) .new first) := by
  rw [truthful_iff_restartsWhole (readScripts station)
    (proper_of_mem_session (by simp [session])), along_append]
  rintro ⟨-, hrestart, -⟩
  have hdeployed : (run (Trace.step (readScripts station)) .new session).deployed =
      some station := by
    decide +kernel
  rcases hrestart (by decide +kernel) rfl (by decide +kernel) station hdeployed with hok | hlines
  · cases hok
  · exact absurd hlines (by decide +kernel)

/-- What was started last counts among the starts since the last stop. -/
theorem started_of_upSince {events : List (AdminEvent AbstractionError)}
    {config : NetworkConfiguration} {lines : ℕ}
    (h : run upSince none events = some (config, lines)) : Started events config lines := by
  induction events using List.reverseRecOn with
  | nil => cases h
  | append_singleton events e ih =>
    rw [run_append, run_cons, run_nil] at h
    rw [started_concat_iff]
    cases e with
    | start config' lines' =>
      cases h
      exact .inl rfl
    | stop => cases h
    | addNeighbor neighbor outcome =>
      refine .inr ⟨fun heq => ?_, ih h⟩
      cases heq
    | removeNeighbor node outcome =>
      refine .inr ⟨fun heq => ?_, ih h⟩
      cases heq

theorem mem_startEvents {tools : Tools} {deployed : Option NetworkConfiguration}
    {config : NetworkConfiguration} {lines : ℕ}
    (h : .start config lines ∈ startEvents tools deployed) : deployed = some config := by
  obtain ⟨other, rfl, heq⟩ := Option.map_eq_some_iff.mp (Option.mem_toList.mp h)
  cases heq
  rfl

theorem start_notMem_stopEvents (tools : Tools) (config : NetworkConfiguration) (lines : ℕ) :
    .start config lines ∉ stopEvents tools := by
  unfold stopEvents
  cases tools.stopped <;> simp

/-- A call starts what was deployed last. -/
theorem mem_eventsOf {tools : Tools} {deployed : Option NetworkConfiguration} {call : AdapterCall}
    {config : NetworkConfiguration} {lines : ℕ}
    (h : .start config lines ∈ eventsOf tools deployed call) : deployed = some config := by
  cases call with
  | lifecycle kind =>
    cases kind with
    | start => exact mem_startEvents h
    | stop => exact absurd h (start_notMem_stopEvents tools config lines)
    | restart =>
      rcases List.mem_append.mp h with hstop | hstart
      · exact absurd hstop (start_notMem_stopEvents tools config lines)
      · exact mem_startEvents hstart
  | _ => simp [eventsOf] at h

/-- Only what was deployed is started. -/
theorem deployed_of_mem_events {t : Trace} {config : NetworkConfiguration} {lines : ℕ}
    (h : .start config lines ∈ (run (Trace.step read) t handlings).events) :
    .start config lines ∈ t.events ∨ t.deployed = some config ∨
      ∃ handling ∈ handlings, deployedBy handling = some config := by
  induction handlings generalizing t with
  | nil => exact .inl h
  | cons handling handlings ih =>
    rcases ih h with hevent | hlast | ⟨other, hmem, hother⟩
    · rcases List.mem_append.mp hevent with hold | hnew
      · exact .inl hold
      · obtain ⟨call, -, hcall⟩ := List.mem_flatMap.mp hnew
        exact .inr (.inl (mem_eventsOf hcall))
    · cases hdeployed : deployedBy handling with
      | none =>
        rw [Trace.step, hdeployed] at hlast
        exact .inr (.inl hlast)
      | some written =>
        rw [Trace.step, hdeployed] at hlast
        exact .inr (.inr ⟨handling, List.mem_cons_self, hdeployed.trans hlast⟩)
    · exact .inr (.inr ⟨other, List.mem_cons_of_mem _ hmem, hother⟩)

/-- While the interface says Running and no restart of the running engine has given up, the engine
has all spans of some configuration that was deployed. -/
theorem spans_while_running (h : ∀ handling ∈ handlings, Proper read number handling)
    (hrestarts : Along (Trace.step read) RestartsWhole .new handlings)
    (hrunning : (run (step read) .new handlings).api.machine.state = .running) :
    ∃ handling ∈ handlings, ∃ config, deployedBy handling = some config ∧
      ∀ entry ∈ declared spanEntryIn (startLines config),
        entry ∈ (run (step read) .new handlings).site.engine.spans := by
  have hproper : Along (Trace.step read) (fun _ handling => Proper read number handling) .new
      handlings := along_iff_forall_mem.mpr h
  have hboth : Along (Trace.step read) (fun t handling => Proper read number handling ∧
      RestartsWhole t handling) .new handlings := hproper.and hrestarts
  have hinvariant : Managed read number (run (Trace.step read) .new handlings) ∧
      Truthful (run (Trace.step read) .new handlings) := by
    have hnew : Managed read number .new ∧ Truthful .new :=
      ⟨managed_new, fun hrunning => by cases hrunning⟩
    have hstep : ∀ t handling, Managed read number t ∧ Truthful t →
        Proper read number handling ∧ RestartsWhole t handling →
          Managed read number (t.step read handling) ∧ Truthful (t.step read handling) := by
      intro t handling ht hcond
      exact ⟨managed_step ht.1 hcond.1, (truthful_step_iff ht.1 ht.2).mpr hcond.2⟩
    exact hboth.invariant hstep hnew
  have hnode : (run (Trace.step read) .new handlings).node = run (step read) .new handlings :=
    run_step_node read .new handlings
  rw [← hnode] at hrunning ⊢
  obtain ⟨config, lines, hlast, hlines⟩ := hinvariant.2 hrunning
  have hstarted := started_of_upSince hlast
  have hdeployed : ∃ handling ∈ handlings, deployedBy handling = some config := by
    obtain ⟨first, later, hevents, -⟩ := hstarted
    have hmem : .start config lines ∈ (run (Trace.step read) .new handlings).events := by
      rw [hevents]
      exact List.mem_append_right _ List.mem_cons_self
    rcases deployed_of_mem_events read hmem with hnil | hnone | hwritten
    · exact absurd hnil List.not_mem_nil
    · cases hnone
    · exact hwritten
  obtain ⟨handling, hmem, hconfig⟩ := hdeployed
  refine ⟨handling, hmem, config, hconfig, fun entry hentry => ?_⟩
  rw [hinvariant.1.engine, mem_spans_run_iff]
  refine ⟨config, lines, hstarted, ?_⟩
  rw [started, List.take_of_length_le hlines]
  exact hentry

/-- The interface says Running, and the span of the neighbor is there. -/
theorem spans_while_running_of_session :
    ∃ handling ∈ session, ∃ config, deployedBy handling = some config ∧
      ∀ entry ∈ declared spanEntryIn (startLines config),
        entry ∈ (run (step (readScripts station)) .new session).site.engine.spans := by
  have hrestarts : Along (Trace.step (readScripts station)) RestartsWhole .new session :=
    along_of_forall_mem (by simp [session, RestartsWhole]) _
  exact spans_while_running (readScripts station) proper_session hrestarts (by decide +kernel)

end runs

end CislunarDtn.RunningNodes
