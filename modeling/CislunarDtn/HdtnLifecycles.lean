import CislunarDtn.Bundles
import CislunarDtn.LabelledRuns

/-!
# Lifecycles of the HDTN process

Any number of callers use one lifecycle manager. Start, Stop, Restart and the
monitor goroutine of each process read and write the manager's state, command
and exit channel in locked sections of their own, so that each section, each
signal and each channel operation is a step. A process exits as a step of its
own, at any time: a signal leaves nothing behind but that possibility.
-/

namespace CislunarDtn.HdtnLifecycles

open Bundles LabelledRuns

/-- The manager's view of the process. -/
inductive ProcessState where
  /-- No process. -/
  | stopped
  /-- A Start call is on its way. -/
  | starting
  /-- A Start call has found the process healthy. -/
  | running
  /-- A Stop call is on its way. -/
  | stopping
  /-- The process has exited while it was running. -/
  | failed
  deriving DecidableEq

/-- A process for the operating system. -/
inductive ProcessStatus where
  /-- The process is alive. -/
  | alive
  /-- The process has exited and nobody has waited for it. -/
  | exited
  /-- Wait has returned: signals to the process fail from now on. -/
  | waited
  deriving DecidableEq

/-- Where a monitor goroutine is. Commands and channels are named by the
process they were made for. -/
inductive Monitor where
  /-- The command is not published yet. -/
  | unlaunched
  /-- Before it reads the manager's command. -/
  | launched
  /-- In the Wait of this command. -/
  | waiting (cmd : ℕ)
  /-- Before it reads the manager's exit channel. -/
  | reaped (cmd : ℕ)
  /-- Before it closes the channel it has read. -/
  | closing (cmd : ℕ) (exitCh : Option ℕ)
  /-- Before it classifies the exit. -/
  | classifying (cmd : ℕ)
  /-- Before it calls the exit callback. -/
  | reporting (cmd : ℕ)
  /-- Returned. -/
  | finished
  deriving DecidableEq

/-- A spawned process with its exit channel and its monitor. -/
structure Generation where
  /-- The process. -/
  status : ProcessStatus
  /-- Its exit channel has been closed. -/
  closed : Bool
  /-- Its monitor goroutine. -/
  monitor : Monitor
  deriving DecidableEq

/-- Where a caller is. -/
inductive Caller where
  /-- It has not called. -/
  | idle
  /-- Its last call has returned. -/
  | returned (result : Option GoError)
  /-- In Start, before the process is spawned. -/
  | starting
  /-- In Start, before the command is published. -/
  | spawned (cmd : ℕ)
  /-- In Start, before a round of the health check loop. -/
  | polling
  /-- In Start, in the select of this exit channel and the ticker. -/
  | selecting (exitCh : Option ℕ)
  /-- In Start, after a successful health check. -/
  | healthy
  /-- In Start, after the deadline. -/
  | expired
  /-- In Start, after SIGKILL and before the exit. -/
  | killing (exitCh : Option ℕ)
  /-- In Start, before its last locked section, on the way to this error. -/
  | failing (error : GoError)
  /-- In Stop, before SIGTERM. -/
  | stopping (again : Bool) (cmd exitCh : Option ℕ)
  /-- In Stop, after SIGTERM, perhaps SIGKILL too, and before the exit. -/
  | waiting (again : Bool) (cmd exitCh : Option ℕ)
  /-- In Stop, before its last locked section. -/
  | settling (again : Bool) (cmd : Option ℕ)
  /-- In Restart, between Stop and Start. -/
  | restarting
  deriving DecidableEq

/-- A caller without a call in flight. -/
def Caller.rests : Caller → Bool
  | .idle | .returned _ => true
  | _ => false

/-- A Start call between its first locked section and the publication of its command. -/
def Caller.launching : Caller → Bool
  | .starting | .spawned _ => true
  | _ => false

/-- The manager, the processes it has spawned and its callers. -/
structure System where
  /-- State of the manager. -/
  state : ProcessState
  /-- Command of the manager, named by its process. -/
  cmd : Option ℕ
  /-- Exit channel of the manager, named by its process. -/
  exitCh : Option ℕ
  /-- An exit callback is registered. -/
  onExit : Bool
  /-- The start timeout, as it is printed. -/
  startTimeout : GoString
  /-- Every process spawned so far. -/
  generations : List Generation
  /-- The callers. -/
  callers : List Caller
  /-- Processes whose exit was reported through the callback. -/
  reports : List ℕ
  /-- A closed channel was closed again. -/
  panicked : Bool
  deriving DecidableEq

/-- One step. -/
inductive Event where
  /-- The caller in this place calls Start. -/
  | start (i : ℕ)
  /-- The caller in this place calls Stop. -/
  | stop (i : ℕ)
  /-- The caller in this place calls Restart. -/
  | restart (i : ℕ)
  /-- Start looks for the binary and spawns the process, with the text of a failure. -/
  | spawn (i : ℕ) (failure : Option GoString)
  /-- The ticker of Start fires, with the health check and the deadline found so. -/
  | tick (i : ℕ) (healthy expired : Bool)
  /-- The call in this place takes a step that needs nothing from outside. -/
  | resume (i : ℕ)
  /-- The monitor of this process takes its next step. -/
  | monitor (p : ℕ)
  /-- This process exits. -/
  | exit (p : ℕ)
  deriving DecidableEq

namespace System

/-- A manager before any call. -/
def new (onExit : Bool) (startTimeout : GoString) (callers : ℕ) : System :=
  ⟨.stopped, none, none, onExit, startTimeout, [], List.replicate callers .idle, [], false⟩

/-- The caller in this place goes on to another point. -/
def goTo (s : System) (i : ℕ) (caller : Caller) : System :=
  { s with callers := s.callers.set i caller }

/-- The process in this place is changed. -/
def change (s : System) (p : ℕ) (f : Generation → Generation) : System :=
  { s with generations := s.generations.modify p f }

/-- A receive from the channel succeeds. -/
def received (s : System) (exitCh : Option ℕ) : Prop :=
  ∃ p ∈ exitCh, ∃ g ∈ s.generations[p]?, g.closed = true

instance (s : System) (exitCh : Option ℕ) : Decidable (s.received exitCh) :=
  inferInstanceAs (Decidable (∃ p ∈ exitCh, ∃ g ∈ s.generations[p]?, g.closed = true))

/-- The process has this status. -/
def hasStatus (s : System) (status : ProcessStatus) (p : ℕ) : Prop :=
  ∃ g ∈ s.generations[p]?, g.status = status

instance (s : System) (status : ProcessStatus) (p : ℕ) : Decidable (s.hasStatus status p) :=
  inferInstanceAs (Decidable (∃ g ∈ s.generations[p]?, g.status = status))

/-- Start does not find a process running or starting. -/
def Admits (s : System) : Prop := s.state ≠ .running ∧ s.state ≠ .starting

instance (s : System) : Decidable s.Admits :=
  inferInstanceAs (Decidable (s.state ≠ .running ∧ s.state ≠ .starting))

/-- First locked section of Start. -/
def beginStart (s : System) (i : ℕ) : System :=
  if s.Admits then { s.goTo i .starting with state := .starting }
  else s.goTo i (.returned (some (.errorf (ascii "hdtn process is already running"))))

/-- Where a caller is when Stop has returned to it. -/
def stopped (again : Bool) : Caller := if again then .restarting else .returned none

/-- First locked section of Stop. -/
def beginStop (s : System) (i : ℕ) (again : Bool) : System :=
  if s.state ≠ .running ∧ s.state ≠ .starting ∧ s.state ≠ .failed then s.goTo i (stopped again)
  else { s.goTo i (.stopping again s.cmd s.exitCh) with state := .stopping }

/-- Start spawns its process. -/
def spawn (s : System) (i : ℕ) (failure : Option GoString) : System :=
  match failure with
  | some text =>
    { s.goTo i (.returned (some (.errorf (ascii "failed to spawn hdtn process: " ++ text)))) with
      state := .stopped }
  | none =>
    { s.goTo i (.spawned s.generations.length) with
      generations := s.generations ++ [⟨.alive, false, .unlaunched⟩] }

/-- Start publishes command and exit channel and launches the monitor. -/
def publish (s : System) (i p : ℕ) : System :=
  { (s.change p fun g => { g with monitor := .launched }).goTo i .polling with
    cmd := some p, exitCh := some p }

/-- The error of a Start that runs into its deadline. -/
def timeoutError (s : System) : GoError :=
  .errorf (ascii "startup timeout: HDTN REST API did not respond within " ++ s.startTimeout)

/-- A step of a call that needs nothing from outside. -/
def resume (s : System) (i : ℕ) : Caller → System
  | .spawned p => s.publish i p
  | .polling => s.goTo i (.selecting s.exitCh)
  | .selecting exitCh =>
    if s.received exitCh then
      s.goTo i (.failing (.errorf (ascii "hdtn process exited during startup")))
    else s
  | .healthy => { s.goTo i (.returned none) with state := .running }
  | .expired =>
    match s.cmd with
    | none => s.goTo i (.failing s.timeoutError)
    | some _ => s.goTo i (.killing s.exitCh)
  | .killing exitCh =>
    if exitCh = none ∨ s.received exitCh then s.goTo i (.failing s.timeoutError) else s
  | .failing error => { s.goTo i (.returned (some error)) with state := .stopped }
  | .stopping again cmd exitCh =>
    match cmd with
    | none => s.goTo i (.settling again none)
    | some p =>
      if s.hasStatus .waited p then s.goTo i (.settling again (some p))
      else s.goTo i (.waiting again (some p) exitCh)
  | .waiting again cmd exitCh =>
    if s.received exitCh then s.goTo i (.settling again cmd) else s
  | .settling again _ => { s.goTo i (stopped again) with state := .stopped }
  | .restarting => s.beginStart i
  | _ => s

/-- The monitor closes the channel it has read. -/
def close (s : System) (exitCh : Option ℕ) : System :=
  match exitCh with
  | none => s
  | some p =>
    if s.received exitCh then { s with panicked := true }
    else s.change p fun g => { g with closed := true }

/-- A step of the monitor of the process in this place. -/
def monitorProcess (s : System) (p : ℕ) : Monitor → System
  | .launched =>
    match s.cmd with
    | none => s.change p fun g => { g with monitor := .finished }
    | some cmd => s.change p fun g => { g with monitor := .waiting cmd }
  | .waiting cmd =>
    if s.hasStatus .alive cmd then s
    else
      (s.change cmd fun g => { g with status := .waited }).change p
        fun g => { g with monitor := .reaped cmd }
  | .reaped cmd => s.change p fun g => { g with monitor := .closing cmd s.exitCh }
  | .closing cmd exitCh =>
    (s.close exitCh).change p fun g => { g with monitor := .classifying cmd }
  | .classifying cmd =>
    if s.state = .running then
      { s.change p fun g =>
          { g with monitor := if s.onExit then .reporting cmd else .finished } with
        state := .failed }
    else s.change p fun g => { g with monitor := .finished }
  | .reporting cmd =>
    { s.change p fun g => { g with monitor := .finished } with reports := s.reports ++ [cmd] }
  | _ => s

/-- The process exits. -/
def exitProcess (s : System) (p : ℕ) : System :=
  if s.hasStatus .alive p then s.change p fun g => { g with status := .exited } else s

/-- One step of a system that has not panicked. -/
def perform (s : System) : Event → System
  | .start i =>
    match s.callers[i]? with
    | some caller => if caller.rests then s.beginStart i else s
    | none => s
  | .stop i =>
    match s.callers[i]? with
    | some caller => if caller.rests then s.beginStop i false else s
    | none => s
  | .restart i =>
    match s.callers[i]? with
    | some caller => if caller.rests then s.beginStop i true else s
    | none => s
  | .spawn i failure =>
    match s.callers[i]? with
    | some .starting => s.spawn i failure
    | _ => s
  | .tick i healthy expired =>
    match s.callers[i]? with
    | some (.selecting _) =>
      s.goTo i (if healthy then .healthy else if expired then .expired else .polling)
    | _ => s
  | .resume i =>
    match s.callers[i]? with
    | some caller => s.resume i caller
    | none => s
  | .monitor p =>
    match s.generations[p]? with
    | some g => s.monitorProcess p g.monitor
    | none => s
  | .exit p => s.exitProcess p

/-- One step. A panic ends everything. -/
def apply (s : System) (e : Event) : System := if s.panicked then s else s.perform e

section lookups

variable {s : System} {i j p q : ℕ}

theorem apply_of_calm (h : s.panicked = false) (e : Event) : s.apply e = s.perform e := by
  rw [apply, h]
  rfl

/-- What stands in a caller's place after one of the callers went on. -/
theorem getElem?_goTo {c d : Caller} (h : (s.goTo i c).callers[j]? = some d) :
    i = j ∧ d = c ∨ i ≠ j ∧ s.callers[j]? = some d := by
  by_cases hij : i = j
  · subst hij
    have hlt : i < s.callers.length := by
      have h' := (List.getElem?_eq_some_iff.mp h).1
      simpa only [goTo, List.length_set] using h'
    simp only [goTo, List.getElem?_set_self hlt, Option.some.injEq] at h
    exact Or.inl ⟨rfl, h.symm⟩
  · simp only [goTo, List.getElem?_set_ne hij] at h
    exact Or.inr ⟨hij, h⟩

theorem getElem?_goTo_self {c d : Caller} (h : s.callers[i]? = some d) :
    (s.goTo i c).callers[i]? = some c :=
  List.getElem?_set_self (List.getElem?_eq_some_iff.mp h).1

theorem getElem?_goTo_ne {c : Caller} (h : i ≠ j) :
    (s.goTo i c).callers[j]? = s.callers[j]? := List.getElem?_set_ne h

/-- The other callers stand where they stood. -/
theorem getElem?_of_goTo {c d : Caller} (h : (s.goTo i c).callers[j]? = some d) (hne : j ≠ i) :
    s.callers[j]? = some d := (getElem?_goTo_ne hne.symm).symm.trans h

variable {f : Generation → Generation} {g : Generation}

theorem getElem?_change_self (h : s.generations[p]? = some g) :
    (s.change p f).generations[p]? = some (f g) := by
  simp only [change, List.getElem?_modify_eq, h]
  rfl

theorem getElem?_change_ne (h : p ≠ q) :
    (s.change p f).generations[q]? = s.generations[q]? := List.getElem?_modify_ne f _ h

theorem length_change : (s.change p f).generations.length = s.generations.length :=
  List.length_modify ..

theorem change_change (f' : Generation → Generation) :
    (s.change p f).change p f' = s.change p (f' ∘ f) := by
  simp only [change, List.modify_modify_eq]

theorem received_some_iff :
    s.received (some p) ↔ ∃ g, s.generations[p]? = some g ∧ g.closed = true := by
  simp only [received, Option.mem_def, Option.some.injEq, exists_eq_left']

theorem not_received_of_open (hg : s.generations[p]? = some g) (hopen : g.closed = false) :
    ¬ s.received (some p) := by
  rw [received_some_iff]
  rintro ⟨g', hg', hclosed⟩
  rw [hg, Option.some.injEq] at hg'
  simp [← hg', hopen] at hclosed

theorem hasStatus_iff {status : ProcessStatus} (h : s.generations[p]? = some g) :
    s.hasStatus status p ↔ g.status = status := by
  simp only [hasStatus, Option.mem_def, h, Option.some.injEq, exists_eq_left']

theorem generations_beginStart : (s.beginStart i).generations = s.generations := by
  rw [beginStart]
  split <;> rfl

theorem generations_beginStop {again : Bool} :
    (s.beginStop i again).generations = s.generations := by
  rw [beginStop]
  split <;> rfl

/-- A call changes the processes by a step without input only where it
publishes its command. -/
theorem generations_resume {c : Caller} (hc : ∀ p, c ≠ .spawned p) :
    (s.resume i c).generations = s.generations := by
  cases c with
  | spawned p => exact absurd rfl (hc p)
  | restarting => exact generations_beginStart
  | selecting exitCh | killing exitCh | waiting again cmd exitCh =>
    rw [resume]
    split <;> rfl
  | expired =>
    rw [resume]
    split <;> rfl
  | stopping again cmd exitCh =>
    cases cmd with
    | none => rfl
    | some p =>
      rw [resume]
      split <;> rfl
  | _ => rfl

/-- What a step does to the processes: nothing, or one is spawned, gets its
monitor, is monitored or exits. -/
theorem generations_perform (s : System) (e : Event) :
    (s.perform e).generations = s.generations ∨
      (∃ i : ℕ, s.callers[i]? = some .starting ∧
        (s.perform e).generations = s.generations ++ [⟨.alive, false, .unlaunched⟩]) ∨
      (∃ i p : ℕ, s.callers[i]? = some (.spawned p) ∧ (s.perform e).generations =
        (s.change p fun g => { g with monitor := .launched }).generations) ∨
      (∃ p g, e = .monitor p ∧ s.generations[p]? = some g ∧
        (s.perform e).generations = (s.monitorProcess p g.monitor).generations) ∨
      ∃ p, e = .exit p ∧ s.hasStatus .alive p ∧ (s.perform e).generations =
        (s.change p fun g => { g with status := .exited }).generations := by
  cases e with
  | start i =>
    refine Or.inl ?_
    simp only [perform]
    split
    · split
      · exact generations_beginStart
      · rfl
    · rfl
  | stop i | restart i =>
    refine Or.inl ?_
    simp only [perform]
    split
    · split
      · exact generations_beginStop
      · rfl
    · rfl
  | spawn i failure =>
    simp only [perform]
    split
    next hi =>
      cases failure with
      | none => exact Or.inr (Or.inl ⟨i, hi, rfl⟩)
      | some text => exact Or.inl rfl
    next => exact Or.inl rfl
  | tick i healthy expired =>
    refine Or.inl ?_
    simp only [perform]
    split <;> rfl
  | resume i =>
    simp only [perform]
    split
    next c hi =>
      by_cases hc : ∃ p, c = .spawned p
      · obtain ⟨p, rfl⟩ := hc
        exact Or.inr (Or.inr (Or.inl ⟨i, p, hi, rfl⟩))
      · exact Or.inl (generations_resume fun p hp => hc ⟨p, hp⟩)
    next => exact Or.inl rfl
  | monitor p =>
    simp only [perform]
    split
    next g hg => exact Or.inr (Or.inr (Or.inr (Or.inl ⟨p, g, rfl, hg, rfl⟩)))
    next => exact Or.inl rfl
  | exit p =>
    simp only [perform, exitProcess]
    split
    next halive => exact Or.inr (Or.inr (Or.inr (Or.inr ⟨p, rfl, halive, rfl⟩)))
    next => exact Or.inl rfl

/-- A step of a monitor leaves the processes that are neither its own nor
named by the command or the channel it works on. -/
theorem getElem?_monitorProcess_ne {monitor : Monitor} (hp : p ≠ q)
    (hwaiting : monitor ≠ .waiting q) (hclosing : ∀ cmd, monitor ≠ .closing cmd (some q)) :
    (s.monitorProcess p monitor).generations[q]? = s.generations[q]? := by
  cases monitor with
  | launched =>
    rw [monitorProcess]
    split <;> exact getElem?_change_ne hp
  | waiting cmd =>
    have hcmd : cmd ≠ q := fun h => hwaiting (h ▸ rfl)
    rw [monitorProcess]
    split
    · rfl
    · rw [getElem?_change_ne hp, getElem?_change_ne hcmd]
  | closing cmd exitCh =>
    rw [monitorProcess, getElem?_change_ne hp]
    cases exitCh with
    | none => rfl
    | some r =>
      have hr : r ≠ q := fun h => hclosing cmd (h ▸ rfl)
      rw [close]
      split
      · rfl
      · exact getElem?_change_ne hr
  | classifying cmd =>
    rw [monitorProcess]
    split <;> exact getElem?_change_ne hp
  | reaped cmd | reporting cmd => exact getElem?_change_ne hp
  | unlaunched | finished => rfl

end lookups

end System

end CislunarDtn.HdtnLifecycles
