import CislunarDtn.HdtnGenerations

/-!
# Exit channels that Stop waits on

In an orderly run every channel that a Stop call waits on belongs to a
published process, and is closed by that process's monitor within four steps of
its own once the process has exited.
-/

namespace CislunarDtn.HdtnGenerations

open Bundles LabelledRuns HdtnLifecycles HdtnLifecycles.System

variable {s : System} {i p : ℕ}

section draining

/-- Steps of a launched monitor up to its close. -/
def stepsToClose : Monitor → ℕ
  | .launched => 4
  | .waiting _ => 3
  | .reaped _ => 2
  | .closing .. => 1
  | _ => 0

/-- The process has exited, with its exit channel published and this many
steps of its monitor left up to the close. -/
def Draining (s : System) (p n : ℕ) : Prop :=
  ∃ g, s.generations[p]? = some g ∧ g.status ≠ .alive ∧ g.monitor ≠ .unlaunched ∧
    stepsToClose g.monitor ≤ n

theorem Draining.congr {s' : System} {n : ℕ} (hd : Draining s p n)
    (hsame : s'.generations[p]? = s.generations[p]?) : Draining s' p n := by
  obtain ⟨g, hg, hrest⟩ := hd
  exact ⟨g, hsame.trans hg, hrest⟩

/-- A guarded step of a monitor changes its own process only. -/
theorem Guarded.monitorProcess_ne (h : Guarded s) {g : Generation} {q : ℕ}
    (hg : s.generations[q]? = some g) (hne : q ≠ p) :
    (s.monitorProcess q g.monitor).generations[p]? = s.generations[p]? := by
  refine getElem?_monitorProcess_ne hne ?_ ?_
  · intro hm
    cases h.generation q g hg with
    | closed _ _ hmonitor => simp [hm] at hmonitor
    | unlaunched _ _ hmonitor => simp [hm] at hmonitor
    | monitored _ _ _ hmonitor => simp [hm, hne.symm] at hmonitor
  · intro cmd hm
    cases h.generation q g hg with
    | closed _ _ hmonitor => simp [hm] at hmonitor
    | unlaunched _ _ hmonitor => simp [hm] at hmonitor
    | monitored _ _ _ hmonitor => simp [hm, hne.symm] at hmonitor

/-- A guarded step of the monitor of an exited process brings the close nearer. -/
theorem Guarded.draining_monitor (h : Guarded s) {n : ℕ} (hd : Draining s p n) :
    Draining (s.apply (.monitor p)) p (n - 1) := by
  obtain ⟨g, hg, hstatus, hlaunched, hn⟩ := hd
  have hset : ∀ (s' : System) (f : Generation → Generation),
      s'.generations = (s.change p f).generations → (f g).status ≠ .alive →
      (f g).monitor ≠ .unlaunched → stepsToClose (f g).monitor ≤ n - 1 →
      Draining s' p (n - 1) := by
    intro s' f hs' hf hm hsteps
    exact ⟨f g, by rw [hs', getElem?_change_self hg], hf, hm, hsteps⟩
  rw [apply_of_calm h.calm]
  simp only [perform, hg]
  cases h.generation p g hg with
  | closed _ _ hmonitor =>
    obtain hq | hq | hq := hmonitor
    · rw [hq, monitorProcess]
      split
      · refine hset _ _ rfl hstatus ?_ ?_
        · split <;> simp
        · split <;> simp [stepsToClose]
      · exact hset _ _ rfl hstatus (by simp) (by simp [stepsToClose])
    · rw [hq]
      exact hset _ _ rfl hstatus (by simp) (by simp [stepsToClose])
    · rw [hq]
      exact ⟨g, hg, hstatus, by simp [hq], by simp [hq, stepsToClose]⟩
  | unlaunched _ _ hmonitor => exact absurd hmonitor hlaunched
  | monitored hopen _ hcmd hmonitor =>
    obtain hm | hm | ⟨-, hm | hm⟩ := hmonitor
    · rw [hm, stepsToClose] at hn
      rw [hm, monitorProcess, hcmd]
      exact hset _ _ rfl hstatus (by simp) (by simp only [stepsToClose]; omega)
    · have halive : ¬ s.hasStatus .alive p := by rw [hasStatus_iff hg]; exact hstatus
      rw [hm, stepsToClose] at hn
      rw [hm, monitorProcess, if_neg halive, change_change]
      exact hset _ _ rfl (by simp) (by simp) (by simp only [stepsToClose, Function.comp]; omega)
    · rw [hm, stepsToClose] at hn
      rw [hm, monitorProcess]
      exact hset _ _ rfl hstatus (by simp) (by simp only [stepsToClose]; omega)
    · rw [hm, stepsToClose] at hn
      rw [hm, monitorProcess, close]
      split
      · exact hset _ _ rfl hstatus (by simp) (by simp [stepsToClose])
      · rw [change_change]
        exact hset _ _ rfl hstatus (by simp) (by simp [stepsToClose])

/-- A guarded step leaves the close as near as it was. -/
theorem Guarded.draining (h : Guarded s) {n : ℕ} (hd : Draining s p n) (e : Event) :
    Draining (s.apply e) p n := by
  by_cases hmonitor : e = .monitor p
  · obtain ⟨g, hg, hstatus, hlaunched, hn⟩ := h.draining_monitor hd
    rw [hmonitor]
    exact ⟨g, hg, hstatus, hlaunched, by omega⟩
  rw [apply_of_calm h.calm]
  refine hd.congr ?_
  obtain ⟨g, hg, hstatus, hlaunched, -⟩ := hd
  obtain hsame | ⟨i, -, hspawn⟩ | ⟨i, q, hi, hpublish⟩ | ⟨q, g', rfl, hg', hstep⟩ |
    ⟨q, rfl, halive, hexit⟩ := generations_perform s e
  · rw [hsame]
  · rw [hspawn, List.getElem?_append_left (List.getElem?_eq_some_iff.mp hg).1]
  · -- The process published is one without a monitor.
    have hne : q ≠ p := by
      rintro rfl
      obtain ⟨g', hg', hm⟩ := h.spawned i q hi
      rw [hg, Option.some.injEq] at hg'
      exact hlaunched (hg' ▸ hm)
    rw [hpublish, getElem?_change_ne hne]
  · have hne : q ≠ p := fun hq => hmonitor (hq ▸ rfl)
    rw [hstep, h.monitorProcess_ne hg' hne]
  · have hne : q ≠ p := by
      rintro rfl
      exact hstatus ((hasStatus_iff hg).mp halive)
    rw [hexit, getElem?_change_ne hne]

/-- With no step left the channel is closed. -/
theorem Guarded.received (h : Guarded s) (hd : Draining s p 0) : s.received (some p) := by
  obtain ⟨g, hg, -, hlaunched, hn⟩ := hd
  refine received_some_iff.mpr ⟨g, hg, ?_⟩
  cases h.generation p g hg with
  | closed hclosed _ _ => exact hclosed
  | unlaunched _ _ hmonitor => exact absurd hmonitor hlaunched
  | monitored _ _ _ hmonitor =>
    obtain hm | hm | ⟨-, hm | hm⟩ := hmonitor <;> simp [hm, stepsToClose] at hn

/-- Orderly steps with enough steps of its monitor among them close the channel
of an exited process. -/
theorem Guarded.received_run {events : List Event} {n : ℕ} (h : Guarded s)
    (horderly : Along apply Orderly s events) (hd : Draining s p n)
    (hn : n ≤ events.count (.monitor p)) : (run apply s events).received (some p) := by
  induction events generalizing s n with
  | nil =>
    have hzero : n = 0 := by simpa using hn
    exact h.received (hzero ▸ hd)
  | cons e events ih =>
    have hnext : Guarded (s.apply e) := (h.apply_iff e).mpr horderly.1
    by_cases he : e = .monitor p
    · subst he
      rw [List.count_cons_self] at hn
      exact ih hnext horderly.2 (h.draining_monitor hd) (by omega)
    · rw [List.count_cons_of_ne he] at hn
      exact ih hnext horderly.2 (h.draining hd e) hn

end draining

section holding

/-- The command and the exit channel of the process have been published. -/
def Published (s : System) (p : ℕ) : Prop :=
  ∃ g, s.generations[p]? = some g ∧ g.monitor ≠ .unlaunched

/-- Command and exit channel that a caller in Stop holds belong together. -/
def Holds (s : System) : Caller → Prop
  | .stopping _ cmd exitCh => exitCh = cmd ∧ ∀ p, cmd = some p → Published s p
  | .waiting _ cmd exitCh => exitCh = cmd ∧ ∃ p, cmd = some p ∧ Published s p
  | _ => True

/-- Every caller in Stop and the manager itself hold a published command and its channel. -/
structure Held (s : System) : Prop where
  /-- The manager's command is published. -/
  published : ∀ p, s.cmd = some p → Published s p
  /-- What a caller holds belongs together. -/
  callers : ∀ (i : ℕ) (c : Caller), s.callers[i]? = some c → Holds s c

theorem Published.change {q : ℕ} (hp : Published s p) {f : Generation → Generation}
    (hf : ∀ g, g.monitor ≠ .unlaunched → (f g).monitor ≠ .unlaunched) :
    Published (s.change q f) p := by
  obtain ⟨g, hg, hm⟩ := hp
  by_cases hqp : q = p
  · subst hqp
    exact ⟨f g, getElem?_change_self hg, hf g hm⟩
  · exact ⟨g, by rw [getElem?_change_ne hqp, hg], hm⟩

theorem Published.congr {s' : System} (hp : Published s p)
    (hsame : s'.generations = s.generations) : Published s' p := by
  obtain ⟨g, hg, hm⟩ := hp
  exact ⟨g, by rw [hsame, hg], hm⟩

theorem Published.monitorProcess {q : ℕ} (hp : Published s p) (monitor : Monitor) :
    Published (s.monitorProcess q monitor) p := by
  have hset : ∀ {s' : System} (f : Generation → Generation), Published s' p →
      (∀ g, (f g).monitor ≠ .unlaunched) → Published (s'.change q f) p :=
    fun f hp' hf => hp'.change fun g _ => hf g
  cases monitor with
  | launched =>
    rw [HdtnLifecycles.System.monitorProcess]
    split <;> exact hset _ hp fun _ => by simp
  | waiting cmd =>
    rw [HdtnLifecycles.System.monitorProcess]
    split
    · exact hp
    · exact hset _ (hp.change fun _ hm => hm) fun _ => by simp
  | closing cmd exitCh =>
    refine hset _ ?_ fun _ => by simp
    cases exitCh with
    | none => exact hp
    | some r =>
      rw [close]
      split
      · exact hp
      · exact hp.change fun _ hm => hm
  | classifying cmd =>
    rw [HdtnLifecycles.System.monitorProcess]
    split
    · exact hset _ hp fun _ => by dsimp only; split <;> simp
    · exact hset _ hp fun _ => by simp
  | reaped cmd | reporting cmd => exact hset _ hp fun _ => by simp
  | unlaunched | finished => exact hp

/-- A published command stays published. -/
theorem Published.perform (hp : Published s p) (e : Event) : Published (s.perform e) p := by
  obtain hsame | ⟨i, -, hspawn⟩ | ⟨i, q, -, hpublish⟩ | ⟨q, g, -, -, hstep⟩ |
    ⟨q, -, -, hexit⟩ := generations_perform s e
  · exact hp.congr hsame
  · obtain ⟨g, hg, hm⟩ := hp
    have hlt : p < s.generations.length := (List.getElem?_eq_some_iff.mp hg).1
    exact ⟨g, by rw [hspawn, List.getElem?_append_left hlt, hg], hm⟩
  · have hchanged : Published (s.change q fun g => { g with monitor := .launched }) p :=
      hp.change fun _ _ => by simp
    exact hchanged.congr hpublish
  · exact (hp.monitorProcess g.monitor).congr hstep
  · have hchanged : Published (s.change q fun g => { g with status := .exited }) p :=
      hp.change fun _ hm => hm
    exact hchanged.congr hexit

theorem Holds.mono {s' : System} {c : Caller} (hmono : ∀ p, Published s p → Published s' p)
    (hc : Holds s c) : Holds s' c := by
  cases c with
  | stopping again cmd exitCh => exact ⟨hc.1, fun p hp => hmono p (hc.2 p hp)⟩
  | waiting again cmd exitCh =>
    obtain ⟨hch, p, hp, hpub⟩ := hc
    exact ⟨hch, p, hp, hmono p hpub⟩
  | _ => trivial

/-- A step that leaves commands published and moves one caller at most, to a
point where it holds what belongs together. -/
theorem Held.moved {s' : System} (hs : Held s) (hmono : ∀ p, Published s p → Published s' p)
    (hcmd : s'.cmd = s.cmd) {i : ℕ} {c : Caller}
    (hcallers : s'.callers = s.callers ∨ s'.callers = s.callers.set i c ∧ Holds s c) :
    Held s' := by
  refine ⟨fun p hp => hmono p (hs.published p (hcmd ▸ hp)), fun j d hd => ?_⟩
  obtain hsame | ⟨hset, hc⟩ := hcallers
  · exact (hs.callers j d (hsame ▸ hd)).mono hmono
  · rw [hset] at hd
    obtain ⟨-, rfl⟩ | ⟨-, hd'⟩ := getElem?_goTo (s := s) hd
    · exact hc.mono hmono
    · exact (hs.callers j d hd').mono hmono

/-- A step of a call without input publishes its command, or leaves the command
and moves the caller at most, to a point where it holds what belongs together. -/
theorem Held.resume_cases (hs : Held s) {c : Caller} (hi : s.callers[i]? = some c) :
    (∃ p, c = .spawned p) ∨ (s.resume i c).cmd = s.cmd ∧
      ((s.resume i c).callers = s.callers ∨
        ∃ d, (s.resume i c).callers = s.callers.set i d ∧ Holds s d) := by
  have hc := hs.callers i c hi
  cases c with
  | spawned p => exact Or.inl ⟨p, rfl⟩
  | idle | returned result | starting => exact Or.inr ⟨rfl, Or.inl rfl⟩
  | polling | healthy | failing error => exact Or.inr ⟨rfl, Or.inr ⟨_, rfl, trivial⟩⟩
  | settling again cmd =>
    refine Or.inr ⟨rfl, Or.inr ⟨_, rfl, ?_⟩⟩
    cases again <;> trivial
  | selecting exitCh | killing exitCh | waiting again cmd exitCh =>
    rw [resume]
    split
    · exact Or.inr ⟨rfl, Or.inr ⟨_, rfl, trivial⟩⟩
    · exact Or.inr ⟨rfl, Or.inl rfl⟩
  | expired =>
    rw [resume]
    split <;> exact Or.inr ⟨rfl, Or.inr ⟨_, rfl, trivial⟩⟩
  | restarting =>
    rw [resume, beginStart]
    split <;> exact Or.inr ⟨rfl, Or.inr ⟨_, rfl, trivial⟩⟩
  | stopping again cmd exitCh =>
    cases cmd with
    | none => exact Or.inr ⟨rfl, Or.inr ⟨_, rfl, trivial⟩⟩
    | some p =>
      rw [resume]
      split
      · exact Or.inr ⟨rfl, Or.inr ⟨_, rfl, trivial⟩⟩
      · exact Or.inr ⟨rfl, Or.inr ⟨_, rfl, hc.1, p, rfl, hc.2 p rfl⟩⟩

/-- A monitor leaves the manager's command and the callers. -/
theorem monitorProcess_frame (monitor : Monitor) :
    (s.monitorProcess p monitor).cmd = s.cmd ∧
      (s.monitorProcess p monitor).callers = s.callers := by
  cases monitor with
  | launched | waiting cmd | classifying cmd =>
    rw [HdtnLifecycles.System.monitorProcess]
    split <;> exact ⟨rfl, rfl⟩
  | closing cmd exitCh =>
    cases exitCh with
    | none => exact ⟨rfl, rfl⟩
    | some r =>
      rw [HdtnLifecycles.System.monitorProcess, close]
      split <;> exact ⟨rfl, rfl⟩
  | _ => exact ⟨rfl, rfl⟩

/-- A step publishes a command, or leaves the command and moves one caller at
most, to a point where it holds what belongs together. -/
theorem Held.perform_cases (h : Guarded s) (hs : Held s) (e : Event) :
    (∃ i p, s.callers[i]? = some (.spawned p) ∧ s.perform e = s.publish i p) ∨
      (s.perform e).cmd = s.cmd ∧ ((s.perform e).callers = s.callers ∨
        ∃ i c, (s.perform e).callers = s.callers.set i c ∧ Holds s c) := by
  have hstay : (∃ i p, s.callers[i]? = some (.spawned p) ∧ s = s.publish i p) ∨
      s.cmd = s.cmd ∧ (s.callers = s.callers ∨
        ∃ i c, s.callers = s.callers.set i c ∧ Holds s c) := Or.inr ⟨rfl, Or.inl rfl⟩
  cases e with
  | start i =>
    simp only [HdtnLifecycles.System.perform]
    split
    · split
      · rw [beginStart]
        split <;> exact Or.inr ⟨rfl, Or.inr ⟨i, _, rfl, trivial⟩⟩
      · exact hstay
    · exact hstay
  | stop i | restart i =>
    simp only [HdtnLifecycles.System.perform]
    split
    · split
      · rw [beginStop]
        split
        · exact Or.inr ⟨rfl, Or.inr ⟨i, _, rfl, trivial⟩⟩
        · exact Or.inr ⟨rfl, Or.inr ⟨i, _, rfl, h.channel, hs.published⟩⟩
      · exact hstay
    · exact hstay
  | spawn i failure =>
    simp only [HdtnLifecycles.System.perform]
    split
    · cases failure <;> exact Or.inr ⟨rfl, Or.inr ⟨i, _, rfl, trivial⟩⟩
    · exact hstay
  | tick i healthy expired =>
    simp only [HdtnLifecycles.System.perform]
    split
    · refine Or.inr ⟨rfl, Or.inr ⟨i, _, rfl, ?_⟩⟩
      cases healthy <;> cases expired <;> trivial
    · exact hstay
  | resume i =>
    simp only [HdtnLifecycles.System.perform]
    split
    next c hi =>
      obtain ⟨p, rfl⟩ | ⟨hcmd, hcallers | ⟨d, hd, hholds⟩⟩ := hs.resume_cases hi
      · exact Or.inl ⟨i, p, hi, rfl⟩
      · exact Or.inr ⟨hcmd, Or.inl hcallers⟩
      · exact Or.inr ⟨hcmd, Or.inr ⟨i, d, hd, hholds⟩⟩
    next => exact hstay
  | monitor q =>
    simp only [HdtnLifecycles.System.perform]
    split
    next g hg =>
      obtain ⟨hcmd, hcallers⟩ := monitorProcess_frame (s := s) (p := q) g.monitor
      exact Or.inr ⟨hcmd, Or.inl hcallers⟩
    next => exact hstay
  | exit q =>
    simp only [HdtnLifecycles.System.perform, exitProcess]
    split
    · exact Or.inr ⟨rfl, Or.inl rfl⟩
    · exact hstay

/-- Callers and manager go on holding published commands with their channels. -/
theorem Guarded.held (h : Guarded s) (hs : Held s) (e : Event) : Held (s.apply e) := by
  have hmono : ∀ p, Published s p → Published (s.perform e) p := fun p hp => hp.perform e
  rw [apply_of_calm h.calm]
  obtain ⟨i, p, hi, hpublish⟩ | ⟨hcmd, hcallers⟩ := hs.perform_cases h e
  · obtain ⟨g, hg, -⟩ := h.spawned i p hi
    have hpub : Published (s.perform e) p := by
      rw [hpublish]
      exact ⟨_, getElem?_change_self hg, by simp⟩
    refine ⟨fun q hq => ?_, fun j d hd => ?_⟩
    · rw [hpublish] at hq
      obtain rfl : p = q := Option.some.inj hq
      exact hpub
    · rw [hpublish] at hd
      obtain ⟨-, rfl⟩ | ⟨-, hd'⟩ := getElem?_goTo (s := s) hd
      · trivial
      · exact (hs.callers j d hd').mono hmono
  · obtain hsame | ⟨i, c, hset, hc⟩ := hcallers
    · exact hs.moved hmono hcmd (i := 0) (c := .idle) (Or.inl hsame)
    · exact hs.moved hmono hcmd (Or.inr ⟨hset, hc⟩)

theorem held_new (onExit : Bool) (startTimeout : GoString) (callers : ℕ) :
    Held (new onExit startTimeout callers) := by
  refine ⟨fun p hp => (by cases hp), fun i c hc => ?_⟩
  obtain rfl : c = .idle := (List.mem_replicate.mp (List.mem_of_getElem? hc)).2
  trivial

end holding

section runs

variable (onExit : Bool) (startTimeout : GoString) (callers : ℕ)

/-- Guard and held commands last throughout an orderly run. -/
theorem guarded_held_run {events : List Event}
    (h : Along apply Orderly (new onExit startTimeout callers) events) :
    Guarded (run apply (new onExit startTimeout callers) events) ∧
      Held (run apply (new onExit startTimeout callers) events) := by
  have hstep : ∀ s e, Guarded s ∧ Held s → Orderly s e → Guarded (s.apply e) ∧ Held (s.apply e) :=
    fun s e hs he => ⟨(hs.1.apply_iff e).mpr he, hs.1.held hs.2 e⟩
  exact h.invariant hstep
    ⟨guarded_new onExit startTimeout callers, held_new onExit startTimeout callers⟩

/-- In an orderly run at most one process is alive, every exit channel is closed
once and after the exit, and a Stop that waits on the channel of an exited
process finds it closed within four steps of that process's monitor. -/
theorem safe_along (events : List Event)
    (h : Along apply Orderly (new onExit startTimeout callers) events) :
    (∀ first, first <+: events → Safe (run apply (new onExit startTimeout callers) first)) ∧
      ∀ (first second : List Event) (i : ℕ) (again : Bool) (cmd exitCh : Option ℕ),
        first ++ second <+: events →
        (run apply (new onExit startTimeout callers) first).callers[i]? =
          some (.waiting again cmd exitCh) →
        ∃ p, cmd = some p ∧ exitCh = some p ∧
          (¬ (run apply (new onExit startTimeout callers) first).hasStatus .alive p →
            4 ≤ second.count (.monitor p) →
            (run apply (new onExit startTimeout callers) (first ++ second)).received exitCh) := by
  refine ⟨fun first hf => ?_, fun first second i again cmd exitCh hf hi => ?_⟩
  · exact (guarded_held_run onExit startTimeout callers (h.of_isPrefix hf)).1.safe
  · have hboth := along_append.mp (h.of_isPrefix hf)
    obtain ⟨hguarded, hheld⟩ := guarded_held_run onExit startTimeout callers hboth.1
    obtain ⟨rfl, p, rfl, g, hg, hm⟩ := hheld.callers i _ hi
    refine ⟨p, rfl, rfl, fun hexited hcount => ?_⟩
    have hdraining : Draining (run apply (new onExit startTimeout callers) first) p 4 := by
      refine ⟨g, hg, fun halive => hexited ((hasStatus_iff hg).mpr halive), hm, ?_⟩
      cases g.monitor <;> simp [stepsToClose]
    rw [run_append]
    exact hguarded.received_run hboth.2 hdraining hcount

/-- One caller starts the process, another one restarts it. -/
theorem safe_restart :
    let events : List Event := [.start 0, .spawn 0 none, .resume 0, .monitor 0, .resume 0,
      .tick 0 true false, .resume 0, .restart 1, .resume 1, .exit 0, .monitor 0, .monitor 0,
      .monitor 0, .resume 1, .resume 1, .resume 1, .spawn 1 none]
    Safe (run apply (new true [] 2) events) ∧
      (run apply (new true [] 2) events).hasStatus .alive 1 := by
  intro events
  have horderly : Along apply Orderly (new true [] 2) events := by decide +kernel
  exact ⟨(safe_along true [] 2 events horderly).1 events List.prefix_rfl, by decide +kernel⟩

/-- A Stop that finds no command lets a second Start in beside the first one. -/
theorem two_processes_alive :
    ¬ ∀ (onExit : Bool) (startTimeout : GoString) (callers : ℕ) (events : List Event),
      Safe (run apply (new onExit startTimeout callers) events) := by
  intro h
  let events : List Event := [.start 0, .stop 1, .resume 1, .resume 1, .start 1,
    .spawn 0 none, .spawn 1 none]
  have hzero : (run apply (new true [] 2) events).hasStatus .alive 0 := by decide +kernel
  have hone : (run apply (new true [] 2) events).hasStatus .alive 1 := by decide +kernel
  have hsame : 0 = 1 := (h true [] 2 events).1 0 1 hzero hone
  omega

end runs

end CislunarDtn.HdtnGenerations
