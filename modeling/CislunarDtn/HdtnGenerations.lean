import CislunarDtn.HdtnLifecycles

/-!
# One HDTN process at a time

A manager has at most one process alive, and closes each exit channel once and
after the exit, in every run whose Start calls come in only when the exit
channels of all earlier processes are closed and no other Start is between its
first locked section and the publication of its command.
-/

namespace CislunarDtn.HdtnGenerations

open Bundles LabelledRuns HdtnLifecycles HdtnLifecycles.System

/-- At most one process is alive, no channel was closed twice, and none was
closed before its process exited. -/
def Safe (s : System) : Prop :=
  (∀ p q, s.hasStatus .alive p → s.hasStatus .alive q → p = q) ∧ s.panicked = false ∧
    ∀ p, s.received (some p) → ¬ s.hasStatus .alive p

/-- Every exit channel is closed and no Start is about to publish a command. -/
def Clear (s : System) : Prop :=
  (∀ g ∈ s.generations, g.closed = true) ∧ ∀ c ∈ s.callers, c.launching = false

instance : DecidablePred Clear := fun s =>
  inferInstanceAs (Decidable
    ((∀ g ∈ s.generations, g.closed = true) ∧ ∀ c ∈ s.callers, c.launching = false))

/-- A step by which Start is let in only while the manager is clear. -/
def Orderly (s : System) : Event → Prop
  | .start i => (∃ c ∈ s.callers[i]?, c.rests = true) → s.Admits → Clear s
  | .resume i => s.callers[i]? = some .restarting → s.Admits → Clear s
  | _ => True

instance (s : System) : DecidablePred (Orderly s)
  | .start i =>
    inferInstanceAs (Decidable ((∃ c ∈ s.callers[i]?, c.rests = true) → s.Admits → Clear s))
  | .resume i =>
    inferInstanceAs (Decidable (s.callers[i]? = some .restarting → s.Admits → Clear s))
  | .stop _ | .restart _ | .spawn .. | .tick .. | .monitor _ | .exit _ => isTrue trivial

/-- A process whose exit channel is closed, or the last one, with its monitor
on the way to close the channel. -/
inductive Consistent (cmd : Option ℕ) (count p : ℕ) (g : Generation) : Prop where
  | closed (hclosed : g.closed = true) (hstatus : g.status ≠ .alive)
      (hmonitor : g.monitor = .classifying p ∨ g.monitor = .reporting p ∨
        g.monitor = .finished) : Consistent cmd count p g
  | unlaunched (hopen : g.closed = false) (hlast : p + 1 = count)
      (hmonitor : g.monitor = .unlaunched) : Consistent cmd count p g
  | monitored (hopen : g.closed = false) (hlast : p + 1 = count) (hcmd : cmd = some p)
      (hmonitor : g.monitor = .launched ∨ g.monitor = .waiting p ∨
        g.status = .waited ∧ (g.monitor = .reaped p ∨ g.monitor = .closing p (some p))) :
      Consistent cmd count p g

/-- What holds in every state of an orderly run. -/
structure Guarded (s : System) : Prop where
  /-- No channel was closed twice. -/
  calm : s.panicked = false
  /-- The exit channel is that of the command. -/
  channel : s.exitCh = s.cmd
  /-- Every process is consistent with the manager. -/
  generation : ∀ (p : ℕ) (g : Generation), s.generations[p]? = some g →
    Consistent s.cmd s.generations.length p g
  /-- A Start about to spawn finds every channel closed. -/
  starting : ∀ i : ℕ, s.callers[i]? = some .starting → ∀ g ∈ s.generations, g.closed = true
  /-- A Start that has spawned its process finds it without a monitor. -/
  spawned : ∀ i p : ℕ, s.callers[i]? = some (.spawned p) →
    ∃ g, s.generations[p]? = some g ∧ g.monitor = .unlaunched
  /-- Only one Start is about to publish a command. -/
  alone : ∀ (i j : ℕ) (c d : Caller), s.callers[i]? = some c → s.callers[j]? = some d →
    c.launching = true → d.launching = true → i = j

section consistency

variable {cmd : Option ℕ} {count p : ℕ} {g : Generation}

theorem Consistent.not_alive (h : Consistent cmd count p g) (hclosed : g.closed = true) :
    g.status ≠ .alive := by
  cases h with
  | closed _ hstatus _ => exact hstatus
  | unlaunched hopen => simp [hopen] at hclosed
  | monitored hopen => simp [hopen] at hclosed

/-- Only the last process has an open channel. -/
theorem Consistent.last (h : Consistent cmd count p g) (hopen : g.closed = false) :
    p + 1 = count := by
  cases h with
  | closed hclosed => simp [hclosed] at hopen
  | unlaunched _ hlast => exact hlast
  | monitored _ hlast => exact hlast

/-- Only the last process can be without a monitor. -/
theorem Consistent.of_unlaunched (h : Consistent cmd count p g)
    (hmonitor : g.monitor = .unlaunched) : g.closed = false ∧ p + 1 = count := by
  cases h with
  | closed _ _ hm => simp [hmonitor] at hm
  | unlaunched hopen hlast _ => exact ⟨hopen, hlast⟩
  | monitored _ _ _ hm => simp [hmonitor] at hm

/-- A closed channel is consistent with every command. -/
theorem Consistent.of_closed (h : Consistent cmd count p g) (hclosed : g.closed = true)
    (cmd' : Option ℕ) (count' : ℕ) : Consistent cmd' count' p g := by
  cases h with
  | closed _ hstatus hmonitor => exact .closed hclosed hstatus hmonitor
  | unlaunched hopen => simp [hopen] at hclosed
  | monitored hopen => simp [hopen] at hclosed

end consistency

variable {s : System} {i p : ℕ}

/-- Two processes with open channels are one. -/
theorem Guarded.open_unique (h : Guarded s) {q : ℕ} {g g' : Generation}
    (hp : s.generations[p]? = some g) (hq : s.generations[q]? = some g')
    (hg : g.closed = false) (hg' : g'.closed = false) : p = q := by
  have hlast := (h.generation p g hp).last hg
  have hlast' := (h.generation q g' hq).last hg'
  omega

theorem Guarded.safe (h : Guarded s) : Safe s := by
  have hopen : ∀ (p : ℕ) (g : Generation), s.generations[p]? = some g → g.status = .alive →
      g.closed = false := by
    intro p g hg halive
    cases hclosed : g.closed with
    | false => rfl
    | true => exact absurd halive ((h.generation p g hg).not_alive hclosed)
  refine ⟨?_, h.calm, ?_⟩
  · rintro p q ⟨g, hg, halive⟩ ⟨g', hg', halive'⟩
    exact h.open_unique hg hg' (hopen p g hg halive) (hopen q g' hg' halive')
  · intro p hreceived halive
    obtain ⟨g, hg, hclosed⟩ := received_some_iff.mp hreceived
    exact (h.generation p g hg).not_alive hclosed ((hasStatus_iff hg).mp halive)

section callers

/-- A caller going on to a point outside the launch keeps the guard, whatever state it sets. -/
theorem Guarded.moved (h : Guarded s) {c : Caller} (hc : c.launching = false)
    (state : ProcessState) : Guarded { s.goTo i c with state := state } := by
  have hother : ∀ (j : ℕ) (d : Caller), (s.goTo i c).callers[j]? = some d → d.launching = true →
      s.callers[j]? = some d := by
    intro j d hd hlaunching
    obtain ⟨-, rfl⟩ | ⟨-, hd'⟩ := getElem?_goTo hd
    · simp [hc] at hlaunching
    · exact hd'
  exact {
    calm := h.calm
    channel := h.channel
    generation := h.generation
    starting := fun j hj => h.starting j (hother j _ hj rfl)
    spawned := fun j q hj => h.spawned j q (hother j _ hj rfl)
    alone := fun j k d e hj hk hd he =>
      h.alone j k d e (hother j d hj hd) (hother k e hk he) hd he }

/-- A Start let in keeps the guard exactly when the manager is clear. -/
theorem Guarded.started_iff (h : Guarded s) {c : Caller} (hi : s.callers[i]? = some c)
    (hc : c.launching = false) :
    Guarded { s.goTo i .starting with state := .starting } ↔ Clear s := by
  constructor
  · intro h'
    have hself : (s.goTo i .starting).callers[i]? = some .starting := getElem?_goTo_self hi
    refine ⟨h'.starting i hself, fun d hd => ?_⟩
    obtain ⟨j, hj⟩ := List.mem_iff_getElem?.mp hd
    cases hlaunching : d.launching with
    | false => rfl
    | true =>
      have hij : i ≠ j := by
        rintro rfl
        rw [hi, Option.some.injEq] at hj
        simp [← hj, hc] at hlaunching
      have hj' : (s.goTo i .starting).callers[j]? = some d := by
        rw [getElem?_goTo_ne hij, hj]
      exact absurd (h'.alone i j _ d hself hj' rfl hlaunching) hij
  · rintro ⟨hclosed, hnone⟩
    have hself : ∀ (j : ℕ) (d : Caller), (s.goTo i .starting).callers[j]? = some d →
        d.launching = true → i = j := by
      intro j d hd hlaunching
      obtain ⟨hij, -⟩ | ⟨-, hd'⟩ := getElem?_goTo hd
      · exact hij
      · have hfalse := hnone d (List.mem_of_getElem? hd')
        simp [hfalse] at hlaunching
    exact {
      calm := h.calm
      channel := h.channel
      generation := h.generation
      starting := fun _ _ => hclosed
      spawned := fun j q hj => by
        obtain ⟨-, hd⟩ | ⟨hij, -⟩ := getElem?_goTo hj
        · cases hd
        · exact absurd (hself j _ hj rfl) hij
      alone := fun j k d e hj hk hd he => (hself j d hj hd).symm.trans (hself k e hk he) }

/-- The publication of a command keeps the guard. -/
theorem Guarded.published (h : Guarded s) (hi : s.callers[i]? = some (.spawned p)) :
    Guarded (s.publish i p) := by
  obtain ⟨g, hg, hmonitor⟩ := h.spawned i p hi
  have hlast := (h.generation p g hg).of_unlaunched hmonitor
  have hnone : ∀ (j : ℕ) (d : Caller), (s.publish i p).callers[j]? = some d →
      d.launching = false := by
    intro j d hd
    obtain ⟨-, rfl⟩ | ⟨hij, hd'⟩ := getElem?_goTo hd
    · rfl
    · cases hlaunching : d.launching with
      | false => rfl
      | true => exact absurd (h.alone i j _ d hi hd' rfl hlaunching) hij
  refine ⟨h.calm, rfl, ?_, ?_, ?_, ?_⟩
  · intro q g' hg'
    change (s.change p fun g => { g with monitor := .launched }).generations[q]? = some g' at hg'
    change Consistent (some p) (s.change p _).generations.length q g'
    rw [length_change]
    by_cases hpq : p = q
    · subst hpq
      rw [getElem?_change_self hg, Option.some.injEq] at hg'
      rw [← hg']
      exact .monitored hlast.1 hlast.2 rfl (Or.inl rfl)
    · rw [getElem?_change_ne hpq] at hg'
      have hclosed : g'.closed = true := by
        cases hopen : g'.closed with
        | true => rfl
        | false => exact absurd (h.open_unique hg hg' hlast.1 hopen) hpq
      exact (h.generation q g' hg').of_closed hclosed _ _
  · intro j hj
    exact absurd (hnone j _ hj) (by decide)
  · intro j q hj
    exact absurd (hnone j _ hj) (by simp [Caller.launching])
  · intro j k d e hj hk hd he
    simp [hnone j d hj] at hd

/-- A spawned process keeps the guard. -/
theorem Guarded.spawn_none (h : Guarded s) (hi : s.callers[i]? = some .starting) :
    Guarded (s.spawn i none) := by
  have hclosed := h.starting i hi
  have hself : ∀ (j : ℕ) (d : Caller), (s.spawn i none).callers[j]? = some d →
      d.launching = true → i = j ∧ d = .spawned s.generations.length := by
    intro j d hd hlaunching
    obtain ⟨hij, hd'⟩ | ⟨hij, hd'⟩ := getElem?_goTo hd
    · exact ⟨hij, hd'⟩
    · exact absurd (h.alone i j _ d hi hd' rfl hlaunching) hij
  refine ⟨h.calm, h.channel, ?_, ?_, ?_, ?_⟩
  · intro q g' hg'
    change (s.generations ++ [⟨.alive, false, .unlaunched⟩])[q]? = some g' at hg'
    change Consistent s.cmd (s.generations ++ [_]).length q g'
    rw [List.length_append, List.length_singleton]
    by_cases hq : q < s.generations.length
    · rw [List.getElem?_append_left hq] at hg'
      exact (h.generation q g' hg').of_closed (hclosed g' (List.mem_of_getElem? hg')) _ _
    · rw [List.getElem?_append_right (by omega), List.getElem?_singleton] at hg'
      split at hg'
      next hzero =>
        rw [Option.some.injEq] at hg'
        rw [← hg']
        exact .unlaunched rfl (by omega) rfl
      next => cases hg'
  · intro j hj
    cases (hself j _ hj rfl).2
  · intro j q hj
    have hq := (hself j _ hj rfl).2
    rw [Caller.spawned.injEq] at hq
    subst hq
    refine ⟨⟨.alive, false, .unlaunched⟩, ?_, rfl⟩
    change (s.generations ++ [_])[s.generations.length]? = _
    exact List.getElem?_concat_length
  · intro j k d e hj hk hd he
    exact (hself j d hj hd).1.symm.trans (hself k e hk he).1

end callers

section monitors

variable {g : Generation}

/-- A consistent change of one process keeps the guard, if it neither opens a
channel nor launches a monitor. -/
theorem Guarded.changed (h : Guarded s) (hg : s.generations[p]? = some g)
    {f : Generation → Generation} (hf : Consistent s.cmd s.generations.length p (f g))
    (hclosed : g.closed = true → (f g).closed = true)
    (hmonitor : g.monitor = .unlaunched → (f g).monitor = .unlaunched) :
    Guarded (s.change p f) := by
  have hcases : ∀ (q : ℕ) (g' : Generation), (s.change p f).generations[q]? = some g' →
      (p = q ∧ g' = f g) ∨ s.generations[q]? = some g' := by
    intro q g' hg'
    by_cases hpq : p = q
    · subst hpq
      rw [getElem?_change_self hg, Option.some.injEq] at hg'
      exact Or.inl ⟨rfl, hg'.symm⟩
    · rw [getElem?_change_ne hpq] at hg'
      exact Or.inr hg'
  refine ⟨h.calm, h.channel, ?_, ?_, ?_, h.alone⟩
  · intro q g' hg'
    change Consistent s.cmd (s.change p f).generations.length q g'
    rw [length_change]
    obtain ⟨rfl, rfl⟩ | hg' := hcases q g' hg'
    · exact hf
    · exact h.generation q g' hg'
  · intro j hj g' hg'
    obtain ⟨q, hq⟩ := List.mem_iff_getElem?.mp hg'
    have hall := h.starting j hj
    obtain ⟨-, rfl⟩ | hq' := hcases q g' hq
    · exact hclosed (hall g (List.mem_of_getElem? hg))
    · exact hall g' (List.mem_of_getElem? hq')
  · intro j q hj
    obtain ⟨g', hg', hm⟩ := h.spawned j q hj
    by_cases hpq : p = q
    · subst hpq
      rw [hg, Option.some.injEq] at hg'
      subst hg'
      exact ⟨f g, getElem?_change_self hg, hmonitor hm⟩
    · exact ⟨g', by rw [getElem?_change_ne hpq, hg'], hm⟩

/-- The guard says nothing of the state and the reports. -/
theorem Guarded.with_state (h : Guarded s) (state : ProcessState) (reports : List ℕ) :
    Guarded { s with state := state, reports := reports } :=
  ⟨h.calm, h.channel, h.generation, h.starting, h.spawned, h.alone⟩

/-- A monitor past its close keeps the guard. -/
theorem Guarded.monitor_closed (h : Guarded s) (hg : s.generations[p]? = some g)
    (hclosed : g.closed = true) (hstatus : g.status ≠ .alive)
    (hmonitor : g.monitor = .classifying p ∨ g.monitor = .reporting p ∨
      g.monitor = .finished) : Guarded (s.monitorProcess p g.monitor) := by
  have hset : ∀ monitor : Monitor, monitor = .reporting p ∨ monitor = .finished →
      Guarded (s.change p fun g => { g with monitor := monitor }) := by
    intro monitor hm
    refine h.changed hg (.closed hclosed hstatus (Or.inr hm)) (fun hc => hc) fun hu => ?_
    simp [hu] at hmonitor
  obtain hq | hq | hq := hmonitor
  · rw [hq, monitorProcess]
    split
    · refine (hset _ ?_).with_state _ _
      split
      · exact Or.inl rfl
      · exact Or.inr rfl
    · exact hset _ (Or.inr rfl)
  · rw [hq]
    exact (hset _ (Or.inr rfl)).with_state _ _
  · rw [hq]
    exact h

/-- A monitor on the way to its close keeps the guard: command and channel that
it reads are those of its own process. -/
theorem Guarded.monitor_open (h : Guarded s) (hg : s.generations[p]? = some g)
    (hopen : g.closed = false) (hlast : p + 1 = s.generations.length) (hcmd : s.cmd = some p)
    (hmonitor : g.monitor = .launched ∨ g.monitor = .waiting p ∨
      g.status = .waited ∧ (g.monitor = .reaped p ∨ g.monitor = .closing p (some p))) :
    Guarded (s.monitorProcess p g.monitor) := by
  have hnotClosed : ∀ b, g.closed = true → b := fun b hc => absurd hc (by simp [hopen])
  have hlaunched : ∀ b, g.monitor = .unlaunched → b := by
    intro b hu
    simp [hu] at hmonitor
  obtain hm | hm | ⟨hwaited, hm | hm⟩ := hmonitor
  · rw [hm, monitorProcess, hcmd]
    exact h.changed hg (.monitored hopen hlast hcmd (Or.inr (Or.inl rfl))) (hnotClosed _)
      (hlaunched _)
  · rw [hm, monitorProcess]
    split
    · exact h
    · rw [change_change]
      exact h.changed hg (.monitored hopen hlast hcmd (Or.inr (Or.inr ⟨rfl, Or.inl rfl⟩)))
        (hnotClosed _) (hlaunched _)
  · rw [hm, monitorProcess, h.channel, hcmd]
    exact h.changed hg (.monitored hopen hlast hcmd (Or.inr (Or.inr ⟨hwaited, Or.inr rfl⟩)))
      (hnotClosed _) (hlaunched _)
  · have hnot : ¬ s.received (some p) := not_received_of_open hg hopen
    have halive : g.status ≠ .alive := by simp [hwaited]
    rw [hm, monitorProcess, close, if_neg hnot, change_change]
    exact h.changed hg (.closed rfl halive (Or.inl rfl)) (hnotClosed _) (hlaunched _)

/-- A step of a monitor keeps the guard. -/
theorem Guarded.monitored (h : Guarded s) (hg : s.generations[p]? = some g) :
    Guarded (s.monitorProcess p g.monitor) := by
  cases h.generation p g hg with
  | closed hclosed hstatus hmonitor => exact h.monitor_closed hg hclosed hstatus hmonitor
  | unlaunched _ _ hmonitor =>
    rw [hmonitor]
    exact h
  | monitored hopen hlast hcmd hmonitor => exact h.monitor_open hg hopen hlast hcmd hmonitor

/-- An exit keeps the guard. -/
theorem Guarded.exited (h : Guarded s) (p : ℕ) : Guarded (s.exitProcess p) := by
  rw [exitProcess]
  split
  next halive =>
    obtain ⟨g, hg, hstatus⟩ := halive
    refine h.changed hg ?_ (fun hc => hc) (fun hm => hm)
    cases h.generation p g hg with
    | closed _ hnot _ => exact absurd hstatus hnot
    | unlaunched hopen hlast hmonitor => exact .unlaunched hopen hlast hmonitor
    | monitored hopen hlast hcmd hmonitor =>
      refine .monitored hopen hlast hcmd ?_
      obtain hm | hm | ⟨hwaited, -⟩ := hmonitor
      · exact Or.inl hm
      · exact Or.inr (Or.inl hm)
      · simp [hstatus] at hwaited
  next => exact h

end monitors

section steps

/-- A call of Start keeps the guard exactly when it is turned away or the manager is clear. -/
theorem Guarded.beginStart_iff (h : Guarded s) {c : Caller} (hi : s.callers[i]? = some c)
    (hc : c.launching = false) : Guarded (s.beginStart i) ↔ (s.Admits → Clear s) := by
  rw [beginStart]
  split
  next hadmits =>
    rw [h.started_iff hi hc]
    exact ⟨fun hclear _ => hclear, fun hclear => hclear hadmits⟩
  next hnot => exact iff_of_true (h.moved rfl s.state) fun hadmits => absurd hadmits hnot

/-- A call of Stop keeps the guard. -/
theorem Guarded.beginStop (h : Guarded s) (i : ℕ) (again : Bool) :
    Guarded (s.beginStop i again) := by
  have hstopped : (stopped again).launching = false := by cases again <;> rfl
  rw [HdtnLifecycles.System.beginStop]
  split
  · exact h.moved hstopped s.state
  · exact h.moved rfl _

/-- A step of a call without input keeps the guard exactly when it is orderly. -/
theorem Guarded.resume_iff (h : Guarded s) {c : Caller} (hi : s.callers[i]? = some c) :
    Guarded (s.resume i c) ↔ (c = .restarting → s.Admits → Clear s) := by
  cases c with
  | restarting =>
    rw [resume, h.beginStart_iff hi rfl]
    exact ⟨fun hclear _ => hclear, fun hclear => hclear rfl⟩
  | spawned p => exact iff_of_true (h.published hi) (by simp)
  | settling again cmd =>
    have hstopped : (stopped again).launching = false := by cases again <;> rfl
    exact iff_of_true (h.moved hstopped _) (by simp)
  | healthy => exact iff_of_true (h.moved rfl _) (by simp)
  | failing error => exact iff_of_true (h.moved rfl _) (by simp)
  | polling => exact iff_of_true (h.moved rfl s.state) (by simp)
  | idle => exact iff_of_true h (by simp)
  | returned result => exact iff_of_true h (by simp)
  | starting => exact iff_of_true h (by simp)
  | selecting exitCh | killing exitCh | waiting again cmd exitCh =>
    refine iff_of_true ?_ (by simp)
    rw [resume]
    split
    · exact h.moved rfl s.state
    · exact h
  | expired =>
    refine iff_of_true ?_ (by simp)
    rw [resume]
    split <;> exact h.moved rfl s.state
  | stopping again cmd exitCh =>
    refine iff_of_true ?_ (by simp)
    cases cmd with
    | none => exact h.moved rfl s.state
    | some p =>
      rw [resume]
      split <;> exact h.moved rfl s.state

/-- A step keeps the guard exactly when it is orderly. -/
theorem Guarded.apply_iff (h : Guarded s) (e : Event) : Guarded (s.apply e) ↔ Orderly s e := by
  rw [apply_of_calm h.calm]
  cases e with
  | start i =>
    simp only [perform, Orderly]
    cases hi : s.callers[i]? with
    | none => exact iff_of_true h (by simp)
    | some c =>
      cases hrests : c.rests with
      | false => simpa [hrests] using h
      | true =>
        have hc : c.launching = false := by cases c <;> simp_all [Caller.rests, Caller.launching]
        simpa [hrests] using h.beginStart_iff hi hc
  | stop i =>
    refine iff_of_true ?_ trivial
    simp only [perform]
    split
    · split
      · exact h.beginStop i false
      · exact h
    · exact h
  | restart i =>
    refine iff_of_true ?_ trivial
    simp only [perform]
    split
    · split
      · exact h.beginStop i true
      · exact h
    · exact h
  | spawn i failure =>
    refine iff_of_true ?_ trivial
    simp only [perform]
    split
    next hi =>
      cases failure with
      | none => exact h.spawn_none hi
      | some text => exact h.moved rfl _
    next => exact h
  | tick i healthy expired =>
    refine iff_of_true ?_ trivial
    simp only [perform]
    split
    next =>
      refine h.moved ?_ s.state
      cases healthy <;> cases expired <;> rfl
    next => exact h
  | resume i =>
    simp only [perform, Orderly]
    cases hi : s.callers[i]? with
    | none => exact iff_of_true h (by simp)
    | some c => simpa using h.resume_iff hi
  | monitor p =>
    refine iff_of_true ?_ trivial
    simp only [perform]
    split
    next hg => exact h.monitored hg
    next => exact h
  | exit p => exact iff_of_true (h.exited p) trivial

theorem guarded_new (onExit : Bool) (startTimeout : GoString) (callers : ℕ) :
    Guarded (new onExit startTimeout callers) := by
  have hidle : ∀ (i : ℕ) (c : Caller), (new onExit startTimeout callers).callers[i]? = some c →
      c = .idle := fun i c hc => (List.mem_replicate.mp (List.mem_of_getElem? hc)).2
  refine ⟨rfl, rfl, ?_, ?_, ?_, ?_⟩
  · intro p g hg
    simp [new] at hg
  · intro i hi
    cases hidle i _ hi
  · intro i p hi
    cases hidle i _ hi
  · intro i j c d hi hj hc hd
    simp [hidle i c hi, Caller.launching] at hc

/-- The guard lasts throughout a run exactly when all its steps are orderly. -/
theorem guarded_prefixes_iff_orderly (onExit : Bool) (startTimeout : GoString) (callers : ℕ)
    (events : List Event) :
    (∀ first, first <+: events → Guarded (run apply (new onExit startTimeout callers) first)) ↔
      Along apply Orderly (new onExit startTimeout callers) events :=
  forall_prefix_iff_along (fun _ e h _ => h.apply_iff e) (along_true events)
    (guarded_new onExit startTimeout callers)

end steps

end CislunarDtn.HdtnGenerations
