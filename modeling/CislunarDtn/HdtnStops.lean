import CislunarDtn.HdtnGenerations

/-!
# Stop beside a Start call

One Start call and one Stop call that begins after it. When both have returned,
the manager is stopped and no process is alive, in every run in which Start does
not set the state to running once Stop has returned or while Stop holds another
command than that of the process started.
-/

namespace CislunarDtn.HdtnStops

open Bundles LabelledRuns HdtnLifecycles HdtnLifecycles.System HdtnGenerations

/-- No process is alive. -/
def NoneAlive (s : System) : Prop := ∀ p, ¬ s.hasStatus .alive p

/-- The process has exited. -/
def Exited (s : System) (p : ℕ) : Prop :=
  p < s.generations.length ∧ ¬ s.hasStatus .alive p

/-- Nothing is in flight: the callers in places i and j have not called, no
other caller is in a call, every process spawned has its monitor, and the state
is one that a call can leave, with no process alive if it is stopped. -/
def Rested (i j : ℕ) (s : System) : Prop :=
  s.callers[i]? = some .idle ∧ s.callers[j]? = some .idle ∧
    (∀ c ∈ s.callers, c.rests = true) ∧ (∀ g ∈ s.generations, g.monitor ≠ .unlaunched) ∧
    (s.state = .running ∨ s.state = .failed ∨
      s.state = .stopped ∧ ∀ g ∈ s.generations, g.status ≠ .alive)

instance (i j : ℕ) : DecidablePred (Rested i j) := fun s =>
  inferInstanceAs (Decidable (s.callers[i]? = some .idle ∧ s.callers[j]? = some .idle ∧
    (∀ c ∈ s.callers, c.rests = true) ∧ (∀ g ∈ s.generations, g.monitor ≠ .unlaunched) ∧
    (s.state = .running ∨ s.state = .failed ∨
      s.state = .stopped ∧ ∀ g ∈ s.generations, g.status ≠ .alive)))

/-- The only calls are one Start in place i, before Stop, and one Stop in place j. -/
def Paired (i j : ℕ) (s : System) : Event → Prop
  | .start k => k = i ∧ s.callers[i]? = some .idle ∧ s.callers[j]? = some .idle
  | .stop k => k = j ∧ s.callers[j]? = some .idle
  | .restart _ => False
  | _ => True

instance (i j : ℕ) (s : System) : DecidablePred (Paired i j s)
  | .start k =>
    inferInstanceAs (Decidable (k = i ∧ s.callers[i]? = some .idle ∧ s.callers[j]? = some .idle))
  | .stop k => inferInstanceAs (Decidable (k = j ∧ s.callers[j]? = some .idle))
  | .restart _ => isFalse id
  | .spawn .. | .tick .. | .resume _ | .monitor _ | .exit _ => isTrue trivial

/-- Stop has not begun, or it goes on holding this command. -/
def holds (cmd : Option ℕ) : Caller → Bool
  | .idle => true
  | .stopping _ held _ | .waiting _ held _ | .settling _ held => decide (held = cmd)
  | _ => false

/-- An orderly step by which Start sets the state to running only while Stop has
not begun or holds the manager's command. -/
def Heeded (j : ℕ) (s : System) : Event → Prop
  | .resume i => Orderly s (.resume i) ∧
      (s.callers[i]? = some .healthy → ∃ d ∈ s.callers[j]?, holds s.cmd d = true)
  | e => Orderly s e

instance (j : ℕ) (s : System) : DecidablePred (Heeded j s)
  | .resume i => inferInstanceAs (Decidable (Orderly s (.resume i) ∧
      (s.callers[i]? = some .healthy → ∃ d ∈ s.callers[j]?, holds s.cmd d = true)))
  | .start i => inferInstanceAs (Decidable (Orderly s (.start i)))
  | .stop _ | .restart _ | .spawn .. | .tick .. | .monitor _ | .exit _ => isTrue trivial

/-- What holds of a Start call in flight, by where its caller is. -/
def InStart (s : System) : Caller → Prop
  | .starting | .spawned _ => True
  | .polling | .healthy | .expired => ∃ p, s.cmd = some p ∧ p + 1 = s.generations.length
  | .selecting exitCh | .killing exitCh =>
    exitCh = s.cmd ∧ ∃ p, s.cmd = some p ∧ p + 1 = s.generations.length
  | .failing _ => NoneAlive s
  | _ => False

/-- What holds while Stop holds a command: a Start that has returned leaves no
other process alive. -/
def Holding (s : System) (c : Caller) (cmd : Option ℕ) : Prop :=
  c = .idle ∨ InStart s c ∨ c.rests = true ∧ ∀ q, s.hasStatus .alive q → cmd = some q

/-- What holds of the pair of calls, by where Start's caller c and Stop's caller are. -/
def Phase (s : System) (c : Caller) : Caller → Prop
  | .idle => s.state = .starting ∧ InStart s c ∨ c.rests = true ∧
      (s.state = .running ∨ s.state = .failed ∨ s.state = .stopped ∧ NoneAlive s)
  | .stopping false cmd exitCh => exitCh = cmd ∧ Holding s c cmd
  | .waiting false cmd exitCh => exitCh = cmd ∧ Holding s c cmd
  | .settling false cmd => (∀ p, cmd = some p → Exited s p) ∧ Holding s c cmd
  | .returned none => c = .idle ∨ InStart s c ∨ c.rests = true ∧ s.state = .stopped ∧ NoneAlive s
  | _ => False

/-- What holds throughout the two calls. -/
structure Pair (i j : ℕ) (s : System) : Prop where
  /-- The run so far is orderly. -/
  guarded : Guarded s
  /-- Nobody else is in a call. -/
  others : ∀ (k : ℕ) (c : Caller), s.callers[k]? = some c → k ≠ i → k ≠ j → c.rests = true
  /-- Only Start's process can be without a monitor. -/
  awaited : ∀ (p : ℕ) (g : Generation), s.generations[p]? = some g → g.monitor = .unlaunched →
    s.callers[i]? = some (.spawned p)
  /-- The two calls are in one of the phases. -/
  calls : ∃ c d, s.callers[i]? = some c ∧ s.callers[j]? = some d ∧ Phase s c d

variable {i j k p : ℕ} {s : System}

section facts

theorem Heeded.orderly {e : Event} (h : Heeded j s e) : Orderly s e := by
  cases e with
  | resume i => exact h.1
  | _ => exact h

/-- Only the last process can be alive. -/
theorem alive_last (h : Guarded s) (halive : s.hasStatus .alive p) :
    p + 1 = s.generations.length := by
  obtain ⟨g, hg, hstatus⟩ := halive
  have hg' : s.generations[p]? = some g := hg
  have hcons := h.generation p g hg'
  cases hclosed : g.closed with
  | false => exact hcons.last hclosed
  | true => exact absurd hstatus (hcons.not_alive hclosed)

/-- A closed channel of the last process leaves none alive. -/
theorem noneAlive_of_received (h : Guarded s) (hlast : p + 1 = s.generations.length)
    (hreceived : s.received (some p)) : NoneAlive s := by
  intro q halive
  have hq := alive_last h halive
  obtain rfl : q = p := by omega
  exact h.safe.2.2 q hreceived halive

theorem noneAlive_of_closed (h : Guarded s) (hclosed : ∀ g ∈ s.generations, g.closed = true) :
    NoneAlive s := by
  rintro q ⟨g, hg, hstatus⟩
  exact (h.generation q g hg).not_alive (hclosed g (List.mem_of_getElem? hg)) hstatus

/-- A process alive with every monitor launched is the manager's current one. -/
theorem cmd_of_alive (h : Guarded s) {g : Generation} (hg : s.generations[p]? = some g)
    (halive : g.status = .alive) (hlaunched : g.monitor ≠ .unlaunched) : s.cmd = some p := by
  cases h.generation p g hg with
  | closed _ hstatus _ => exact absurd halive hstatus
  | unlaunched _ _ hmonitor => exact absurd hmonitor hlaunched
  | monitored _ _ hcmd _ => exact hcmd

end facts

section exits

/-- Processes exit and monitors go on, and nothing else happens but that a
running manager may fail. -/
structure Calmer (s s' : System) : Prop where
  /-- The callers stay. -/
  callers : s'.callers = s.callers
  /-- The command stays. -/
  cmd : s'.cmd = s.cmd
  /-- The processes stay. -/
  length : s'.generations.length = s.generations.length
  /-- No process comes to life. -/
  alive : ∀ p, s'.hasStatus .alive p → s.hasStatus .alive p
  /-- No monitor is taken back. -/
  unlaunched : ∀ (p : ℕ) (g' : Generation), s'.generations[p]? = some g' →
    g'.monitor = .unlaunched → ∃ g, s.generations[p]? = some g ∧ g.monitor = .unlaunched
  /-- The state stays, or turns from running to failed. -/
  state : s'.state = s.state ∨ s.state = .running ∧ s'.state = .failed

variable {s' s'' : System}

theorem Calmer.refl (s : System) : Calmer s s :=
  ⟨rfl, rfl, rfl, fun _ h => h, fun _ g hg hm => ⟨g, hg, hm⟩, Or.inl rfl⟩

theorem Calmer.change (h : Calmer s s') (p : ℕ) (f : Generation → Generation)
    (hstatus : ∀ g, (f g).status = .alive → g.status = .alive)
    (hmonitor : ∀ g, (f g).monitor = .unlaunched → g.monitor = .unlaunched) :
    Calmer s (s'.change p f) := by
  have hback : ∀ (q : ℕ) (g' : Generation), (s'.change p f).generations[q]? = some g' →
      ∃ g, s'.generations[q]? = some g ∧ (g' = f g ∨ g' = g) := by
    intro q g' hg'
    by_cases hpq : p = q
    · subst hpq
      simp only [HdtnLifecycles.System.change, List.getElem?_modify_eq] at hg'
      obtain ⟨g, hg, rfl⟩ := Option.map_eq_some_iff.mp hg'
      exact ⟨g, hg, Or.inl rfl⟩
    · rw [getElem?_change_ne hpq] at hg'
      exact ⟨g', hg', Or.inr rfl⟩
  refine ⟨h.callers, h.cmd, length_change.trans h.length, ?_, ?_, h.state⟩
  · rintro q ⟨g', hg', halive⟩
    obtain ⟨g, hg, rfl | rfl⟩ := hback q g' hg'
    · exact h.alive q ⟨g, hg, hstatus g halive⟩
    · exact h.alive q ⟨g', hg, halive⟩
  · intro q g' hg' hm
    obtain ⟨g, hg, rfl | rfl⟩ := hback q g' hg'
    · exact h.unlaunched q g hg (hmonitor g hm)
    · exact h.unlaunched q g' hg hm

/-- A step of a monitor. -/
theorem calmer_monitorProcess (s : System) (p : ℕ) (monitor : Monitor) :
    Calmer s (s.monitorProcess p monitor) := by
  have hset : ∀ (s' : System) (next : Monitor), Calmer s s' → next ≠ .unlaunched →
      Calmer s (s'.change p fun g => { g with monitor := next }) :=
    fun s' next h hnext => h.change p _ (fun _ hg => hg) (fun _ hm => absurd hm hnext)
  have hrefl := Calmer.refl s
  cases monitor with
  | launched =>
    rw [monitorProcess]
    split <;> exact hset _ _ hrefl (by simp)
  | waiting cmd =>
    rw [monitorProcess]
    split
    · exact hrefl
    · exact hset _ _ (hrefl.change cmd _ (fun _ hg => by simp at hg) (fun _ hm => hm)) (by simp)
  | closing cmd exitCh =>
    refine hset _ _ ?_ (by simp)
    cases exitCh with
    | none => exact hrefl
    | some q =>
      rw [close]
      split
      · exact ⟨rfl, rfl, rfl, hrefl.alive, hrefl.unlaunched, Or.inl rfl⟩
      · exact hrefl.change q _ (fun _ hg => hg) (fun _ hm => hm)
  | classifying cmd =>
    rw [monitorProcess]
    split
    next hrunning =>
      have hnext : (if s.onExit then Monitor.reporting cmd else .finished) ≠ .unlaunched := by
        split <;> simp
      have h := hset _ _ hrefl hnext
      exact ⟨h.callers, h.cmd, h.length, h.alive, h.unlaunched, Or.inr ⟨hrunning, rfl⟩⟩
    next => exact hset _ _ hrefl (by simp)
  | reporting cmd =>
    have h := hset _ .finished hrefl (by simp)
    exact ⟨h.callers, h.cmd, h.length, h.alive, h.unlaunched, Or.inl rfl⟩
  | reaped cmd => exact hset _ _ hrefl (by simp)
  | unlaunched | finished => exact hrefl

/-- An exit. -/
theorem calmer_exitProcess (s : System) (p : ℕ) : Calmer s (s.exitProcess p) := by
  rw [exitProcess]
  split
  · exact (Calmer.refl s).change p _ (fun _ hg => by simp at hg) (fun _ hm => hm)
  · exact Calmer.refl s

variable {c d : Caller}

theorem NoneAlive.calmer (hn : NoneAlive s) (h : Calmer s s') : NoneAlive s' :=
  fun q halive => hn q (h.alive q halive)

theorem Exited.calmer (he : Exited s p) (h : Calmer s s') : Exited s' p :=
  ⟨by rw [h.length]; exact he.1, fun halive => he.2 (h.alive p halive)⟩

theorem InStart.calmer (hc : InStart s c) (h : Calmer s s') : InStart s' c := by
  have hcurrent : (∃ p, s.cmd = some p ∧ p + 1 = s.generations.length) →
      ∃ p, s'.cmd = some p ∧ p + 1 = s'.generations.length := by
    rintro ⟨p, hp, hlast⟩
    exact ⟨p, h.cmd.trans hp, by rw [h.length, hlast]⟩
  cases c with
  | starting | spawned p => trivial
  | polling | healthy | expired => exact hcurrent hc
  | selecting exitCh | killing exitCh => exact ⟨by rw [h.cmd, hc.1], hcurrent hc.2⟩
  | failing error => exact NoneAlive.calmer hc h
  | idle | returned | stopping | waiting | settling | restarting => exact hc.elim

theorem Holding.calmer {cmd : Option ℕ} (hc : Holding s c cmd) (h : Calmer s s') :
    Holding s' c cmd := by
  obtain hidle | hstart | ⟨hrests, hall⟩ := hc
  · exact Or.inl hidle
  · exact Or.inr (Or.inl (hstart.calmer h))
  · exact Or.inr (Or.inr ⟨hrests, fun q halive => hall q (h.alive q halive)⟩)

/-- Exits and monitors keep the phase. -/
theorem Phase.calmer (hp : Phase s c d) (h : Calmer s s') : Phase s' c d := by
  have hstate : ∀ state, s.state = state → state ≠ .running → s'.state = state := by
    intro state hs hne
    obtain hsame | ⟨hrunning, -⟩ := h.state
    · exact hsame.trans hs
    · exact absurd (hs.symm.trans hrunning) hne
  cases d with
  | idle =>
    obtain ⟨hs, hc⟩ | ⟨hrests, hs⟩ := hp
    · exact Or.inl ⟨hstate _ hs (by simp), hc.calmer h⟩
    · refine Or.inr ⟨hrests, ?_⟩
      obtain hs | hs | ⟨hs, hnone⟩ := hs
      · obtain hsame | ⟨-, hfailed⟩ := h.state
        · exact Or.inl (hsame.trans hs)
        · exact Or.inr (Or.inl hfailed)
      · exact Or.inr (Or.inl (hstate _ hs (by simp)))
      · exact Or.inr (Or.inr ⟨hstate _ hs (by simp), hnone.calmer h⟩)
  | returned result =>
    cases result with
    | some error => exact hp.elim
    | none =>
      obtain hidle | hc | ⟨hrests, hs, hnone⟩ := hp
      · exact Or.inl hidle
      · exact Or.inr (Or.inl (hc.calmer h))
      · exact Or.inr (Or.inr ⟨hrests, hstate _ hs (by simp), hnone.calmer h⟩)
  | stopping again cmd exitCh | waiting again cmd exitCh =>
    cases again with
    | true => exact hp.elim
    | false => exact ⟨hp.1, hp.2.calmer h⟩
  | settling again cmd =>
    cases again with
    | true => exact hp.elim
    | false => exact ⟨fun p hcmd => (hp.1 p hcmd).calmer h, hp.2.calmer h⟩
  | _ => exact hp.elim

theorem Pair.calmer (hp : Pair i j s) (h : Calmer s s') (hguarded : Guarded s') :
    Pair i j s' := by
  obtain ⟨c, d, hc, hd, hphase⟩ := hp.calls
  refine ⟨hguarded, ?_, ?_, c, d, by rw [h.callers, hc], by rw [h.callers, hd],
    hphase.calmer h⟩
  · rw [h.callers]
    exact hp.others
  · intro p g' hg' hm
    obtain ⟨g, hg, hm'⟩ := h.unlaunched p g' hg' hm
    rw [h.callers]
    exact hp.awaited p g hg hm'

end exits

section phases

variable {b c c' d : Caller}

theorem Phase.inStart (h : Phase s c d) (hc : c.rests = false) : InStart s c := by
  have hholding : ∀ cmd, Holding s c cmd → InStart s c := by
    rintro cmd (rfl | hstart | ⟨hrests, -⟩)
    · cases hc
    · exact hstart
    · simp [hc] at hrests
  cases d with
  | idle =>
    obtain ⟨-, hstart⟩ | ⟨hrests, -⟩ := h
    · exact hstart
    · simp [hc] at hrests
  | returned result =>
    cases result with
    | some error => exact h.elim
    | none =>
      obtain rfl | hstart | ⟨hrests, -⟩ := h
      · cases hc
      · exact hstart
      · simp [hc] at hrests
  | stopping again cmd exitCh | waiting again cmd exitCh | settling again cmd =>
    cases again with
    | true => exact h.elim
    | false => exact hholding cmd h.2
  | _ => exact h.elim

/-- Start goes on within its call, and no exited process comes to life. -/
theorem Phase.start_step {s' : System} (h : Phase s c d) (hc : c.rests = false)
    (hstate : s'.state = s.state) (hexited : ∀ p, Exited s p → Exited s' p)
    (hc' : InStart s' c') : Phase s' c' d := by
  cases d with
  | idle =>
    obtain ⟨hs, -⟩ | ⟨hrests, -⟩ := h
    · exact Or.inl ⟨hstate.trans hs, hc'⟩
    · simp [hc] at hrests
  | returned result =>
    cases result with
    | some error => exact h.elim
    | none => exact Or.inr (Or.inl hc')
  | stopping again cmd exitCh | waiting again cmd exitCh =>
    cases again with
    | true => exact h.elim
    | false => exact ⟨h.1, Or.inr (Or.inl hc')⟩
  | settling again cmd =>
    cases again with
    | true => exact h.elim
    | false => exact ⟨fun p hp => hexited p (h.1 p hp), Or.inr (Or.inl hc')⟩
  | _ => exact h.elim

/-- Start returns an error, with no process alive. -/
theorem Phase.start_error (h : Phase s c d) (hnone : NoneAlive s) (error : GoError) :
    Phase { s with state := .stopped } (.returned (some error)) d := by
  have hholding : ∀ cmd, Holding { s with state := .stopped } (.returned (some error)) cmd :=
    fun cmd => Or.inr (Or.inr ⟨rfl, fun q halive => absurd halive (hnone q)⟩)
  cases d with
  | idle => exact Or.inr ⟨rfl, Or.inr (Or.inr ⟨rfl, hnone⟩)⟩
  | returned result =>
    cases result with
    | some error => exact h.elim
    | none => exact Or.inr (Or.inr ⟨rfl, rfl, hnone⟩)
  | stopping again cmd exitCh | waiting again cmd exitCh | settling again cmd =>
    cases again with
    | true => exact h.elim
    | false => exact ⟨h.1, hholding cmd⟩
  | _ => exact h.elim

/-- Start returns nil while Stop has not begun or holds the command of its process. -/
theorem Phase.start_running (h : Phase s .healthy d) (hguarded : Guarded s)
    (hd : holds s.cmd d = true) : Phase { s with state := .running } (.returned none) d := by
  obtain ⟨p, hp, hlast⟩ : ∃ p, s.cmd = some p ∧ p + 1 = s.generations.length := h.inStart rfl
  have hholding : Holding { s with state := .running } (.returned none) s.cmd := by
    refine Or.inr (Or.inr ⟨rfl, fun q halive => ?_⟩)
    have hq := alive_last hguarded (p := q) halive
    obtain rfl : p = q := by omega
    exact hp
  cases d with
  | idle => exact Or.inr ⟨rfl, Or.inl rfl⟩
  | stopping again cmd exitCh | waiting again cmd exitCh | settling again cmd =>
    obtain rfl : cmd = s.cmd := of_decide_eq_true hd
    cases again with
    | true => exact h.elim
    | false => exact ⟨h.1, hholding⟩
  | _ => cases hd

end phases

section start

variable {c c' d : Caller}

/-- A call in flight is one of the two. -/
theorem Pair.place (h : Pair i j s) (hk : s.callers[k]? = some c) (hc : c.rests = false) :
    k = i ∧ (∃ d, s.callers[j]? = some d ∧ Phase s c d) ∨
      k = j ∧ ∃ b, s.callers[i]? = some b ∧ Phase s b c := by
  obtain ⟨b, d, hb, hd, hphase⟩ := h.calls
  by_cases hi : k = i
  · subst hi
    obtain rfl : c = b := Option.some.inj (hk.symm.trans hb)
    exact Or.inl ⟨rfl, d, hd, hphase⟩
  · by_cases hj : k = j
    · subst hj
      obtain rfl : c = d := Option.some.inj (hk.symm.trans hd)
      exact Or.inr ⟨rfl, b, hb, hphase⟩
    · have hrests := h.others k c hk hi hj
      simp [hc] at hrests

/-- Start's caller goes on from a point where its process has a monitor. -/
theorem Pair.start_moved (h : Pair i j s) (hij : i ≠ j) (hc : s.callers[i]? = some c)
    (hd : s.callers[j]? = some d) (hnot : ∀ p, c ≠ .spawned p) {state : ProcessState}
    (hguarded : Guarded { s.goTo i c' with state := state })
    (hphase : Phase { s with state := state } c' d) :
    Pair i j { s.goTo i c' with state := state } := by
  refine ⟨hguarded, fun k b hb hi hj => ?_, fun p g hg hm => ?_, c', d, getElem?_goTo_self hc,
    (getElem?_goTo_ne hij).trans hd, ?_⟩
  · exact h.others k b (getElem?_of_goTo hb hi) hi hj
  · have hspawned := h.awaited p g hg hm
    exact absurd (Option.some.inj (hc.symm.trans hspawned)) (hnot p)
  · exact hphase

/-- Start spawns its process, or returns with none. -/
theorem Pair.spawn (h : Pair i j s) (hij : i ≠ j) (hc : s.callers[i]? = some .starting)
    (hd : s.callers[j]? = some d) (hphase : Phase s .starting d) (failure : Option GoString) :
    Pair i j (s.spawn i failure) := by
  cases failure with
  | some text =>
    have hnone : NoneAlive s := noneAlive_of_closed h.guarded (h.guarded.starting i hc)
    exact h.start_moved hij hc hd (by simp) (h.guarded.moved rfl _)
      (hphase.start_error hnone _)
  | none =>
    have hold : ∀ q, q < s.generations.length →
        (s.spawn i none).generations[q]? = s.generations[q]? :=
      fun q hq => List.getElem?_append_left hq
    have hlength : (s.spawn i none).generations.length = s.generations.length + 1 :=
      List.length_append
    refine ⟨h.guarded.spawn_none hc, fun k b hb hi hj => ?_, fun p g hg hm => ?_, _, d,
      getElem?_goTo_self hc, (getElem?_goTo_ne hij).trans hd, ?_⟩
    · exact h.others k b (getElem?_of_goTo hb hi) hi hj
    · by_cases hp : p < s.generations.length
      · rw [hold p hp] at hg
        have hspawned := h.awaited p g hg hm
        simp [hc] at hspawned
      · have hlt := (List.getElem?_eq_some_iff.mp hg).1
        obtain rfl : p = s.generations.length := by omega
        exact getElem?_goTo_self hc
    · refine hphase.start_step rfl rfl (fun p hp => ?_) trivial
      obtain ⟨hlt, hnot⟩ := hp
      refine ⟨by omega, fun halive => hnot ?_⟩
      obtain ⟨g, hg, hstatus⟩ := halive
      exact ⟨g, (hold p hlt).symm.trans hg, hstatus⟩

/-- Start publishes its command. -/
theorem Pair.publish (h : Pair i j s) (hij : i ≠ j) (hc : s.callers[i]? = some (.spawned p))
    (hd : s.callers[j]? = some d) (hphase : Phase s (.spawned p) d) :
    Pair i j (s.publish i p) := by
  obtain ⟨g, hg, hmonitor⟩ := h.guarded.spawned i p hc
  have hlast := ((h.guarded.generation p g hg).of_unlaunched hmonitor).2
  have hcalmer : Calmer s (s.change p fun g => { g with monitor := .launched }) :=
    (Calmer.refl s).change p _ (fun _ hg => hg) (fun _ hm => by simp at hm)
  refine ⟨h.guarded.published hc, fun k b hb hi hj => ?_, fun q g' hg' hm => ?_, .polling, d,
    getElem?_goTo_self hc, (getElem?_goTo_ne hij).trans hd, ?_⟩
  · exact h.others k b (getElem?_of_goTo hb hi) hi hj
  · -- Only the process of this call was without a monitor.
    obtain ⟨g'', hg'', hm''⟩ := hcalmer.unlaunched q g' hg' hm
    have hspawned := h.awaited q g'' hg'' hm''
    obtain rfl : p = q := by
      simpa using Option.some.inj (hc.symm.trans hspawned)
    have hself := getElem?_change_self (f := fun g => { g with monitor := .launched }) hg
    obtain rfl := Option.some.inj (hself.symm.trans hg')
    simp at hm
  · refine hphase.start_step rfl rfl (fun q hq => ?_) ⟨p, rfl, ?_⟩
    · have hq' := hq.calmer hcalmer
      exact hq'
    · exact hlast.trans hcalmer.length.symm

/-- First locked section of Start. -/
theorem Pair.beginStart (h : Pair i j s) (hij : i ≠ j) (hi : s.callers[i]? = some .idle)
    (hj : s.callers[j]? = some .idle) (hphase : Phase s .idle .idle)
    (hguarded : Guarded (s.beginStart i)) : Pair i j (s.beginStart i) := by
  rw [HdtnLifecycles.System.beginStart] at hguarded ⊢
  by_cases hadmits : s.Admits
  · rw [if_pos hadmits] at hguarded ⊢
    exact h.start_moved hij hi hj (by simp) hguarded (Or.inl ⟨rfl, trivial⟩)
  · rw [if_neg hadmits] at hguarded ⊢
    refine h.start_moved hij hi hj (by simp) hguarded ?_
    obtain ⟨-, hstart⟩ | ⟨-, hstate⟩ := hphase
    · exact hstart.elim
    · exact Or.inr ⟨rfl, hstate⟩

/-- A step of Start without input. -/
theorem Pair.resume_start (h : Pair i j s) (hij : i ≠ j) (hc : s.callers[i]? = some c)
    (hd : s.callers[j]? = some d) (hphase : Phase s c d) (hrests : c.rests = false)
    (hholds : c = .healthy → holds s.cmd d = true) : Pair i j (s.resume i c) := by
  have hstart := hphase.inStart hrests
  have hstep : ∀ c', (∀ p, c ≠ .spawned p) → InStart s c' → c'.launching = false →
      Pair i j (s.goTo i c') := by
    intro c' hnot hc' hlaunching
    exact h.start_moved hij hc hd hnot (h.guarded.moved hlaunching s.state)
      (hphase.start_step hrests rfl (fun _ hp => hp) hc')
  cases c with
  | starting => exact h
  | spawned p => exact h.publish hij hc hd hphase
  | polling => exact hstep _ (by simp) ⟨h.guarded.channel, hstart⟩ rfl
  | selecting exitCh =>
    rw [resume]
    split
    next hreceived =>
      obtain ⟨rfl, p, hp, hlast⟩ := hstart
      rw [hp] at hreceived
      exact hstep _ (by simp) (noneAlive_of_received h.guarded hlast hreceived) rfl
    next => exact h
  | killing exitCh =>
    obtain ⟨rfl, p, hp, hlast⟩ := hstart
    rw [resume]
    split
    next hreceived =>
      rw [hp] at hreceived
      have hreceived' := hreceived.resolve_left (by simp)
      exact hstep _ (by simp) (noneAlive_of_received h.guarded hlast hreceived') rfl
    next => exact h
  | expired =>
    obtain ⟨p, hp, hlast⟩ := hstart
    rw [resume, hp]
    exact hstep _ (by simp) ⟨h.guarded.channel, p, hp, hlast⟩ rfl
  | healthy =>
    exact h.start_moved hij hc hd (by simp) (h.guarded.moved rfl _)
      (hphase.start_running h.guarded (hholds rfl))
  | failing error =>
    exact h.start_moved hij hc hd (by simp) (h.guarded.moved rfl _)
      (hphase.start_error hstart error)
  | idle | returned | stopping | waiting | settling | restarting => exact hstart.elim

end start

section stop

variable {b d d' : Caller}

/-- Stop's caller goes on. -/
theorem Pair.stop_moved (h : Pair i j s) (hij : i ≠ j) (hb : s.callers[i]? = some b)
    (hd : s.callers[j]? = some d) {state : ProcessState}
    (hguarded : Guarded { s.goTo j d' with state := state })
    (hphase : Phase { s with state := state } b d') :
    Pair i j { s.goTo j d' with state := state } := by
  have hi : (s.goTo j d').callers[i]? = s.callers[i]? := getElem?_goTo_ne hij.symm
  refine ⟨hguarded, fun k c hc hi hj => ?_, fun p g hg hm => ?_, b, d', hi.trans hb,
    getElem?_goTo_self hd, ?_⟩
  · exact h.others k c (getElem?_of_goTo hc hj) hi hj
  · exact hi.trans (h.awaited p g hg hm)
  · exact hphase

/-- First locked section of Stop. -/
theorem Pair.beginStop (h : Pair i j s) (hij : i ≠ j) (hb : s.callers[i]? = some b)
    (hd : s.callers[j]? = some .idle) (hphase : Phase s b .idle) :
    Pair i j (s.beginStop j false) := by
  rw [HdtnLifecycles.System.beginStop]
  split
  next hnot =>
    refine h.stop_moved hij hb hd (h.guarded.moved rfl s.state) ?_
    obtain ⟨hs, -⟩ | ⟨hrests, hs | hs | ⟨hs, hnone⟩⟩ := hphase
    · exact absurd hs hnot.2.1
    · exact absurd hs hnot.1
    · exact absurd hs hnot.2.2
    · exact Or.inr (Or.inr ⟨hrests, hs, hnone⟩)
  next =>
    refine h.stop_moved hij hb hd (h.guarded.moved rfl _) ⟨h.guarded.channel, ?_⟩
    cases hrests : b.rests with
    | false => exact Or.inr (Or.inl (hphase.inStart hrests))
    | true =>
      refine Or.inr (Or.inr ⟨hrests, fun q halive => ?_⟩)
      obtain ⟨g, hg, hstatus⟩ := halive
      refine cmd_of_alive h.guarded hg hstatus fun hm => ?_
      obtain rfl := Option.some.inj (hb.symm.trans (h.awaited q g hg hm))
      cases hrests

/-- A step of Stop without input. -/
theorem Pair.resume_stop (h : Pair i j s) (hij : i ≠ j) (hb : s.callers[i]? = some b)
    (hd : s.callers[j]? = some d) (hphase : Phase s b d) (hrests : d.rests = false) :
    Pair i j (s.resume j d) := by
  have hstep : ∀ d', d'.launching = false → Phase s b d' → Pair i j (s.goTo j d') :=
    fun d' hlaunching hphase' => h.stop_moved hij hb hd (h.guarded.moved hlaunching s.state) hphase'
  cases d with
  | stopping again cmd exitCh =>
    cases again with
    | true => exact hphase.elim
    | false =>
      obtain ⟨rfl, hholding⟩ := hphase
      cases exitCh with
      | none => exact hstep _ rfl ⟨fun p hp => (by cases hp), hholding⟩
      | some p =>
        rw [resume]
        split
        next hwaited =>
          refine hstep _ rfl ⟨fun q hq => ?_, hholding⟩
          obtain rfl := Option.some.inj hq
          obtain ⟨g, hg, hstatus⟩ := hwaited
          have hlt := (List.getElem?_eq_some_iff.mp hg).1
          refine ⟨hlt, fun halive => ?_⟩
          have hstatus' := (hasStatus_iff hg).mp halive
          simp [hstatus] at hstatus'
        next => exact hstep _ rfl ⟨rfl, hholding⟩
  | waiting again cmd exitCh =>
    cases again with
    | true => exact hphase.elim
    | false =>
      obtain ⟨rfl, hholding⟩ := hphase
      rw [resume]
      split
      next hreceived =>
        refine hstep _ rfl ⟨fun q hq => ?_, hholding⟩
        rw [hq] at hreceived
        obtain ⟨g, hg, -⟩ := received_some_iff.mp hreceived
        exact ⟨(List.getElem?_eq_some_iff.mp hg).1, h.guarded.safe.2.2 q hreceived⟩
      next => exact h
  | settling again cmd =>
    cases again with
    | true => exact hphase.elim
    | false =>
      obtain ⟨hexited, hholding⟩ := hphase
      refine h.stop_moved hij hb hd (h.guarded.moved rfl _) ?_
      obtain hidle | hstart | ⟨hrests', hall⟩ := hholding
      · exact Or.inl hidle
      · exact Or.inr (Or.inl hstart)
      · refine Or.inr (Or.inr ⟨hrests', rfl, fun q halive => ?_⟩)
        exact (hexited q (hall q halive)).2 halive
  | idle | returned => cases hrests
  | _ => exact hphase.elim

end stop

section runs

/-- A heeded step of the two calls keeps their phases. -/
theorem Pair.apply (h : Pair i j s) (hij : i ≠ j) {e : Event} (hpaired : Paired i j s e)
    (hheeded : Heeded j s e) : Pair i j (s.apply e) := by
  have hguarded := (h.guarded.apply_iff e).mpr hheeded.orderly
  rw [apply_of_calm h.guarded.calm] at hguarded ⊢
  cases e with
  | start k =>
    obtain ⟨rfl, hi, hj⟩ := hpaired
    obtain ⟨b, d, hb, hd, hphase⟩ := h.calls
    obtain rfl := Option.some.inj (hi.symm.trans hb)
    obtain rfl := Option.some.inj (hj.symm.trans hd)
    simp only [perform, hi, Caller.rests, if_true] at hguarded ⊢
    exact h.beginStart hij hi hj hphase hguarded
  | stop k =>
    obtain ⟨rfl, hj⟩ := hpaired
    obtain ⟨b, d, hb, hd, hphase⟩ := h.calls
    obtain rfl := Option.some.inj (hj.symm.trans hd)
    simp only [perform, hj, Caller.rests, if_true]
    exact h.beginStop hij hb hj hphase
  | restart k => exact hpaired.elim
  | spawn k failure =>
    simp only [perform]
    split
    next hk =>
      obtain ⟨rfl, d, hd, hphase⟩ | ⟨-, b, -, hphase⟩ := h.place hk rfl
      · exact h.spawn hij hk hd hphase failure
      · exact hphase.elim
    next => exact h
  | tick k healthy expired =>
    simp only [perform]
    split
    next exitCh hk =>
      obtain ⟨rfl, d, hd, hphase⟩ | ⟨-, b, -, hphase⟩ := h.place hk rfl
      · have hstart := hphase.inStart rfl
        refine h.start_moved hij hk hd (by simp) (h.guarded.moved ?_ s.state)
          (hphase.start_step rfl rfl (fun _ hp => hp) ?_)
        · cases healthy <;> cases expired <;> rfl
        · cases healthy <;> cases expired <;> exact hstart.2
      · exact hphase.elim
    next => exact h
  | resume k =>
    simp only [perform]
    split
    next c hk =>
      cases hrests : c.rests with
      | true =>
        cases c with
        | idle | returned result => exact h
        | _ => cases hrests
      | false =>
        obtain ⟨rfl, d, hd, hphase⟩ | ⟨rfl, b, hb, hphase⟩ := h.place hk hrests
        · refine h.resume_start hij hk hd hphase hrests fun hhealthy => ?_
          subst hhealthy
          obtain ⟨d', hd', hholds⟩ := hheeded.2 hk
          obtain rfl := Option.some.inj (hd.symm.trans hd')
          exact hholds
        · exact h.resume_stop hij hb hk hphase hrests
    next => exact h
  | monitor p =>
    simp only [perform] at hguarded ⊢
    split
    next g hg => exact h.calmer (calmer_monitorProcess s p g.monitor) (h.guarded.monitored hg)
    next => exact h
  | exit p => exact h.calmer (calmer_exitProcess s p) (h.guarded.exited p)

/-- Two callers about to call a manager at rest. -/
theorem Rested.pair (h : Rested i j s) (hguarded : Guarded s) : Pair i j s := by
  obtain ⟨hi, hj, hrest, hlaunched, hstate⟩ := h
  refine ⟨hguarded, fun k c hc _ _ => hrest c (List.mem_of_getElem? hc), fun p g hg hm => ?_,
    .idle, .idle, hi, hj, Or.inr ⟨rfl, ?_⟩⟩
  · exact absurd hm (hlaunched g (List.mem_of_getElem? hg))
  · obtain hs | hs | ⟨hs, hdead⟩ := hstate
    · exact Or.inl hs
    · exact Or.inr (Or.inl hs)
    · refine Or.inr (Or.inr ⟨hs, ?_⟩)
      rintro p ⟨g, hg, hstatus⟩
      exact hdead g (List.mem_of_getElem? hg) hstatus

/-- When both calls have returned, the manager is stopped and no process is alive. -/
theorem Pair.stopped (h : Pair i j s) {result : Option GoError}
    (hi : s.callers[i]? = some (.returned result)) (hj : s.callers[j]? = some (.returned none)) :
    s.state = .stopped ∧ NoneAlive s := by
  obtain ⟨b, d, hb, hd, hphase⟩ := h.calls
  obtain rfl := Option.some.inj (hi.symm.trans hb)
  obtain rfl := Option.some.inj (hj.symm.trans hd)
  obtain hidle | hstart | ⟨-, hstopped⟩ := hphase
  · cases hidle
  · exact hstart.elim
  · exact hstopped

/-- From a manager that an orderly run has left at rest, one Start and one Stop
that begins after it leave the manager stopped and no process alive when both
have returned, if Start is heeded. -/
theorem stopped_along (onExit : Bool) (startTimeout : GoString) (callers : ℕ) {i j : ℕ}
    (hij : i ≠ j) (before events : List Event)
    (horderly : Along apply Orderly (new onExit startTimeout callers) before)
    (hrested : Rested i j (run apply (new onExit startTimeout callers) before))
    (hpaired : Along apply (Paired i j) (run apply (new onExit startTimeout callers) before) events)
    (hheeded : Along apply (Heeded j) (run apply (new onExit startTimeout callers) before) events)
    (first : List Event) (hf : first <+: events) (result : Option GoError)
    (hi : (run apply (new onExit startTimeout callers) (before ++ first)).callers[i]? =
      some (.returned result))
    (hj : (run apply (new onExit startTimeout callers) (before ++ first)).callers[j]? =
      some (.returned none)) :
    (run apply (new onExit startTimeout callers) (before ++ first)).state = .stopped ∧
      NoneAlive (run apply (new onExit startTimeout callers) (before ++ first)) := by
  have hguarded : Guarded (run apply (new onExit startTimeout callers) before) :=
    (guarded_prefixes_iff_orderly onExit startTimeout callers before).mpr horderly before
      List.prefix_rfl
  have hboth := (hpaired.and hheeded).of_isPrefix hf
  have hpair : Pair i j (run apply (new onExit startTimeout callers) (before ++ first)) := by
    rw [run_append]
    exact hboth.invariant (fun s e hs he => hs.apply hij he.1 he.2) (hrested.pair hguarded)
  exact hpair.stopped hi hj

/-- A Stop during the health checks of a Start that succeeds all the same. -/
theorem stopped_during_start :
    let events : List Event := [.start 0, .spawn 0 none, .resume 0, .monitor 0, .resume 0,
      .stop 1, .resume 1, .tick 0 true false, .resume 0, .exit 0, .monitor 0, .monitor 0,
      .monitor 0, .resume 1, .monitor 0, .resume 1]
    (run apply (new false [] 2) events).state = .stopped ∧
      NoneAlive (run apply (new false [] 2) events) := by
  intro events
  have horderly : Along apply Orderly (new false [] 2) [] := trivial
  have hrested : Rested 0 1 (run apply (new false [] 2) []) := by decide +kernel
  have hpaired : Along apply (Paired 0 1) (run apply (new false [] 2) []) events := by
    decide +kernel
  have hheeded : Along apply (Heeded 1) (run apply (new false [] 2) []) events := by
    decide +kernel
  exact stopped_along false [] 2 (by decide) [] events horderly hrested hpaired hheeded events
    List.prefix_rfl none (by decide +kernel) (by decide +kernel)

/-- A Stop that finds no command returns while Start goes on to its process. -/
theorem running_after_stop :
    ¬ ∀ (onExit : Bool) (startTimeout : GoString) (callers i j : ℕ) (events : List Event),
      Along apply (Paired i j) (new onExit startTimeout callers) events →
      ∀ result, (run apply (new onExit startTimeout callers) events).callers[i]? =
          some (.returned result) →
        (run apply (new onExit startTimeout callers) events).callers[j]? =
          some (.returned none) →
        (run apply (new onExit startTimeout callers) events).state = .stopped ∧
          NoneAlive (run apply (new onExit startTimeout callers) events) := by
  intro h
  let events : List Event := [.start 0, .stop 1, .resume 1, .resume 1, .spawn 0 none, .resume 0,
    .resume 0, .tick 0 true false, .resume 0]
  have hpaired : Along apply (Paired 0 1) (new true [] 2) events := by decide +kernel
  have hrunning : (run apply (new true [] 2) events).state = .running := by decide +kernel
  have hstopped := (h true [] 2 0 1 events hpaired none (by decide +kernel)
    (by decide +kernel)).1
  simp [hrunning] at hstopped

end runs

end CislunarDtn.HdtnStops
