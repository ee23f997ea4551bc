import CislunarDtn.HdtnGenerations

/-!
# Exits around one Start call

One Start call, the monitor of its process, the exit and the health checks. The
exit of the current process is settled, with the manager not running and a
successful Start answered by the exit callback, exactly when Start never sets
the state to running after that monitor has finished.
-/

namespace CislunarDtn.HdtnExits

open Bundles LabelledRuns HdtnLifecycles HdtnLifecycles.System HdtnGenerations

/-- An event that is no new call. -/
def isStep : Event → Bool
  | .start _ | .stop _ | .restart _ => false
  | _ => true

/-- Nothing is in flight: the caller in place i can start a process, no other
caller is in a call and every monitor has returned. -/
def Dormant (i : ℕ) (s : System) : Prop :=
  s.Admits ∧ i < s.callers.length ∧ (∀ c ∈ s.callers, c.rests = true) ∧
    ∀ g ∈ s.generations, g.monitor = .finished

instance (i : ℕ) : DecidablePred (Dormant i) := fun s =>
  inferInstanceAs (Decidable (s.Admits ∧ i < s.callers.length ∧
    (∀ c ∈ s.callers, c.rests = true) ∧ ∀ g ∈ s.generations, g.monitor = .finished))

/-- The monitor of the manager's current process has returned. -/
def CurrentFinished (s : System) : Prop :=
  ∃ p ∈ s.cmd, ∃ g ∈ s.generations[p]?, g.monitor = .finished

instance : DecidablePred CurrentFinished := fun s =>
  inferInstanceAs (Decidable (∃ p ∈ s.cmd, ∃ g ∈ s.generations[p]?, g.monitor = .finished))

/-- Once the monitor of the current process has returned, the state is not
running. When the Start of the caller in place i has returned too, the state is
failed or stopped, and after a successful Start the exit is reported. -/
def Settled (i : ℕ) (s : System) : Prop :=
  CurrentFinished s → s.state ≠ .running ∧
    (∀ result, s.callers[i]? = some (.returned result) → s.state = .failed ∨ s.state = .stopped) ∧
    (s.callers[i]? = some (.returned none) → s.onExit = true → ∀ p ∈ s.cmd, p ∈ s.reports)

/-- A step by which Start sets the state to running only before the monitor of
its process has returned. -/
def Timely (s : System) : Event → Prop
  | .resume i => s.callers[i]? = some .healthy → ¬ CurrentFinished s
  | _ => True

instance (s : System) : DecidablePred (Timely s)
  | .resume i => inferInstanceAs (Decidable (s.callers[i]? = some .healthy → ¬ CurrentFinished s))
  | .start _ | .stop _ | .restart _ | .spawn .. | .tick .. | .monitor _ | .exit _ => isTrue trivial

/-- The monitor has made its last change to the manager. -/
def classified : Monitor → Bool
  | .reporting _ | .finished => true
  | _ => false

/-- What holds of a Start whose process has place m, by where its caller is. -/
def Phase (m : ℕ) (s : System) : Caller → Prop
  | .starting => s.state = .starting ∧ s.generations.length = m
  | .spawned p => s.state = .starting ∧ p = m
  | .polling | .selecting _ | .healthy | .expired | .killing _ | .failing _ =>
    s.state = .starting ∧ s.cmd = some m ∧
      ∃ g, s.generations[m]? = some g ∧ ∀ q, g.monitor ≠ .reporting q
  | .returned (some _) => s.state = .stopped
  | .returned none => s.cmd = some m ∧ ∃ g, s.generations[m]? = some g ∧
      (s.state = .running ∧ classified g.monitor = false ∨
        s.state = .failed ∧ (g.monitor = .reporting m ∨
          g.monitor = .finished ∧ (s.onExit = true → m ∈ s.reports)))
  | _ => False

/-- What holds throughout one Start call of the caller in place i, with m
processes before it. -/
structure OneStart (m i : ℕ) (s : System) : Prop where
  /-- The run so far is orderly. -/
  guarded : Guarded s
  /-- Nobody else is in a call. -/
  others : ∀ (j : ℕ) (c : Caller), s.callers[j]? = some c → j ≠ i → c.rests = true
  /-- Earlier monitors have returned. -/
  earlier : ∀ (q : ℕ) (g : Generation), s.generations[q]? = some g → q ≠ m →
    g.monitor = .finished
  /-- The caller is in one of the phases. -/
  phase : ∃ c, s.callers[i]? = some c ∧ Phase m s c

variable {m i j p : ℕ} {s : System}

/-- A caller in a call is the one that starts. -/
theorem OneStart.place_eq (h : OneStart m i s) {c : Caller} (hc : s.callers[j]? = some c)
    (hrests : c.rests = false) : j = i ∧ Phase m s c := by
  by_cases hj : j = i
  · subst hj
    obtain ⟨d, hd, hphase⟩ := h.phase
    obtain rfl : c = d := Option.some.inj (hc.symm.trans hd)
    exact ⟨rfl, hphase⟩
  · have hfalse := h.others j c hc hj
    simp [hrests] at hfalse

theorem Phase.starting {c : Caller} (h : Phase m s c) (hc : c.rests = false) :
    s.state = .starting := by
  cases c with
  | idle | returned result => cases hc
  | stopping | waiting | settling | restarting => exact h.elim
  | starting | spawned | polling | selecting | healthy | expired | killing | failing => exact h.1

theorem Phase.of_running {c : Caller} (h : Phase m s c) (hs : s.state = .running) :
    c = .returned none := by
  cases c with
  | idle | stopping | waiting | settling | restarting => exact h.elim
  | starting | spawned | polling | selecting | healthy | expired | killing | failing =>
    have hstate : s.state = .starting := h.1
    simp [hstate] at hs
  | returned result =>
    cases result with
    | none => rfl
    | some error =>
      have hstate : s.state = .stopped := h
      simp [hstate] at hs

/-- The exit is settled in every phase. -/
theorem OneStart.settled (h : OneStart m i s) : Settled i s := by
  obtain ⟨c, hc, hphase⟩ := h.phase
  rintro ⟨p, hp, g, hg, hfinished⟩
  cases hrests : c.rests with
  | false =>
    have hstate := hphase.starting hrests
    have hnot : ∀ result, s.callers[i]? ≠ some (.returned result) := by
      intro result hr
      obtain rfl : c = .returned result := Option.some.inj (hc.symm.trans hr)
      cases hrests
    exact ⟨by simp [hstate], fun result hr => absurd hr (hnot result),
      fun hr => absurd hr (hnot none)⟩
  | true =>
    cases c with
    | idle => exact hphase.elim
    | returned result =>
      cases result with
      | some error =>
        have hstate : s.state = .stopped := hphase
        exact ⟨by simp [hstate], fun _ _ => Or.inr hstate, fun hr => by simp [hc] at hr⟩
      | none =>
        obtain ⟨hcmd, g', hg', hmonitor⟩ := hphase
        obtain rfl : p = m := Option.some.inj (hp.symm.trans hcmd)
        obtain rfl : g = g' := Option.some.inj (hg.symm.trans hg')
        obtain ⟨-, hclassified⟩ | ⟨hstate, hm | ⟨-, hreported⟩⟩ := hmonitor
        · simp [hfinished, classified] at hclassified
        · simp [hfinished] at hm
        · refine ⟨by simp [hstate], fun _ _ => Or.inl hstate, fun _ honExit q hq => ?_⟩
          obtain rfl : q = p := Option.some.inj (hq.symm.trans hcmd)
          exact hreported honExit
    | _ => cases hrests

section callers

/-- The caller goes on to another phase. -/
theorem OneStart.moved (h : OneStart m i s) {c : Caller} {state : ProcessState}
    (hguarded : Guarded { s.goTo i c with state := state })
    (hphase : Phase m { s.goTo i c with state := state } c) :
    OneStart m i { s.goTo i c with state := state } := by
  obtain ⟨d, hd, -⟩ := h.phase
  refine ⟨hguarded, fun j e he hj => ?_, h.earlier, c, getElem?_goTo_self hd, hphase⟩
  exact h.others j e (getElem?_of_goTo he hj) hj

theorem OneStart.spawn (h : OneStart m i s) (hi : s.callers[i]? = some .starting)
    (hphase : Phase m s .starting) (failure : Option GoString) :
    OneStart m i (s.spawn i failure) := by
  cases failure with
  | some text => exact h.moved (h.guarded.moved rfl _) rfl
  | none =>
    refine ⟨h.guarded.spawn_none hi, fun j c hc hj => ?_, fun q g hg hq => ?_,
      .spawned s.generations.length, getElem?_goTo_self hi, hphase.1, hphase.2⟩
    · exact h.others j c (getElem?_of_goTo hc hj) hj
    · change (s.generations ++ [_])[q]? = some g at hg
      have hlt : q < s.generations.length := by
        have hle := (List.getElem?_eq_some_iff.mp hg).1
        rw [List.length_append, List.length_singleton] at hle
        have hm : s.generations.length = m := hphase.2
        omega
      rw [List.getElem?_append_left hlt] at hg
      exact h.earlier q g hg hq

theorem OneStart.publish (h : OneStart m i s) (hi : s.callers[i]? = some (.spawned p))
    (hphase : Phase m s (.spawned p)) : OneStart m i (s.publish i p) := by
  obtain ⟨hstate, rfl⟩ := hphase
  obtain ⟨g, hg, -⟩ := h.guarded.spawned i p hi
  refine ⟨h.guarded.published hi, fun j c hc hj => ?_, fun q g' hg' hq => ?_, .polling,
    getElem?_goTo_self hi, hstate, rfl, _, getElem?_change_self hg, by simp⟩
  · exact h.others j c (getElem?_of_goTo hc hj) hj
  · exact h.earlier q g' ((getElem?_change_ne (Ne.symm hq)).symm.trans hg') hq

/-- A step of the call without input leads to the next phase, if it is timely. -/
theorem OneStart.resume (h : OneStart m i s) {c : Caller} (hi : s.callers[i]? = some c)
    (hphase : Phase m s c) (ht : Timely s (.resume i)) : OneStart m i (s.resume i c) := by
  cases c with
  | starting => exact h
  | spawned p => exact h.publish hi hphase
  | polling => exact h.moved (h.guarded.moved rfl s.state) hphase
  | selecting exitCh | killing exitCh =>
    rw [HdtnLifecycles.System.resume]
    split
    · exact h.moved (h.guarded.moved rfl s.state) hphase
    · exact h
  | expired =>
    rw [HdtnLifecycles.System.resume]
    split <;> exact h.moved (h.guarded.moved rfl s.state) hphase
  | healthy =>
    obtain ⟨-, hcmd, g, hg, hm⟩ := hphase
    have hnot : ¬ CurrentFinished s := ht hi
    have hclassified : classified g.monitor = false := by
      cases hmonitor : g.monitor with
      | finished => exact absurd ⟨m, hcmd, g, hg, hmonitor⟩ hnot
      | reporting q => exact absurd hmonitor (hm q)
      | _ => rfl
    exact h.moved (h.guarded.moved rfl _) ⟨hcmd, g, hg, Or.inl ⟨rfl, hclassified⟩⟩
  | failing error => exact h.moved (h.guarded.moved rfl _) rfl
  | returned result => exact h
  | idle | stopping | waiting | settling | restarting => exact hphase.elim

end callers

section monitors

variable {g : Generation} {f : Generation → Generation}

/-- The process of the Start changes, and what it makes of the phase. -/
theorem OneStart.changed (h : OneStart m i s) {state : ProcessState} {reports : List ℕ}
    (hguarded : Guarded { s.change m f with state := state, reports := reports })
    (hphase : ∀ c, Phase m s c →
      Phase m { s.change m f with state := state, reports := reports } c) :
    OneStart m i { s.change m f with state := state, reports := reports } := by
  obtain ⟨c, hc, hp⟩ := h.phase
  refine ⟨hguarded, h.others, fun q g hg hq => ?_, c, hc, hphase c hp⟩
  exact h.earlier q g ((getElem?_change_ne (Ne.symm hq)).symm.trans hg) hq

/-- A change of the process keeps the phase if it keeps what is asked of the monitor, before the
call returns and after it. -/
theorem Phase.changed {c : Caller} {reports : List ℕ} (h : Phase m s c)
    (hg : s.generations[m]? = some g)
    (hcalling : (∀ q, g.monitor ≠ .reporting q) → ∀ q, (f g).monitor ≠ .reporting q)
    (hreturned : Phase m s (.returned none) →
      Phase m { s.change m f with reports := reports } (.returned none)) :
    Phase m { s.change m f with reports := reports } c := by
  cases c with
  | starting => exact ⟨h.1, length_change.trans h.2⟩
  | spawned p => exact h
  | polling | selecting exitCh | healthy | expired | killing exitCh | failing error =>
    obtain ⟨hstate, hcmd, g', hg', hnot⟩ := h
    obtain rfl : g = g' := Option.some.inj (hg.symm.trans hg')
    exact ⟨hstate, hcmd, f g, getElem?_change_self hg, hcalling hnot⟩
  | returned result =>
    cases result with
    | some error => exact h
    | none => exact hreturned h
  | idle | stopping | waiting | settling | restarting => exact h.elim

/-- A change that leaves the monitor before its last section keeps the phase. -/
theorem Phase.change {c : Caller} (h : Phase m s c) (hg : s.generations[m]? = some g)
    (hbefore : classified g.monitor = false) (hafter : classified (f g).monitor = false) :
    Phase m (s.change m f) c := by
  refine h.changed hg (fun _ q hq => by simp [hq, classified] at hafter) ?_
  rintro ⟨hcmd, g', hg', hm⟩
  obtain rfl : g = g' := Option.some.inj (hg.symm.trans hg')
  obtain ⟨hstate, -⟩ | ⟨-, hm | ⟨hm, -⟩⟩ := hm
  · exact ⟨hcmd, f g, getElem?_change_self hg, Or.inl ⟨hstate, hafter⟩⟩
  · simp [hm, classified] at hbefore
  · simp [hm, classified] at hbefore

/-- The classification of the exit leads to the next phase. -/
theorem OneStart.classify (h : OneStart m i s) (hg : s.generations[m]? = some g)
    (hm : g.monitor = .classifying m) : OneStart m i (s.monitorProcess m g.monitor) := by
  have hguarded := h.guarded.monitored hg
  rw [hm, HdtnLifecycles.System.monitorProcess] at hguarded ⊢
  by_cases hrunning : s.state = .running
  · rw [if_pos hrunning] at hguarded ⊢
    refine h.changed hguarded fun c hphase => ?_
    obtain rfl := hphase.of_running hrunning
    refine ⟨hphase.1, _, getElem?_change_self hg, Or.inr ⟨rfl, ?_⟩⟩
    cases honExit : s.onExit with
    | true => exact Or.inl (by simp)
    | false => exact Or.inr ⟨by simp, fun htrue => by simp [change, honExit] at htrue⟩
  · rw [if_neg hrunning] at hguarded ⊢
    refine h.changed hguarded fun c hphase => hphase.changed hg (fun _ => by simp) ?_
    rintro ⟨-, g', hg', hm'⟩
    obtain rfl : g = g' := Option.some.inj (hg.symm.trans hg')
    obtain ⟨hstate, -⟩ | ⟨-, hm' | ⟨hm', -⟩⟩ := hm'
    · exact absurd hstate hrunning
    · simp [hm] at hm'
    · simp [hm] at hm'

/-- The report of the exit leads to the next phase. -/
theorem OneStart.report (h : OneStart m i s) (hg : s.generations[m]? = some g)
    (hm : g.monitor = .reporting m) : OneStart m i (s.monitorProcess m g.monitor) := by
  have hguarded := h.guarded.monitored hg
  rw [hm] at hguarded ⊢
  have hcalling : ¬ ∀ q, g.monitor ≠ .reporting q := fun hnot => hnot m hm
  refine h.changed hguarded fun c hphase =>
    hphase.changed hg (fun hnot => absurd hnot hcalling) ?_
  rintro ⟨hcmd, g', hg', hm'⟩
  obtain rfl : g = g' := Option.some.inj (hg.symm.trans hg')
  obtain ⟨-, hclassified⟩ | ⟨hstate, -⟩ := hm'
  · simp [hm, classified] at hclassified
  · refine ⟨hcmd, _, getElem?_change_self hg, Or.inr ⟨hstate, Or.inr ⟨rfl, fun _ => ?_⟩⟩⟩
    exact List.mem_append_right _ (List.mem_singleton_self m)

/-- A step of the monitor leads to the next phase. -/
theorem OneStart.monitor (h : OneStart m i s) (hg : s.generations[m]? = some g) :
    OneStart m i (s.monitorProcess m g.monitor) := by
  have hguarded := h.guarded.monitored hg
  have hopen : ∀ f : Generation → Generation, Guarded (s.change m f) →
      classified g.monitor = false → classified (f g).monitor = false →
      OneStart m i (s.change m f) := by
    intro f hf hbefore hafter
    exact h.changed hf fun c hphase => hphase.change hg hbefore hafter
  cases h.guarded.generation m g hg with
  | closed hclosed hstatus hmonitor =>
    obtain hm | hm | hm := hmonitor
    · exact h.classify hg hm
    · exact h.report hg hm
    · rw [hm]
      exact h
  | unlaunched _ _ hm =>
    rw [hm]
    exact h
  | monitored hopened hlast hcmd hmonitor =>
    have hnotReceived : ¬ s.received (some m) := not_received_of_open hg hopened
    have hbefore : classified g.monitor = false := by
      obtain hm | hm | ⟨-, hm | hm⟩ := hmonitor <;> simp [hm, classified]
    obtain hm | hm | ⟨-, hm | hm⟩ := hmonitor
    · rw [hm, HdtnLifecycles.System.monitorProcess, hcmd] at hguarded ⊢
      exact hopen _ hguarded hbefore rfl
    · by_cases halive : s.hasStatus .alive m
      · rw [hm, HdtnLifecycles.System.monitorProcess, if_pos halive]
        exact h
      · rw [hm, HdtnLifecycles.System.monitorProcess, if_neg halive, change_change] at hguarded ⊢
        exact hopen _ hguarded hbefore rfl
    · rw [hm] at hguarded ⊢
      exact hopen _ hguarded hbefore rfl
    · rw [hm, HdtnLifecycles.System.monitorProcess, close, if_neg hnotReceived, change_change]
        at hguarded ⊢
      exact hopen _ hguarded hbefore rfl

/-- An exit keeps the phase. -/
theorem OneStart.exit (h : OneStart m i s) (p : ℕ) : OneStart m i (s.exitProcess p) := by
  have hguarded := h.guarded.exited p
  by_cases halive : s.hasStatus .alive p
  · rw [exitProcess, if_pos halive] at hguarded ⊢
    obtain ⟨g, hg, hstatus⟩ := halive
    have hbefore : classified g.monitor = false := by
      cases h.guarded.generation p g hg with
      | closed _ hnot _ => exact absurd hstatus hnot
      | unlaunched _ _ hm => simp [hm, classified]
      | monitored _ _ _ hm => obtain hm | hm | ⟨-, hm | hm⟩ := hm <;> simp [hm, classified]
    have hp : p = m := by
      by_contra hne
      simp [h.earlier p g hg hne, classified] at hbefore
    subst hp
    exact h.changed hguarded fun c hphase => hphase.change hg hbefore hbefore
  · rw [exitProcess, if_neg halive]
    exact h

end monitors

section runs

/-- A timely step leads to the next phase. -/
theorem OneStart.apply (h : OneStart m i s) {e : Event} (he : isStep e = true)
    (ht : Timely s e) : OneStart m i (s.apply e) := by
  rw [apply_of_calm h.guarded.calm]
  cases e with
  | start | stop | restart => cases he
  | spawn j failure =>
    simp only [perform]
    split
    next hj =>
      obtain ⟨rfl, hphase⟩ := h.place_eq hj rfl
      exact h.spawn hj hphase failure
    next => exact h
  | tick j healthy expired =>
    simp only [perform]
    split
    next hj =>
      obtain ⟨rfl, hphase⟩ := h.place_eq hj rfl
      refine h.moved (h.guarded.moved ?_ s.state) ?_
      · cases healthy <;> cases expired <;> rfl
      · cases healthy <;> cases expired <;> exact hphase
    next => exact h
  | resume j =>
    simp only [perform]
    split
    next c hj =>
      cases hrests : c.rests with
      | true =>
        cases c with
        | idle | returned result => exact h
        | _ => cases hrests
      | false =>
        obtain ⟨rfl, hphase⟩ := h.place_eq hj hrests
        exact h.resume hj hphase ht
    next => exact h
  | monitor q =>
    simp only [perform]
    split
    next g hg =>
      by_cases hq : q = m
      · subst hq
        exact h.monitor hg
      · rw [h.earlier q g hg hq]
        exact h
    next => exact h
  | exit q => exact h.exit q

/-- Setting running late leaves the exit unsettled. -/
theorem OneStart.timely_of_settled (h : OneStart m i s) {e : Event}
    (hs : Settled i (s.apply e)) : Timely s e := by
  cases e with
  | resume j =>
    intro hj hfinished
    have hrunning : (s.apply (.resume j)).state = .running := by
      rw [apply_of_calm h.guarded.calm]
      simp only [perform, hj]
      rfl
    have hstill : CurrentFinished (s.apply (.resume j)) := by
      rw [apply_of_calm h.guarded.calm]
      simp only [perform, hj]
      exact hfinished
    exact (hs hstill).1 hrunning
  | _ => trivial

/-- A dormant manager is clear. -/
theorem Dormant.clear (hd : Dormant i s) (h : Guarded s) : Clear s := by
  obtain ⟨-, -, hrest, hfinished⟩ := hd
  refine ⟨fun g hg => ?_, fun c hc => ?_⟩
  · obtain ⟨q, hq⟩ := List.mem_iff_getElem?.mp hg
    have hm := hfinished g hg
    cases h.generation q g hq with
    | closed hclosed _ _ => exact hclosed
    | unlaunched _ _ hmonitor => simp [hm] at hmonitor
    | monitored _ _ _ hmonitor => simp [hm] at hmonitor
  · have hrests := hrest c hc
    cases c with
    | idle | returned result => rfl
    | _ => cases hrests

/-- A Start call of a dormant manager begins its first phase. -/
theorem Dormant.oneStart (hd : Dormant i s) (h : Guarded s) :
    OneStart s.generations.length i (s.apply (.start i)) := by
  have hclear := hd.clear h
  obtain ⟨hadmits, hlt, hrest, hfinished⟩ := hd
  have hi : s.callers[i]? = some s.callers[i] := List.getElem?_eq_getElem hlt
  have hmem : s.callers[i] ∈ s.callers := List.getElem_mem hlt
  have hbegin : s.apply (.start i) = { s.goTo i .starting with state := .starting } := by
    rw [apply_of_calm h.calm]
    simp only [perform, hi, hrest _ hmem, if_true, beginStart, if_pos hadmits]
  rw [hbegin]
  refine ⟨(h.started_iff hi (hclear.2 _ hmem)).mpr hclear, fun j c hc hj => ?_, fun q g hg _ => ?_,
    .starting, getElem?_goTo_self hi, rfl, rfl⟩
  · exact hrest c (List.mem_of_getElem? (getElem?_of_goTo hc hj))
  · exact hfinished g (List.mem_of_getElem? hg)

/-- From a manager that an orderly run has left dormant, one Start call leaves
every exit settled exactly when it never sets the state to running after the
monitor of its process has returned. -/
theorem settled_prefixes_iff_timely (onExit : Bool) (startTimeout : GoString) (callers i : ℕ)
    (before events : List Event)
    (horderly : Along apply Orderly (new onExit startTimeout callers) before)
    (hdormant : Dormant i (run apply (new onExit startTimeout callers) before))
    (hsteps : ∀ e ∈ events, isStep e = true) :
    (∀ first, first <+: events →
      Settled i (run apply (new onExit startTimeout callers) (before ++ .start i :: first))) ↔
      Along apply Timely (run apply (new onExit startTimeout callers) (before ++ [.start i]))
        events := by
  have hguarded : Guarded (run apply (new onExit startTimeout callers) before) :=
    (guarded_prefixes_iff_orderly onExit startTimeout callers before).mpr horderly before
      List.prefix_rfl
  have hstart := hdormant.oneStart hguarded
  have hsteps' : Along apply (fun _ e => isStep e = true)
      (run apply (new onExit startTimeout callers) (before ++ [.start i])) events :=
    along_of_forall_mem (fun e he _ => hsteps e he) _
  rw [← forall_prefix_iff_along_of_imp (fun s hs => OneStart.settled hs)
    (fun s e hs he ht => hs.apply he ht) (fun s e hs _ hset => hs.timely_of_settled hset)
    hsteps' (by rw [run_append]; exact hstart)]
  simp only [run_append, run_cons, run_nil]

/-- A process that exits after a Start call has returned is reported, also where
an earlier Start call has failed to spawn. -/
theorem settled_after_start :
    let events : List Event := [.spawn 0 none, .resume 0, .monitor 0, .resume 0,
      .tick 0 false false, .resume 0, .tick 0 true false, .resume 0, .exit 0, .monitor 0,
      .monitor 0, .monitor 0, .monitor 0, .monitor 0]
    let failure : List Event := [.start 0, .spawn 0 (some (ascii "no such file or directory"))]
    let final := run apply (new true [] 1) (failure ++ .start 0 :: events)
    CurrentFinished final ∧ final.reports = [0] ∧ Settled 0 final := by
  intro events failure final
  have horderly : Along apply Orderly (new true [] 1) failure := by decide +kernel
  have hdormant : Dormant 0 (run apply (new true [] 1) failure) := by decide +kernel
  have htimely : Along apply Timely (run apply (new true [] 1) (failure ++ [.start 0])) events := by
    decide +kernel
  have hsettled := (settled_prefixes_iff_timely true [] 1 0 failure events horderly hdormant
    (by decide)).mpr htimely events List.prefix_rfl
  exact ⟨by decide +kernel, by decide +kernel, hsettled⟩

/-- A process that exits after its last health check stays running for the manager. -/
theorem running_without_process :
    ¬ ∀ (onExit : Bool) (startTimeout : GoString) (callers i : ℕ) (events : List Event),
      (∀ e ∈ events, isStep e = true) →
        Settled i (run apply (new onExit startTimeout callers) (.start i :: events)) := by
  intro h
  let events : List Event := [.spawn 0 none, .resume 0, .resume 0, .tick 0 true false, .exit 0,
    .monitor 0, .monitor 0, .monitor 0, .monitor 0, .monitor 0, .resume 0]
  have hfinished : CurrentFinished (run apply (new true [] 1) (.start 0 :: events)) := by
    decide +kernel
  have hrunning : (run apply (new true [] 1) (.start 0 :: events)).state = .running := by
    decide +kernel
  exact (h true [] 1 0 events (by decide) hfinished).1 hrunning

end runs

end CislunarDtn.HdtnExits
