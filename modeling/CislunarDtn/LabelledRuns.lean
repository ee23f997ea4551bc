import Mathlib.Data.List.Infix

/-!
# Runs of labelled transition systems

Runs of a deterministic step function under a list of labels. A condition
holds along a run when it holds of the state before each step and of that
step's label; an invariant that every conforming step preserves then holds at
every prefix of the run. A view of the states under which each step is at most
one step of another system makes a run of it out of every run.
-/

namespace CislunarDtn.LabelledRuns

variable {σ ι : Type*} (step : σ → ι → σ)

/-- The state reached by performing the labels from the left. -/
def run (s : σ) (labels : List ι) : σ := labels.foldl step s

@[simp]
theorem run_nil (s : σ) : run step s [] = s := rfl

@[simp]
theorem run_cons (s : σ) (i : ι) (labels : List ι) :
    run step s (i :: labels) = run step (step s i) labels := rfl

theorem run_append (s : σ) (first second : List ι) :
    run step s (first ++ second) = run step (run step s first) second := List.foldl_append ..

section simulation

variable {τ κ : Type*} (abstractStep : τ → κ → τ) (label : σ → ι → Option κ)

/-- The steps of an abstract system that a run takes: at most one for each of
its own. -/
def labelsOf : σ → List ι → List κ
  | _, [] => []
  | s, i :: labels => (label s i).toList ++ labelsOf (step s i) labels

variable {step abstractStep label}

/-- A view that every step keeps up with is kept up with by every run. -/
theorem run_labelsOf {view : σ → τ}
    (hstep : ∀ s i, view (step s i) = run abstractStep (view s) (label s i).toList)
    (s : σ) (labels : List ι) :
    view (run step s labels) = run abstractStep (view s) (labelsOf step label s labels) := by
  induction labels generalizing s with
  | nil => rfl
  | cons i labels ih => rw [run_cons, ih, hstep, labelsOf, run_append]

/-- An abstract step taken somewhere in a run belongs to a step of the run. -/
theorem exists_of_labelsOf_eq {s : σ} {labels : List ι} {early late : List κ} {k : κ}
    (h : labelsOf step label s labels = early ++ k :: late) :
    ∃ first i second, labels = first ++ i :: second ∧
      labelsOf step label s first = early ∧ label (run step s first) i = some k := by
  induction labels generalizing s early with
  | nil => simp [labelsOf] at h
  | cons i labels ih =>
    rw [labelsOf] at h
    cases hi : label s i with
    | none =>
      rw [hi, Option.toList_none, List.nil_append] at h
      obtain ⟨first, j, second, rfl, hfirst, hj⟩ := ih h
      exact ⟨i :: first, j, second, rfl, by simp [labelsOf, hi, hfirst], hj⟩
    | some k' =>
      rw [hi, Option.toList_some, List.singleton_append] at h
      cases early with
      | nil =>
        have hk : k' = k := (List.cons.inj h).1
        exact ⟨[], i, labels, rfl, rfl, by rw [← hk]; exact hi⟩
      | cons k'' early =>
        obtain ⟨hk, hrest⟩ := List.cons.inj h
        obtain ⟨first, j, second, rfl, hfirst, hj⟩ := ih hrest
        exact ⟨i :: first, j, second, rfl, by simp [labelsOf, hi, hk, hfirst], hj⟩

end simulation

/-- The condition holds at every step: of the state before it and its label. -/
def Along (cond : σ → ι → Prop) : σ → List ι → Prop
  | _, [] => True
  | s, i :: labels => cond s i ∧ Along cond (step s i) labels

variable {step} {cond : σ → ι → Prop} {s : σ}

instance decidableAlong [∀ s i, Decidable (cond s i)] :
    ∀ (s : σ) (labels : List ι), Decidable (Along step cond s labels)
  | _, [] => isTrue trivial
  | s, i :: labels =>
    have := decidableAlong (step s i) labels
    inferInstanceAs (Decidable (cond s i ∧ Along step cond (step s i) labels))

theorem along_append {first second : List ι} :
    Along step cond s (first ++ second) ↔
      Along step cond s first ∧ Along step cond (run step s first) second := by
  induction first generalizing s with
  | nil => simp [Along]
  | cons i first ih => simp only [List.cons_append, Along, ih, run_cons, and_assoc]

theorem Along.of_isPrefix {first labels : List ι} (h : Along step cond s labels)
    (hp : first <+: labels) : Along step cond s first := by
  obtain ⟨second, rfl⟩ := hp
  exact (along_append.mp h).1

theorem Along.and {other : σ → ι → Prop} {labels : List ι} (h : Along step cond s labels)
    (ho : Along step other s labels) : Along step (fun s i => cond s i ∧ other s i) s labels := by
  induction labels generalizing s with
  | nil => trivial
  | cons i labels ih => exact ⟨⟨h.1, ho.1⟩, ih h.2 ho.2⟩

/-- An invariant kept by every conforming step holds after a conforming run. -/
theorem Along.invariant {Inv : σ → Prop} (hstep : ∀ s i, Inv s → cond s i → Inv (step s i))
    {labels : List ι} (h : Along step cond s labels) (hs : Inv s) : Inv (run step s labels) := by
  induction labels generalizing s with
  | nil => exact hs
  | cons i labels ih => exact ih h.2 (hstep s i hs h.1)

/-- Where an invariant makes two conditions equivalent at every step that meets
a premise, and the first condition keeps the invariant, they hold along the
same runs. -/
theorem along_iff_along {other premise : σ → ι → Prop} {Inv : σ → Prop}
    (hiff : ∀ s i, Inv s → premise s i → (cond s i ↔ other s i))
    (hnext : ∀ s i, Inv s → premise s i → cond s i → Inv (step s i)) {labels : List ι}
    (hp : Along step premise s labels) (hs : Inv s) :
    Along step cond s labels ↔ Along step other s labels := by
  induction labels generalizing s with
  | nil => exact Iff.rfl
  | cons i labels ih =>
    have hhead := hiff s i hs hp.1
    constructor
    · intro h
      exact ⟨hhead.mp h.1, (ih hp.2 (hnext s i hs hp.1 h.1)).mp h.2⟩
    · intro h
      have hcond := hhead.mpr h.1
      exact ⟨hcond, (ih hp.2 (hnext s i hs hp.1 hcond)).mpr h.2⟩

/-- Where a condition keeps an invariant and implies another one under it, the
other one holds along the same runs. -/
theorem Along.mono_of_invariant {other : σ → ι → Prop} {Inv : σ → Prop}
    (himp : ∀ s i, Inv s → cond s i → other s i)
    (hnext : ∀ s i, Inv s → cond s i → Inv (step s i)) {labels : List ι}
    (h : Along step cond s labels) (hs : Inv s) : Along step other s labels := by
  induction labels generalizing s with
  | nil => trivial
  | cons i labels ih => exact ⟨himp s i hs h.1, ih h.2 (hnext s i hs h.1)⟩

/-- What one condition implies at every step holds along the same runs. -/
theorem Along.mono {other : σ → ι → Prop} (himp : ∀ s i, cond s i → other s i)
    {labels : List ι} (h : Along step cond s labels) : Along step other s labels := by
  induction labels generalizing s with
  | nil => trivial
  | cons i labels ih => exact ⟨himp s i h.1, ih h.2⟩

/-- What holds of every label, whatever the state, holds along every run. -/
theorem along_of_forall_mem {labels : List ι} (h : ∀ i ∈ labels, ∀ s, cond s i) (s : σ) :
    Along step cond s labels := by
  induction labels generalizing s with
  | nil => trivial
  | cons i labels ih =>
    exact ⟨h i (List.mem_cons_self ..) s, ih (fun j hj => h j (List.mem_cons_of_mem _ hj)) _⟩

/-- A condition on the labels alone holds along a run when it holds of each of them. -/
theorem along_iff_forall_mem {p : ι → Prop} {labels : List ι} :
    Along step (fun _ i => p i) s labels ↔ ∀ i ∈ labels, p i := by
  induction labels generalizing s with
  | nil => simp [Along]
  | cons i labels ih => rw [Along, ih, List.forall_mem_cons]

/-- A property that a step keeps exactly when it meets a condition holds after a
run exactly when it held before and the condition holds along the run. -/
theorem run_iff_along {prop : σ → Prop} (hstep : ∀ s i, prop (step s i) ↔ prop s ∧ cond s i)
    (labels : List ι) : prop (run step s labels) ↔ prop s ∧ Along step cond s labels := by
  induction labels generalizing s with
  | nil => exact (and_iff_left trivial).symm
  | cons i labels ih => rw [run_cons, ih, hstep, and_assoc, Along]

/-- The same along a run whose steps meet a premise, where that is so of the
steps that start from an invariant. -/
theorem run_iff_along_of_invariant (prop : σ → Prop) {Inv : σ → Prop} {premise : σ → ι → Prop}
    (hstep : ∀ s i, Inv s → premise s i → (prop (step s i) ↔ prop s ∧ cond s i))
    (hkeep : ∀ s i, Inv s → premise s i → Inv (step s i)) {labels : List ι}
    (hp : Along step premise s labels) (hs : Inv s) :
    prop (run step s labels) ↔ prop s ∧ Along step cond s labels := by
  induction labels generalizing s with
  | nil => exact (and_iff_left trivial).symm
  | cons i labels ih =>
    rw [run_cons, ih hp.2 (hkeep s i hs hp.1), hstep s i hs hp.1, and_assoc, Along]

/-- The trivial condition holds along every run. -/
theorem along_true (labels : List ι) : Along step (fun _ _ => True) s labels :=
  along_of_forall_mem (fun _ _ _ => trivial) s

/-- An invariant that every step keeps holds after every run. -/
theorem run_invariant {Inv : σ → Prop} (hstep : ∀ s i, Inv s → Inv (step s i)) (hs : Inv s)
    (labels : List ι) : Inv (run step s labels) :=
  (along_true labels).invariant (fun s i hi _ => hstep s i hi) hs

/-- Where an invariant that every step keeps makes two conditions equivalent,
they hold along the same runs. -/
theorem along_congr_of_invariant {other : σ → ι → Prop} {Inv : σ → Prop}
    (hiff : ∀ s i, Inv s → (cond s i ↔ other s i)) (hstep : ∀ s i, Inv s → Inv (step s i))
    (hs : Inv s) (labels : List ι) : Along step cond s labels ↔ Along step other s labels :=
  along_iff_along (fun s i hi _ => hiff s i hi) (fun s i hi _ _ => hstep s i hi)
    (along_true labels) hs

/-- What an invariant implies of every step holds along every run. -/
theorem along_of_invariant {Inv : σ → Prop} (hstep : ∀ s i, Inv s → Inv (step s i))
    (hcond : ∀ s i, Inv s → cond s i) (hs : Inv s) (labels : List ι) :
    Along step cond s labels := by
  induction labels generalizing s with
  | nil => trivial
  | cons i labels ih => exact ⟨hcond s i hs, ih (hstep s i hs)⟩

/-- Where, along a run whose steps meet a premise, an invariant implies a
property, survives the steps that meet a condition, and the property fails
after every other step, the property holds throughout the run exactly when the
condition holds along it. -/
theorem forall_prefix_iff_along_of_imp {Inv prop : σ → Prop} {premise : σ → ι → Prop}
    (himp : ∀ s, Inv s → prop s) (hkeep : ∀ s i, Inv s → premise s i → cond s i → Inv (step s i))
    (hfail : ∀ s i, Inv s → premise s i → prop (step s i) → cond s i)
    {labels : List ι} (hp : Along step premise s labels) (hs : Inv s) :
    (∀ first, first <+: labels → prop (run step s first)) ↔ Along step cond s labels := by
  constructor
  · intro h
    induction labels generalizing s with
    | nil => trivial
    | cons i labels ih =>
      have hcond : cond s i := hfail s i hs hp.1 (h [i] (List.prefix_append [i] labels))
      refine ⟨hcond, ih hp.2 (hkeep s i hs hp.1 hcond) fun first hf => ?_⟩
      exact h (i :: first) (List.cons_prefix_cons.mpr ⟨rfl, hf⟩)
  · intro h first hf
    have hboth : Along step (fun s i => premise s i ∧ cond s i) s first :=
      (hp.of_isPrefix hf).and (h.of_isPrefix hf)
    exact himp _ (hboth.invariant (fun s i hi hc => hkeep s i hi hc.1 hc.2) hs)

/-- Where, along a run whose steps meet a premise, the invariant survives a
step exactly when the condition holds, it holds throughout the run exactly
when the condition holds along it. -/
theorem forall_prefix_iff_along {Inv : σ → Prop} {premise : σ → ι → Prop}
    (hstep : ∀ s i, Inv s → premise s i → (Inv (step s i) ↔ cond s i))
    {labels : List ι} (hp : Along step premise s labels) (hs : Inv s) :
    (∀ first, first <+: labels → Inv (run step s first)) ↔ Along step cond s labels :=
  forall_prefix_iff_along_of_imp (fun _ hi => hi) (fun s i hi hc => (hstep s i hi hc).mpr)
    (fun s i hi hc => (hstep s i hi hc).mp) hp hs

end CislunarDtn.LabelledRuns
