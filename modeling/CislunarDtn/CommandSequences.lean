import Mathlib.Data.List.Basic
import Mathlib.Data.Nat.Notation

/-!
# Sequences of commands that can fail

Commands are performed one after the other, up to the first that fails. A
command that fails leaves the state as it is, and nothing undoes those before
it, so that the state after a failure is that after a prefix of the commands.
-/

namespace CislunarDtn.CommandSequences

variable {σ κ ε : Type*} (act : σ → κ → σ)

/-- Perform commands up to the first that fails. The outcomes are given by position. -/
def perform (outcome : ℕ → Except ε Unit) : σ → List κ → σ × Except ε Unit
  | s, [] => (s, .ok ())
  | s, c :: commands =>
    match outcome 0 with
    | .ok () => perform (fun i => outcome (i + 1)) (act s c) commands
    | .error e => (s, .error e)

/-- Every command succeeds. -/
def allSucceed : ℕ → Except ε Unit := fun _ => .ok ()

/-- What every command keeps is kept whichever of them fails. -/
theorem perform_invariant {Inv : σ → Prop} {commands : List κ}
    (h : ∀ s, ∀ c ∈ commands, Inv s → Inv (act s c)) (outcome : ℕ → Except ε Unit) {s : σ}
    (hs : Inv s) : Inv (perform act outcome s commands).1 := by
  induction commands generalizing s outcome with
  | nil => exact hs
  | cons c commands ih =>
    rw [perform]
    cases outcome 0 with
    | error e => exact hs
    | ok =>
      exact ih (fun s c hc => h s c (List.mem_cons_of_mem _ hc)) _ (h s c List.mem_cons_self hs)

/-- The command at one position fails. -/
def failAt (k : ℕ) (e : ε) : ℕ → Except ε Unit := fun i => if i = k then .error e else .ok ()

/-- Without a failure all commands are performed. -/
theorem perform_allSucceed (s : σ) (commands : List κ) :
    perform act (allSucceed : ℕ → Except ε Unit) s commands = (commands.foldl act s, .ok ()) := by
  induction commands generalizing s with
  | nil => rfl
  | cons c commands ih => exact ih (act s c)

/-- A success means that all commands were performed. -/
theorem perform_of_ok {outcome : ℕ → Except ε Unit} {s : σ} {commands : List κ}
    (h : (perform act outcome s commands).2 = .ok ()) :
    (perform act outcome s commands).1 = commands.foldl act s := by
  induction commands generalizing s outcome with
  | nil => rfl
  | cons c commands ih =>
    rw [perform] at h ⊢
    cases hfirst : outcome 0 with
    | error e =>
      rw [hfirst] at h
      cases h
    | ok _ =>
      rw [hfirst] at h
      exact ih h

theorem failAt_succ (k : ℕ) (e : ε) : (fun i => failAt (k + 1) e (i + 1)) = failAt k e := by
  funext i
  simp [failAt]

/-- A failure leaves what the commands before it have done. -/
theorem perform_failAt (k : ℕ) (e : ε) (s : σ) (commands : List κ) :
    perform act (failAt k e) s commands =
      if k < commands.length then ((commands.take k).foldl act s, .error e)
      else (commands.foldl act s, .ok ()) := by
  induction commands generalizing s k with
  | nil => simp [perform]
  | cons c commands ih =>
    cases k with
    | zero => simp [perform, failAt]
    | succ k =>
      have hfirst : failAt (k + 1) e 0 = .ok () := if_neg (by omega)
      rw [perform, hfirst, failAt_succ]
      simpa using ih k (act s c)

end CislunarDtn.CommandSequences
