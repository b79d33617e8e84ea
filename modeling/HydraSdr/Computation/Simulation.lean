import Mathlib.Data.Nat.Notation
import Mathlib.Logic.Basic

/-!
# Runs that follow other runs

A machine follows another one if each action of the other one is answered by some actions of its own
that keep a relation between their states.  Which actions these are may depend on the state that the
action is taken in.
-/

set_option autoImplicit false

namespace HydraSdr.Computation

variable {σ τ ι κ : Type}

/-- The answers to the actions of a run, one after the other. -/
def answers (step : σ → ι → σ) (answer : σ → ι → List κ) : σ → List ι → List κ
  | _, [] => []
  | s, action :: actions => answer s action ++ answers step answer (step s action) actions

/-- What holds of each single answer holds of all of them. -/
theorem forall_answers {step : σ → ι → σ} {answer : σ → ι → List κ} {p : κ → Prop}
    (h : ∀ s action, ∀ own ∈ answer s action, p own) (s : σ) (actions : List ι) :
    ∀ own ∈ answers step answer s actions, p own := by
  induction actions generalizing s with
  | nil => exact fun own hmem => absurd hmem List.not_mem_nil
  | cons action actions ih =>
    intro own hmem
    rcases List.mem_append.mp hmem with hfirst | hrest
    · exact h s action own hfirst
    · exact ih (step s action) own hrest

/-- **A run is followed by its answers**, if every action is, in the states that `inv` admits. -/
theorem follows_run {step : σ → ι → σ} {step' : τ → κ → τ} {answer : σ → ι → List κ}
    {rel : σ → τ → Prop} {inv : σ → Prop} (hinv : ∀ s action, inv s → inv (step s action))
    (hstep : ∀ s t action, inv s → rel s t →
      rel (step s action) ((answer s action).foldl step' t))
    (actions : List ι) {s : σ} {t : τ} (hs : inv s) (hrel : rel s t) :
    rel (actions.foldl step s) ((answers step answer s actions).foldl step' t) := by
  induction actions generalizing s t with
  | nil => exact hrel
  | cons action actions ih =>
    rw [answers, List.foldl_append, List.foldl_cons]
    exact ih (hinv s action hs) (hstep s t action hs hrel)

end HydraSdr.Computation
