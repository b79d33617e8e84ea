import HydraSdr.Computation.Resumption
import HydraSdr.Program.MaybeFuture

/-!
# Operations as resumptions

What an operation expression has left to do after each wait.  Interference, cancellation and the
invariants of whole runs are about this reading of it; `Analysis.PollingWaiting` says that
waiting and polling agree, and `Analysis.Denotation` that the reading here is the blocking one.
-/

set_option autoImplicit false

namespace HydraSdr.Program

open HydraSdr.Computation

variable {ℓ : Type} {Reply : ℓ → Type} {ε σ α β ι : Type}

namespace MaybeFuture

/-- The resumption an operation expression stands for. -/
def denote {α : Type} : MaybeFuture ℓ Reply ε σ α → Resumption ℓ Reply σ α
  | .ready value => .done value
  | .leaf request => .submit request .done
  | .mapping source effect value =>
    source.denote.bind fun a => .act (effect a) fun s => .done (value a s)
  | .chained wrapped effect next =>
    wrapped.denote.bind fun
      | .ok a => .act (effect a) fun s => (next a s).denote
      | .error e => .done (.error e)
  | .continued wrapped effect next =>
    wrapped.denote.bind fun a => .act (effect a) fun s => (next a s).denote
  | .left operation => operation.denote
  | .right operation => operation.denote
  | .sequence commands execute =>
    Resumption.tryEach (fun command => (execute command).denote) commands

@[simp] theorem denote_ready (value : α) :
    (.ready value : MaybeFuture ℓ Reply ε σ α).denote = .done value := rfl

@[simp] theorem denote_leaf (request : ℓ) :
    (.leaf request : MaybeFuture ℓ Reply ε σ (Reply request)).denote = .submit request .done := rfl

@[simp] theorem denote_map (source : MaybeFuture ℓ Reply ε σ α) (f : α → σ → σ × β) :
    (source.map f).denote =
      source.denote.bind fun a => .act (fun s => (f a s).1) fun s => .done (f a s).2 := rfl

@[simp] theorem denote_mapOk (source : MaybeFuture ℓ Reply ε σ (Except ε α)) (f : α → β) :
    (source.mapOk f).denote =
      source.denote.bind fun a => .act (fun s => s) fun _ => .done (a.map f) := rfl

@[simp] theorem denote_mapErr (source : MaybeFuture ℓ Reply ε σ (Except ε α)) (f : ε → ε) :
    (source.mapErr f).denote =
      source.denote.bind fun a => .act (fun s => s) fun _ => .done (a.mapError f) := rfl

@[simp] theorem denote_andThen (wrapped : MaybeFuture ℓ Reply ε σ (Except ε α))
    (continuation : α → σ → σ × MaybeFuture ℓ Reply ε σ (Except ε β)) :
    (wrapped.andThen continuation).denote = wrapped.denote.bind fun
      | .ok a => .act (fun s => (continuation a s).1) fun s => (continuation a s).2.denote
      | .error e => .done (.error e) := by
  unfold andThen
  rw [denote]

@[simp] theorem denote_continueWith (wrapped : MaybeFuture ℓ Reply ε σ α)
    (continuation : α → σ → σ × MaybeFuture ℓ Reply ε σ β) :
    (wrapped.continueWith continuation).denote = wrapped.denote.bind fun a =>
      .act (fun s => (continuation a s).1) fun s => (continuation a s).2.denote := rfl

@[simp] theorem denote_defer (operation : σ → σ × MaybeFuture ℓ Reply ε σ α) :
    (defer operation).denote =
      .act (fun s => (operation s).1) fun s => (operation s).2.denote := rfl

@[simp] theorem denote_left (operation : MaybeFuture ℓ Reply ε σ α) :
    (MaybeFuture.left operation).denote = operation.denote := rfl

@[simp] theorem denote_right (operation : MaybeFuture ℓ Reply ε σ α) :
    (MaybeFuture.right operation).denote = operation.denote := rfl

@[simp] theorem denote_sequence (commands : List ι)
    (execute : ι → MaybeFuture ℓ Reply ε σ (Except ε Unit)) :
    (MaybeFuture.sequence commands execute).denote =
      Resumption.tryEach (fun command => (execute command).denote) commands := rfl

end MaybeFuture

end HydraSdr.Program
