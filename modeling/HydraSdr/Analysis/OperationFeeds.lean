import HydraSdr.Computation.Embedding
import HydraSdr.Program.Denotation

/-!
# Feeding the combinators

The rules of `Resumption.feed` for the combinators of `maybe_future.rs`: what an operation
expression leads to when it is fed replies, from what its parts lead to.
-/

set_option autoImplicit false

namespace HydraSdr.Analysis

open HydraSdr.Program HydraSdr.Computation Resumption

section Rules

variable {ℓ : Type} {Reply : ℓ → Type} {ε σ α β ι : Type}

/-- What an operation expression leads to when it is fed replies. -/
abbrev feedOperation (port : Port ℓ Reply σ) (operation : MaybeFuture ℓ Reply ε σ α) :
    Supply ℓ Reply → σ → Option (α × Supply ℓ Reply) × σ :=
  operation.denote.feed port

variable {port : Port ℓ Reply σ} (replies : Supply ℓ Reply) (s : σ)

@[simp] theorem feed_ready (value : α) :
    feedOperation port (.ready value : MaybeFuture ℓ Reply ε σ α) replies s =
      (some (value, replies), s) := rfl

@[simp] theorem feed_leaf_nil (request : ℓ) :
    feedOperation port (.leaf request : MaybeFuture ℓ Reply ε σ (Reply request)) [] s =
      (none, port.issue request s) := rfl

@[simp] theorem feed_leaf_cons (request : ℓ) (reply : (request : ℓ) → Reply request) :
    feedOperation port (.leaf request : MaybeFuture ℓ Reply ε σ (Reply request))
        (reply :: replies) s =
      (some (reply request, replies),
        port.settle (port.ticket s) request (reply request) (port.issue request s)) := rfl

theorem feed_map (source : MaybeFuture ℓ Reply ε σ α) (f : α → σ → σ × β) :
    feedOperation port (source.map f) replies s =
      onFed (feedOperation port source replies s) fun a rest s => (some ((f a s).2, rest), (f a s).1) := by
  unfold feedOperation
  rw [MaybeFuture.denote_map, feed_bind]
  rfl

theorem feed_mapOk (source : MaybeFuture ℓ Reply ε σ (Except ε α)) (f : α → β) :
    feedOperation port (source.mapOk f) replies s =
      onFed (feedOperation port source replies s) fun a rest s => (some (a.map f, rest), s) :=
  feed_map replies s source _

theorem feed_mapErr (source : MaybeFuture ℓ Reply ε σ (Except ε α)) (f : ε → ε) :
    feedOperation port (source.mapErr f) replies s =
      onFed (feedOperation port source replies s) fun a rest s => (some (a.mapError f, rest), s) :=
  feed_map replies s source _

theorem feed_andThen (wrapped : MaybeFuture ℓ Reply ε σ (Except ε α))
    (continuation : α → σ → σ × MaybeFuture ℓ Reply ε σ (Except ε β)) :
    feedOperation port (wrapped.andThen continuation) replies s =
      tryFed (feedOperation port wrapped replies s) fun a rest s =>
        feedOperation port (continuation a s).2 rest (continuation a s).1 := by
  unfold feedOperation
  rw [MaybeFuture.denote_andThen, feed_bind_try]
  · rfl
  · exact fun _ => rfl

theorem feed_continueWith (wrapped : MaybeFuture ℓ Reply ε σ α)
    (continuation : α → σ → σ × MaybeFuture ℓ Reply ε σ β) :
    feedOperation port (wrapped.continueWith continuation) replies s =
      onFed (feedOperation port wrapped replies s) fun a rest s =>
        feedOperation port (continuation a s).2 rest (continuation a s).1 := by
  unfold feedOperation
  rw [MaybeFuture.denote_continueWith, feed_bind]
  rfl

@[simp] theorem feed_left (operation : MaybeFuture ℓ Reply ε σ α) :
    feedOperation port (.left operation) replies s = feedOperation port operation replies s := rfl

@[simp] theorem feed_right (operation : MaybeFuture ℓ Reply ε σ α) :
    feedOperation port (.right operation) replies s = feedOperation port operation replies s := rfl

@[simp] theorem feed_sequence_nil (execute : ι → MaybeFuture ℓ Reply ε σ (Except ε Unit)) :
    feedOperation port (.sequence [] execute) replies s = (some (.ok (), replies), s) := rfl

theorem feed_sequence_cons (command : ι) (commands : List ι)
    (execute : ι → MaybeFuture ℓ Reply ε σ (Except ε Unit)) :
    feedOperation port (.sequence (command :: commands) execute) replies s =
      tryFed (feedOperation port (execute command) replies s) fun _ =>
        feedOperation port (.sequence commands execute) :=
  feed_tryEach_cons (fun command => (execute command).denote) command commands replies s

end Rules

end HydraSdr.Analysis
