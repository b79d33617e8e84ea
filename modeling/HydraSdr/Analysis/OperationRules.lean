import HydraSdr.Program.Denotation

/-!
# Rules for the combinators

The rely/guarantee rule of each combinator of `maybe_future.rs`.  A closure runs in the segment in
which its predecessor completes, so the rules for `map`, `and_then` and `continue_with` put it into
the postcondition of the predecessor; only a leaf waits.
-/

set_option autoImplicit false

namespace HydraSdr.Analysis

open HydraSdr.Program HydraSdr.Computation

variable {ℓ : Type} {Reply : ℓ → Type} {ε σ α β ι : Type} {port : Port ℓ Reply σ}
  {rely guar : σ → σ → Prop}

/-- The rely/guarantee reading of an operation expression. -/
abbrev OperationSafe (port : Port ℓ Reply σ) (rely guar : σ → σ → Prop)
    (post : σ → α → σ → Prop) (operation : MaybeFuture ℓ Reply ε σ α) (start s : σ) : Prop :=
  Safe port rely guar post operation.denote start s

theorem safe_ready {post : σ → α → σ → Prop} {value : α} {start s : σ} :
    OperationSafe port rely guar post (.ready value : MaybeFuture ℓ Reply ε σ α) start s ↔
      post start value s :=
  Iff.rfl

/-- A leaf is submitted, others act, and its reply arrives. -/
theorem safe_leaf {request : ℓ} {post : σ → Reply request → σ → Prop} {start s : σ} :
    OperationSafe port rely guar post (.leaf request : MaybeFuture ℓ Reply ε σ (Reply request))
        start s ↔
      guar start (port.issue request s) ∧ ∀ s', rely (port.issue request s) s' → ∀ reply,
        post s' reply (port.settle (port.ticket s) request reply s') :=
  Iff.rfl

theorem safe_map {post : σ → β → σ → Prop} {source : MaybeFuture ℓ Reply ε σ α}
    {f : α → σ → σ × β} {start s : σ} :
    OperationSafe port rely guar post (source.map f) start s ↔
      OperationSafe port rely guar (fun start a s => post start (f a s).2 (f a s).1) source
        start s := by
  unfold OperationSafe
  rw [MaybeFuture.denote_map, safe_bind]
  exact Iff.rfl

theorem safe_mapOk {post : σ → Except ε β → σ → Prop} {source : MaybeFuture ℓ Reply ε σ (Except ε α)}
    {f : α → β} {start s : σ} :
    OperationSafe port rely guar post (source.mapOk f) start s ↔
      OperationSafe port rely guar (fun start a s => post start (a.map f) s) source start s :=
  safe_map

theorem safe_mapErr {post : σ → Except ε α → σ → Prop}
    {source : MaybeFuture ℓ Reply ε σ (Except ε α)} {f : ε → ε} {start s : σ} :
    OperationSafe port rely guar post (source.mapErr f) start s ↔
      OperationSafe port rely guar (fun start a s => post start (a.mapError f) s) source start s :=
  safe_map

/-- The postcondition of the predecessor of `and_then`. -/
def AfterOk (port : Port ℓ Reply σ) (rely guar : σ → σ → Prop) (post : σ → Except ε β → σ → Prop)
    (continuation : α → σ → σ × MaybeFuture ℓ Reply ε σ (Except ε β)) (start : σ)
    (result : Except ε α) (s : σ) : Prop :=
  match result with
  | .ok a => OperationSafe port rely guar post (continuation a s).2 start (continuation a s).1
  | .error e => post start (.error e) s

theorem safe_andThen {post : σ → Except ε β → σ → Prop}
    {wrapped : MaybeFuture ℓ Reply ε σ (Except ε α)}
    {continuation : α → σ → σ × MaybeFuture ℓ Reply ε σ (Except ε β)} {start s : σ} :
    OperationSafe port rely guar post (wrapped.andThen continuation) start s ↔
      OperationSafe port rely guar (AfterOk port rely guar post continuation) wrapped start s := by
  unfold OperationSafe
  rw [MaybeFuture.denote_andThen, safe_bind]
  refine iff_of_eq (congrArg (fun post => Safe port rely guar post wrapped.denote start s) ?_)
  funext start result s
  cases result <;> rfl

theorem safe_continueWith {post : σ → β → σ → Prop} {wrapped : MaybeFuture ℓ Reply ε σ α}
    {continuation : α → σ → σ × MaybeFuture ℓ Reply ε σ β} {start s : σ} :
    OperationSafe port rely guar post (wrapped.continueWith continuation) start s ↔
      OperationSafe port rely guar (fun start a s =>
        OperationSafe port rely guar post (continuation a s).2 start (continuation a s).1)
        wrapped start s := by
  unfold OperationSafe
  rw [MaybeFuture.denote_continueWith, safe_bind]
  exact Iff.rfl

theorem safe_left {post : σ → α → σ → Prop} {operation : MaybeFuture ℓ Reply ε σ α} {start s : σ} :
    OperationSafe port rely guar post (.left operation) start s ↔
      OperationSafe port rely guar post operation start s :=
  Iff.rfl

theorem safe_right {post : σ → α → σ → Prop} {operation : MaybeFuture ℓ Reply ε σ α}
    {start s : σ} :
    OperationSafe port rely guar post (.right operation) start s ↔
      OperationSafe port rely guar post operation start s :=
  Iff.rfl

/-- The rule for command sequences: `inv` holds before each of the commands that are left. -/
theorem safe_sequence {post : σ → Except ε Unit → σ → Prop} (inv : List ι → σ → σ → Prop)
    {execute : ι → MaybeFuture ℓ Reply ε σ (Except ε Unit)} {commands : List ι} {start s : σ}
    (hcommand : ∀ command commands start s, inv (command :: commands) start s →
      OperationSafe port rely guar (fun start result s => match result with
        | .ok _ => inv commands start s
        | .error e => post start (.error e) s) (execute command) start s)
    (hend : ∀ start s, inv [] start s → post start (.ok ()) s) (h : inv commands start s) :
    OperationSafe port rely guar post (.sequence commands execute) start s :=
  safe_tryEach inv hcommand hend commands h

end HydraSdr.Analysis
