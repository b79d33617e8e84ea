import Mathlib.Data.List.Infix

/-!
# Operations that can be waited or polled

The combinators of `maybe_future.rs` and the command `Sequence` of `protocol.rs`, with
both of their hand-written executions: `MaybeFuture.wait` follows the blocking `wait`
methods, `MaybeFuture.intoFuture` and `Future.poll` follow the `IntoFuture` and `Future`
implementations.

A closure is `FnOnce` over whatever host state it captured.  It is given as two functions of
its argument and of the state it finds: what it does to that state, and what it returns.
A leaf is one transport request; `Reply` says what its result looks like.
-/

set_option autoImplicit false

namespace HydraSdr.Program

/-- An operation expression.  `mapping` is `nusb`'s `Map`, `chained` is the struct `AndThen`,
`continued` the struct `ContinueWith`, `left` and `right` the two variants of `Either`.
SRCLINE: maybe_future.rs:21-268, protocol.rs:236-265 -/
inductive MaybeFuture (ℓ : Type) (Reply : ℓ → Type) (ε σ : Type) : Type → Type 1 where
  | ready {α : Type} (value : α) : MaybeFuture ℓ Reply ε σ α
  | leaf (request : ℓ) : MaybeFuture ℓ Reply ε σ (Reply request)
  | mapping {α β : Type} (source : MaybeFuture ℓ Reply ε σ α) (effect : α → σ → σ)
      (value : α → σ → β) : MaybeFuture ℓ Reply ε σ β
  | chained {α β : Type} (wrapped : MaybeFuture ℓ Reply ε σ (Except ε α)) (effect : α → σ → σ)
      (next : α → σ → MaybeFuture ℓ Reply ε σ (Except ε β)) : MaybeFuture ℓ Reply ε σ (Except ε β)
  | continued {α β : Type} (wrapped : MaybeFuture ℓ Reply ε σ α) (effect : α → σ → σ)
      (next : α → σ → MaybeFuture ℓ Reply ε σ β) : MaybeFuture ℓ Reply ε σ β
  | left {α : Type} (operation : MaybeFuture ℓ Reply ε σ α) : MaybeFuture ℓ Reply ε σ α
  | right {α : Type} (operation : MaybeFuture ℓ Reply ε σ α) : MaybeFuture ℓ Reply ε σ α
  | sequence {ι : Type} (commands : List ι)
      (execute : ι → MaybeFuture ℓ Reply ε σ (Except ε Unit)) :
      MaybeFuture ℓ Reply ε σ (Except ε Unit)

namespace MaybeFuture

variable {ℓ : Type} {Reply : ℓ → Type} {ε σ α β : Type}

/-- `map`, with one closure that may act on the host state.  The function runs in the poll in
which its source becomes ready. -/
def map (source : MaybeFuture ℓ Reply ε σ α) (f : α → σ → σ × β) : MaybeFuture ℓ Reply ε σ β :=
  .mapping source (fun a s => (f a s).1) (fun a s => (f a s).2)

/-- `map_ok` with a pure function. -/
def mapOk (source : MaybeFuture ℓ Reply ε σ (Except ε α)) (f : α → β) :
    MaybeFuture ℓ Reply ε σ (Except ε β) :=
  source.map fun result s => (s, result.map f)

/-- `map_err` with a pure function. -/
def mapErr (source : MaybeFuture ℓ Reply ε σ (Except ε α)) (f : ε → ε) :
    MaybeFuture ℓ Reply ε σ (Except ε α) :=
  source.map fun result s => (s, result.mapError f)

/-- `and_then`: the continuation runs on `Ok` only.
SRCLINE: maybe_future.rs:42-53 -/
def andThen (wrapped : MaybeFuture ℓ Reply ε σ (Except ε α))
    (continuation : α → σ → σ × MaybeFuture ℓ Reply ε σ (Except ε β)) :
    MaybeFuture ℓ Reply ε σ (Except ε β) :=
  .chained wrapped (fun a s => (continuation a s).1) (fun a s => (continuation a s).2)

/-- `continue_with`: the continuation runs on every result.
SRCLINE: maybe_future.rs:55-65 -/
def continueWith (wrapped : MaybeFuture ℓ Reply ε σ α)
    (continuation : α → σ → σ × MaybeFuture ℓ Reply ε σ β) : MaybeFuture ℓ Reply ε σ β :=
  .continued wrapped (fun a s => (continuation a s).1) (fun a s => (continuation a s).2)

/-- Delay construction of an operation that may submit IO eagerly.
SRCLINE: maybe_future.rs:298-305 -/
def defer (operation : σ → σ × MaybeFuture ℓ Reply ε σ α) : MaybeFuture ℓ Reply ε σ α :=
  (MaybeFuture.ready ()).continueWith fun _ s => operation s

end MaybeFuture

/-- Something observable that an execution did: it submitted a leaf request, or it ran a
closure, which found the host in one state and left it in another. -/
inductive Event (ℓ σ : Type) where
  | submitted (request : ℓ)
  | ran (before after : σ)

/-- The host state together with everything done so far, oldest first. -/
structure Execution (ℓ σ : Type) where
  host : σ
  trace : List (Event ℓ σ)

namespace Execution

variable {ℓ σ : Type}

def submit (request : ℓ) (run : Execution ℓ σ) : Execution ℓ σ :=
  { run with trace := run.trace ++ [.submitted request] }

def call (effect : σ → σ) (run : Execution ℓ σ) : Execution ℓ σ :=
  ⟨effect run.host, run.trace ++ [.ran run.host (effect run.host)]⟩

end Execution

/-- What the transport answers, and how often a submitted request is reported `Pending` before
it is ready.  Both may depend on everything done so far. -/
structure Backend (ℓ : Type) (Reply : ℓ → Type) (σ : Type) where
  reply : (request : ℓ) → List (Event ℓ σ) → Reply request
  pendings : ℓ → List (Event ℓ σ) → ℕ

section Waiting

variable {ℓ : Type} {Reply : ℓ → Type} {ε σ : Type}

/-- The blocking loop of `Sequence::wait`.
SRCLINE: protocol.rs:257-265 -/
def sequenceWait {ι : Type} (wait : ι → Execution ℓ σ → Except ε Unit × Execution ℓ σ) :
    List ι → Execution ℓ σ → Except ε Unit × Execution ℓ σ
  | [], run => (.ok (), run)
  | command :: commands, run =>
    match wait command run with
    | (.ok _, run') => sequenceWait wait commands run'
    | (.error e, run') => (.error e, run')

/-- The blocking execution: the `wait` method of each implementation.
SRCLINE: maybe_future.rs:35-39, 93-103, 171-182, 255-268 -/
def MaybeFuture.wait (backend : Backend ℓ Reply σ) {α : Type} :
    MaybeFuture ℓ Reply ε σ α → Execution ℓ σ → α × Execution ℓ σ
  | .ready value, run => (value, run)
  | .leaf request, run =>
    let run := run.submit request
    (backend.reply request run.trace, run)
  | .mapping source effect value, run =>
    let (a, run) := source.wait backend run
    (value a run.host, run.call (effect a))
  | .chained wrapped effect next, run =>
    match wrapped.wait backend run with
    | (.ok a, run) => (next a run.host).wait backend (run.call (effect a))
    | (.error e, run) => (.error e, run)
  | .continued wrapped effect next, run =>
    let (a, run) := wrapped.wait backend run
    (next a run.host).wait backend (run.call (effect a))
  | .left operation, run => operation.wait backend run
  | .right operation, run => operation.wait backend run
  | .sequence commands execute, run =>
    sequenceWait (fun command => (execute command).wait backend) commands run

end Waiting

/-- How far a leaf future has come: not yet polled, submitted with so many `Pending` results
still to report, or done. -/
inductive LeafProgress where
  | idle
  | submitted (pendings : ℕ)
  | completed

/-- The futures behind `into_future`.  An `Option` field that `poll` takes is a `Bool` saying
whether it has been taken; once `second` of a two-stage future is `Some`, `poll` looks at
nothing else, so that state is a constructor of its own.  `sequenceStart`, `sequenceAwait` and
`sequenceDone` are the states of the `async` block of `Sequence`.
SRCLINE: maybe_future.rs:23-33, 106-110, 184-188, 270-273, protocol.rs:246-256 -/
inductive Future (ℓ : Type) (Reply : ℓ → Type) (ε σ : Type) : Type → Type 1 where
  | ready {α : Type} (value : α) (taken : Bool) : Future ℓ Reply ε σ α
  | leaf (request : ℓ) (progress : LeafProgress) : Future ℓ Reply ε σ (Reply request)
  | map {α β : Type} (source : Future ℓ Reply ε σ α) (effect : α → σ → σ)
      (value : α → σ → β) (functionTaken : Bool) : Future ℓ Reply ε σ β
  | andThen {α β : Type} (first : Future ℓ Reply ε σ (Except ε α)) (firstTaken : Bool)
      (effect : α → σ → σ) (next : α → σ → Future ℓ Reply ε σ (Except ε β))
      (continuationTaken : Bool) : Future ℓ Reply ε σ (Except ε β)
  | andThenSecond {β : Type} (second : Future ℓ Reply ε σ (Except ε β)) :
      Future ℓ Reply ε σ (Except ε β)
  | continueWith {α β : Type} (first : Future ℓ Reply ε σ α) (firstTaken : Bool)
      (effect : α → σ → σ) (next : α → σ → Future ℓ Reply ε σ β) (continuationTaken : Bool) :
      Future ℓ Reply ε σ β
  | continueWithSecond {β : Type} (second : Future ℓ Reply ε σ β) : Future ℓ Reply ε σ β
  | eitherLeft {α : Type} (operation : Future ℓ Reply ε σ α) : Future ℓ Reply ε σ α
  | eitherRight {α : Type} (operation : Future ℓ Reply ε σ α) : Future ℓ Reply ε σ α
  | sequenceStart {ι : Type} (commands : List ι)
      (execute : ι → Future ℓ Reply ε σ (Except ε Unit)) : Future ℓ Reply ε σ (Except ε Unit)
  | sequenceAwait {ι : Type} (current : Future ℓ Reply ε σ (Except ε Unit)) (commands : List ι)
      (execute : ι → Future ℓ Reply ε σ (Except ε Unit)) : Future ℓ Reply ε σ (Except ε Unit)
  | sequenceDone : Future ℓ Reply ε σ (Except ε Unit)

section Polling

variable {ℓ : Type} {Reply : ℓ → Type} {ε σ : Type}

/-- `into_future`.  A continuation's operation is turned into a future as soon as the
continuation has returned it, so the two steps are composed here. -/
def MaybeFuture.intoFuture {α : Type} : MaybeFuture ℓ Reply ε σ α → Future ℓ Reply ε σ α
  | .ready value => .ready value false
  | .leaf request => .leaf request .idle
  | .mapping source effect value => .map source.intoFuture effect value false
  | .chained wrapped effect next =>
    .andThen wrapped.intoFuture false effect (fun a s => (next a s).intoFuture) false
  | .continued wrapped effect next =>
    .continueWith wrapped.intoFuture false effect (fun a s => (next a s).intoFuture) false
  | .left operation => .eitherLeft operation.intoFuture
  | .right operation => .eitherRight operation.intoFuture
  | .sequence commands execute =>
    .sequenceStart commands fun command => (execute command).intoFuture

/-- The result of one poll: still pending, ready with a value, or one of the `expect`s failed.
The future is the one left behind. -/
inductive Poll (ℓ : Type) (Reply : ℓ → Type) (ε σ α : Type) : Type 1 where
  | pending (future : Future ℓ Reply ε σ α) (run : Execution ℓ σ)
  | ready (value : α) (future : Future ℓ Reply ε σ α) (run : Execution ℓ σ)
  | panicked

/-- The future left behind by a poll, rewrapped by the future that polled it. -/
def Poll.wrap {α : Type} (f : Future ℓ Reply ε σ α → Future ℓ Reply ε σ α) :
    Poll ℓ Reply ε σ α → Poll ℓ Reply ε σ α
  | .pending future run => .pending (f future) run
  | .ready value future run => .ready value (f future) run
  | .panicked => .panicked

/-- One resumption of the `async` block of `Sequence` from the top of its loop.
SRCLINE: protocol.rs:249-255 -/
def sequencePoll {ι : Type} (execute : ι → Future ℓ Reply ε σ (Except ε Unit))
    (poll : ι → Execution ℓ σ → Poll ℓ Reply ε σ (Except ε Unit)) :
    List ι → Execution ℓ σ → Poll ℓ Reply ε σ (Except ε Unit)
  | [], run => .ready (.ok ()) .sequenceDone run
  | command :: commands, run =>
    match poll command run with
    | .pending current run => .pending (.sequenceAwait current commands execute) run
    | .ready (.ok _) _ run => sequencePoll execute poll commands run
    | .ready (.error e) _ run => .ready (.error e) .sequenceDone run
    | .panicked => .panicked

/-- One poll.  The `loop` of the two-stage futures turns at most twice: once `first` is ready
the freshly built `second` is polled in the same call.
SRCLINE: maybe_future.rs:114-144, 192-224, 277-289 -/
def Future.poll (backend : Backend ℓ Reply σ) {α : Type} :
    Future ℓ Reply ε σ α → Execution ℓ σ → Poll ℓ Reply ε σ α
  | .ready value taken, run => if taken then .panicked else .ready value (.ready value true) run
  | .leaf request progress, run =>
    match progress with
    | .idle =>
      let run := run.submit request
      match backend.pendings request run.trace with
      | 0 => .ready (backend.reply request run.trace) (.leaf request .completed) run
      | pendings + 1 => .pending (.leaf request (.submitted pendings)) run
    | .submitted 0 => .ready (backend.reply request run.trace) (.leaf request .completed) run
    | .submitted (pendings + 1) => .pending (.leaf request (.submitted pendings)) run
    | .completed => .panicked
  | .map source effect value functionTaken, run =>
    match source.poll backend run with
    | .pending source run => .pending (.map source effect value functionTaken) run
    | .ready a source run =>
      if functionTaken then .panicked
      else .ready (value a run.host) (.map source effect value true) (run.call (effect a))
    | .panicked => .panicked
  | .andThen first firstTaken effect next continuationTaken, run =>
    if firstTaken then .panicked
    else match first.poll backend run with
      | .pending first run => .pending (.andThen first false effect next continuationTaken) run
      | .ready (.error e) first run =>
        .ready (.error e) (.andThen first true effect next continuationTaken) run
      | .ready (.ok a) _ run =>
        if continuationTaken then .panicked
        else ((next a run.host).poll backend (run.call (effect a))).wrap .andThenSecond
      | .panicked => .panicked
  | .andThenSecond second, run => (second.poll backend run).wrap .andThenSecond
  | .continueWith first firstTaken effect next continuationTaken, run =>
    if firstTaken then .panicked
    else match first.poll backend run with
      | .pending first run => .pending (.continueWith first false effect next continuationTaken) run
      | .ready a _ run =>
        if continuationTaken then .panicked
        else ((next a run.host).poll backend (run.call (effect a))).wrap
          .continueWithSecond
      | .panicked => .panicked
  | .continueWithSecond second, run => (second.poll backend run).wrap .continueWithSecond
  | .eitherLeft operation, run => (operation.poll backend run).wrap .eitherLeft
  | .eitherRight operation, run => (operation.poll backend run).wrap .eitherRight
  | .sequenceStart commands execute, run =>
    sequencePoll execute (fun command => (execute command).poll backend) commands run
  | .sequenceAwait current commands execute, run =>
    match current.poll backend run with
    | .pending current run => .pending (.sequenceAwait current commands execute) run
    | .ready (.ok _) _ run =>
      sequencePoll execute (fun command => (execute command).poll backend) commands run
    | .ready (.error e) _ run => .ready (.error e) .sequenceDone run
    | .panicked => .panicked
  | .sequenceDone, _ => .panicked

/-- What `polls` polls lead to, stopping at the first one that is not pending. -/
def Future.pollTimes (backend : Backend ℓ Reply σ) {α : Type} (future : Future ℓ Reply ε σ α)
    (run : Execution ℓ σ) : ℕ → Poll ℓ Reply ε σ α
  | 0 => .pending future run
  | polls + 1 =>
    match future.pollTimes backend run polls with
    | .pending future run => future.poll backend run
    | other => other

end Polling

end HydraSdr.Program
