import HydraSdr.Program.Denotation
import HydraSdr.Program.Receiver

/-!
# The next-block future

`NextBlockFuture` of `rx/receiver.rs`.  A poll is given the replies and the completions that have
arrived by then.  The restarting state is an `async` block; it rests in the wait for a reply of
the restart (`restarting`) or in the wait for a completion (`filling`).
-/

set_option autoImplicit false

namespace HydraSdr.Program

open HydraSdr.Computation

variable {F : Type} [SampleArithmetic F]

/-- A reply to whatever transfer is being waited for. -/
abbrev AnyReply := (transfer : Transfer) → transfer.Reply

/-- An operation of a stream that waits for a reply. -/
abbrev StreamProgress (F : Type) (mode : SampleFormat) (α : Type) :=
  Progress Transfer Transfer.Reply (StreamWorld F mode) α

/-- `completed` has given its receiver away, `returned` is a restart whose `async` block has
returned.
SRCLINE: rx/receiver.rs:358-362, 379-383 -/
inductive NextBlockFuture (F : Type) where
  | direct
  | restarting (progress : StreamProgress F .rawAdc (Result Unit))
  | filling
  | completed
  | returned

namespace NextBlockFuture

/-- What a poll leads to: `none` is `Pending`. -/
abbrev Outcome (F : Type) :=
  Option (Result (Option SampleBlock)) × NextBlockFuture F × StreamWorld F .rawAdc × List Arrival

/-- `poll_next_block` and, once it is ready, `current_block`.  A pending future goes on as
`waiting`, a ready one has come to its `last` state.
SRCLINE: rx/receiver.rs:381-382, 391-400 -/
def fill (waiting last : NextBlockFuture F) (w : StreamWorld F .rawAdc) (arrivals : List Arrival) :
    Checked (Outcome F) := do
  let (result, w, arrivals) ← Receiver.pollNextBlock w arrivals
  match result with
  | none => pure (none, waiting, w, arrivals)
  | some (.error e) => pure (some (.error e), last, w, arrivals)
  | some (.ok _) =>
    let block ← Receiver.currentBlock w
    pure (some (block.map some), last, w, arrivals)

/-- The `async` block from the await of the restart on.
SRCLINE: rx/receiver.rs:380-382 -/
def restart (progress : StreamProgress F .rawAdc (Result Unit)) (w : StreamWorld F .rawAdc)
    (arrivals : List Arrival) : Checked (Outcome F) :=
  match progress with
  | .waiting ticket request next => .ok (none, .restarting (.waiting ticket request next), w, arrivals)
  | .finished (.error e) => .ok (some (.error e), .returned, w, arrivals)
  | .finished (.ok _) => fill .filling .returned w arrivals

/-- The restart of a future that has seen a change of packing, up to the first reply that is
missing. -/
def beginRestart (w : StreamWorld F .rawAdc) (replies : List AnyReply) :
    StreamProgress F .rawAdc (Result Unit) × StreamWorld F .rawAdc :=
  (Flight.unpolled (Receiver.refreshPacking w).denote).poll StreamWorld.port replies w

/-- SRCLINE: rx/receiver.rs:373-405 -/
def poll (future : NextBlockFuture F) (w : StreamWorld F .rawAdc) (replies : List AnyReply)
    (arrivals : List Arrival) : Checked (Outcome F) :=
  match future with
  | .direct =>
    if Receiver.packingChanged w then
      restart (beginRestart w replies).1 (beginRestart w replies).2 arrivals
    else fill .direct .completed w arrivals
  | .restarting progress =>
    let (progress, w) := progress.resumeAll StreamWorld.port replies w
    restart progress w arrivals
  | .filling => fill .filling .returned w arrivals
  | .completed => .error (.expectFailed "next-block future polled after completion")
  | .returned => .error .resumedAfterCompletion

end NextBlockFuture

end HydraSdr.Program
