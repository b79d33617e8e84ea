import HydraSdr.Program.Device
import HydraSdr.Program.NextBlock

/-!
# The life of a stream

What can be in flight on a stream handed out by `rx_stream`, and what polling it, cancelling it
or dropping it leads to.  A poll is given the replies and completions that have arrived by then;
a blocking call is a sequence of polls.
-/

set_option autoImplicit false

namespace HydraSdr.Program

open HydraSdr.Computation

variable {F : Type} [SampleArithmetic F] {mode : SampleFormat}

/-- The operations of a stream that go through control transfers.  `waitBlock` is the blocking
`next_block`.
SRCLINE: rx/mod.rs:120-187 -/
inductive StreamCall : SampleFormat → Type where
  | start {mode : SampleFormat} : StreamCall mode
  | stop {mode : SampleFormat} : StreamCall mode
  | close {mode : SampleFormat} : StreamCall mode
  | waitBlock : StreamCall .rawAdc

namespace StreamCall

/-- What the control transfers of a call result in. -/
@[reducible] def Value : {mode : SampleFormat} → StreamCall mode → Type
  | _, .start => Unit
  | _, .stop => StreamingStats
  | _, .close => StreamingStats
  | _, .waitBlock => Unit

/-- What calling a method of the stream returns, before anything of it is polled. -/
def operation : {mode : SampleFormat} → (call : StreamCall mode) → StreamWorld F mode →
    Operation (StreamWorld F mode) (Result call.Value)
  | _, .start, _ => Receiver.start
  | _, .stop, _ => Receiver.stop
  | _, .close, _ => Receiver.close
  | _, .waitBlock, w => Receiver.refreshPacking w

end StreamCall

/-- An operation of a stream that has been built. -/
abbrev StreamFlight (F : Type) (mode : SampleFormat) (α : Type) :=
  Flight Transfer Transfer.Reply (StreamWorld F mode) α

/-- A stream: idle, borrowed by (or moved into) an operation, borrowed by a next-block or a read
future, dropped with its cleanup unfinished, or gone.  `found` is the endpoint of the queue that a
`start` found on a stopped stream. -/
inductive StreamPhase (F : Type) : SampleFormat → Type where
  | idle {mode : SampleFormat} (receiver : Receiver F mode) : StreamPhase F mode
  | operating {mode : SampleFormat} (receiver : Receiver F mode) (found : Option ℕ)
      (call : StreamCall mode) (flight : StreamFlight F mode (Result call.Value)) :
      StreamPhase F mode
  | reading (receiver : Receiver F .rawAdc) (future : NextBlockFuture F) : StreamPhase F .rawAdc
  | awaiting (receiver : Receiver F .f32Iq) (operation : ReadOperation) : StreamPhase F .f32Iq
  | cleaning {mode : SampleFormat} (receiver : Receiver F mode)
      (flight : StreamFlight F mode Unit) : StreamPhase F mode
  | gone {mode : SampleFormat} : StreamPhase F mode

/-- What the caller sees.  A read event has the queue that the call left behind, a `started` event
also the endpoint it found. -/
inductive CallEvent (F : Type) (mode : SampleFormat) where
  | opened (result : Result Unit)
  | device (operation : DeviceOperation mode) (result : Result Unit)
  | acquired (result : Result Unit)
  | started (stream : ℕ) (found : Option ℕ) (result : Result Unit) (queue : Option Queue)
  | stopped (stream : ℕ) (result : Result StreamingStats)
  | closed (stream : ℕ) (result : Result StreamingStats)
  | cleanedUp (stream : ℕ) (claim : ClaimAvailability)
  | block (stream : ℕ) (result : Result (Option SampleBlock)) (queue : Option Queue)
  | samples (stream : ℕ) (result : Result (List (Complex F))) (queue : Option Queue)

/-- What a step of one stream leads to. -/
structure StreamStep (F : Type) (mode : SampleFormat) where
  session : Session
  wire : Wire
  panic : Option Panic
  phase : StreamPhase F mode
  events : List (CallEvent F mode)

namespace StreamStep

def of (w : StreamWorld F mode) (phase : StreamPhase F mode) (events : List (CallEvent F mode)) :
    StreamStep F mode :=
  ⟨w.session, w.wire, w.panic, phase, events⟩

/-- A step that panics leaves the stream as it was. -/
def ofChecked (w : StreamWorld F mode) (phase : StreamPhase F mode)
    (step : Checked (StreamStep F mode)) : StreamStep F mode :=
  match step with
  | .ok step => step
  | .error panic => of (w.raise panic) phase []

end StreamStep

namespace StreamPhase

/-- Whether a stream, or what is left of it, owns the session and its claim. -/
def live : StreamPhase F mode → Bool
  | .gone => false
  | _ => true

/-- The receiver of a stream that is not gone. -/
def receiver? : {mode : SampleFormat} → StreamPhase F mode → Option (Receiver F mode)
  | _, .idle receiver => some receiver
  | _, .operating receiver _ _ _ => some receiver
  | _, .reading receiver _ => some receiver
  | _, .awaiting receiver _ => some receiver
  | _, .cleaning receiver _ => some receiver
  | _, .gone => none

/-- `Drop` of a claim.
SRCLINE: session.rs:323-334 -/
def dropClaim (w : StreamWorld F mode) (events : List (CallEvent F mode)) : StreamStep F mode :=
  if w.receiver.claim.cleanupArmed then
    let (w, operation) := RxStreamClaim.cleanup w
    .of w (.cleaning w.receiver (.unpolled operation.denote)) events
  else .of w .gone events

/-- `Drop` of a receiver: its queue goes before its claim. -/
def dropReceiver (w : StreamWorld F mode) (events : List (CallEvent F mode)) :
    StreamStep F mode :=
  dropClaim (w.onReceiver fun receiver => { receiver with queue := none }) events

/-- The endpoint a restart may keep. -/
def foundEndpoint (receiver : Receiver F mode) : Option ℕ :=
  if receiver.claim.receiver = .stopped then
    (receiver.queue.bind Queue.bulkIn).map BulkIn.id
  else none

/-- The endpoint that an operation found when it was polled first. -/
def foundBy {α : Type} (receiver : Receiver F mode) (found : Option ℕ) :
    StreamFlight F mode α → Option ℕ
  | .unpolled _ => foundEndpoint receiver
  | .polled _ => found

/-- What follows the result of a call.  A blocking `next_block` goes on to wait for a completion;
a close operation drops the claim. -/
def finishCall (stream : ℕ) (found : Option ℕ) (arrivals : List Arrival) :
    {mode : SampleFormat} → (call : StreamCall mode) → Result call.Value → StreamWorld F mode →
      Checked (StreamStep F mode)
  | _, .start, result, w =>
    .ok (.of w (.idle w.receiver) [.started stream found result w.receiver.queue])
  | _, .stop, result, w => .ok (.of w (.idle w.receiver) [.stopped stream result])
  | _, .close, result, w => .ok (dropClaim w [.closed stream result])
  | _, .waitBlock, .error e, w =>
    .ok (.of w (.idle w.receiver) [.block stream (.error e) w.receiver.queue])
  | _, .waitBlock, .ok _, w => do
    let (result, w, _) ← Receiver.waitNextBlock w arrivals
    pure (.of w (.idle w.receiver) [.block stream result w.receiver.queue])

/-- One poll of an operation of a stream. -/
def pollCall (stream : ℕ) (found : Option ℕ) (arrivals : List Arrival) (call : StreamCall mode)
    (outcome : StreamProgress F mode (Result call.Value) × StreamWorld F mode) :
    Checked (StreamStep F mode) :=
  match outcome with
  | (.finished result, w) => finishCall stream found arrivals call result w
  | (.waiting ticket request next, w) =>
    .ok (.of w (.operating w.receiver found call (.polled (.waiting ticket request next))) [])

/-- One poll of the cleanup of a dropped claim. -/
def pollCleanup (stream : ℕ) (outcome : StreamProgress F mode Unit × StreamWorld F mode) :
    StreamStep F mode :=
  match outcome with
  | (.finished _, w) => .of w .gone [.cleanedUp stream w.session.state.claim]
  | (.waiting ticket request next, w) =>
    .of w (.cleaning w.receiver (.polled (.waiting ticket request next))) []

/-- One poll of a next-block future. -/
def pollNextBlock (stream : ℕ) (outcome : NextBlockFuture.Outcome F) : StreamStep F .rawAdc :=
  match outcome with
  | (none, future, w, _) => .of w (.reading w.receiver future) []
  | (some result, future, w, _) =>
    .of w (.reading w.receiver future) [.block stream result w.receiver.queue]

/-- One poll of a read future. -/
def pollRead (stream : ℕ) (outcome : ReadOperation.Outcome F) : StreamStep F .f32Iq :=
  match outcome with
  | (none, operation, w, _) => .of w (.awaiting w.receiver operation) []
  | (some result, operation, w, _) =>
    .of w (.awaiting w.receiver operation) [.samples stream result w.receiver.queue]

/-- Poll whatever a stream has in flight. -/
def poll (stream : ℕ) (replies : List AnyReply) (arrivals : List Arrival) :
    {mode : SampleFormat} → StreamPhase F mode → (Receiver F mode → StreamWorld F mode) →
      Option (StreamStep F mode)
  | _, .operating receiver found call flight, view =>
    let w := view receiver
    some (.ofChecked w (.operating receiver found call flight)
      (pollCall stream (foundBy receiver found flight) arrivals call
        (flight.poll StreamWorld.port replies w)))
  | _, .reading receiver future, view =>
    let w := view receiver
    some (.ofChecked w (.reading receiver future)
      ((future.poll w replies arrivals).map (pollNextBlock stream)))
  | _, .awaiting receiver operation, view =>
    let w := view receiver
    some (.ofChecked w (.awaiting receiver operation)
      ((operation.poll w arrivals).map (pollRead stream)))
  | _, .cleaning receiver flight, view =>
    some (pollCleanup stream (flight.poll StreamWorld.port replies (view receiver)))
  | _, _, _ => none

/-- The operation a stream has in flight is dropped. -/
def cancel : {mode : SampleFormat} → StreamPhase F mode → (Receiver F mode → StreamWorld F mode) →
    Option (StreamStep F mode)
  | _, .operating receiver _ call _, view =>
    match call with
    | .close => some (dropReceiver (view receiver) [])
    | _ => some (.of (view receiver) (.idle receiver) [])
  | _, .reading receiver _, view => some (.of (view receiver) (.idle receiver) [])
  | _, .awaiting receiver _, view => some (.of (view receiver) (.idle receiver) [])
  | _, _, _ => none

/-- An idle stream is used by a call that does not rest in between, or by a new operation. -/
def onIdle (step : StreamWorld F mode → StreamStep F mode) (phase : StreamPhase F mode)
    (view : Receiver F mode → StreamWorld F mode) : Option (StreamStep F mode) :=
  match phase with
  | .idle receiver => some (step (view receiver))
  | _ => none

end StreamPhase

end HydraSdr.Program
