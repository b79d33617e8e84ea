import HydraSdr.Program.Processing
import HydraSdr.Program.Session

/-!
# Receive streams

The claim of `session.rs` and the stream lifecycle of `rx/receiver.rs`.  The host state of a
stream operation is a `StreamWorld`.  An operation that the source builds when called, and that
does something already then, is a function of the state it is called in.
-/

set_option autoImplicit false

namespace HydraSdr.Program

/-- What a stream holds of the session's exclusive claim.
SRCLINE: session.rs:220-224 -/
structure RxStreamClaim where
  receiver : ReceiverState
  cleanupArmed : Bool
  deriving DecidableEq, Repr

namespace RxStreamClaim

/-- SRCLINE: session.rs:255-269 -/
def acquire (session : Session) : Result RxStreamClaim × Session :=
  if session.state.device ≠ .opened then (.error .deviceClosed, session)
  else if session.state.claim ≠ .available then (.error .busy, session)
  else (.ok { receiver := .stopped, cleanupArmed := true }, session.setClaim .held)

/-- SRCLINE: session.rs:235-244 -/
def beginStart (claim : RxStreamClaim) : Result Bool × RxStreamClaim :=
  match claim.receiver with
  | .running => (.ok false, claim)
  | .cleanupRequired => (.error .busy, claim)
  | .stopped => (.ok true, { claim with receiver := .cleanupRequired })

/-- SRCLINE: session.rs:246-253 -/
def beginStop (claim : RxStreamClaim) : Bool × RxStreamClaim :=
  if claim.receiver = .stopped then (false, claim)
  else (true, { claim with receiver := .cleanupRequired })

end RxStreamClaim

/-- SRCLINE: rx/receiver.rs:23-29 -/
structure Receiver (F : Type) (mode : SampleFormat) where
  queue : Option Queue
  processor : Processor F mode
  stats : StreamingStats
  claim : RxStreamClaim

/-- The host state of a stream operation: the session and its transport, and the stream.
`panic` records the first panic of a closure. -/
structure StreamWorld (F : Type) (mode : SampleFormat) where
  session : Session
  wire : Wire
  receiver : Receiver F mode
  panic : Option Panic

variable {F : Type} [SampleArithmetic F] {mode : SampleFormat}

namespace Receiver

/-- SRCLINE: rx/receiver.rs:32-39 -/
def new (claim : RxStreamClaim) : Receiver F mode where
  queue := none
  processor := Processor.default mode
  stats := .zero
  claim := claim

/-- SRCLINE: rx/receiver.rs:40-44 -/
def currentStats (receiver : Receiver F mode) : StreamingStats :=
  match receiver.queue with
  | none => receiver.stats
  | some queue => receiver.stats.combined queue.stats

/-- SRCLINE: rx/receiver.rs:45-50 -/
def retireStream (receiver : Receiver F mode) : Receiver F mode :=
  match receiver.queue with
  | none => { receiver with processor := Processor.default mode }
  | some queue => { receiver with
      queue := none
      stats := receiver.stats.combined queue.close.stats
      processor := Processor.default mode }

def setState (state : ReceiverState) (receiver : Receiver F mode) : Receiver F mode :=
  { receiver with claim := { receiver.claim with receiver := state } }

/-- Whether `start` has to build a queue.
SRCLINE: rx/receiver.rs:56-58 -/
def needsFreshQueue (receiver : Receiver F mode) (desired : ReceiveSettings) : Bool :=
  match receiver.queue with
  | none => true
  | some queue =>
    !(queue.initialized && !queue.isClosed && queue.settings.packing == desired.packing)

/-- What `start_pipeline` does to a queue it keeps.
SRCLINE: rx/receiver.rs:72-78 -/
def adopt (settings : ReceiveSettings) (receiver : Receiver F mode) : Receiver F mode :=
  match receiver.queue with
  | none => receiver
  | some queue =>
    if queue.settings.decimation ≠ settings.decimation then
      { receiver with
        queue := some { queue.discardCurrent with settings := settings }
        processor := Processor.default mode }
    else { receiver with queue := some { queue with settings := settings } }

/-- What `stop` does once the receiver is off.
SRCLINE: rx/receiver.rs:134-138 -/
def pause (receiver : Receiver F mode) : Receiver F mode :=
  { receiver with
    queue := receiver.queue.map Queue.pause
    processor := Processor.default mode
    claim := { receiver.claim with receiver := .stopped } }

/-- SRCLINE: rx/receiver.rs:143-151 -/
def ensureRunning (receiver : Receiver F mode) : Result Unit :=
  if receiver.claim.receiver = .running then .ok ()
  else .error (.streamClosed "RX stream is stopped or requires cleanup")

/-- SRCLINE: rx/receiver.rs:152-159 -/
def failedRead {α : Type} (result : Result α) (receiver : Receiver F mode) : Receiver F mode :=
  match result with
  | .ok _ => receiver
  | .error _ => receiver.retireStream.setState .cleanupRequired

end Receiver

namespace StreamWorld

/-- How transfers act on the host state. -/
def port : Computation.Port Transfer Transfer.Reply (StreamWorld F mode) :=
  Wire.port.lift StreamWorld.wire fun wire w => { w with wire := wire }

def raise (panic : Panic) (w : StreamWorld F mode) : StreamWorld F mode :=
  { w with panic := w.panic.or (some panic) }

def onReceiver (f : Receiver F mode → Receiver F mode) (w : StreamWorld F mode) :
    StreamWorld F mode :=
  { w with receiver := f w.receiver }

def setQueue (queue : Queue) (w : StreamWorld F mode) : StreamWorld F mode :=
  w.onReceiver fun receiver => { receiver with queue := some queue }

def setClaim (claim : RxStreamClaim) (w : StreamWorld F mode) : StreamWorld F mode :=
  w.onReceiver fun receiver => { receiver with claim := claim }

end StreamWorld

namespace RxStreamClaim

/-- SRCLINE: session.rs:271-274 -/
def release (w : StreamWorld F mode) : StreamWorld F mode :=
  { w with session := w.session.setClaim .available }.setClaim
    { w.receiver.claim with cleanupArmed := false }

/-- SRCLINE: session.rs:276-295 -/
def close : Operation (StreamWorld F mode) (Result Unit) :=
  (MaybeFuture.ready ()).continueWith fun _ w =>
    let (run, claim) := w.receiver.claim.beginStop
    let operation : Operation (StreamWorld F mode) (Result Unit) :=
      if run then .left (controlOut (.receiverMode .off)) else .right (.ready (.ok ()))
    (w.setClaim claim, operation.map fun result w =>
      (if result.isOk then release (w.onReceiver (Receiver.setState .stopped)) else w, result))

/-- What the cleanup of a dropped claim records.
SRCLINE: session.rs:311-317 -/
def cleanedUp (result : Result Unit) (w : StreamWorld F mode) : StreamWorld F mode :=
  { w with session := w.session.setClaim (if result.isOk then .available else .cleanupRequired) }

/-- The claim gives up its right to a further cleanup and its receiver state at once; the rest
is an operation.
SRCLINE: session.rs:299-319 -/
def cleanup (w : StreamWorld F mode) :
    StreamWorld F mode × Operation (StreamWorld F mode) Unit :=
  let (run, claim) := w.receiver.claim.beginStop
  let operation : Operation (StreamWorld F mode) (Result Unit) :=
    if run then .left (controlOut (.receiverMode .off)) else .right (.ready (.ok ()))
  (w.setClaim { claim with cleanupArmed := false }, operation.map fun result w =>
    (cleanedUp result w, ()))

end RxStreamClaim

namespace Receiver

/-- Open the endpoint of a fresh queue.  Opening is one call in the source; as a transfer it may
also be the last thing an operation does.
SRCLINE: rx/receiver.rs:88-95 -/
def prepareQueue (settings : ReceiveSettings) : Operation (StreamWorld F mode) (Result Unit) :=
  (MaybeFuture.leaf (Transfer.bulkIn RFONE_RX_ENDPOINT)).map fun result w =>
    match result with
    | .ok _ => (w.setQueue (Queue.new (BulkIn.opened w.wire.opened) settings), .ok ())
    | .error e => (w, .error e)

/-- Clear the halt and submit every buffer of the queue.
SRCLINE: rx/queue.rs:54-67, rx/receiver.rs:100 -/
def initializeQueue (w : StreamWorld F mode) :
    StreamWorld F mode × Operation (StreamWorld F mode) (Result Unit) :=
  match w.receiver.queue with
  | none => (w.raise (.expectFailed "prepared queue"), afterPanic)
  | some queue =>
    if queue.isClosed then (w.raise (.expectFailed "new queue has an endpoint"), afterPanic)
    else (w, (MaybeFuture.leaf Transfer.clearHalt).map fun result w =>
      match result, w.receiver.queue with
      | .error e, _ => (w, .error e)
      | .ok _, none => (w, .ok ())
      | .ok _, some queue =>
        match queue.submitBuffers with
        | .ok queue => (w.setQueue queue, .ok ())
        | .error panic => (w.raise panic, .ok ()))

/-- SRCLINE: rx/receiver.rs:67-119 -/
def startPipeline (fresh : Bool) (w : StreamWorld F mode) :
    StreamWorld F mode × Operation (StreamWorld F mode) (Result Unit) :=
  let settings := w.session.receive
  let w := if fresh then w.onReceiver retireStream else w
  let w := w.onReceiver (adopt settings)
  let off : Operation (StreamWorld F mode) (Result Unit) :=
    if fresh then .left (controlOut (.receiverMode .off)) else .right (.ready (.ok ()))
  let run := off.andThen fun _ w =>
    let prepare : Operation (StreamWorld F mode) (Result Unit) :=
      if fresh then prepareQueue settings else .ready (.ok ())
    (w, prepare.andThen fun _ w =>
      (w, (controlOut (.receiverMode .rx)).andThen fun _ w =>
        if fresh then ((initializeQueue w).1, .left (initializeQueue w).2)
        else (w, .right (.ready (.ok ())))))
  (w, run.continueWith fun result w =>
    match result with
    | .ok _ => (w.onReceiver (setState .running), .left (.ready (.ok ())))
    | .error error => (w, .right ((controlOut (.receiverMode .off)).map fun _ w =>
        (w, .error error))))

/-- SRCLINE: rx/receiver.rs:51-65 -/
def start : Operation (StreamWorld F mode) (Result Unit) :=
  (MaybeFuture.ready ()).continueWith fun _ w =>
    let (started, claim) := w.receiver.claim.beginStart
    (w.setClaim claim, (MaybeFuture.ready started).andThen fun start w =>
      if start then
        let fresh := w.receiver.needsFreshQueue w.session.receive
        ((startPipeline fresh w).1, .left (startPipeline fresh w).2)
      else (w, .right (.ready (.ok ()))))

/-- SRCLINE: rx/receiver.rs:121-142 -/
def stop : Operation (StreamWorld F mode) (Result StreamingStats) :=
  (MaybeFuture.ready ()).continueWith fun _ w =>
    let (run, claim) := w.receiver.claim.beginStop
    let w := w.setClaim claim
    if run then
      (w, .left ((controlOut (.receiverMode .off)).map fun result w =>
        match result with
        | .ok _ =>
          let w := w.onReceiver pause
          (w, .ok w.receiver.currentStats)
        | .error e => (w, .error e)))
    else (w, .right (.ready (.ok w.receiver.currentStats)))

/-- `CloseOperation`: the queue is retired when the operation is first polled or waited.
SRCLINE: rx/receiver.rs:163-166, 305-311, 318-322 -/
def close : Operation (StreamWorld F mode) (Result StreamingStats) :=
  (MaybeFuture.ready ()).continueWith fun _ w =>
    let w := w.onReceiver retireStream
    let stats := w.receiver.stats
    (w, RxStreamClaim.close.mapOk fun _ => stats)

/-! ## Raw blocks -/

/-- SRCLINE: rx/receiver.rs:170-174 -/
def packingChanged (w : StreamWorld F .rawAdc) : Bool :=
  match w.receiver.queue with
  | none => false
  | some queue => queue.settings.packing != w.session.receive.packing

/-- SRCLINE: rx/receiver.rs:175-185 -/
def refreshPacking (w : StreamWorld F .rawAdc) : Operation (StreamWorld F .rawAdc) (Result Unit) :=
  (MaybeFuture.ready w.receiver.ensureRunning).andThen fun _ w =>
    if packingChanged w then
      let w := w.onReceiver (setState .cleanupRequired)
      ((startPipeline true w).1, .left (startPipeline true w).2)
    else (w, .right (.ready (.ok ())))

/-- `none` is `Poll::Pending`.
SRCLINE: rx/receiver.rs:186-197 -/
def pollNextBlock (w : StreamWorld F .rawAdc) (arrivals : List Arrival) :
    Checked (Option (Result Unit) × StreamWorld F .rawAdc × List Arrival) :=
  match w.receiver.ensureRunning, w.receiver.queue with
  | .error e, _ => .ok (some (.error e), w, arrivals)
  | .ok _, none => .ok (some (.error (.streamClosed "RX queue is closed")), w, arrivals)
  | .ok _, some queue => do
    let (result, queue, arrivals) ← queue.releaseCurrent.pollFill arrivals
    let w := w.setQueue queue
    match result with
    | none => pure (none, w, arrivals)
    | some result => pure (some result, w.onReceiver (failedRead result), arrivals)

/-- SRCLINE: rx/receiver.rs:198-203 -/
def currentBlock (w : StreamWorld F .rawAdc) : Checked (Result SampleBlock) :=
  match w.receiver.queue with
  | none => .ok (.error (.streamClosed "RX queue is closed"))
  | some queue => queue.block

/-- `next_block_blocking` once the packing has been refreshed; `Ok(None)` is a timeout.
SRCLINE: rx/receiver.rs:210-220 -/
def waitNextBlock (w : StreamWorld F .rawAdc) (arrivals : List Arrival) :
    Checked (Result (Option SampleBlock) × StreamWorld F .rawAdc × List Arrival) :=
  match w.receiver.queue with
  | none => .ok (.error (.streamClosed "RX queue is closed"), w, arrivals)
  | some queue => do
    let (result, queue, arrivals) ← queue.releaseCurrent.waitFill arrivals
    let w := (w.setQueue queue).onReceiver (failedRead result)
    match result with
    | .error e => pure (.error e, w, arrivals)
    | .ok false => pure (.ok none, w, arrivals)
    | .ok true => do
      let block ← currentBlock w
      pure (block.map some, w, arrivals)

/-! ## IQ samples -/

/-- Both parts of an IQ stream's state are replaced. -/
def setIq (queue : Queue) (processor : IqProcessor F) (receiver : Receiver F .f32Iq) :
    Receiver F .f32Iq :=
  { receiver with queue := some queue, processor := processor }

/-- The queue adopts a changed decimation factor: what has been converted or received under the
old one is discarded.
SRCLINE: rx/receiver.rs:238-242 -/
def redecimate (queue : Queue) (decimation : ℕ) (receiver : Receiver F .f32Iq) :
    Receiver F .f32Iq :=
  receiver.setIq
    { queue.discardCurrent with settings := { queue.settings with decimation := decimation } }
    .default

/-- SRCLINE: rx/receiver.rs:231-244 -/
def beginRead (w : StreamWorld F .f32Iq) : Result Unit × StreamWorld F .f32Iq :=
  match w.receiver.ensureRunning, w.receiver.queue with
  | .error e, _ => (.error e, w)
  | .ok _, none => (.error (.streamClosed "RX queue is closed"), w)
  | .ok _, some queue =>
    let decimation := w.session.receive.decimation
    if queue.settings.decimation ≠ decimation then
      (.ok (), w.onReceiver (redecimate queue decimation))
    else (.ok (), w)

/-- The end of a read: convert what the queue or the processor holds.
SRCLINE: rx/receiver.rs:262-263, 279-280 -/
def processRead (w : StreamWorld F .f32Iq) (queue : Queue) (room : ℕ) :
    Checked (Result (List (Complex F)) × StreamWorld F .f32Iq) := do
  let (result, processor, queue) ← IqProcessor.process w.receiver.processor queue room
  pure (result, w.onReceiver fun receiver => (receiver.setIq queue processor).failedRead result)

/-- The result is what is written to an output slice of length `room`; `none` is `Pending`.
SRCLINE: rx/receiver.rs:245-264 -/
def pollRead (w : StreamWorld F .f32Iq) (room : ℕ) (arrivals : List Arrival) :
    Checked (Option (Result (List (Complex F))) × StreamWorld F .f32Iq × List Arrival) :=
  let (begun, w) := beginRead w
  match begun with
  | .error e => .ok (some (.error e), w, arrivals)
  | .ok _ =>
    if room = 0 then .ok (some (.ok []), w, arrivals)
    else do
      let queue ← expect "running queue" w.receiver.queue
      if queue.current.isNone && w.receiver.processor.pending.isNone then
        let (result, queue, arrivals) ← queue.pollFill arrivals
        let w := w.setQueue queue
        match result with
        | none => pure (none, w, arrivals)
        | some (.error e) =>
          pure (some (.error e), w.onReceiver (failedRead (.error e : Result Unit)), arrivals)
        | some (.ok _) =>
          let (result, w) ← processRead w queue room
          pure (some result, w, arrivals)
      else
        let (result, w) ← processRead w queue room
        pure (some result, w, arrivals)

/-- The result is what is written to an output slice of length `room`; nothing is on a timeout.
SRCLINE: rx/receiver.rs:266-281 -/
def readBlocking (w : StreamWorld F .f32Iq) (room : ℕ) (arrivals : List Arrival) :
    Checked (Result (List (Complex F)) × StreamWorld F .f32Iq × List Arrival) :=
  let (begun, w) := beginRead w
  match begun with
  | .error e => .ok (.error e, w, arrivals)
  | .ok _ =>
    if room = 0 then .ok (.ok [], w, arrivals)
    else do
      let queue ← expect "running queue" w.receiver.queue
      if queue.current.isNone && w.receiver.processor.pending.isNone then
        let (result, queue, arrivals) ← queue.waitFill arrivals
        let w := w.setQueue queue
        match result with
        | .error e => pure (.error e, w.onReceiver (failedRead (.error e : Result Unit)), arrivals)
        | .ok false => pure (.ok [], w, arrivals)
        | .ok true =>
          let (result, w) ← processRead w queue room
          pure (result, w, arrivals)
      else
        let (result, w) ← processRead w queue room
        pure (result, w, arrivals)

end Receiver

/-! ## Read futures -/

/-- A read that is awaited; what it borrows is not part of it.
SRCLINE: rx/receiver.rs:325-330 -/
structure ReadOperation where
  room : ℕ
  completed : Bool

namespace ReadOperation

/-- SRCLINE: rx/receiver.rs:282-293 -/
def read (room : ℕ) : ReadOperation where
  room := room
  completed := false

/-- What a poll leads to: `none` is `Pending`. -/
abbrev Outcome (F : Type) :=
  Option (Result (List (Complex F))) × ReadOperation × StreamWorld F .f32Iq × List Arrival

/-- SRCLINE: rx/receiver.rs:331-341 -/
def poll (operation : ReadOperation) (w : StreamWorld F .f32Iq) (arrivals : List Arrival) :
    Checked (Outcome F) := do
  assertTrue (!operation.completed) "read future polled after completion"
  let (result, w, arrivals) ← Receiver.pollRead w operation.room arrivals
  pure (result, { operation with completed := result.isSome }, w, arrivals)

end ReadOperation

end HydraSdr.Program
