import HydraSdr.Program.Protocol

/-!
# The receive queue

`rx/queue.rs`: the buffers of one endpoint, the validation of completions, and the recycling of
transfers that were submitted before a restart.  The counters are unbounded here.
-/

set_option autoImplicit false

namespace HydraSdr.Program

def DEFAULT_BUFFER_SIZE : ℕ := 262144
def PACKED_BUFFER_SIZE : ℕ := 6144 * 24

/-- The unpacked samples that one transfer gives, without decimation.
SRCLINE: rx/queue.rs:15-18 -/
def MAX_F32_IQ_SAMPLES_PER_TRANSFER : ℕ := DEFAULT_BUFFER_SIZE / 4

/-- Counters collected during a receive stream.
SRCLINE: rx/mod.rs:26-41 -/
structure StreamingStats where
  buffersReceived : ℕ
  buffersProcessed : ℕ
  buffersDropped : ℕ
  buffersDiscardedOnRestart : ℕ
  deriving DecidableEq, Repr

namespace StreamingStats

def zero : StreamingStats where
  buffersReceived := 0
  buffersProcessed := 0
  buffersDropped := 0
  buffersDiscardedOnRestart := 0

/-- SRCLINE: rx/mod.rs:44-54 -/
def combined (stats other : StreamingStats) : StreamingStats where
  buffersReceived := stats.buffersReceived + other.buffersReceived
  buffersProcessed := stats.buffersProcessed + other.buffersProcessed
  buffersDropped := stats.buffersDropped + other.buffersDropped
  buffersDiscardedOnRestart := stats.buffersDiscardedOnRestart + other.buffersDiscardedOnRestart

end StreamingStats

/-- One raw receive block.
SRCLINE: rx/mod.rs:59-63 -/
structure SampleBlock where
  raw : List UInt8
  sampleCount : ℕ
  droppedSamples : ℕ
  deriving DecidableEq

/-- The length of the transfers of a packing. -/
def transferLength (packing : Bool) : ℕ :=
  if packing then PACKED_BUFFER_SIZE else DEFAULT_BUFFER_SIZE

/-- SRCLINE: rx/queue.rs:22-31 -/
structure Queue where
  bulkIn : Option BulkIn
  buffers : List Buffer
  initialized : Bool
  current : Option Buffer
  currentLen : ℕ
  settings : ReceiveSettings
  stats : StreamingStats
  discardRemaining : ℕ

namespace Queue

/-- SRCLINE: rx/queue.rs:34-52 -/
def new (bulkIn : BulkIn) (settings : ReceiveSettings) : Queue where
  bulkIn := some bulkIn
  buffers := List.replicate (RFONE_TRANSFER_COUNT - bulkIn.pending.length)
    (bulkIn.allocate (transferLength settings.packing))
  initialized := false
  current := none
  currentLen := 0
  settings := settings
  stats := .zero
  discardRemaining := 0

/-- What `initialize` does once the halt is cleared: every buffer is submitted.
SRCLINE: rx/queue.rs:59-66 -/
def submitBuffers (queue : Queue) : Checked Queue :=
  match queue.bulkIn, queue.buffers with
  | none, [] => .ok { queue with initialized := true }
  | none, _ :: _ => .error (.expectFailed "new endpoint")
  | some bulkIn, buffers =>
    .ok { queue with
      bulkIn := some (buffers.foldl BulkIn.submit bulkIn)
      buffers := []
      initialized := true }

def isClosed (queue : Queue) : Bool := queue.bulkIn.isNone

/-- SRCLINE: rx/queue.rs:72-79 -/
def releaseCurrent (queue : Queue) : Queue :=
  match queue.current, queue.bulkIn with
  | some buffer, some bulkIn =>
    { queue with bulkIn := some (bulkIn.submit buffer), current := none, currentLen := 0 }
  | _, _ => { queue with current := none, currentLen := 0 }

/-- SRCLINE: rx/queue.rs:80-85 -/
def discardCurrent (queue : Queue) : Queue :=
  match queue.current with
  | some _ => { queue with
      stats := { queue.stats with buffersDropped := queue.stats.buffersDropped + 1 } }.releaseCurrent
  | none => queue.releaseCurrent

/-- SRCLINE: rx/queue.rs:86-92 -/
def pause (queue : Queue) : Queue :=
  let queue := queue.releaseCurrent
  match queue.bulkIn with
  | some bulkIn => { queue with
      discardRemaining := bulkIn.pending.length
      bulkIn := some bulkIn.cancelAll }
  | none => queue

/-- The endpoint is cancelled and given up; the counters are the result.
SRCLINE: rx/queue.rs:93-101 -/
def close (queue : Queue) : Queue :=
  { queue with bulkIn := none, current := none, buffers := [], currentLen := 0 }

/-- Whether a completion is usable: its status is `Ok` and it has the length of the queue's
packing, which its buffer holds.
SRCLINE: rx/queue.rs:117-132 -/
def checkCompletion (queue : Queue) (completion : BulkInCompletion) : Result Unit :=
  match completion.status with
  | .error e => .error e
  | .ok _ =>
    if completion.actualLen ≠ transferLength queue.settings.packing ∨
        completion.buffer.bytes.length < completion.actualLen then
      .error (.protocol "receive transfer" "completed with an unexpected length")
    else .ok ()

/-- `Ok(true)` for a usable completion, `Ok(false)` for a submission from before a restart.
SRCLINE: rx/queue.rs:104-141 -/
def accept (queue : Queue) (completion : BulkInCompletion) : Checked (Result Bool × Queue) :=
  let received := { queue.stats with buffersReceived := queue.stats.buffersReceived + 1 }
  if queue.discardRemaining ≠ 0 then
    match queue.bulkIn with
    | none => .error (.expectFailed "live endpoint")
    | some bulkIn => .ok (.ok false, { queue with
        stats := { received with
          buffersDropped := received.buffersDropped + 1
          buffersDiscardedOnRestart := received.buffersDiscardedOnRestart + 1 }
        discardRemaining := queue.discardRemaining - 1
        bulkIn := some (bulkIn.submit completion.buffer) })
  else
    match queue.checkCompletion completion with
    | .error e => .ok (.error e, { queue with
        stats := { received with buffersDropped := received.buffersDropped + 1 } }.close)
    | .ok _ => .ok (.ok true, { queue with
        stats := { received with buffersProcessed := received.buffersProcessed + 1 }
        current := some completion.buffer
        currentLen := completion.actualLen })

/-- One turn of the loops of `poll_fill` and `wait_fill`: nothing to be had yet, the loop goes
on, or it ends with a result. -/
inductive Turn where
  | waits
  | again
  | ends (result : Result Unit)

/-- The body of those loops.
SRCLINE: rx/queue.rs:147-159, 168-181 -/
def turn (queue : Queue) (arrival : Option Arrival) : Checked (Turn × Queue) :=
  match queue.bulkIn with
  | none => .ok (.ends (.error (.streamClosed "RX queue is closed")), queue)
  | some bulkIn => do
    match ← bulkIn.nextComplete arrival with
    | none => pure (.waits, queue)
    | some (completion, bulkIn) =>
      match ← { queue with bulkIn := some bulkIn }.accept completion with
      | (.ok true, queue) => pure (.ends (.ok ()), queue)
      | (.ok false, queue) => pure (.again, queue)
      | (.error e, queue) => pure (.ends (.error e), queue)

/-- The loop, over the completions that arrive while it runs.  `none` is `Pending`, or the
timeout of a blocking call; the arrivals it did not take are given back. -/
def fillLoop : List Arrival → Queue → Checked (Option (Result Unit) × Queue × List Arrival)
  | [], queue => do
    match ← queue.turn none with
    | (.ends result, queue) => pure (some result, queue, [])
    | (_, queue) => pure (none, queue, [])
  | arrival :: arrivals, queue => do
    match ← queue.turn (some arrival) with
    | (.waits, queue) => pure (none, queue, arrival :: arrivals)
    | (.again, queue) => fillLoop arrivals queue
    | (.ends result, queue) => pure (some result, queue, arrivals)

/-- `none` is `Poll::Pending`.
SRCLINE: rx/queue.rs:143-160 -/
def pollFill (queue : Queue) (arrivals : List Arrival) :
    Checked (Option (Result Unit) × Queue × List Arrival) :=
  match queue.current with
  | some _ => .ok (some (.ok ()), queue, arrivals)
  | none => fillLoop arrivals queue

/-- `Ok(false)` is a timeout.
SRCLINE: rx/queue.rs:163-182 -/
def waitFill (queue : Queue) (arrivals : List Arrival) :
    Checked (Result Bool × Queue × List Arrival) :=
  match queue.current with
  | some _ => .ok (.ok true, queue, arrivals)
  | none => do
    let (result, queue, arrivals) ← fillLoop arrivals queue
    match result with
    | none => pure (.ok false, queue, arrivals)
    | some (.ok _) => pure (.ok true, queue, arrivals)
    | some (.error e) => pure (.error e, queue, arrivals)

/-- SRCLINE: rx/queue.rs:184-199 -/
def block (queue : Queue) : Checked (Result SampleBlock) :=
  match queue.current with
  | none => .ok (.error (.streamClosed "RX queue has no current block"))
  | some raw =>
    let count := if queue.settings.packing then (queue.currentLen / 2) * 4 / 3
      else queue.currentLen / 2
    if raw.bytes.length < queue.currentLen then .error .outOfBounds
    else .ok (.ok
      { raw := raw.bytes.take queue.currentLen
        sampleCount := count
        droppedSamples := queue.stats.buffersDropped * count })

end Queue

end HydraSdr.Program
