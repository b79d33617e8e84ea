import HydraSdr.Computation.Resumption
import HydraSdr.Program.MaybeFuture
import HydraSdr.Program.Requests

/-!
# The transport

The interfaces of `usb/mod.rs`.  `Transfer` lists what the driver asks of a transport and
`Wire` is what a transport has seen of it.  `BulkIn` is a bulk endpoint: it completes transfers
in the order of their submission, and what a completion says is the environment's choice, an
`Arrival`.
-/

set_option autoImplicit false

namespace HydraSdr.Program

open HydraSdr.Computation

/-- The requests of `ControlBackend` and `Transport`, and `clear_halt` of `BulkInBackend`.
SRCLINE: usb/mod.rs:30-42, 54 -/
inductive Transfer where
  | controlIn (request : InRequest)
  | controlOut (request : OutRequest)
  | bulkIn (endpoint : UInt8)
  | clearHalt
  deriving DecidableEq, Repr

namespace Transfer

/-- What the transport answers. -/
@[reducible] def Reply : Transfer → Type
  | .controlIn _ => Result (List UInt8)
  | .controlOut _ => Result Unit
  | .bulkIn _ => Result Unit
  | .clearHalt => Result Unit

/-- The device has carried the transfer out: the transport reports success, and the response to
a read passes its validation. -/
def carriedOut : (transfer : Transfer) → transfer.Reply → Bool
  | .controlIn request, reply =>
    match reply with
    | .ok data => (request.validate data).isOk
    | .error _ => false
  | .controlOut _, reply => reply.isOk
  | .bulkIn _, reply => reply.isOk
  | .clearHalt, reply => reply.isOk

/-- The transfer of one command. -/
def ofCommand : Command → Transfer
  | .read request => .controlIn request
  | .write request => .controlOut request

/-- The transfer that switches the receiver. -/
def receiverMode (mode : ReceiverMode) : Transfer := .controlOut (.receiverMode mode)

/-- The transfer that switches bias power. -/
def rfBias (enabled : Bool) : Transfer := .controlOut (.setRfBias enabled)

end Transfer

/-- Everything issued to a transport, oldest first, the positions of those transfers known to
be carried out, and the number of endpoints opened. -/
structure Wire where
  issued : List Transfer
  acknowledged : List ℕ
  opened : ℕ
  deriving DecidableEq

namespace Wire

def empty : Wire where
  issued := []
  acknowledged := []
  opened := 0

def issue (transfer : Transfer) (wire : Wire) : Wire :=
  { wire with issued := wire.issued ++ [transfer] }

def settle (ticket : ℕ) (transfer : Transfer) (reply : transfer.Reply) (wire : Wire) : Wire :=
  if transfer.carriedOut reply then
    { wire with
      acknowledged := wire.acknowledged ++ [ticket]
      opened := match transfer with
        | .bulkIn _ => wire.opened + 1
        | _ => wire.opened }
  else wire

@[simp] theorem issue_issued (transfer : Transfer) (wire : Wire) :
    (wire.issue transfer).issued = wire.issued ++ [transfer] := rfl

@[simp] theorem issue_acknowledged (transfer : Transfer) (wire : Wire) :
    (wire.issue transfer).acknowledged = wire.acknowledged := rfl

@[simp] theorem issue_opened (transfer : Transfer) (wire : Wire) :
    (wire.issue transfer).opened = wire.opened := rfl

@[simp] theorem settle_issued (ticket : ℕ) (transfer : Transfer) (reply : transfer.Reply)
    (wire : Wire) : (wire.settle ticket transfer reply).issued = wire.issued := by
  unfold settle
  split <;> rfl

/-- How transfers act on the wire. -/
def port : Port Transfer Transfer.Reply Wire where
  ticket wire := wire.issued.length
  issue := issue
  settle := settle

@[simp] theorem port_issue_issued (transfer : Transfer) (wire : Wire) :
    (port.issue transfer wire).issued = wire.issued ++ [transfer] := rfl

@[simp] theorem port_settle_issued (ticket : ℕ) (transfer : Transfer) (reply : transfer.Reply)
    (wire : Wire) : (port.settle ticket transfer reply wire).issued = wire.issued :=
  settle_issued ticket transfer reply wire

end Wire

/-- An operation of the driver on a host state `σ`. -/
abbrev Operation (σ α : Type) := MaybeFuture Transfer Transfer.Reply Error σ α

/-- SRCLINE: usb/mod.rs:31-34, 100-108 -/
def controlIn {σ : Type} (request : InRequest) : Operation σ (Result (List UInt8)) :=
  .leaf (Transfer.controlIn request)

/-- SRCLINE: usb/mod.rs:35-36, 109-116 -/
def controlOut {σ : Type} (request : OutRequest) : Operation σ (Result Unit) :=
  .leaf (Transfer.controlOut request)

/-! ## Bulk endpoints -/

/-- A transfer buffer: the length it was allocated with, its contents, and which submission of
its endpoint carried it last. -/
structure Buffer where
  capacity : ℕ
  bytes : List UInt8
  number : ℕ
  deriving DecidableEq

/-- What the environment says about the next transfer to complete. -/
structure Arrival where
  status : Result Unit
  actualLen : ℕ
  data : List UInt8

/-- SRCLINE: usb/mod.rs:45-49 -/
structure BulkInCompletion where
  buffer : Buffer
  actualLen : ℕ
  status : Result Unit

/-- An open endpoint: which one of the session it is, how many transfers have been submitted to
it, how many of them had been when `cancel_all` was last called, those not yet completed, oldest
first, and the completions handed out, oldest first.
SRCLINE: usb/mod.rs:52-62 -/
structure BulkIn where
  id : ℕ
  submitted : ℕ
  cancelled : ℕ
  pending : List Buffer
  completed : List BulkInCompletion

namespace BulkIn

/-- A newly opened endpoint has nothing pending. -/
def opened (id : ℕ) : BulkIn where
  id := id
  submitted := 0
  cancelled := 0
  pending := []
  completed := []

def allocate (_bulkIn : BulkIn) (len : ℕ) : Buffer where
  capacity := len
  bytes := List.replicate len 0
  number := 0

def submit (bulkIn : BulkIn) (buffer : Buffer) : BulkIn :=
  { bulkIn with
    submitted := bulkIn.submitted + 1
    pending := bulkIn.pending ++ [{ buffer with number := bulkIn.submitted }] }

/-- Pending transfers stay queued and complete with a status of the environment's choice; on
WebUSB the call does nothing at all. -/
def cancelAll (bulkIn : BulkIn) : BulkIn :=
  { bulkIn with cancelled := bulkIn.submitted }

/-- What completing the transfer of a buffer says.  A buffer holds no more than it was allocated
for. -/
def completion (buffer : Buffer) (arrival : Arrival) : BulkInCompletion where
  buffer := { buffer with bytes := arrival.data.take buffer.capacity }
  actualLen := arrival.actualLen
  status := arrival.status

/-- The oldest transfer has completed. -/
def handOut (bulkIn : BulkIn) (pending : List Buffer) (completion : BulkInCompletion) : BulkIn :=
  { bulkIn with
    pending := pending
    completed := bulkIn.completed ++ [completion] }

/-- `poll_next_complete`, and `wait_next_complete` with its timeout: without an arrival the
answer is `Pending`, respectively a timeout.  Either panics when nothing is pending. -/
def nextComplete (bulkIn : BulkIn) (arrival : Option Arrival) :
    Checked (Option (BulkInCompletion × BulkIn)) :=
  match bulkIn.pending, arrival with
  | [], _ => .error .nothingPending
  | _ :: _, none => .ok none
  | buffer :: pending, some arrival =>
    .ok (some (completion buffer arrival, bulkIn.handOut pending (completion buffer arrival)))

end BulkIn

end HydraSdr.Program
