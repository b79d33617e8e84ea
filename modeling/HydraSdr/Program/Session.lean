import HydraSdr.Program.Protocol

/-!
# The hardware session

`session.rs`: the shared state of one opened device, and the operations on it that its handle
uses.  Their host state is a `DeviceWorld`; the claim of a receive stream is in `Claim`.
-/

set_option autoImplicit false

namespace HydraSdr.Program

/-- SRCLINE: session.rs:15-19 -/
inductive DeviceLifecycle where
  | opened
  | closing
  | closed
  deriving DecidableEq, Repr

/-- SRCLINE: session.rs:22-26 -/
inductive ReceiverState where
  | stopped
  | cleanupRequired
  | running
  deriving DecidableEq, Repr

/-- SRCLINE: session.rs:29-33 -/
inductive ClaimAvailability where
  | available
  | held
  | cleanupRequired
  deriving DecidableEq, Repr

/-- SRCLINE: session.rs:36-39 -/
structure SharedDeviceState where
  device : DeviceLifecycle
  claim : ClaimAvailability
  deriving DecidableEq, Repr

/-- What the owners of a session share, besides the transport.
SRCLINE: session.rs:52-57 -/
structure Session where
  info : Option DeviceInfo
  state : SharedDeviceState
  receive : ReceiveSettings
  deriving DecidableEq

namespace Session

/-- SRCLINE: session.rs:42-47, 127-137 -/
def new : Session where
  info := none
  state := { device := .opened, claim := .available }
  receive := { packing := false, decimation := 1 }

/-- SRCLINE: session.rs:64-70 -/
def ensureOpen (session : Session) : Result Unit :=
  if session.state.device = .opened then .ok () else .error .deviceClosed

/-- SRCLINE: session.rs:72-85 -/
def beginShutdown (session : Session) : Result Bool × Session :=
  match session.state.device with
  | .closed => (.ok false, session)
  | .closing => (.ok true, session)
  | .opened =>
    if session.state.claim = .held then (.error .busy, session)
    else (.ok true, { session with state := { session.state with device := .closing } })

/-- What a successful shutdown records.
SRCLINE: session.rs:96-98 -/
def shutDown (session : Session) : Session :=
  { session with state := { device := .closed, claim := .available } }

def setReceive (receive : ReceiveSettings) (session : Session) : Session :=
  { session with receive := receive }

def setClaim (claim : ClaimAvailability) (session : Session) : Session :=
  { session with state := { session.state with claim := claim } }

end Session

/-- `Result::and`. -/
def andResult (first second : Result Unit) : Result Unit :=
  match first with
  | .ok _ => second
  | .error e => .error e

/-- Both commands are attempted, whatever becomes of the first.
SRCLINE: session.rs:201-216 -/
def shutdownHardware {σ : Type} : Operation σ (Result Unit) :=
  let receiverOff := (controlOut (.receiverMode .off)).mapErr
    (Error.atOperation "turning off the receiver during shutdown")
  let biasOff := (controlOut (.setRfBias false)).mapErr
    (Error.atOperation "turning off RF bias power during shutdown")
  (receiverOff.map fun result s => (s, (.ok result : Result (Result Unit)))).andThen
    fun receiverResult s => (s, biasOff.map fun biasResult s => (s, andResult receiverResult biasResult))

/-- The host state of a device operation: the session and its transport, and the snapshot
`Device::config`.  `panic` records the first panic of a closure. -/
structure DeviceWorld (mode : SampleFormat) where
  session : Session
  wire : Wire
  config : Config mode
  panic : Option Panic
  deriving DecidableEq

namespace DeviceWorld

variable {mode : SampleFormat}

/-- How transfers act on the host state. -/
def port : Computation.Port Transfer Transfer.Reply (DeviceWorld mode) :=
  Wire.port.lift DeviceWorld.wire fun wire w => { w with wire := wire }

def raise (panic : Panic) (w : DeviceWorld mode) : DeviceWorld mode :=
  { w with panic := w.panic.or (some panic) }

def onSession (f : Session → Session) (w : DeviceWorld mode) : DeviceWorld mode :=
  { w with session := f w.session }

end DeviceWorld

/-- What a closure that has panicked is left with; nothing runs after a panic. -/
def afterPanic {σ α : Type} : Operation σ (Result α) := .ready (.error .unsupported)

namespace Session

variable {mode : SampleFormat}

/-- SRCLINE: session.rs:87-108 -/
def shutdown : Operation (DeviceWorld mode) (Result Unit) :=
  ((MaybeFuture.ready ()).map fun _ w =>
    ({ w with session := w.session.beginShutdown.2 }, w.session.beginShutdown.1)).andThen
  fun run w =>
    if run then
      (w, .left (shutdownHardware.map fun result w =>
        (if result.isOk then w.onSession shutDown else w, result)))
    else (w, .right (.ready (.ok ())))

/-- SRCLINE: session.rs:143-164 -/
def apply (commands : List Command) (receive : Option ReceiveSettings) :
    Operation (DeviceWorld mode) (Result Unit) :=
  (MaybeFuture.ready ()).continueWith fun _ w =>
    (w, (MaybeFuture.ready w.session.ensureOpen).andThen fun _ w =>
      (w, (commandSequence commands).map fun result w =>
        match result, receive with
        | .error e, _ => (w, .error e)
        | .ok _, none => (w, .ok ())
        | .ok _, some receive => (w.onSession (setReceive receive), .ok ())))

/-- SRCLINE: session.rs:166-172 -/
def configure (config : Config mode) : Checked (Operation (DeviceWorld mode) (Result Unit)) :=
  match configuration config with
  | .ok (commands, receive) => .ok (apply commands (some receive))
  | .error panic => .error panic

/-- Store the metadata; the cell is expected to be empty. -/
def setInfo (info : DeviceInfo) (w : DeviceWorld mode) : DeviceWorld mode :=
  match w.session.info with
  | none => w.onSession fun session => { session with info := some info }
  | some _ => w.raise (.expectFailed "metadata initialized once")

/-- `Session::initialize`, on the host state of a new session.
SRCLINE: session.rs:175-198 -/
def initializeSession (config : Config mode) : Operation (DeviceWorld mode) (Result Unit) :=
  let metadata := deviceInfo.mapErr (Error.atOperation "reading HydraSDR device metadata")
  let setup := metadata.andThen fun info w =>
    match configure config with
    | .ok operation => (setInfo info w,
        operation.mapErr (Error.atOperation "applying initial HydraSDR configuration"))
    | .error panic => ((setInfo info w).raise panic, afterPanic)
  setup.continueWith fun result w =>
    match result with
    | .ok _ => (w, .left (.ready (.ok ())))
    | .error error => (w, .right (shutdown.map fun _ w => (w, .error error)))

end Session

end HydraSdr.Program
