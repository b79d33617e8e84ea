import HydraSdr.Program.StreamPhase

/-!
# The driver as a whole

One hardware session with everything that can own it: the operation that opens it, the device
handle, and the streams it has handed out.  An action is one thing a user of the public API can
do, or one poll of an operation in flight.  Actions that the borrow checker or the state of their
target excludes change nothing, and nothing happens after a panic.
-/

set_option autoImplicit false

namespace HydraSdr.Program

open HydraSdr.Computation

variable {F : Type} [SampleArithmetic F] {mode : SampleFormat}

/-- An operation of the device that has been built. -/
abbrev DeviceFlight (mode : SampleFormat) :=
  Flight Transfer Transfer.Reply (DeviceWorld mode) (Result Unit)

/-- The device handle: being opened, there and idle, borrowed by an operation, or gone. -/
inductive DevicePhase (mode : SampleFormat) where
  | opening (config : Config mode) (flight : DeviceFlight mode)
  | idle (config : Config mode)
  | operating (config : Config mode) (operation : DeviceOperation mode) (flight : DeviceFlight mode)
  | dropped

/-- The state of the driver. -/
structure System (F : Type) (mode : SampleFormat) where
  session : Session
  wire : Wire
  panic : Option Panic
  device : DevicePhase mode
  streams : List (StreamPhase F mode)
  ended : Bool
  history : List (CallEvent F mode)

/-- What can happen next.  `nextBlock` and `read` build a future, `pollRead` is a read future that
is polled once and dropped, and `readBlocking` is a read that is waited for. -/
inductive Action : SampleFormat → Type where
  | callDevice {mode : SampleFormat} (operation : DeviceOperation mode) : Action mode
  | pollDevice {mode : SampleFormat} (replies : List AnyReply) : Action mode
  | cancelDevice {mode : SampleFormat} : Action mode
  | dropDevice {mode : SampleFormat} : Action mode
  | rxStream {mode : SampleFormat} : Action mode
  | callStream {mode : SampleFormat} (stream : ℕ) (call : StreamCall mode) : Action mode
  | pollStream {mode : SampleFormat} (stream : ℕ) (replies : List AnyReply)
      (arrivals : List Arrival) : Action mode
  | cancelStream {mode : SampleFormat} (stream : ℕ) : Action mode
  | dropStream {mode : SampleFormat} (stream : ℕ) : Action mode
  | nextBlock (stream : ℕ) : Action .rawAdc
  | read (stream room : ℕ) : Action .f32Iq
  | pollRead (stream room : ℕ) (arrivals : List Arrival) : Action .f32Iq
  | readBlocking (stream room : ℕ) (arrivals : List Arrival) : Action .f32Iq

namespace System

/-- `Session::initialize` has been called for a newly opened transport.
SRCLINE: session.rs:175-179, device.rs:427-429 -/
def initial (config : ValidConfig mode) : System F mode where
  session := .new
  wire := .empty
  panic := none
  device := .opening config.1 (.unpolled (Session.initializeSession config.1).denote)
  streams := []
  ended := false
  history := []

/-- The host state of a device operation. -/
def deviceWorld (s : System F mode) (config : Config mode) : DeviceWorld mode :=
  ⟨s.session, s.wire, config, s.panic⟩

/-- The host state of a stream operation. -/
def streamWorld (s : System F mode) (receiver : Receiver F mode) : StreamWorld F mode :=
  ⟨s.session, s.wire, receiver, s.panic⟩

def putDevice (w : DeviceWorld mode) (phase : DevicePhase mode)
    (events : List (CallEvent F mode)) (s : System F mode) : System F mode :=
  { s with
    session := w.session
    wire := w.wire
    panic := w.panic
    device := phase
    history := s.history ++ events }

def putStream (stream : ℕ) (step : StreamStep F mode) (s : System F mode) : System F mode :=
  { s with
    session := step.session
    wire := step.wire
    panic := step.panic
    streams := s.streams.set stream step.phase
    history := s.history ++ step.events }

/-- Let one stream take a step. -/
def onStream (stream : ℕ)
    (step : StreamPhase F mode → (Receiver F mode → StreamWorld F mode) → Option (StreamStep F mode))
    (s : System F mode) : System F mode :=
  match s.streams[stream]? with
  | none => s
  | some phase =>
    match step phase s.streamWorld with
    | none => s
    | some result => s.putStream stream result

/-- A method of the idle device is called. -/
def callDevice (operation : DeviceOperation mode) (s : System F mode) : System F mode :=
  match s.device with
  | .idle config =>
    match Device.call operation (s.deviceWorld config) with
    | .ok built => { s with device := .operating config operation (.unpolled built.denote) }
    | .error panic => { s with panic := some panic }
  | _ => s

/-- The operation of the device in flight is polled.  A failed opening leaves no device behind. -/
def pollDevice (replies : List AnyReply) (s : System F mode) : System F mode :=
  match s.device with
  | .opening config flight =>
    match flight.poll DeviceWorld.port replies (s.deviceWorld config) with
    | (.finished (.ok _), w) => s.putDevice w (.idle w.config) [.opened (.ok ())]
    | (.finished (.error e), w) => s.putDevice w .dropped [.opened (.error e)]
    | (.waiting ticket request next, w) =>
      s.putDevice w (.opening w.config (.polled (.waiting ticket request next))) []
  | .operating config operation flight =>
    match flight.poll DeviceWorld.port replies (s.deviceWorld config) with
    | (.finished result, w) => s.putDevice w (.idle w.config) [.device operation result]
    | (.waiting ticket request next, w) =>
      s.putDevice w (.operating w.config operation (.polled (.waiting ticket request next))) []
  | _ => s

/-- The operation of the device in flight is dropped. -/
def cancelDevice (s : System F mode) : System F mode :=
  match s.device with
  | .opening _ _ => { s with device := .dropped }
  | .operating config _ _ => { s with device := .idle config }
  | _ => s

def dropDevice (s : System F mode) : System F mode :=
  match s.device with
  | .idle _ => { s with device := .dropped }
  | _ => s

/-- SRCLINE: device.rs:232-234 -/
def rxStream (s : System F mode) : System F mode :=
  match s.device with
  | .idle _ =>
    match RxStreamClaim.acquire s.session with
    | (.ok claim, session) => { s with
        session := session
        streams := s.streams ++ [.idle (Receiver.new claim)]
        history := s.history ++ [.acquired (.ok ())] }
    | (.error e, session) => { s with
        session := session
        history := s.history ++ [.acquired (.error e)] }
  | _ => s

/-- One action. -/
def act (s : System F mode) : Action mode → System F mode
  | .callDevice operation => s.callDevice operation
  | .pollDevice replies => s.pollDevice replies
  | .cancelDevice => s.cancelDevice
  | .dropDevice => s.dropDevice
  | .rxStream => s.rxStream
  | .callStream stream call => s.onStream stream <| StreamPhase.onIdle fun w =>
      .of w (.operating w.receiver none call (.unpolled (call.operation w).denote)) []
  | .pollStream stream replies arrivals => s.onStream stream (StreamPhase.poll stream replies arrivals)
  | .cancelStream stream => s.onStream stream StreamPhase.cancel
  | .dropStream stream => s.onStream stream <| StreamPhase.onIdle fun w =>
      StreamPhase.dropReceiver w []
  | .nextBlock stream => s.onStream stream <| StreamPhase.onIdle fun w =>
      .of w (.reading w.receiver .direct) []
  | .read stream room => s.onStream stream <| StreamPhase.onIdle fun w =>
      .of w (.awaiting w.receiver (.read room)) []
  | .pollRead stream room arrivals => s.onStream stream <| StreamPhase.onIdle fun w =>
      .ofChecked w (.idle w.receiver) ((Receiver.pollRead w room arrivals).map fun (result, w, _) =>
        .of w (.idle w.receiver) (result.toList.map fun result =>
          .samples stream result w.receiver.queue))
  | .readBlocking stream room arrivals => s.onStream stream <| StreamPhase.onIdle fun w =>
      .ofChecked w (.idle w.receiver) ((Receiver.readBlocking w room arrivals).map
        fun (result, w, _) => .of w (.idle w.receiver) [.samples stream result w.receiver.queue])

/-- Whether anything still owns the session. -/
def owned (s : System F mode) : Bool :=
  (match s.device with
    | .dropped => false
    | _ => true) || s.streams.any StreamPhase.live

/-- `Drop` of the session, which its last owner waits for.
SRCLINE: session.rs:111-123 -/
def dropSession (reply : ℕ → AnyReply) (s : System F mode) : System F mode :=
  if s.session.state.device = .closed then { s with ended := true }
  else { s with
    wire := ((@shutdownHardware Wire).denote.run Wire.port reply s.wire).2
    ended := true }

/-- One action, and the end of the session if it has lost its last owner.  `reply` says what the
transport would answer then. -/
def step (s : System F mode) (action : Action mode) (reply : ℕ → AnyReply) : System F mode :=
  if s.panic.isSome || s.ended then s
  else
    let s := s.act action
    if s.owned || s.panic.isSome then s else s.dropSession reply

/-- The states of a session opened with `config`. -/
inductive Reachable (config : ValidConfig mode) : System F mode → Prop
  | initial : Reachable config (System.initial config)
  | step {s : System F mode} (action : Action mode) (reply : ℕ → AnyReply) (h : Reachable config s) :
      Reachable config (s.step action reply)

/-- The state after these actions. -/
def after (config : ValidConfig mode) (reply : ℕ → AnyReply) (actions : List (Action mode)) :
    System F mode :=
  actions.foldl (fun s action => s.step action reply) (System.initial config)

theorem reachable_after (config : ValidConfig mode) (reply : ℕ → AnyReply)
    (actions : List (Action mode)) :
    Reachable config (System.after config reply actions : System F mode) := by
  have hfrom : ∀ s : System F mode, Reachable config s →
      Reachable config (actions.foldl (fun s action => s.step action reply) s) := by
    induction actions with
    | nil => exact fun s h => h
    | cons action actions ih => exact fun s h => ih _ (h.step action reply)
  exact hfrom _ .initial

end System

/-- The answers of a device on which every transfer succeeds. -/
def obliging : AnyReply
  | .controlIn request => .ok (match request.request with
    | .boardIdRead => [0]
    | .versionStringRead => EXPECTED_FW_PREFIX
    | .boardPartIdSerialNoRead => List.replicate 24 0
    | _ => [1])
  | .controlOut _ => .ok ()
  | .bulkIn _ => .ok ()
  | .clearHalt => .ok ()

end HydraSdr.Program
