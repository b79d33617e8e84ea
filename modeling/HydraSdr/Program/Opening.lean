import HydraSdr.Computation.Embedding
import HydraSdr.Program.Discovery
import HydraSdr.Program.System

/-!
# Finding and opening a device

The listing and the selection of `discovery.rs`, `NusbTransport::open` of `usb/mod.rs`, and the
builder of `device.rs` that opens a device.  What `nusb` is asked for before there is a transport
is a request here, as a transfer is one later.  What it calls a `Device` or an `Interface` is a
handle of its choice.
-/

set_option autoImplicit false

namespace HydraSdr.Program

open HydraSdr.Computation

/-! ## Discovery -/

/-- SRCLINE: discovery.rs:9-13 -/
structure UsbDeviceId where
  vid : UInt16
  pid : UInt16
  description : String
  deriving DecidableEq, Repr

def USB_DEVICE_IDS : List UsbDeviceId :=
  [ { vid := 0x1d50, pid := 0x60a1, description := "HydraSDR RFOne Legacy VID/PID" },
    { vid := 0x38af, pid := 0x0001, description := "HydraSDR RFOne Official VID/PID" } ]

/-- What `nusb` lists of a device.  `address` tells devices apart that read the same. -/
structure UsbDeviceInfo where
  address : ℕ
  vendorId : UInt16
  productId : UInt16
  serialNumber : Option String
  productString : Option String
  deriving DecidableEq, Repr

/-- SRCLINE: discovery.rs:31-43 -/
structure DeviceDescriptor where
  vid : UInt16
  pid : UInt16
  description : String
  serial : UInt64
  productString : Option String
  deriving DecidableEq, Repr

/-- SRCLINE: discovery.rs:62-67 -/
def findUsbDeviceId (vid pid : UInt16) : Option UsbDeviceId :=
  USB_DEVICE_IDS.find? fun candidate => candidate.vid = vid ∧ candidate.pid = pid

/-- SRCLINE: discovery.rs:49-58 -/
def DeviceDescriptor.fromNusb (info : UsbDeviceInfo) : Option DeviceDescriptor := do
  let deviceId ← findUsbDeviceId info.vendorId info.productId
  pure
    { vid := deviceId.vid
      pid := deviceId.pid
      description := deviceId.description
      serial := normalizedSerial info.serialNumber
      productString := info.productString }

/-- SRCLINE: discovery.rs:124-127 -/
def matchesDevice (device : UsbDeviceInfo) (serial : Option UInt64) : Bool :=
  (findUsbDeviceId device.vendorId device.productId).isSome &&
    match serial with
    | none => true
    | some wanted => normalizedSerial device.serialNumber = wanted

/-- What `list_devices` makes of a listing.
SRCLINE: discovery.rs:71-78 -/
def listed (devices : List UsbDeviceInfo) : List DeviceDescriptor :=
  devices.filterMap DeviceDescriptor.fromNusb

/-- What `select_nusb_device` makes of a listing.
SRCLINE: discovery.rs:80-89 -/
def selected (serial : Option UInt64) (devices : List UsbDeviceInfo) : Result UsbDeviceInfo :=
  match devices.find? (matchesDevice · serial) with
  | some device => .ok device
  | none => .error .deviceNotFound

/-- One of the filters that the browser is asked to choose by. -/
structure UsbSelector where
  vid : UInt16
  pid : UInt16
  serialNumber : Option String
  deriving DecidableEq, Repr

/-- The filters of `request_nusb_device`.
SRCLINE: discovery.rs:92-105 -/
def selectors (serial : Option UInt64) : List UsbSelector :=
  USB_DEVICE_IDS.map fun deviceId =>
    { vid := deviceId.vid
      pid := deviceId.pid
      serialNumber := (serial.filter (· ≠ 0)).map selectorSerial }

/-- What becomes of the device that the browser grants, if it grants one.
SRCLINE: discovery.rs:117-121 -/
def granted (serial : Option UInt64) (device : Option UsbDeviceInfo) : Result Unit :=
  match device.filter (matchesDevice · serial) with
  | some _ => .ok ()
  | none => .error .deviceNotFound

/-! ## What is asked for -/

/-- A `nusb::Device`. -/
structure UsbDevice where
  handle : ℕ
  deriving DecidableEq, Repr

/-- A `nusb::Interface`. -/
structure UsbInterface where
  handle : ℕ
  deriving DecidableEq, Repr

/-- What `nusb` is asked for, up to the transfers of a claimed interface. -/
inductive UsbRequest where
  | listDevices
  | requestDevice (selectors : List UsbSelector)
  | openDevice (info : UsbDeviceInfo)
  | setConfiguration (device : UsbDevice) (configuration : UInt8)
  | detachAndClaimInterface (device : UsbDevice) (interface : UInt8)
  | transfer (interface : UsbInterface) (transfer : Transfer)
  deriving DecidableEq, Repr

/-- What `nusb` answers.  Of an error of its own the driver reads the kind. -/
@[reducible] def UsbRequest.Reply : UsbRequest → Type
  | .listDevices => Except UsbErrorKind (List UsbDeviceInfo)
  | .requestDevice _ => Except UsbErrorKind (Option UsbDeviceInfo)
  | .openDevice _ => Except UsbErrorKind UsbDevice
  | .setConfiguration _ _ => Except UsbErrorKind Unit
  | .detachAndClaimInterface _ _ => Except UsbErrorKind UsbInterface
  | .transfer _ request => request.Reply

/-- An operation before there is a session. -/
abbrev UsbOperation (σ α : Type) := MaybeFuture UsbRequest UsbRequest.Reply Error σ α

/-- `Error::from`. -/
def fromNusb {α : Type} (result : Except UsbErrorKind α) : Result α := result.mapError .usb

section Transport

variable {σ : Type}

/-- SRCLINE: discovery.rs:71-78 -/
def listDevices : UsbOperation σ (Result (List DeviceDescriptor)) :=
  (MaybeFuture.leaf UsbRequest.listDevices).map fun devices s =>
    (s, (fromNusb devices).map listed)

/-- SRCLINE: discovery.rs:80-89 -/
def selectNusbDevice (serial : Option UInt64) : UsbOperation σ (Result UsbDeviceInfo) :=
  (MaybeFuture.leaf UsbRequest.listDevices).map fun devices s =>
    (s, (fromNusb devices).bind (selected serial))

/-- A request of the browser's permission: a device that it has granted already is enough.
SRCLINE: discovery.rs:109-122 -/
def requestDevicePermission (serial : Option UInt64) : UsbOperation σ (Result Unit) :=
  ((MaybeFuture.leaf UsbRequest.listDevices).map fun devices s =>
    (s, fromNusb devices)).andThen fun devices s =>
    (s, if devices.any (matchesDevice · serial) then .ready (.ok ())
      else (MaybeFuture.leaf (UsbRequest.requestDevice (selectors serial))).map fun device s =>
        (s, (fromNusb device).bind (granted serial)))

/-- SRCLINE: usb/mod.rs:65-68 -/
structure NusbTransport where
  device : UsbDevice
  interface : UsbInterface
  deriving DecidableEq, Repr

/-- SRCLINE: usb/mod.rs:73-76 -/
def openInfo (info : UsbDeviceInfo) : UsbOperation σ (Result UsbDevice) :=
  (MaybeFuture.leaf (UsbRequest.openDevice info)).map fun device s =>
    (s, (fromNusb device).mapError (Error.atOperation "opening USB device"))

/-- Whether a configuration has been selected.  A platform that cannot select one is left with the
one it has.
SRCLINE: usb/mod.rs:79-83 -/
def configurationSelected : Except UsbErrorKind Unit → Result Unit
  | .ok _ => .ok ()
  | .error .unsupported => .ok ()
  | .error e => .error (Error.atOperation "selecting USB configuration 1" (.usb e))

/-- SRCLINE: usb/mod.rs:77-86 -/
def selectConfiguration (device : UsbDevice) : UsbOperation σ (Result UsbDevice) :=
  (MaybeFuture.leaf (UsbRequest.setConfiguration device 1)).map fun result s =>
    (s, (configurationSelected result).map fun _ => device)

/-- SRCLINE: usb/mod.rs:87-95 -/
def claimInterface (device : UsbDevice) : UsbOperation σ (Result NusbTransport) :=
  ((MaybeFuture.leaf (UsbRequest.detachAndClaimInterface device 0)).map fun interface s =>
    (s, (fromNusb interface).mapError
      (Error.atOperation "claiming HydraSDR USB interface 0"))).mapOk fun interface =>
    { device := device, interface := interface }

/-- `NusbTransport::open`.
SRCLINE: usb/mod.rs:71-97 -/
def openTransport (serial : Option UInt64) : UsbOperation σ (Result NusbTransport) :=
  (((selectNusbDevice serial).andThen fun info s => (s, openInfo info)).andThen fun device s =>
    (s, selectConfiguration device)).andThen fun device s => (s, claimInterface device)

end Transport

/-! ## The builder -/

/-- The host state of an opening: what has been asked for before there is a session, oldest first,
and the state of the session. -/
structure OpeningWorld (mode : SampleFormat) where
  asked : List UsbRequest
  device : DeviceWorld mode

/-- How requests act on it. -/
def OpeningWorld.port {mode : SampleFormat} : Port UsbRequest UsbRequest.Reply (OpeningWorld mode) where
  ticket w := DeviceWorld.port.ticket w.device
  issue request w :=
    match request with
    | .transfer _ transfer => { w with device := DeviceWorld.port.issue transfer w.device }
    | request => { w with asked := w.asked ++ [request] }
  settle ticket request reply w :=
    match request, reply with
    | .transfer _ transfer, reply =>
      { w with device := DeviceWorld.port.settle ticket transfer reply w.device }
    | _, _ => w

/-- Where the transfers of a session go. -/
def onInterface {mode : SampleFormat} (interface : UsbInterface) :
    Inclusion Transfer Transfer.Reply (DeviceWorld mode) UsbRequest UsbRequest.Reply
      (OpeningWorld mode) where
  request := .transfer interface
  reply _ reply := reply
  get := OpeningWorld.device
  put device w := { w with device := device }

/-- An operation on a part of the host state, with an operation for each of its requests. -/
def MaybeFuture.embed {ℓ ℓ' : Type} {Reply : ℓ → Type} {Reply' : ℓ' → Type} {ε σ τ : Type}
    (leaf : (request : ℓ) → MaybeFuture ℓ' Reply' ε τ (Reply request)) (get : τ → σ)
    (put : σ → τ → τ) {α : Type} : MaybeFuture ℓ Reply ε σ α → MaybeFuture ℓ' Reply' ε τ α
  | .ready value => .ready value
  | .leaf request => leaf request
  | .mapping source effect value =>
    .mapping (source.embed leaf get put) (fun a t => put (effect a (get t)) t)
      fun a t => value a (get t)
  | .chained wrapped effect next =>
    .chained (wrapped.embed leaf get put) (fun a t => put (effect a (get t)) t)
      fun a t => (next a (get t)).embed leaf get put
  | .continued wrapped effect next =>
    .continued (wrapped.embed leaf get put) (fun a t => put (effect a (get t)) t)
      fun a t => (next a (get t)).embed leaf get put
  | .left operation => .left (operation.embed leaf get put)
  | .right operation => .right (operation.embed leaf get put)
  | .sequence commands execute =>
    .sequence commands fun command => (execute command).embed leaf get put

/-- An operation of a session on the claimed interface of its transport. -/
def onTransport {mode : SampleFormat} {α : Type} (control : NusbTransport)
    (operation : Operation (DeviceWorld mode) α) : UsbOperation (OpeningWorld mode) α :=
  operation.embed (fun transfer => .leaf (UsbRequest.transfer control.interface transfer))
    OpeningWorld.device fun device w => { w with device := device }

/-- SRCLINE: config.rs:27-34 -/
inductive DeviceSelector where
  | first
  | serial (serial : UInt64)
  deriving DecidableEq, Repr

def DeviceSelector.wanted : DeviceSelector → Option UInt64
  | .first => none
  | .serial wanted => some wanted

/-- SRCLINE: device.rs:332-335 -/
structure DeviceBuilder (mode : SampleFormat) where
  selector : DeviceSelector
  config : ConfigBuilder mode

namespace DeviceBuilder

variable {mode : SampleFormat}

/-- SRCLINE: device.rs:337-344 -/
def standard : DeviceBuilder .f32Iq := ⟨.first, .standard⟩

/-- SRCLINE: device.rs:350-353 -/
def serial (builder : DeviceBuilder mode) (serial : UInt64) : DeviceBuilder mode :=
  { builder with selector := .serial serial }

/-- The state of a device of which nothing is known: `Session::new`, and the snapshot that is
going to be the device's. -/
def newWorld (config : Config mode) : DeviceWorld mode := ⟨.new, .empty, config, none⟩

/-- SRCLINE: device.rs:421-432 -/
def openDevice (builder : DeviceBuilder mode) : UsbOperation (OpeningWorld mode) (Result Unit) :=
  (MaybeFuture.ready builder.config.build).andThen fun config w =>
    (w, (openTransport builder.selector.wanted).andThen fun control w =>
      ({ w with device := newWorld config.1 },
        onTransport control (Session.initializeSession config.1)))

end DeviceBuilder

end HydraSdr.Program
