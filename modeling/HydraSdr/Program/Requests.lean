import HydraSdr.Program.Config

/-!
# Firmware requests

The typed vendor requests of `protocol.rs`, with the validation of their responses.  The
conversion to `nusb`'s setup packets is left out: every field it copies is a field here.
-/

set_option autoImplicit false

namespace HydraSdr.Program

/-- Receiver state encoded by the firmware. -/
inductive ReceiverMode where
  | off
  | rx
  deriving DecidableEq, Repr

/-- RFOne USB vendor requests. -/
inductive VendorRequest where
  | receiverMode
  | boardIdRead
  | versionStringRead
  | boardPartIdSerialNoRead
  | setSamplerate
  | setFreq
  | setLnaGain
  | setMixerGain
  | setVgaGain
  | setLnaAgc
  | setMixerAgc
  | setRfBiasCmd
  | setPacking
  | setRfPort
  deriving DecidableEq, Repr

/-- The `#[repr(u8)]` value of a receiver mode. -/
def ReceiverMode.toUInt16 : ReceiverMode → UInt16
  | .off => 0
  | .rx => 1

/-- A request that reads from the device.
SRCLINE: protocol.rs:78-83 -/
structure InRequest where
  request : VendorRequest
  value : UInt16
  index : UInt16
  length : UInt16
  deriving DecidableEq, Repr

/-- A response that must begin with the acknowledgement byte 1. -/
def validateAcknowledgement (operation reason : String) (data : List UInt8) : Result Unit :=
  if data.head? ≠ some 1 then .error (.protocol operation reason) else .ok ()

namespace InRequest

/-- SRCLINE: protocol.rs:86-93 -/
def new (request : VendorRequest) (index length : UInt16) : InRequest where
  request := request
  value := 0
  index := index
  length := length

def setSamplerate (index : UInt16) : InRequest := new .setSamplerate index 1

def stageGain (request : VendorRequest) (value : UInt8) : InRequest :=
  new request value.toUInt16 1

def setPacking (enabled : Bool) : InRequest := new .setPacking enabled.toUInt16 1

def setRfPort (port : RfPort) : InRequest := new .setRfPort port.toUInt16 1

def boardId : InRequest := new .boardIdRead 0 1

def firmware : InRequest := new .versionStringRead 0 255

def serial : InRequest := new .boardPartIdSerialNoRead 0 24

/-- The check every response passes before it is used.
SRCLINE: protocol.rs:126-146, 451-459 -/
def validate (request : InRequest) (data : List UInt8) : Result Unit :=
  let minimum := if request.request = .versionStringRead then 0 else request.length.toNat
  if data.length < minimum then
    .error (.protocol "control transfer" "response is shorter than requested")
  else match request.request with
    | .setSamplerate =>
      validateAcknowledgement "set sample rate" "firmware rejected the selected sample rate" data
    | .setRfPort =>
      validateAcknowledgement "set RF port" "firmware rejected the requested RF port" data
    | _ => .ok ()

end InRequest

/-- A request that writes to the device.
SRCLINE: protocol.rs:150-155 -/
structure OutRequest where
  request : VendorRequest
  value : UInt16
  index : UInt16
  data : List UInt8
  deriving DecidableEq, Repr

/-- `u64::to_le_bytes`. -/
def littleEndian (value : UInt64) : List UInt8 :=
  (List.range 8).map fun i => (value >>> (8 * i).toUInt64).toUInt8

namespace OutRequest

/-- SRCLINE: protocol.rs:168-175 -/
def receiverMode (mode : ReceiverMode) : OutRequest where
  request := .receiverMode
  value := mode.toUInt16
  index := 0
  data := []

/-- SRCLINE: protocol.rs:176-183 -/
def setFrequency (hz : UInt64) : OutRequest where
  request := .setFreq
  value := 0
  index := 0
  data := littleEndian hz

/-- SRCLINE: protocol.rs:184-191 -/
def setRfBias (enabled : Bool) : OutRequest where
  request := .setRfBiasCmd
  value := 0
  index := enabled.toUInt16
  data := []

end OutRequest

/-- One step of a command sequence.
SRCLINE: protocol.rs:199-202 -/
inductive Command where
  | read (request : InRequest)
  | write (request : OutRequest)
  deriving DecidableEq, Repr

instance : Coe InRequest Command := ⟨.read⟩
instance : Coe OutRequest Command := ⟨.write⟩

end HydraSdr.Program
