import Mathlib.Data.Nat.Notation
import HydraSdr.Program.Usb

/-!
# Firmware protocol

`protocol.rs`: executing requests and command sequences, the commands a configuration stands
for, rate selection, and the metadata read while a device is opened.
-/

set_option autoImplicit false

namespace HydraSdr.Program

variable {σ : Type}

/-- SRCLINE: protocol.rs:214-223 -/
def query (request : InRequest) : Operation σ (Result (List UInt8)) :=
  (controlIn request).map fun result s => (s, do
    let data ← result
    request.validate data
    pure data)

/-- SRCLINE: protocol.rs:225-233 -/
def execute : Command → Operation σ (Result Unit)
  | .read request => .left ((query request).mapOk fun _ => ())
  | .write request => .right (controlOut request)

/-- `Sequence::new`: an ordered command list. -/
def commandSequence (commands : List Command) : Operation σ (Result Unit) :=
  .sequence commands execute

/-! ## Rate selection -/

def DECIMATION_FACTORS_DESC : List UInt32 := [64, 32, 16, 8, 4, 2, 1]

/-- SRCLINE: protocol.rs:340-343 -/
structure SelectedSampleRate where
  param : UInt16
  decimation : UInt32
  deriving DecidableEq, Repr

/-- SRCLINE: protocol.rs:473-477 -/
def checkedVendorParam (value : ℕ) : Result UInt16 :=
  if value < UInt16.size then .ok value.toUInt16
  else .error (.protocol "encode vendor request" "parameter exceeds 16 bits")

/-- SRCLINE: protocol.rs:444-449 -/
def unsupportedSampleRate : Error :=
  .invalidConfig "sample_rate_hz" "is not supported by RFOne and the host decimator"

/-- A firmware rate from which the requested rate is reached by a host decimation factor. -/
def rateCandidate (samplerate rate : UInt32) : Option (UInt32 × UInt32) :=
  if samplerate = 0 then none
  else if rate % samplerate = 0 ∧ rate / samplerate ∈ DECIMATION_FACTORS_DESC then
    some (rate, rate / samplerate)
  else none

/-- `min_by_key` on the rate: the first of the smallest. -/
def minByRate : List (UInt32 × UInt32) → Option (UInt32 × UInt32)
  | [] => none
  | candidate :: candidates => some (candidates.foldl
      (fun best other => if other.1 < best.1 then other else best) candidate)

/-- `max_by_key` on the rate: the last of the largest. -/
def maxByRate : List (UInt32 × UInt32) → Option (UInt32 × UInt32)
  | [] => none
  | candidate :: candidates => some (candidates.foldl
      (fun best other => if other.1 < best.1 then best else other) candidate)

/-- SRCLINE: protocol.rs:429-442 -/
def sampleRateHardwareConfig (policy : DecimationPolicy) (samplerate : UInt32) :
    Option (UInt32 × UInt32) :=
  let candidates := RFONE_FIRMWARE_IQ_SAMPLE_RATES.filterMap (rateCandidate samplerate)
  match policy with
  | .lowBandwidth => minByRate candidates
  | .highDefinition => maxByRate candidates

/-- The selected rate comes from the firmware table, where the second `position` finds it
(`hardwareRate_found`): the `expect` behind it never fails.
SRCLINE: protocol.rs:401-427 -/
def sampleRateConfig (format : SampleFormat) (policy : DecimationPolicy) (samplerate : UInt32) :
    Result SelectedSampleRate :=
  match format with
  | .rawAdc =>
    match RFONE_RAW_ADC_SAMPLE_RATES.findIdx? (fun rate => rate = samplerate) with
    | none => .error unsupportedSampleRate
    | some index => do
      let param ← checkedVendorParam index
      pure ⟨param, 1⟩
  | .f32Iq =>
    match sampleRateHardwareConfig policy samplerate with
    | none => .error unsupportedSampleRate
    | some (hardwareRate, decimation) => do
      let param ← checkedVendorParam (RFONE_FIRMWARE_IQ_SAMPLE_RATES.idxOf hardwareRate)
      pure ⟨param, decimation⟩

/-! ## Gain plans -/

/-- SRCLINE: protocol.rs:469-471 -/
def reverseGainTableIndex (value : UInt8) : Fin RFONE_GAIN_TABLE_SIZE :=
  ⟨21 - (min value 21).toNat, by unfold RFONE_GAIN_TABLE_SIZE; omega⟩

/-- SRCLINE: protocol.rs:385-399 -/
def presetGainPlan (value : UInt8)
    (vgaGains mixerGains lnaGains : Vector UInt8 RFONE_GAIN_TABLE_SIZE) : List InRequest :=
  let index := reverseGainTableIndex value
  [ .stageGain .setMixerAgc 0,
    .stageGain .setLnaAgc 0,
    .stageGain .setVgaGain vgaGains[index],
    .stageGain .setMixerGain mixerGains[index],
    .stageGain .setLnaGain lnaGains[index] ]

/-- One stage of `stage_gain_plan`: manual gain switches the stage's AGC off first. -/
def stagePlan (agc gain : VendorRequest) : StageGain → List InRequest
  | .manual value => [.stageGain agc 0, .stageGain gain value]
  | .agc => [.stageGain agc 1]

/-- SRCLINE: protocol.rs:362-383 -/
def stageGainPlan (lna mixer : StageGain) (vga : UInt8) : List InRequest :=
  stagePlan .setLnaAgc .setLnaGain lna ++ stagePlan .setMixerAgc .setMixerGain mixer ++
    [.stageGain .setVgaGain vga]

/-- SRCLINE: protocol.rs:344-360 -/
def gainConfigPlan : GainConfig → List InRequest
  | .preset (.linearity value) =>
    presetGainPlan value RFONE_LINEARITY_VGA_GAINS RFONE_LINEARITY_MIXER_GAINS
      RFONE_LINEARITY_LNA_GAINS
  | .preset (.sensitivity value) =>
    presetGainPlan value RFONE_SENSITIVITY_VGA_GAINS RFONE_SENSITIVITY_MIXER_GAINS
      RFONE_SENSITIVITY_LNA_GAINS
  | .stages lna mixer vga => stageGainPlan lna mixer vga

/-! ## Whole configurations -/

/-- SRCLINE: protocol.rs:268-271 -/
structure ReceiveSettings where
  packing : Bool
  decimation : ℕ
  deriving DecidableEq, Repr

/-- SRCLINE: protocol.rs:273-299 -/
def configuration {mode : SampleFormat} (config : Config mode) :
    Checked (List Command × ReceiveSettings) := do
  let rate ← expect "Config contains a validated RFOne sample rate"
    (sampleRateConfig mode config.decimationPolicy config.sampleRateHz).toOption
  pure
    ([ .write (.setFrequency config.frequencyHz),
       .read (.setSamplerate rate.param),
       .read (.setRfPort config.rfPort) ] ++
      (gainConfigPlan config.gain).map .read ++
      [ .read (.setPacking config.packing),
        .write (.setRfBias config.biasTee) ],
    { packing := config.packing, decimation := rate.decimation.toNat })

/-! ## Metadata -/

/-- SRCLINE: device.rs:461-472 -/
structure RfPortInfo where
  port : RfPort
  name : String
  minFrequency : UInt64
  maxFrequency : UInt64
  hasBiasTee : Bool
  deriving DecidableEq, Repr

/-- SRCLINE: rfone.rs:44-52 -/
def rfPortInfos : List RfPortInfo :=
  [{ port := .rx0
     name := "ANT"
     minFrequency := RFONE_MIN_FREQ_HZ
     maxFrequency := RFONE_MAX_FREQ_HZ
     hasBiasTee := true }]

/-- Immutable device metadata.  The firmware version is kept as the bytes it was decoded from.
SRCLINE: device.rs:476-485 -/
structure DeviceInfo where
  boardName : String
  firmwareVersion : List UInt8
  serial : Option UInt64
  rfPorts : List RfPortInfo
  deriving DecidableEq, Repr

/-- SRCLINE: protocol.rs:54-58 -/
inductive BoardId where
  | protoHydraSdr
  | hydraSdrRfOneOfficial
  | invalid
  deriving DecidableEq, Repr

/-- SRCLINE: protocol.rs:67-74 -/
def BoardId.tryFrom (value : UInt8) : Option BoardId :=
  if value = 0 then some .protoHydraSdr
  else if value = 1 then some .hydraSdrRfOneOfficial
  else if value = 0xff then some .invalid
  else none

/-- The bytes of `"HydraSDR RF"`. -/
def EXPECTED_FW_PREFIX : List UInt8 := [72, 121, 100, 114, 97, 83, 68, 82, 32, 82, 70]

example : EXPECTED_FW_PREFIX = "HydraSDR RF".toUTF8.toList := by decide +kernel

/-- The bytes before the first zero.
SRCLINE: protocol.rs:461-467 -/
def decodeCString (bytes : List UInt8) : List UInt8 := bytes.takeWhile (· ≠ 0)

/-- `u32::from_le_bytes` of the four bytes from `index` on. -/
def littleEndianWord (bytes : List UInt8) (index : ℕ) : UInt64 :=
  ((bytes.drop (4 * index)).take 4).foldr (fun byte value => byte.toUInt64 + 256 * value) 0

/-- The firmware's final two little-endian words carry the high and low serial halves.
SRCLINE: protocol.rs:480-497 -/
def decodeSerial (bytes : List UInt8) : Result (Option UInt64) :=
  if bytes.length % 4 ≠ 0 then
    .error (.protocol "decode serial number" "response length is not a multiple of four bytes")
  else if bytes.length / 4 < 6 then
    .error (.protocol "decode serial number" "response contains fewer than six words")
  else
    let serial := littleEndianWord bytes 4 <<< 32 ||| littleEndianWord bytes 5
    .ok (if serial ≠ 0 then some serial else none)

/-- `bytes[0]` of a response whose validation has made sure of one byte. -/
def firstByte (bytes : List UInt8) : UInt8 := bytes.headD 0

/-- SRCLINE: protocol.rs:301-337 -/
def deviceInfo : Operation σ (Result DeviceInfo) :=
  let board := query .boardId
  let firmware := query .firmware
  let serial := query .serial
  ((board.mapErr (Error.atOperation "reading HydraSDR board ID")).andThen fun bytes s =>
    let board : Result BoardId := match BoardId.tryFrom (firstByte bytes) with
      | some board => .ok board
      | none => .error (.protocol "read board ID" "firmware returned an unknown board ID")
    (s, (MaybeFuture.ready board).andThen fun _ s =>
      (s, firmware.mapErr (Error.atOperation "reading HydraSDR firmware version")))).andThen
  fun bytes s =>
    let firmwareVersion := decodeCString bytes
    let validation : Result Unit :=
      if EXPECTED_FW_PREFIX.isPrefixOf firmwareVersion then .ok () else .error .deviceNotFound
    (s, ((MaybeFuture.ready validation).andThen fun _ s =>
      (s, serial.mapErr
        (Error.atOperation "reading HydraSDR part ID and serial number"))).map fun result s =>
      (s, do
        let serial ← decodeSerial (← result)
        pure
          { boardName := "HydraSDR RFOne"
            firmwareVersion := firmwareVersion
            serial := serial
            rfPorts := rfPortInfos }))

end HydraSdr.Program
