import HydraSdr.Program.Errors
import HydraSdr.Program.Rfone

/-!
# Receiver configuration

`config.rs`: the configuration values, the builder and the validation.  The compile-time mode
`M: SampleMode` is the parameter `mode`, whose value is `M::FORMAT`.
-/

set_option autoImplicit false

namespace HydraSdr.Program

/-- Policy for selecting a firmware rate and host-side IQ decimation factor. -/
inductive DecimationPolicy where
  | lowBandwidth
  | highDefinition
  deriving DecidableEq, Repr

/-- RF input port selector. -/
inductive RfPort where
  | rx0
  | rx1
  | rx2
  deriving DecidableEq, Repr

/-- The `#[repr(u8)]` value of a port. -/
def RfPort.toUInt16 : RfPort → UInt16
  | .rx0 => 0
  | .rx1 => 1
  | .rx2 => 2

/-- Sample format, and the compile-time sample mode it is derived from. -/
inductive SampleFormat where
  | rawAdc
  | f32Iq
  deriving DecidableEq, Repr

/-- Preset gain plans. -/
inductive GainPreset where
  | linearity (value : UInt8)
  | sensitivity (value : UInt8)
  deriving DecidableEq, Repr

/-- Gain control for an LNA or mixer stage. -/
inductive StageGain where
  | manual (value : UInt8)
  | agc
  deriving DecidableEq, Repr

/-- Complete gain configuration. -/
inductive GainConfig where
  | preset (preset : GainPreset)
  | stages (lna mixer : StageGain) (vga : UInt8)
  deriving DecidableEq, Repr

def DEFAULT_FREQUENCY_HZ : UInt64 := 100000000
def DEFAULT_SAMPLE_RATE_HZ : UInt32 := 10000000
def MAX_PRESET_GAIN : UInt8 := 21

/-- `GainConfig::default()`. -/
def GainConfig.standard : GainConfig := .stages (.manual 14) (.manual 15) 6

/-- Reusable receiver configuration for one sample mode.
SRCLINE: config.rs:189-198 -/
structure Config (mode : SampleFormat) where
  frequencyHz : UInt64
  sampleRateHz : UInt32
  decimationPolicy : DecimationPolicy
  rfPort : RfPort
  gain : GainConfig
  biasTee : Bool
  packing : Bool
  deriving DecidableEq

/-- SRCLINE: config.rs:474-482 -/
def validateFrequency (value : UInt64) : Result Unit :=
  if RFONE_MIN_FREQ_HZ ≤ value ∧ value ≤ RFONE_MAX_FREQ_HZ then .ok ()
  else .error (.invalidConfig "frequency_hz" "must be in 24_000_000..=1_800_000_000 Hz")

/-- SRCLINE: config.rs:484-496 -/
def validateSampleRate (value : UInt32) (sampleFormat : SampleFormat) : Result Unit :=
  let supported := match sampleFormat with
    | .rawAdc => RFONE_RAW_ADC_SAMPLE_RATES
    | .f32Iq => RFONE_F32_IQ_SAMPLE_RATES
  if value ∈ supported then .ok ()
  else .error (.invalidConfig "sample_rate_hz" "is not supported by RFOne and the host decimator")

/-- SRCLINE: config.rs:498-528 -/
def validateGain (gain : GainConfig) : Result Unit :=
  let presetCheck (value : UInt8) : Result Unit :=
    if MAX_PRESET_GAIN < value then
      .error (.invalidConfig "gain" "RFOne preset gain must be in 0..=21")
    else .ok ()
  let exceeds (stage : StageGain) (limit : UInt8) : Bool :=
    match stage with
    | .manual value => limit < value
    | .agc => false
  match gain with
  | .preset (.linearity value) => presetCheck value
  | .preset (.sensitivity value) => presetCheck value
  | .stages lna mixer vga =>
    if exceeds lna RFONE_LNA_MAX_GAIN then
      .error (.invalidConfig "gain" "manual LNA gain must be in 0..=14")
    else if exceeds mixer RFONE_MIXER_MAX_GAIN then
      .error (.invalidConfig "gain" "manual mixer gain must be in 0..=15")
    else if RFONE_VGA_MAX_GAIN < vga then
      .error (.invalidConfig "gain" "manual VGA gain must be in 0..=15")
    else .ok ()

namespace Config

variable {mode : SampleFormat}

/-- SRCLINE: config.rs:201-212 -/
def standard : Config mode where
  frequencyHz := DEFAULT_FREQUENCY_HZ
  sampleRateHz := DEFAULT_SAMPLE_RATE_HZ
  decimationPolicy := .lowBandwidth
  rfPort := .rx0
  gain := .standard
  biasTee := false
  packing := false

/-- SRCLINE: config.rs:289-294 -/
def validate (config : Config mode) : Result Unit := do
  validateFrequency config.frequencyHz
  validateSampleRate config.sampleRateHz mode
  validateGain config.gain

/-- SRCLINE: config.rs:332-340 -/
def applyInternal (_active applied : Config mode) : Config mode where
  frequencyHz := applied.frequencyHz
  sampleRateHz := applied.sampleRateHz
  decimationPolicy := applied.decimationPolicy
  rfPort := applied.rfPort
  gain := applied.gain
  biasTee := applied.biasTee
  packing := applied.packing

@[simp] theorem applyInternal_eq (active applied : Config mode) :
    active.applyInternal applied = applied := rfl

end Config

/-- A configuration that has passed `Config::validate`, as every one obtained from a builder
has. -/
abbrev ValidConfig (mode : SampleFormat) := { config : Config mode // config.validate = .ok () }

/-- The defaults are valid in either mode. -/
def ValidConfig.standard (mode : SampleFormat) : ValidConfig mode :=
  ⟨Config.standard, by cases mode <;> rfl⟩

/-- Builder for `Config`.  The builder of the IQ mode starts from the defaults.
SRCLINE: config.rs:373-383 -/
structure ConfigBuilder (mode : SampleFormat) where
  config : Config mode

namespace ConfigBuilder

variable {mode : SampleFormat}

def standard : ConfigBuilder .f32Iq := ⟨.standard⟩

def frequencyHz (builder : ConfigBuilder mode) (value : UInt64) : ConfigBuilder mode :=
  ⟨{ builder.config with frequencyHz := value }⟩

def sampleRateHz (builder : ConfigBuilder mode) (value : UInt32) : ConfigBuilder mode :=
  ⟨{ builder.config with sampleRateHz := value }⟩

def rfPort (builder : ConfigBuilder mode) (value : RfPort) : ConfigBuilder mode :=
  ⟨{ builder.config with rfPort := value }⟩

def gain (builder : ConfigBuilder mode) (value : GainConfig) : ConfigBuilder mode :=
  ⟨{ builder.config with gain := value }⟩

def biasTee (builder : ConfigBuilder mode) (enabled : Bool) : ConfigBuilder mode :=
  ⟨{ builder.config with biasTee := enabled }⟩

def packing (builder : ConfigBuilder .rawAdc) (enabled : Bool) : ConfigBuilder .rawAdc :=
  ⟨{ builder.config with packing := enabled }⟩

/-- The raw mode forgets the decimation policy.
SRCLINE: config.rs:453-458 -/
def rawAdc (builder : ConfigBuilder .f32Iq) : ConfigBuilder .rawAdc :=
  ⟨{ builder.config with decimationPolicy := .lowBandwidth }⟩

def decimationPolicy (builder : ConfigBuilder .f32Iq) (value : DecimationPolicy) :
    ConfigBuilder .f32Iq :=
  ⟨{ builder.config with decimationPolicy := value }⟩

/-- Validate and build a reusable configuration.
SRCLINE: config.rs:430-433 -/
def build (builder : ConfigBuilder mode) : Result (ValidConfig mode) :=
  match h : builder.config.validate with
  | .ok () => .ok ⟨builder.config, h⟩
  | .error e => .error e

end ConfigBuilder

end HydraSdr.Program
