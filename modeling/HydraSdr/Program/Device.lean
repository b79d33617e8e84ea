import HydraSdr.Program.Session

/-!
# The device handle

The operations of `device.rs` on an opened `Device<M>`.  The setters that exist for one sample
mode only are constructors of that mode.
-/

set_option autoImplicit false

namespace HydraSdr.Program

/-- What can be asked of an opened device. -/
inductive DeviceOperation : SampleFormat → Type where
  | configure {mode : SampleFormat} (config : ValidConfig mode) : DeviceOperation mode
  | setFrequencyHz {mode : SampleFormat} (frequencyHz : UInt64) : DeviceOperation mode
  | setSampleRateHz {mode : SampleFormat} (sampleRateHz : UInt32) : DeviceOperation mode
  | setRfPort {mode : SampleFormat} (port : RfPort) : DeviceOperation mode
  | setGain {mode : SampleFormat} (gain : GainConfig) : DeviceOperation mode
  | setBiasTee {mode : SampleFormat} (enabled : Bool) : DeviceOperation mode
  | setPacking (enabled : Bool) : DeviceOperation .rawAdc
  | setDecimationPolicy (policy : DecimationPolicy) : DeviceOperation .f32Iq
  | shutdown {mode : SampleFormat} : DeviceOperation mode

namespace Device

variable {mode : SampleFormat}

def setConfig (config : Config mode) (w : DeviceWorld mode) : DeviceWorld mode :=
  { w with config := config }

/-- `apply_update`, and `update` which passes it the device's own session and snapshot.  The
operation of the session exists before the validation is looked at, but has not been polled.
SRCLINE: device.rs:273-288, 488-504 -/
def update (proposed : Config mode) (commands : List Command) (receive : Option ReceiveSettings)
    (validation : Result Unit) : Operation (DeviceWorld mode) (Result Unit) :=
  let operation := Session.apply commands receive
  ((MaybeFuture.ready validation).andThen fun _ w => (w, operation)).map fun result w =>
    match result with
    | .ok _ => (setConfig (w.config.applyInternal proposed) w, .ok ())
    | .error e => (w, .error e)

/-- SRCLINE: device.rs:290-308 -/
def updateRate (proposed : Config mode) : Operation (DeviceWorld mode) (Result Unit) :=
  let rate := sampleRateConfig mode proposed.decimationPolicy proposed.sampleRateHz
  (MaybeFuture.ready rate).andThen fun rate w =>
    let receive := { w.session.receive with decimation := rate.decimation.toNat }
    (w, update proposed [.read (.setSamplerate rate.param)] (some receive) (.ok ()))

/-- SRCLINE: device.rs:131-137 -/
def configure (config : Config mode) : Checked (Operation (DeviceWorld mode) (Result Unit)) :=
  match configuration config with
  | .ok (commands, receive) => .ok (update config commands (some receive) (.ok ()))
  | .error panic => .error panic

/-- SRCLINE: device.rs:140-149 -/
def setFrequencyHz (frequencyHz : UInt64) (w : DeviceWorld mode) :
    Operation (DeviceWorld mode) (Result Unit) :=
  update { w.config with frequencyHz := frequencyHz } [.write (.setFrequency frequencyHz)] none
    (validateFrequency frequencyHz)

/-- SRCLINE: device.rs:156-163 -/
def setSampleRateHz (sampleRateHz : UInt32) (w : DeviceWorld mode) :
    Operation (DeviceWorld mode) (Result Unit) :=
  updateRate { w.config with sampleRateHz := sampleRateHz }

/-- SRCLINE: device.rs:166-175 -/
def setRfPort (port : RfPort) (w : DeviceWorld mode) :
    Operation (DeviceWorld mode) (Result Unit) :=
  update { w.config with rfPort := port } [.read (.setRfPort port)] none (.ok ())

/-- SRCLINE: device.rs:178-186 -/
def setGain (gain : GainConfig) (w : DeviceWorld mode) :
    Operation (DeviceWorld mode) (Result Unit) :=
  update { w.config with gain := gain } ((gainConfigPlan gain).map .read) none (validateGain gain)

/-- SRCLINE: device.rs:189-198 -/
def setBiasTee (enabled : Bool) (w : DeviceWorld mode) :
    Operation (DeviceWorld mode) (Result Unit) :=
  update { w.config with biasTee := enabled } [.write (.setRfBias enabled)] none (.ok ())

/-- SRCLINE: device.rs:241-254 -/
def setPacking (enabled : Bool) (w : DeviceWorld .rawAdc) :
    Operation (DeviceWorld .rawAdc) (Result Unit) :=
  let receive := { w.session.receive with packing := enabled }
  update { w.config with packing := enabled } [.read (.setPacking enabled)] (some receive) (.ok ())

/-- SRCLINE: device.rs:262-269 -/
def setDecimationPolicy (policy : DecimationPolicy) (w : DeviceWorld .f32Iq) :
    Operation (DeviceWorld .f32Iq) (Result Unit) :=
  updateRate { w.config with decimationPolicy := policy }

/-- What calling a method of the device returns, before anything of it is polled. -/
def call : {mode : SampleFormat} → DeviceOperation mode → DeviceWorld mode →
    Checked (Operation (DeviceWorld mode) (Result Unit))
  | _, .configure config, _ => configure config.1
  | _, .setFrequencyHz frequencyHz, w => .ok (setFrequencyHz frequencyHz w)
  | _, .setSampleRateHz sampleRateHz, w => .ok (setSampleRateHz sampleRateHz w)
  | _, .setRfPort port, w => .ok (setRfPort port w)
  | _, .setGain gain, w => .ok (setGain gain w)
  | _, .setBiasTee enabled, w => .ok (setBiasTee enabled w)
  | _, .setPacking enabled, w => .ok (setPacking enabled w)
  | _, .setDecimationPolicy policy, w => .ok (setDecimationPolicy policy w)
  | _, .shutdown, _ => .ok Session.shutdown

end Device

end HydraSdr.Program
