import HydraSdr.Analysis.Configurations
import HydraSdr.Computation.CommandLog

/-!
# The registers of the firmware

The firmware keeps a register for every setting and two for each stage with automatic gain control;
it never reports them.  `effective` is what they amount to and `demanded` what a configuration asks
for.  Each command list of the protocol takes the one to the other, for the settings it has commands
for, and leaves the rest alone.
-/

set_option autoImplicit false

namespace HydraSdr.Analysis

open HydraSdr.Program HydraSdr.Computation

variable {mode : SampleFormat}

/-- The settings of a configuration; the rate is the firmware's together with the host's
decimation. -/
inductive Setting where
  | frequency
  | rate
  | rfPort
  | gain
  | packing
  | biasTee
  deriving DecidableEq, Repr

/-- The setting that a vendor request is about. -/
def requestSetting : VendorRequest → Option Setting
  | .setFreq => some .frequency
  | .setSamplerate => some .rate
  | .setRfPort => some .rfPort
  | .setLnaGain | .setMixerGain | .setVgaGain | .setLnaAgc | .setMixerAgc => some .gain
  | .setPacking => some .packing
  | .setRfBiasCmd => some .biasTee
  | _ => none

/-- The setting that a transfer is a command for. -/
def transferSetting : Transfer → Option Setting
  | .controlIn request => requestSetting request.request
  | .controlOut request => requestSetting request.request
  | _ => none

/-- The settings for which a list of transfers has commands. -/
def settingsOf (transfers : List Transfer) : List Setting := transfers.filterMap transferSetting

/-- What the firmware keeps. -/
structure Registers where
  frequency : UInt64
  rateIndex : UInt16
  rfPort : UInt16
  packing : UInt16
  bias : UInt16
  vgaGain : UInt16
  lnaAgc : UInt16
  lnaGain : UInt16
  mixerAgc : UInt16
  mixerGain : UInt16
  deriving DecidableEq

/-- The number that little-endian bytes stand for. -/
def littleEndianValue (bytes : List UInt8) : UInt64 :=
  bytes.foldr (fun byte value => byte.toUInt64 + 256 * value) 0

namespace Registers

/-- A request with a response writes the register it names to its index. -/
def writeIndex (request : VendorRequest) (index : UInt16) (registers : Registers) : Registers :=
  match request with
  | .setSamplerate => { registers with rateIndex := index }
  | .setRfPort => { registers with rfPort := index }
  | .setPacking => { registers with packing := index }
  | .setVgaGain => { registers with vgaGain := index }
  | .setLnaAgc => { registers with lnaAgc := index }
  | .setLnaGain => { registers with lnaGain := index }
  | .setMixerAgc => { registers with mixerAgc := index }
  | .setMixerGain => { registers with mixerGain := index }
  | _ => registers

/-- What the firmware does with a transfer that it carries out. -/
def write : Transfer → Registers → Registers
  | .controlIn request, registers => registers.writeIndex request.request request.index
  | .controlOut request, registers =>
    match request.request with
    | .setFreq => { registers with frequency := littleEndianValue request.data }
    | .setRfBiasCmd => { registers with bias := request.index }
    | _ => registers
  | _, registers => registers

/-- The registers after all of these transfers. -/
def writeAll (transfers : List Transfer) (registers : Registers) : Registers :=
  transfers.foldl (fun registers transfer => write transfer registers) registers

end Registers

/-- The gain that is in effect: a stage without a value is under automatic control. -/
structure EffectiveGain where
  lna : Option UInt16
  mixer : Option UInt16
  vga : UInt16
  deriving DecidableEq

/-- The value of one setting. -/
inductive SettingValue where
  | frequency (frequencyHz : UInt64)
  | rate (selected : Option (UInt16 × ℕ))
  | rfPort (port : UInt16)
  | gain (gain : EffectiveGain)
  | packing (enabled : UInt16)
  | biasTee (enabled : UInt16)
  deriving DecidableEq

/-- What the registers, and the decimation on the host, amount to.  A manual gain is effective only
while the automatic control of its stage is off. -/
def effective (registers : Registers) (receive : ReceiveSettings) : Setting → SettingValue
  | .frequency => .frequency registers.frequency
  | .rate => .rate (some (registers.rateIndex, receive.decimation))
  | .rfPort => .rfPort registers.rfPort
  | .gain => .gain
    { lna := if registers.lnaAgc = 0 then some registers.lnaGain else none
      mixer := if registers.mixerAgc = 0 then some registers.mixerGain else none
      vga := registers.vgaGain }
  | .packing => .packing registers.packing
  | .biasTee => .biasTee registers.bias

/-- The gains of a preset.  The tables run down from the entry of the highest preset value, 21; a
higher value counts as that. -/
def presetGain (value : UInt8) (vgaGains mixerGains lnaGains : Vector UInt8 RFONE_GAIN_TABLE_SIZE) :
    EffectiveGain :=
  let entry : Fin RFONE_GAIN_TABLE_SIZE :=
    ⟨21 - min value.toNat 21, (Nat.sub_le _ _).trans_lt (by decide)⟩
  { lna := some (lnaGains.get entry).toUInt16
    mixer := some (mixerGains.get entry).toUInt16
    vga := (vgaGains.get entry).toUInt16 }

/-- The value of a stage. -/
def stageValue : StageGain → Option UInt16
  | .manual value => some value.toUInt16
  | .agc => none

/-- The gain that a gain configuration asks for. -/
def demandedGain : GainConfig → EffectiveGain
  | .preset (.linearity value) => presetGain value RFONE_LINEARITY_VGA_GAINS
      RFONE_LINEARITY_MIXER_GAINS RFONE_LINEARITY_LNA_GAINS
  | .preset (.sensitivity value) => presetGain value RFONE_SENSITIVITY_VGA_GAINS
      RFONE_SENSITIVITY_MIXER_GAINS RFONE_SENSITIVITY_LNA_GAINS
  | .stages lna mixer vga => ⟨stageValue lna, stageValue mixer, vga.toUInt16⟩

/-- The firmware rates that come down to a rate when they are halved at most six times, from the
highest on: their indices, and the factors. -/
def reachedFrom (rate : UInt32) : List (UInt16 × ℕ) :=
  (List.range RFONE_FIRMWARE_IQ_SAMPLE_RATES.length).flatMap fun index =>
    ((List.range 7).map fun k => 2 ^ k).filterMap fun factor =>
      if RFONE_FIRMWARE_IQ_SAMPLE_RATES[index]?.any (·.toNat = rate.toNat * factor) then
        some (index.toUInt16, factor)
      else none

/-- What a sample rate asks for.  Real samples come at twice the firmware rate.  Complex samples are
decimated on the host, from the lowest firmware rate there is for a low bandwidth, and from the
highest for a high definition. -/
def demandedRate : SampleFormat → DecimationPolicy → UInt32 → Option (UInt16 × ℕ)
  | .rawAdc, _, rate => (RFONE_FIRMWARE_IQ_SAMPLE_RATES.findIdx? fun firmware =>
      firmware.toNat * 2 = rate.toNat).map fun index => (index.toUInt16, 1)
  | .f32Iq, .lowBandwidth, rate => (reachedFrom rate).getLast?
  | .f32Iq, .highDefinition, rate => (reachedFrom rate).head?

/-- What a configuration asks for. -/
def demanded (config : Config mode) : Setting → SettingValue
  | .frequency => .frequency config.frequencyHz
  | .rate => .rate (demandedRate mode config.decimationPolicy config.sampleRateHz)
  | .rfPort => .rfPort config.rfPort.toUInt16
  | .gain => .gain (demandedGain config.gain)
  | .packing => .packing config.packing.toUInt16
  | .biasTee => .biasTee config.biasTee.toUInt16

/-! ## What is looked up -/

/-- **The entry that is looked up** for a preset is the one that the preset asks for. -/
theorem reverseGainTableIndex_val (value : UInt8) :
    (reverseGainTableIndex value).val = 21 - min value.toNat 21 := by
  have hle : value ≤ 21 ↔ value.toNat ≤ 21 := UInt8.le_iff_toNat_le
  show 21 - (if value ≤ 21 then value else 21).toNat = 21 - min value.toNat 21
  split
  · rename_i hsmall
    rw [Nat.min_eq_left (hle.mp hsmall)]
  · rename_i hlarge
    rw [Nat.min_eq_right (Nat.le_of_not_le fun hsmall => hlarge (hle.mpr hsmall))]
    rfl

/-- The gains that are looked up for a preset are those that it asks for. -/
theorem presetGain_eq (value : UInt8)
    (vgaGains mixerGains lnaGains : Vector UInt8 RFONE_GAIN_TABLE_SIZE) :
    presetGain value vgaGains mixerGains lnaGains =
      { lna := some (lnaGains.get (reverseGainTableIndex value)).toUInt16
        mixer := some (mixerGains.get (reverseGainTableIndex value)).toUInt16
        vga := (vgaGains.get (reverseGainTableIndex value)).toUInt16 } := by
  have hentry : (⟨21 - min value.toNat 21, (Nat.sub_le _ _).trans_lt (by decide)⟩ :
      Fin RFONE_GAIN_TABLE_SIZE) = reverseGainTableIndex value :=
    Fin.ext (reverseGainTableIndex_val value).symm
  unfold presetGain
  rw [hentry]

/-- **The rate that is selected** is the one that is asked for. -/
theorem demandedRate_of_selected {policy : DecimationPolicy} {rate : UInt32}
    {selected : SelectedSampleRate} (h : sampleRateConfig mode policy rate = .ok selected) :
    demandedRate mode policy rate = some (selected.param, selected.decimation.toNat) := by
  have hvalid := (rate_selected_iff policy rate).mp ⟨selected, h⟩
  -- the rates that can be selected are listed
  have hselects : ∀ rate : UInt32, ((sampleRateConfig mode policy rate).toOption.all fun selected =>
      demandedRate mode policy rate = some (selected.param, selected.decimation.toNat)) = true →
        ∀ selected, sampleRateConfig mode policy rate = .ok selected →
          demandedRate mode policy rate = some (selected.param, selected.decimation.toNat) := by
    intro rate hall selected hselected
    rw [hselected] at hall
    exact of_decide_eq_true hall
  cases mode with
  | rawAdc =>
    have hlist : RFONE_RAW_ADC_SAMPLE_RATES.all (fun rate =>
        (sampleRateConfig .rawAdc policy rate).toOption.all fun selected =>
          demandedRate .rawAdc policy rate = some (selected.param, selected.decimation.toNat)) =
            true := by
      cases policy <;> decide
    have hlisted : rate ∈ RFONE_RAW_ADC_SAMPLE_RATES := by
      by_contra hnot
      exact nomatch (if_neg hnot).symm.trans hvalid
    exact hselects rate (List.all_eq_true.mp hlist rate hlisted) selected h
  | f32Iq =>
    have hlist : RFONE_F32_IQ_SAMPLE_RATES.all (fun rate =>
        (sampleRateConfig .f32Iq policy rate).toOption.all fun selected =>
          demandedRate .f32Iq policy rate = some (selected.param, selected.decimation.toNat)) =
            true := by
      cases policy <;> decide
    have hlisted : rate ∈ RFONE_F32_IQ_SAMPLE_RATES := by
      by_contra hnot
      exact nomatch (if_neg hnot).symm.trans hvalid
    exact hselects rate (List.all_eq_true.mp hlist rate hlisted) selected h

/-! ## What a transfer writes -/

/-- The bytes of a frequency stand for it. -/
theorem littleEndianValue_littleEndian (value : UInt64) :
    littleEndianValue (littleEndian value) = value := by
  have hlt : value.toNat < 2 ^ 64 := value.toNat_lt
  apply UInt64.toNat_inj.mp
  simp only [littleEndianValue, littleEndian, List.range, List.range.loop, List.map_cons,
    List.map_nil, List.foldr_cons, List.foldr_nil, UInt64.toNat_add, UInt64.toNat_mul,
    UInt64.toNat_shiftRight, UInt8.toNat_toUInt64, UInt64.toNat_toUInt8, Nat.toUInt64,
    UInt64.toNat_ofNat, UInt64.toNat_ofNat', Nat.shiftRight_eq_div_pow]
  simp only [Nat.reduceMul, Nat.reduceMod, Nat.reducePow, Nat.mul_zero, Nat.zero_mod, Nat.add_zero,
    Nat.div_one] at hlt ⊢
  omega

/-- A transfer that is no command for a setting writes nothing. -/
theorem write_of_none {transfer : Transfer} (h : transferSetting transfer = none)
    (registers : Registers) : Registers.write transfer registers = registers := by
  cases transfer with
  | controlIn request =>
    obtain ⟨request, value, index, length⟩ := request
    cases request <;> first | rfl | exact nomatch h
  | controlOut request =>
    obtain ⟨request, value, index, data⟩ := request
    cases request <;> first | rfl | exact nomatch h
  | bulkIn endpoint => rfl
  | clearHalt => rfl

/-- A transfer changes only the setting that it is a command for. -/
theorem effective_write {transfer : Transfer} {setting : Setting}
    (h : transferSetting transfer ≠ some setting) (receive : ReceiveSettings)
    (registers : Registers) : effective (Registers.write transfer registers) receive setting =
      effective registers receive setting := by
  cases transfer with
  | controlIn request =>
    obtain ⟨request, value, index, length⟩ := request
    cases request <;> cases setting <;> first | rfl | exact absurd rfl h
  | controlOut request =>
    obtain ⟨request, value, index, data⟩ := request
    cases request <;> cases setting <;> first | rfl | exact absurd rfl h
  | bulkIn endpoint => rfl
  | clearHalt => rfl

theorem writeAll_append (first second : List Transfer) (registers : Registers) :
    Registers.writeAll (first ++ second) registers =
      Registers.writeAll second (Registers.writeAll first registers) :=
  List.foldl_append

/-- Transfers leave the settings alone that they have no command for. -/
theorem effective_writeAll {transfers : List Transfer} {setting : Setting}
    (h : setting ∉ settingsOf transfers) (receive : ReceiveSettings) (registers : Registers) :
    effective (Registers.writeAll transfers registers) receive setting =
      effective registers receive setting := by
  induction transfers generalizing registers with
  | nil => rfl
  | cons transfer transfers ih =>
    have hfirst : transferSetting transfer ≠ some setting := by
      intro hsetting
      apply h
      exact List.mem_filterMap.mpr ⟨transfer, List.mem_cons_self, hsetting⟩
    have hrest : setting ∉ settingsOf transfers := by
      intro hmem
      obtain ⟨other, hother, hsetting⟩ := List.mem_filterMap.mp hmem
      exact h (List.mem_filterMap.mpr ⟨other, List.mem_cons_of_mem _ hother, hsetting⟩)
    exact (ih hrest _).trans (effective_write hfirst receive registers)

/-! ## What a list of commands installs -/

/-- The transfers take the registers to what `config'` asks for, in every setting that they have a
command for; the other settings are the same in both configurations. -/
structure Installs (transfers : List Transfer) (config config' : Config mode)
    (receive receive' : ReceiveSettings) : Prop where
  written : ∀ setting ∈ settingsOf transfers, ∀ registers,
    effective (Registers.writeAll transfers registers) receive' setting = demanded config' setting
  kept : ∀ setting, setting ∉ settingsOf transfers →
    demanded config' setting = demanded config setting ∧
      ∀ registers, effective registers receive' setting = effective registers receive setting

/-- The transfers of a gain plan. -/
def gainTransfers (gain : GainConfig) : List Transfer :=
  ((gainConfigPlan gain).map Command.read).map Transfer.ofCommand

/-- A gain plan has commands for the gain, and for nothing else. -/
theorem settingsOf_gainTransfers (gain : GainConfig) (setting : Setting) :
    setting ∈ settingsOf (gainTransfers gain) ↔ setting = .gain := by
  have hall : ∃ count, settingsOf (gainTransfers gain) = List.replicate (count + 1) .gain := by
    rcases gain with ⟨value | value⟩ | ⟨lna, mixer, vga⟩
    · exact ⟨4, rfl⟩
    · exact ⟨4, rfl⟩
    · cases lna with
      | manual value => cases mixer <;> first | exact ⟨4, rfl⟩ | exact ⟨3, rfl⟩
      | agc => cases mixer <;> first | exact ⟨3, rfl⟩ | exact ⟨2, rfl⟩
  obtain ⟨count, hcount⟩ := hall
  rw [hcount, List.mem_replicate]
  exact and_iff_right (Nat.succ_ne_zero count)

/-- **A gain plan leaves the gain that was asked for**, whatever was in effect before. -/
theorem effective_gainTransfers (gain : GainConfig) (receive : ReceiveSettings)
    (registers : Registers) :
    effective (Registers.writeAll (gainTransfers gain) registers) receive .gain =
      .gain (demandedGain gain) := by
  rcases gain with ⟨value | value⟩ | ⟨lna, mixer, vga⟩
  · rw [demandedGain, presetGain_eq]
    rfl
  · rw [demandedGain, presetGain_eq]
    rfl
  · cases lna <;> cases mixer <;> rfl

variable {config config' : Config mode} {receive receive' : ReceiveSettings}

/-- A single command installs a configuration that differs in its setting only. -/
theorem installs_command {transfer : Transfer} {setting : Setting}
    (hsetting : transferSetting transfer = some setting)
    (hwritten : ∀ registers,
      effective (Registers.write transfer registers) receive' setting = demanded config' setting)
    (hkept : ∀ other, other ≠ setting → demanded config' other = demanded config other ∧
      ∀ registers, effective registers receive' other = effective registers receive other) :
    Installs [transfer] config config' receive receive' := by
  have hmem : ∀ other, other ∈ settingsOf [transfer] ↔ other = setting := by
    intro other
    simp only [settingsOf, List.filterMap_cons, hsetting, List.filterMap_nil, List.mem_singleton]
  constructor
  · intro other hother registers
    rw [(hmem other).mp hother]
    exact hwritten registers
  · intro other hother
    exact hkept other fun h => hother ((hmem other).mpr h)

theorem installs_gain (config : Config mode) (gain : GainConfig) (receive : ReceiveSettings) :
    Installs (gainTransfers gain) config { config with gain := gain } receive receive := by
  constructor
  · intro setting hsetting registers
    rw [(settingsOf_gainTransfers gain setting).mp hsetting]
    exact effective_gainTransfers gain receive registers
  · intro setting hsetting
    have hother : setting ≠ .gain := fun h => hsetting ((settingsOf_gainTransfers gain setting).mpr h)
    cases setting <;> first | exact ⟨rfl, fun _ => rfl⟩ | exact absurd rfl hother

/-- The transfers of a whole configuration, around those of its gain plan. -/
theorem configuration_transfers {commands : List Command}
    (h : configuration config = .ok (commands, receive)) :
    ∃ rate, sampleRateConfig mode config.decimationPolicy config.sampleRateHz = .ok rate ∧
      receive = receiveSettings config rate ∧
      commands.map Transfer.ofCommand =
        [.controlOut (.setFrequency config.frequencyHz), .controlIn (.setSamplerate rate.param),
          .controlIn (.setRfPort config.rfPort)] ++ gainTransfers config.gain ++
        [.controlIn (.setPacking config.packing), .controlOut (.setRfBias config.biasTee)] := by
  obtain ⟨rate, hrate, h⟩ := bind_ok h
  cases hselected : sampleRateConfig mode config.decimationPolicy config.sampleRateHz with
  | error e =>
    rw [hselected] at hrate
    exact nomatch hrate
  | ok selected =>
    rw [hselected] at hrate
    obtain rfl := Except.ok.inj hrate
    obtain ⟨hcommands, hreceive⟩ := Prod.mk.inj (Except.ok.inj h)
    refine ⟨selected, rfl, hreceive.symm, ?_⟩
    rw [← hcommands, List.map_append, List.map_append]
    rfl

/-- **The commands of a configuration install all of it**, whatever was in effect before. -/
theorem effective_configuration {commands : List Command}
    (h : configuration config = .ok (commands, receive)) (setting : Setting)
    (registers : Registers) :
    effective (Registers.writeAll (commands.map Transfer.ofCommand) registers) receive setting =
      demanded config setting := by
  obtain ⟨rate, hrate, rfl, htransfers⟩ := configuration_transfers h
  have hgain : ∀ setting, setting ≠ .gain → ∀ registers,
      effective (Registers.writeAll (gainTransfers config.gain) registers)
        (receiveSettings config rate) setting =
          effective registers (receiveSettings config rate) setting := by
    intro setting hsetting
    apply effective_writeAll
    rw [settingsOf_gainTransfers]
    exact hsetting
  -- the last two commands write packing and bias power
  have hlast : ∀ setting, setting ∉ [Setting.packing, .biasTee] → ∀ registers,
      effective (Registers.writeAll [.controlIn (.setPacking config.packing),
        .controlOut (.setRfBias config.biasTee)] registers) (receiveSettings config rate) setting =
          effective registers (receiveSettings config rate) setting := by
    intro setting hsetting
    apply effective_writeAll
    exact hsetting
  rw [htransfers, writeAll_append, writeAll_append]
  cases setting with
  | frequency =>
    rw [hlast .frequency (by decide), hgain .frequency (nomatch ·)]
    simp only [Registers.writeAll, List.foldl_cons, List.foldl_nil, Registers.write,
      OutRequest.setFrequency, InRequest.setSamplerate, InRequest.setRfPort, InRequest.new,
      Registers.writeIndex, effective, demanded, littleEndianValue_littleEndian]
  | rate =>
    rw [hlast .rate (by decide), hgain .rate (nomatch ·)]
    simp only [demanded, demandedRate_of_selected hrate]
    rfl
  | rfPort =>
    rw [hlast .rfPort (by decide), hgain .rfPort (nomatch ·)]
    rfl
  | gain =>
    rw [hlast .gain (by decide)]
    exact effective_gainTransfers config.gain (receiveSettings config rate) _
  | packing => rfl
  | biasTee => rfl

/-- A configuration has commands for every setting. -/
theorem settingsOf_configuration {commands : List Command}
    (h : configuration config = .ok (commands, receive)) (setting : Setting) :
    setting ∈ settingsOf (commands.map Transfer.ofCommand) := by
  obtain ⟨rate, _, _, htransfers⟩ := configuration_transfers h
  rw [htransfers]
  have hmem : setting = .gain → setting ∈ settingsOf (gainTransfers config.gain) :=
    (settingsOf_gainTransfers config.gain setting).mpr
  unfold settingsOf at hmem ⊢
  rw [List.filterMap_append, List.filterMap_append, List.mem_append, List.mem_append]
  cases setting with
  | gain => exact .inl (.inr (hmem rfl))
  | frequency => exact .inl (.inl List.mem_cons_self)
  | rate => exact .inl (.inl (List.mem_cons_of_mem _ List.mem_cons_self))
  | rfPort => exact .inl (.inl (List.mem_cons_of_mem _ (List.mem_cons_of_mem _ List.mem_cons_self)))
  | packing => exact .inr List.mem_cons_self
  | biasTee => exact .inr (List.mem_cons_of_mem _ List.mem_cons_self)

theorem installs_configuration {commands : List Command}
    (h : configuration config' = .ok (commands, receive')) (config : Config mode)
    (receive : ReceiveSettings) :
    Installs (commands.map Transfer.ofCommand) config config' receive receive' :=
  ⟨fun setting _ => effective_configuration h setting,
    fun setting hnot => absurd (settingsOf_configuration h setting) hnot⟩

end HydraSdr.Analysis
