import HydraSdr.Analysis.DeviceCalls
import HydraSdr.Analysis.RateSelection
import HydraSdr.Analysis.StreamMoves
import HydraSdr.Computation.Submissions

/-!
# What each operation may submit

The rules of `Resumption.Submits` for the combinators of `maybe_future.rs`, and from them one lemma
for each operation of the device and of a stream: which transfers it may issue, and how many.
-/

set_option autoImplicit false

namespace HydraSdr.Analysis

open HydraSdr.Program HydraSdr.Computation

/-! ## Rules for the combinators -/

section Rules

variable {ℓ : Type} {Reply : ℓ → Type} {ε σ α β ι : Type} {log : σ → List ℓ}
  {permitted : ℓ → Prop}

/-- What an operation expression may submit. -/
abbrev OperationSubmits (log : σ → List ℓ) (permitted : ℓ → Prop)
    (operation : MaybeFuture ℓ Reply ε σ α) (n : ℕ) : Prop :=
  operation.denote.Submits log permitted n

theorem submits_ready (value : α) (n : ℕ) :
    OperationSubmits log permitted (.ready value : MaybeFuture ℓ Reply ε σ α) n :=
  trivial

theorem submits_leaf {request : ℓ} (h : permitted request) :
    OperationSubmits log permitted (.leaf request : MaybeFuture ℓ Reply ε σ (Reply request)) 1 :=
  ⟨h, fun _ => trivial⟩

theorem submits_map {source : MaybeFuture ℓ Reply ε σ α} {f : α → σ → σ × β} {n : ℕ}
    (hsource : OperationSubmits log permitted source n) (hf : ∀ a s, log (f a s).1 = log s) :
    OperationSubmits log permitted (source.map f) n := by
  unfold OperationSubmits
  rw [MaybeFuture.denote_map]
  exact Resumption.Submits.bind (m := 0) hsource fun a => ⟨hf a, fun _ => trivial⟩

theorem submits_mapOk {source : MaybeFuture ℓ Reply ε σ (Except ε α)} {f : α → β} {n : ℕ}
    (hsource : OperationSubmits log permitted source n) :
    OperationSubmits log permitted (source.mapOk f) n :=
  submits_map hsource fun _ _ => rfl

theorem submits_mapErr {source : MaybeFuture ℓ Reply ε σ (Except ε α)} {f : ε → ε} {n : ℕ}
    (hsource : OperationSubmits log permitted source n) :
    OperationSubmits log permitted (source.mapErr f) n :=
  submits_map hsource fun _ _ => rfl

theorem submits_andThen {wrapped : MaybeFuture ℓ Reply ε σ (Except ε α)}
    {continuation : α → σ → σ × MaybeFuture ℓ Reply ε σ (Except ε β)} {n m : ℕ}
    (hwrapped : OperationSubmits log permitted wrapped n)
    (hnext : ∀ a s, log (continuation a s).1 = log s ∧
      OperationSubmits log permitted (continuation a s).2 m) :
    OperationSubmits log permitted (wrapped.andThen continuation) (n + m) := by
  unfold OperationSubmits
  rw [MaybeFuture.denote_andThen]
  refine Resumption.Submits.bind hwrapped fun result => ?_
  cases result with
  | ok a => exact ⟨fun s => (hnext a s).1, fun s => (hnext a s).2⟩
  | error e => trivial

/-- `and_then` after a value that is known. -/
theorem submits_readyThen {value : Except ε α}
    {continuation : α → σ → σ × MaybeFuture ℓ Reply ε σ (Except ε β)} {n : ℕ}
    (hnext : ∀ a, value = .ok a → ∀ s, log (continuation a s).1 = log s ∧
      OperationSubmits log permitted (continuation a s).2 n) :
    OperationSubmits log permitted ((MaybeFuture.ready value).andThen continuation) n := by
  unfold OperationSubmits
  rw [MaybeFuture.denote_andThen, MaybeFuture.denote_ready, Resumption.bind_done]
  cases value with
  | ok a => exact ⟨fun s => (hnext a rfl s).1, fun s => (hnext a rfl s).2⟩
  | error e => trivial

theorem submits_continueWith {wrapped : MaybeFuture ℓ Reply ε σ α}
    {continuation : α → σ → σ × MaybeFuture ℓ Reply ε σ β} {n m : ℕ}
    (hwrapped : OperationSubmits log permitted wrapped n)
    (hnext : ∀ a s, log (continuation a s).1 = log s ∧
      OperationSubmits log permitted (continuation a s).2 m) :
    OperationSubmits log permitted (wrapped.continueWith continuation) (n + m) := by
  unfold OperationSubmits
  rw [MaybeFuture.denote_continueWith]
  exact Resumption.Submits.bind hwrapped fun a =>
    ⟨fun s => (hnext a s).1, fun s => (hnext a s).2⟩

/-- `defer`, and a closure that runs at the first poll. -/
theorem submits_deferred {operation : Unit → σ → σ × MaybeFuture ℓ Reply ε σ β} {n : ℕ}
    (h : ∀ s, log (operation () s).1 = log s ∧
      OperationSubmits log permitted (operation () s).2 n) :
    OperationSubmits log permitted ((MaybeFuture.ready ()).continueWith operation) n := by
  have hready : OperationSubmits log permitted
      (.ready () : MaybeFuture ℓ Reply ε σ Unit) 0 := submits_ready () 0
  have hboth := submits_continueWith hready fun _ s => h s
  rwa [Nat.zero_add] at hboth

theorem submits_sequence {commands : List ι}
    {execute : ι → MaybeFuture ℓ Reply ε σ (Except ε Unit)}
    (h : ∀ command ∈ commands, OperationSubmits log permitted (execute command) 1) :
    OperationSubmits log permitted (.sequence commands execute) commands.length :=
  Resumption.Submits.tryEach h

/-- An `Either` built by a condition. -/
theorem submits_ite {p : Prop} [Decidable p] {first second : MaybeFuture ℓ Reply ε σ α} {n : ℕ}
    (hfirst : p → OperationSubmits log permitted first n)
    (hsecond : ¬p → OperationSubmits log permitted second n) :
    OperationSubmits log permitted (if p then first else second) n := by
  by_cases h : p
  · rw [if_pos h]
    exact hfirst h
  · rw [if_neg h]
    exact hsecond h

end Rules

/-! ## The transfers that the hardware is made for -/

/-- A transfer with parameters in the ranges of the RFOne. -/
inductive Permitted : Transfer → Prop
  | boardId : Permitted (.controlIn .boardId)
  | firmware : Permitted (.controlIn .firmware)
  | serial : Permitted (.controlIn .serial)
  | samplerate (index : UInt16) (h : index.toNat < RFONE_FIRMWARE_IQ_SAMPLE_RATES.length) :
      Permitted (.controlIn (.setSamplerate index))
  | rfPort (port : RfPort) : Permitted (.controlIn (.setRfPort port))
  | lnaGain (value : UInt8) (h : value ≤ RFONE_LNA_MAX_GAIN) :
      Permitted (.controlIn (.stageGain .setLnaGain value))
  | mixerGain (value : UInt8) (h : value ≤ RFONE_MIXER_MAX_GAIN) :
      Permitted (.controlIn (.stageGain .setMixerGain value))
  | vgaGain (value : UInt8) (h : value ≤ RFONE_VGA_MAX_GAIN) :
      Permitted (.controlIn (.stageGain .setVgaGain value))
  | lnaAgc (value : UInt8) (h : value ≤ 1) : Permitted (.controlIn (.stageGain .setLnaAgc value))
  | mixerAgc (value : UInt8) (h : value ≤ 1) :
      Permitted (.controlIn (.stageGain .setMixerAgc value))
  | packing (enabled : Bool) : Permitted (.controlIn (.setPacking enabled))
  | frequency (hz : UInt64) (hmin : RFONE_MIN_FREQ_HZ ≤ hz) (hmax : hz ≤ RFONE_MAX_FREQ_HZ) :
      Permitted (.controlOut (.setFrequency hz))
  | rfBias (enabled : Bool) : Permitted (.rfBias enabled)
  | receiverMode (mode : ReceiverMode) : Permitted (.receiverMode mode)
  | bulkIn : Permitted (.bulkIn RFONE_RX_ENDPOINT)
  | clearHalt : Permitted .clearHalt

theorem StreamTransfer.permitted {transfer : Transfer} (h : StreamTransfer transfer) :
    Permitted transfer := by
  cases h with
  | receiverMode mode => exact .receiverMode mode
  | bulkIn => exact .bulkIn
  | clearHalt => exact .clearHalt

theorem permitted_frequency {hz : UInt64} (h : validateFrequency hz = .ok ()) :
    Permitted (.controlOut (.setFrequency hz)) := by
  unfold validateFrequency at h
  by_cases hrange : RFONE_MIN_FREQ_HZ ≤ hz ∧ hz ≤ RFONE_MAX_FREQ_HZ
  · exact .frequency hz hrange.1 hrange.2
  · rw [if_neg hrange] at h
    exact nomatch h

/-- A selected rate is one of the firmware's. -/
theorem permitted_rate {mode : SampleFormat} {policy : DecimationPolicy} {rate : UInt32}
    {selected : SelectedSampleRate} (h : sampleRateConfig mode policy rate = .ok selected) :
    Permitted (.controlIn (.setSamplerate selected.param)) := by
  have hselects := RateSelection.selects h
  apply Permitted.samplerate
  cases mode with
  | rawAdc =>
    obtain ⟨_, hlisted, _⟩ := hselects
    exact (List.getElem?_eq_some_iff.mp hlisted).1
  | f32Iq =>
    obtain ⟨_, hlisted, _⟩ := hselects
    exact (List.getElem?_eq_some_iff.mp hlisted).1

/-- The gain tables keep to the ranges of the stages. -/
theorem gainTables_inRange (entry : Fin RFONE_GAIN_TABLE_SIZE) :
    (RFONE_LINEARITY_VGA_GAINS.get entry ≤ RFONE_VGA_MAX_GAIN ∧
      RFONE_LINEARITY_MIXER_GAINS.get entry ≤ RFONE_MIXER_MAX_GAIN ∧
      RFONE_LINEARITY_LNA_GAINS.get entry ≤ RFONE_LNA_MAX_GAIN) ∧
    RFONE_SENSITIVITY_VGA_GAINS.get entry ≤ RFONE_VGA_MAX_GAIN ∧
      RFONE_SENSITIVITY_MIXER_GAINS.get entry ≤ RFONE_MIXER_MAX_GAIN ∧
      RFONE_SENSITIVITY_LNA_GAINS.get entry ≤ RFONE_LNA_MAX_GAIN := by
  revert entry
  unfold RFONE_GAIN_TABLE_SIZE
  decide

/-- The requests of a preset. -/
theorem permitted_preset {value : UInt8}
    {vgaGains mixerGains lnaGains : Vector UInt8 RFONE_GAIN_TABLE_SIZE}
    (h : ∀ entry, vgaGains.get entry ≤ RFONE_VGA_MAX_GAIN ∧
      mixerGains.get entry ≤ RFONE_MIXER_MAX_GAIN ∧ lnaGains.get entry ≤ RFONE_LNA_MAX_GAIN) :
    ∀ request ∈ presetGainPlan value vgaGains mixerGains lnaGains,
      Permitted (.controlIn request) := by
  obtain ⟨hvga, hmixer, hlna⟩ := h (reverseGainTableIndex value)
  intro request hrequest
  simp only [presetGainPlan, List.mem_cons, List.not_mem_nil, or_false] at hrequest
  rcases hrequest with rfl | rfl | rfl | rfl | rfl
  · exact .mixerAgc 0 (by decide)
  · exact .lnaAgc 0 (by decide)
  · exact .vgaGain _ hvga
  · exact .mixerGain _ hmixer
  · exact .lnaGain _ hlna

/-- The requests of one stage. -/
theorem permitted_stage {agc gain : VendorRequest} {stage : StageGain} {limit : UInt8}
    (hagc : ∀ value ≤ 1, Permitted (.controlIn (.stageGain agc value)))
    (hgain : ∀ value ≤ limit, Permitted (.controlIn (.stageGain gain value)))
    (hstage : ∀ value, stage = .manual value → value ≤ limit) :
    ∀ request ∈ stagePlan agc gain stage, Permitted (.controlIn request) := by
  intro request hrequest
  cases stage with
  | manual value =>
    simp only [stagePlan, List.mem_cons, List.not_mem_nil, or_false] at hrequest
    rcases hrequest with rfl | rfl
    · exact hagc 0 (by decide)
    · exact hgain value (hstage value rfl)
  | agc =>
    simp only [stagePlan, List.mem_cons, List.not_mem_nil, or_false] at hrequest
    rw [hrequest]
    exact hagc 1 (by decide)

/-- A validation that goes on has passed its first check. -/
theorem passes_check {p : Prop} [Decidable p] {e : Error} {rest : Result Unit}
    (h : (if p then .error e else rest) = .ok ()) : ¬p ∧ rest = .ok () := by
  by_cases hp : p
  · rw [if_pos hp] at h
    exact nomatch h
  · rw [if_neg hp] at h
    exact ⟨hp, h⟩

/-- **The plan of a gain configuration that has been validated.** -/
theorem permitted_gain {gain : GainConfig} (h : validateGain gain = .ok ()) :
    ∀ request ∈ gainConfigPlan gain, Permitted (.controlIn request) := by
  cases gain with
  | preset preset =>
    cases preset with
    | linearity value => exact permitted_preset fun entry => (gainTables_inRange entry).1
    | sensitivity value => exact permitted_preset fun entry => (gainTables_inRange entry).2
  | stages lna mixer vga =>
    obtain ⟨hlna, h⟩ := passes_check h
    obtain ⟨hmixer, h⟩ := passes_check h
    obtain ⟨hvga, _⟩ := passes_check h
    intro request hrequest
    simp only [gainConfigPlan, stageGainPlan, List.mem_append, List.mem_singleton] at hrequest
    rcases hrequest with (hrequest | hrequest) | rfl
    · refine permitted_stage .lnaAgc .lnaGain (fun value hvalue => ?_) request hrequest
      rw [hvalue] at hlna
      exact UInt8.not_lt.mp (by simpa using hlna)
    · refine permitted_stage .mixerAgc .mixerGain (fun value hvalue => ?_) request hrequest
      rw [hvalue] at hmixer
      exact UInt8.not_lt.mp (by simpa using hmixer)
    · exact .vgaGain vga (UInt8.not_lt.mp hvga)

/-- A plan has at most five requests. -/
theorem gainConfigPlan_length (gain : GainConfig) : (gainConfigPlan gain).length ≤ 5 := by
  cases gain with
  | preset preset => cases preset <;> exact Nat.le_refl 5
  | stages lna mixer vga =>
    simp only [gainConfigPlan, stageGainPlan, List.length_append, List.length_singleton]
    cases lna <;> cases mixer <;> simp [stagePlan]

/-- **The commands of a valid configuration.** -/
theorem permitted_configuration {mode : SampleFormat} {config : Config mode}
    (hvalid : config.validate = .ok ()) {commands : List Command} {receive : ReceiveSettings}
    (h : configuration config = .ok (commands, receive)) :
    commands.length ≤ 10 ∧ ∀ command ∈ commands, Permitted (.ofCommand command) := by
  obtain ⟨hfrequency, _, hgain⟩ := (validate_iff config).mp hvalid
  obtain ⟨rate, hrate, h⟩ := bind_ok h
  have hselected : sampleRateConfig mode config.decimationPolicy config.sampleRateHz = .ok rate := by
    cases hselected : sampleRateConfig mode config.decimationPolicy config.sampleRateHz with
    | error e => rw [hselected] at hrate; exact nomatch hrate
    | ok selected => rw [hselected] at hrate; exact congrArg Except.ok (Except.ok.inj hrate)
  obtain rfl := congrArg Prod.fst (Except.ok.inj h)
  refine ⟨?_, fun command hcommand => ?_⟩
  · have hlength := gainConfigPlan_length config.gain
    simp only [List.length_append, List.length_cons, List.length_nil, List.length_map]
    omega
  · simp only [List.mem_append, List.mem_cons, List.not_mem_nil, or_false, List.mem_map] at hcommand
    rcases hcommand with ((rfl | rfl | rfl) | ⟨request, hrequest, rfl⟩) | rfl | rfl
    · exact permitted_frequency hfrequency
    · exact permitted_rate hselected
    · exact .rfPort config.rfPort
    · exact permitted_gain hgain request hrequest
    · exact .packing config.packing
    · exact .rfBias config.biasTee

/-! ## Requests and command sequences -/

section Protocol

variable {σ : Type} {log : σ → List Transfer} {permitted : Transfer → Prop}

theorem query_submits {request : InRequest} (h : permitted (.controlIn request)) :
    OperationSubmits log permitted (query request) 1 :=
  submits_map (submits_leaf h) fun _ _ => rfl

theorem execute_submits {command : Command} (h : permitted (.ofCommand command)) :
    OperationSubmits log permitted (execute command) 1 := by
  cases command with
  | read request => exact submits_mapOk (query_submits h)
  | write request => exact submits_leaf h

theorem commandSequence_submits {commands : List Command}
    (h : ∀ command ∈ commands, permitted (.ofCommand command)) :
    OperationSubmits log permitted (commandSequence commands) commands.length :=
  submits_sequence fun command hcommand => execute_submits (h command hcommand)

theorem deviceInfo_submits : OperationSubmits log Permitted (deviceInfo (σ := σ)) (1 + 1 + 1) := by
  unfold deviceInfo
  apply submits_andThen
  · apply submits_andThen
    · exact submits_mapErr (query_submits .boardId)
    · intro bytes s
      refine ⟨rfl, submits_readyThen fun board _ s => ⟨rfl, ?_⟩⟩
      exact submits_mapErr (query_submits .firmware)
  · intro bytes s
    refine ⟨rfl, submits_map (submits_readyThen fun _ _ s => ⟨rfl, ?_⟩) fun _ _ => rfl⟩
    exact submits_mapErr (query_submits .serial)

theorem shutdownHardware_submits :
    OperationSubmits log Permitted (shutdownHardware (σ := σ)) (1 + 1) := by
  unfold shutdownHardware
  apply submits_andThen
  · exact submits_map (submits_mapErr (submits_leaf (.receiverMode .off))) fun _ _ => rfl
  · intro result s
    refine ⟨rfl, submits_map (submits_mapErr (submits_leaf (.rfBias false))) fun _ _ => rfl⟩

end Protocol

/-! ## Operations of the device -/

section Device

variable {mode : SampleFormat}

/-- The transfers issued to the transport of a device. -/
def issuedBy (w : DeviceWorld mode) : List Transfer := w.wire.issued

theorem deviceLogs : (@DeviceWorld.port mode).Logs issuedBy where
  issue _ _ := rfl
  settle ticket transfer reply w := Wire.settle_issued ticket transfer reply w.wire

/-- What an operation of the device may submit. -/
abbrev DeviceSubmits {α : Type} (operation : Operation (DeviceWorld mode) α) (n : ℕ) : Prop :=
  OperationSubmits issuedBy Permitted operation n

theorem apply_submits {commands : List Command} {receive : Option ReceiveSettings}
    (h : ∀ command ∈ commands, Permitted (.ofCommand command)) :
    DeviceSubmits (@Session.apply mode commands receive) commands.length := by
  refine submits_deferred fun w => ⟨rfl, submits_readyThen fun _ _ w => ⟨rfl, ?_⟩⟩
  refine submits_map (commandSequence_submits h) fun result w => ?_
  cases result with
  | error e => rfl
  | ok value => cases receive <;> rfl

theorem update_submits {proposed : Config mode} {commands : List Command}
    {receive : Option ReceiveSettings} {validation : Result Unit}
    (h : validation = .ok () → ∀ command ∈ commands, Permitted (.ofCommand command)) :
    DeviceSubmits (Device.update proposed commands receive validation) commands.length := by
  refine submits_map (submits_readyThen fun value hvalue w => ⟨rfl, ?_⟩) fun result w => ?_
  · exact apply_submits (h hvalue)
  · cases result <;> rfl

theorem updateRate_submits (proposed : Config mode) :
    DeviceSubmits (Device.updateRate proposed) 1 := by
  refine submits_readyThen fun rate hrate w => ⟨rfl, ?_⟩
  have hcommands : ∀ command ∈ [Command.read (.setSamplerate rate.param)],
      Permitted (.ofCommand command) := by
    intro command hcommand
    rw [List.mem_singleton.mp hcommand]
    exact permitted_rate hrate
  exact update_submits fun _ => hcommands

theorem shutdown_submits : DeviceSubmits (@Session.shutdown mode) (0 + (1 + 1)) := by
  unfold Session.shutdown
  apply submits_andThen
  · exact submits_map (submits_ready () 0) fun _ _ => rfl
  · intro run w
    cases run with
    | true =>
      refine ⟨rfl, submits_map shutdownHardware_submits fun result w => ?_⟩
      cases result <;> rfl
    | false => exact ⟨rfl, submits_ready _ _⟩

/-- One command that is permitted. -/
theorem single_permitted {command : Command} (h : Permitted (.ofCommand command)) :
    ∀ other ∈ [command], Permitted (.ofCommand other) :=
  fun _ hother => List.mem_singleton.mp hother ▸ h

/-- **Every operation of an open device.** -/
theorem call_submits {operation : DeviceOperation mode} {w : DeviceWorld mode}
    {built : Operation (DeviceWorld mode) (Result Unit)}
    (h : Device.call operation w = .ok built) : DeviceSubmits built 10 := by
  cases operation with
  | configure config =>
    obtain ⟨commands, receive, hcommands, _, hcall⟩ := configure_ok config
    obtain rfl := Except.ok.inj (hcall.symm.trans h)
    obtain ⟨hlength, hpermitted⟩ := permitted_configuration config.2 hcommands
    exact (update_submits fun _ => hpermitted).mono hlength
  | setFrequencyHz frequencyHz =>
    obtain rfl := Except.ok.inj h
    refine (update_submits fun hvalid => ?_).mono (m := 10) (by decide : 1 ≤ 10)
    exact single_permitted (permitted_frequency hvalid)
  | setSampleRateHz sampleRateHz =>
    obtain rfl := Except.ok.inj h
    exact (updateRate_submits _).mono (by decide)
  | setRfPort port =>
    obtain rfl := Except.ok.inj h
    refine (update_submits fun _ => ?_).mono (m := 10) (by decide : 1 ≤ 10)
    exact single_permitted (.rfPort port)
  | setGain gain =>
    obtain rfl := Except.ok.inj h
    refine (update_submits fun hvalid command hcommand => ?_).mono (m := 10) ?_
    · obtain ⟨request, hrequest, rfl⟩ := List.mem_map.mp hcommand
      exact permitted_gain hvalid request hrequest
    · have hlength := gainConfigPlan_length gain
      rw [List.length_map]
      omega
  | setBiasTee enabled =>
    obtain rfl := Except.ok.inj h
    refine (update_submits fun _ => ?_).mono (m := 10) (by decide : 1 ≤ 10)
    exact single_permitted (.rfBias enabled)
  | setPacking enabled =>
    obtain rfl := Except.ok.inj h
    refine (update_submits fun _ => ?_).mono (m := 10) (by decide : 1 ≤ 10)
    exact single_permitted (.packing enabled)
  | setDecimationPolicy policy =>
    obtain rfl := Except.ok.inj h
    exact (updateRate_submits _).mono (by decide)
  | shutdown =>
    obtain rfl := Except.ok.inj h
    exact shutdown_submits.mono (by decide)

theorem setInfo_issued (info : DeviceInfo) (w : DeviceWorld mode) :
    issuedBy (Session.setInfo info w) = issuedBy w := by
  unfold Session.setInfo
  split <;> rfl

/-- **Opening a session**: the metadata, the configuration, and a shutdown if either fails. -/
theorem initializeSession_submits {config : Config mode} (hvalid : config.validate = .ok ()) :
    DeviceSubmits (Session.initializeSession config) 15 := by
  obtain ⟨commands, receive, hcommands, _⟩ := inStep_of_valid hvalid
  obtain ⟨hlength, hpermitted⟩ := permitted_configuration hvalid hcommands
  have hconfigure : Session.configure config = .ok (Session.apply commands (some receive)) := by
    unfold Session.configure
    rw [hcommands]
  show DeviceSubmits (Session.initializeSession config) (1 + 1 + 1 + 10 + (0 + (1 + 1)))
  unfold Session.initializeSession
  apply submits_continueWith
  · apply submits_andThen
    · exact submits_mapErr deviceInfo_submits
    · intro info w
      rw [hconfigure]
      refine ⟨setInfo_issued info w, submits_mapErr ((apply_submits hpermitted).mono hlength)⟩
  · intro result w
    cases result with
    | ok value => exact ⟨rfl, submits_ready _ _⟩
    | error error => exact ⟨rfl, submits_map shutdown_submits fun _ _ => rfl⟩

end Device

/-! ## Operations of a stream -/

section Stream

variable {F : Type} [SampleArithmetic F] {mode : SampleFormat}

/-- The transfers issued to the transport of a stream. -/
def streamIssued (w : StreamWorld F mode) : List Transfer := w.wire.issued

omit [SampleArithmetic F] in
theorem streamLogs : (@StreamWorld.port F mode).Logs streamIssued where
  issue _ _ := rfl
  settle ticket transfer reply w := Wire.settle_issued ticket transfer reply w.wire

/-- What an operation of a stream may submit. -/
abbrev StreamSubmits {α : Type} (operation : Operation (StreamWorld F mode) α) (n : ℕ) : Prop :=
  OperationSubmits streamIssued StreamTransfer operation n

omit [SampleArithmetic F] in
/-- One command to switch the receiver, if it is needed. -/
theorem switch_submits {p : Prop} [Decidable p] (receiver : ReceiverMode) :
    @StreamSubmits F mode _ (if p then .left (controlOut (.receiverMode receiver))
      else .right (.ready (.ok ()))) 1 :=
  submits_ite (fun _ => submits_leaf (.receiverMode receiver)) fun _ => submits_ready _ 1

omit [SampleArithmetic F] in
theorem prepareQueue_submits (settings : ReceiveSettings) :
    @StreamSubmits F mode _ (Receiver.prepareQueue settings) 1 := by
  refine submits_map (submits_leaf .bulkIn) fun result w => ?_
  cases result <;> rfl

omit [SampleArithmetic F] in
theorem initializeQueue_submits (w : StreamWorld F mode) :
    streamIssued (Receiver.initializeQueue w).1 = streamIssued w ∧
      StreamSubmits (Receiver.initializeQueue w).2 1 := by
  unfold Receiver.initializeQueue
  split
  · exact ⟨rfl, submits_ready _ 1⟩
  · split
    · exact ⟨rfl, submits_ready _ 1⟩
    · refine ⟨rfl, submits_map (submits_leaf .clearHalt) fun result w => ?_⟩
      cases result with
      | error e => rfl
      | ok value =>
        unfold streamIssued
        split
        · rfl
        · rfl
        · split <;> rfl

theorem startPipeline_submits (fresh : Bool) (w : StreamWorld F mode) :
    streamIssued (Receiver.startPipeline fresh w).1 = streamIssued w ∧
      StreamSubmits (Receiver.startPipeline fresh w).2 (1 + (1 + (1 + 1)) + 1) := by
  unfold Receiver.startPipeline
  refine ⟨?_, ?_⟩
  · cases fresh <;> rfl
  · apply submits_continueWith
    · apply submits_andThen
      · exact switch_submits .off
      · intro _ w
        refine ⟨rfl, submits_andThen ?_ fun _ w => ⟨rfl, ?_⟩⟩
        · exact submits_ite (fun _ => prepareQueue_submits _) fun _ => submits_ready _ 1
        · apply submits_andThen
          · exact submits_leaf (.receiverMode .rx)
          · intro _ w
            cases fresh with
            | true => exact initializeQueue_submits w
            | false => exact ⟨rfl, submits_ready _ 1⟩
    · intro result w
      cases result with
      | ok value => exact ⟨rfl, submits_ready _ 1⟩
      | error error => exact ⟨rfl, submits_map (submits_leaf (.receiverMode .off)) fun _ _ => rfl⟩

theorem start_submits : StreamSubmits (@Receiver.start F _ mode) 5 := by
  refine submits_deferred fun w => ⟨rfl, submits_readyThen fun start _ w => ?_⟩
  cases start with
  | true => exact startPipeline_submits _ w
  | false => exact ⟨rfl, submits_ready _ 5⟩

theorem stop_submits : StreamSubmits (@Receiver.stop F _ mode) 1 := by
  refine submits_deferred fun w => ?_
  by_cases hrun : w.receiver.claim.beginStop.1 = true
  · simp only [hrun, if_true]
    refine ⟨rfl, submits_map (submits_leaf (.receiverMode .off)) fun result w => ?_⟩
    cases result <;> rfl
  · simp only [hrun, if_false, Bool.false_eq_true]
    exact ⟨rfl, submits_ready _ 1⟩

theorem close_submits : StreamSubmits (@Receiver.close F _ mode) 1 := by
  refine submits_deferred fun w => ⟨rfl, submits_mapOk (submits_deferred fun w => ⟨rfl, ?_⟩)⟩
  refine submits_map (switch_submits .off) fun result w => ?_
  cases result <;> rfl

omit [SampleArithmetic F] in
theorem cleanup_submits (w : StreamWorld F mode) :
    StreamSubmits (RxStreamClaim.cleanup w).2 1 :=
  submits_map (switch_submits .off) fun _ _ => rfl

theorem refreshPacking_submits (w : StreamWorld F .rawAdc) :
    StreamSubmits (Receiver.refreshPacking w) 5 := by
  refine submits_readyThen fun _ _ w => ?_
  by_cases hchanged : Receiver.packingChanged w = true
  · simp only [hchanged, if_true]
    exact startPipeline_submits true _
  · simp only [hchanged, if_false, Bool.false_eq_true]
    exact ⟨trivial, submits_ready _ 5⟩

/-- **Every operation of a stream.** -/
theorem streamCall_submits (call : StreamCall mode) (w : StreamWorld F mode) :
    StreamSubmits (call.operation w) 5 := by
  cases call with
  | start => exact start_submits
  | stop => exact stop_submits.mono (by decide)
  | close => exact close_submits.mono (by decide)
  | waitBlock => exact refreshPacking_submits w

end Stream

end HydraSdr.Analysis
