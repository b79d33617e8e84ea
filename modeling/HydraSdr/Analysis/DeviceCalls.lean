import HydraSdr.Analysis.DeviceSteps

/-!
# The operations of the device, followed through their commands

Every operation of an opened device, and the one that opens it, whatever streams do while it waits,
whatever the replies are and wherever it is dropped.
-/

set_option autoImplicit false

namespace HydraSdr.Analysis

open HydraSdr.Program HydraSdr.Computation

variable {mode : SampleFormat}

/-! ## Shutdown -/

/-- A segment that leaves the device closing may issue anything. -/
theorem DeviceStep.of_closing {start w w' : DeviceWorld mode} (hstep : DeviceStep start w)
    (hdevice : w.session.state.device ≠ .closed) (hclaim : w.session.state.claim ≠ .held)
    (hclosing : w'.session.state.device = .closing)
    (hclaim' : w'.session.state.claim = w.session.state.claim)
    (hwire : Extends w.wire w'.wire) (hpanic : w'.panic = w.panic) : DeviceStep start w' where
  wire := hstep.wire.trans hwire
  panic := hpanic.trans hstep.panic
  opened h := nomatch hclosing.symm.trans h
  held h := absurd (hstep.claim.mpr h) hclaim
  claim := by rw [hclaim']; exact hstep.claim
  closed h := by
    refine absurd ?_ hdevice
    rw [(hstep.closed h).1]
    exact h
  shutDown h := nomatch hclosing.symm.trans h

/-- How a shutdown that began in the state `before` ends. -/
def ShutdownPost (before start : DeviceWorld mode) (result : Result Unit) (w : DeviceWorld mode) :
    Prop :=
  DeviceStep start w ∧ SameSettings start w ∧ SameSettings before w ∧
    (result = .ok () → w.session.state.device = .closed)

/-- A command to a device that is closing: nobody else acts until it is answered. -/
theorem safe_closing {request : OutRequest}
    {post : DeviceWorld mode → Result Unit → DeviceWorld mode → Prop} {start w : DeviceWorld mode}
    (hguar : DeviceGuar start w) (hdevice : w.session.state.device = .closing)
    (hclaim : w.session.state.claim ≠ .held)
    (hnext : ∀ (start' w' : DeviceWorld mode) reply, DeviceGuar start' w' →
      w'.session.state = w.session.state → SameSettings w w' →
      w'.wire = (w.wire.issue (.controlOut request)).settle w.wire.issued.length
        (.controlOut request) reply → post start' reply w') :
    DeviceSafe post (controlOut request) start w := by
  have hclosed : w.session.state.device ≠ .closed := by
    rw [hdevice]
    exact DeviceLifecycle.noConfusion
  have hissue : DeviceGuar start (DeviceWorld.port.issue (.controlOut request) w) :=
    ⟨hguar.step.of_closing hclosed hclaim hdevice rfl (extends_issue _ _) rfl,
      hguar.settings.config, hguar.settings.receive⟩
  refine safe_leaf.mpr ⟨hissue, fun w' hr reply => ?_⟩
  have hopen : w.session.state.device ≠ .opened := by
    rw [hdevice]
    exact DeviceLifecycle.noConfusion
  obtain ⟨hstate, hwire⟩ := hr.settled hopen
  have hsettle : DeviceStep w' (DeviceWorld.port.settle (DeviceWorld.port.ticket w)
      (.controlOut request) reply w') :=
    DeviceStep.of_closing (.refl w') (by rw [hstate]; exact hclosed)
      (by rw [hstate]; exact hclaim)
      (by rw [← hdevice]; exact congrArg SharedDeviceState.device hstate) rfl
      (extends_settle _ _ _ _) rfl
  refine hnext w' _ reply ⟨hsettle, rfl, rfl⟩ hstate ⟨hr.settings.config, hr.settings.receive⟩ ?_
  show w'.wire.settle _ _ _ = _
  rw [hwire]
  rfl

/-- The wire after both commands have been acknowledged. -/
theorem shutDown_settle (wire : Wire) : ShutDown
    ((((wire.issue (.receiverMode .off)).settle wire.issued.length (.receiverMode .off)
      (.ok ())).issue (.rfBias false)).settle (wire.issued.length + 1) (.rfBias false) (.ok ())) := by
  refine ⟨wire.issued, ?_, ?_, ?_⟩
  · show (wire.issued ++ [_]) ++ [_] = _
    rw [List.append_assoc]
    rfl
  · exact List.mem_append_left _ (List.mem_append_right _ (List.mem_singleton.mpr rfl))
  · exact List.mem_append_right _ (List.mem_singleton.mpr rfl)

/-- Both commands, from the moment at which the device is closing. -/
theorem shutdownHardware_safe {start w : DeviceWorld mode} (hguar : DeviceGuar start w)
    (hdevice : w.session.state.device = .closing) (hclaim : w.session.state.claim ≠ .held) :
    DeviceSafe (ShutdownPost w) (shutdownHardware.map fun result w =>
      (if result.isOk then w.onSession Session.shutDown else w, result)) start w := by
  refine safe_map.mpr (safe_andThen.mpr (safe_map.mpr (safe_mapErr.mpr
    (safe_closing hguar hdevice hclaim fun start₁ w₁ reply₁ hguar₁ hstate₁ hsame₁ hwire₁ => ?_))))
  refine safe_map.mpr (safe_mapErr.mpr (safe_closing hguar₁ (by rw [hstate₁]; exact hdevice)
    (by rw [hstate₁]; exact hclaim) fun start₂ w₂ reply₂ hguar₂ hstate₂ hsame₂ hwire₂ => ?_))
  dsimp only at hstate₂ hsame₂ hwire₂ ⊢
  have hsame := hsame₁.trans hsame₂
  match reply₁, reply₂, hwire₁, hwire₂ with
  | .ok _, .ok _, hwire₁, hwire₂ =>
    have hdevice₂ : w₂.session.state.device = .closing := by
      rw [hstate₂, hstate₁]
      exact hdevice
    have hclaim₂ : start₂.session.state.claim ≠ .held := by
      intro h
      have := hguar₂.step.claim.mpr h
      rw [hstate₂, hstate₁] at this
      exact hclaim this
    refine ⟨⟨hguar₂.step.wire, hguar₂.step.panic, (nomatch ·), fun h => absurd h hclaim₂,
      ⟨(nomatch ·), fun h => absurd h hclaim₂⟩, fun h => ?_, fun _ => .inr ?_⟩, ?_, ?_, fun _ => rfl⟩
    · rw [← (hguar₂.step.closed h).1, hdevice₂] at h
      exact nomatch h
    · have hlength : w₁.wire.issued.length = w.wire.issued.length + 1 := by
        rw [hwire₁, Wire.settle_issued, Wire.issue_issued, List.length_append, List.length_singleton]
      show ShutDown w₂.wire
      rw [hwire₂, hlength, hwire₁]
      exact shutDown_settle w.wire
    · exact ⟨hguar₂.settings.config, hguar₂.settings.receive⟩
    · exact ⟨hsame.config, hsame.receive⟩
  | .error e, _, _, _ => exact ⟨hguar₂.step, hguar₂.settings, hsame, (nomatch ·)⟩
  | .ok _, .error e, _, _ => exact ⟨hguar₂.step, hguar₂.settings, hsame, (nomatch ·)⟩

/-- **`shutdown`** of a device whose claim, if it is held, means that it is open. -/
theorem shutdown_safe {start w : DeviceWorld mode} (hguar : DeviceGuar start w)
    (hheld : w.session.state.claim = .held → w.session.state.device = .opened) :
    DeviceSafe (ShutdownPost w) Session.shutdown start w := by
  refine safe_andThen.mpr (safe_map.mpr (safe_ready.mpr ?_))
  dsimp only
  unfold Session.beginShutdown
  cases hdevice : w.session.state.device with
  | closed =>
    refine safe_right.mpr (safe_ready.mpr ?_)
    exact ⟨hguar.step, hguar.settings, .refl w, fun _ => hdevice⟩
  | closing =>
    refine safe_left.mpr (shutdownHardware_safe hguar hdevice fun h => ?_)
    rw [hheld h] at hdevice
    exact nomatch hdevice
  | opened =>
    by_cases hclaim : w.session.state.claim = .held
    · simp only [hclaim, if_true]
      exact ⟨hguar.step, hguar.settings, .refl w, (nomatch ·)⟩
    · simp only [hclaim, if_false]
      have hbegun : DeviceStep start { w with session := { w.session with
          state := { w.session.state with device := .closing } } } :=
        hguar.step.of_closing (by rw [hdevice]; exact DeviceLifecycle.noConfusion) hclaim rfl rfl
          (.refl _) rfl
      refine safe_left.mpr ((shutdownHardware_safe
        ⟨hbegun, hguar.settings.config, hguar.settings.receive⟩ rfl hclaim).mono ?_)
      rintro start' result w' ⟨hstep, hsame, hbefore, hclosed⟩
      exact ⟨hstep, hsame, ⟨hbefore.config, hbefore.receive⟩, hclosed⟩

/-! ## Commands with receive settings -/

/-- The receive settings are stored after the commands have been carried out, or nothing is. -/
def Applied (before : DeviceWorld mode) (receive : ReceiveSettings) (start : DeviceWorld mode)
    (result : Result Unit) (w : DeviceWorld mode) : Prop :=
  DeviceStep start w ∧ w.config = start.config ∧ w.config = before.config ∧
    w.session.state.device = before.session.state.device ∧
    match result with
    | .ok _ => w.session.receive = receive
    | .error _ => SameSettings start w

/-- **`Session::apply`.** -/
theorem apply_safe {start w : DeviceWorld mode} (hguar : DeviceGuar start w)
    {commands : List Command} (hquiet : Quiet (commands.map Transfer.ofCommand))
    (receive : Option ReceiveSettings) :
    DeviceSafe (Applied w (receive.getD w.session.receive)) (Session.apply commands receive)
      start w := by
  refine safe_continueWith.mpr (safe_ready.mpr (safe_andThen.mpr (safe_ready.mpr ?_)))
  unfold Session.ensureOpen
  by_cases hopen : w.session.state.device = .opened
  · rw [if_pos hopen]
    refine safe_map.mpr (safe_commandSequence (hguar.step.staysOpen hopen) hguar.settings hquiet ?_)
    intro start' w' result hopen' hsame' hkept
    have hdevice := hopen'.device.trans hopen.symm
    cases result with
    | error e =>
      exact ⟨hopen'.step, hsame'.config, hkept.settings.config, hdevice, hsame'⟩
    | ok value =>
      cases receive with
      | none =>
        exact ⟨hopen'.step, hsame'.config, hkept.settings.config, hdevice,
          hkept.settings.receive⟩
      | some receive =>
        have hstep : DeviceStep start' (w'.onSession (Session.setReceive receive)) :=
          StaysOpen.step ⟨hopen'.device, hopen'.state, hopen'.wire, hopen'.panic⟩
        exact ⟨hstep, hsame'.config, hkept.settings.config, hdevice, rfl⟩
  · rw [if_neg hopen]
    exact ⟨hguar.step, hguar.settings.config, rfl, rfl, hguar.settings⟩

theorem quiet_command {command : Command}
    (h : switchesReceiver (Transfer.ofCommand command) = false) :
    Quiet ([command].map Transfer.ofCommand) :=
  quiet_singleton h

/-- **`update`**: the snapshot is replaced when the commands have been carried out. -/
theorem update_safe {start w : DeviceWorld mode} (hguar : DeviceGuar start w)
    {proposed : Config mode} {commands : List Command}
    (hquiet : Quiet (commands.map Transfer.ofCommand)) (receive : Option ReceiveSettings)
    {validation : Result Unit}
    (hproposed : validation = .ok () → InStep proposed (receive.getD w.session.receive)) :
    DeviceSafe DeviceEnd (Device.update proposed commands receive validation) start w := by
  refine safe_map.mpr (safe_andThen.mpr (safe_ready.mpr ?_))
  cases validation with
  | error e => exact ⟨hguar.step, fun _ _ => hguar.settings, (nomatch ·)⟩
  | ok value =>
    refine (apply_safe hguar hquiet receive).mono ?_
    rintro start' result w' ⟨hstep, hconfig, _, _, hresult⟩
    cases result with
    | error e => exact ⟨hstep, fun _ _ => hresult, (nomatch ·)⟩
    | ok value =>
      have hcommit : DeviceStep start' (Device.setConfig proposed w') :=
        ⟨hstep.wire, hstep.panic, hstep.opened, hstep.held, hstep.claim, hstep.closed,
          hstep.shutDown⟩
      refine ⟨hcommit, fun _ h => (nomatch h), fun _ => ?_⟩
      show InStep proposed w'.session.receive
      rw [show w'.session.receive = _ from hresult]
      exact hproposed rfl

/-- **`update_rate`**, for a snapshot that differs from the present one in its rate only. -/
theorem updateRate_safe {start w : DeviceWorld mode} (hguar : DeviceGuar start w)
    (hstep : InStep w.config w.session.receive) {proposed : Config mode}
    (hfrequency : proposed.frequencyHz = w.config.frequencyHz)
    (hgain : proposed.gain = w.config.gain) (hpacking : proposed.packing = w.config.packing) :
    DeviceSafe DeviceEnd (Device.updateRate proposed) start w := by
  refine safe_andThen.mpr (safe_ready.mpr ?_)
  cases hrate : sampleRateConfig mode proposed.decimationPolicy proposed.sampleRateHz with
  | error e => exact ⟨hguar.step, fun _ _ => hguar.settings, (nomatch ·)⟩
  | ok rate =>
    refine update_safe hguar (quiet_command rfl) _ fun _ => ?_
    obtain ⟨present, hpresent, hreceive⟩ :=
      (configuration_ok_iff w.config w.session.receive).mp hstep.settings
    have hvalid : proposed.validate = .ok () := by
      obtain ⟨hvalidFrequency, _, hvalidGain⟩ := (validate_iff w.config).mp hstep.valid
      refine (validate_iff proposed).mpr ⟨?_, ?_, ?_⟩
      · rw [hfrequency]
        exact hvalidFrequency
      · exact (rate_selected_iff proposed.decimationPolicy _).mp ⟨rate, hrate⟩
      · rw [hgain]
        exact hvalidGain
    refine ⟨hvalid, (configuration_ok_iff proposed _).mpr ⟨rate, hrate, ?_⟩⟩
    show ({ w.session.receive with decimation := rate.decimation.toNat } : ReceiveSettings) = _
    rw [hreceive]
    unfold receiveSettings
    rw [hpacking]

/-! ## Every operation -/

/-- A snapshot that differs in a setting other than its rate and packing. -/
theorem InStep.replace {config : Config mode} {receive : ReceiveSettings}
    (h : InStep config receive) (proposed : Config mode) (hfrequency : validateFrequency proposed.frequencyHz = .ok ())
    (hgain : validateGain proposed.gain = .ok ())
    (hrate : proposed.sampleRateHz = config.sampleRateHz)
    (hpolicy : proposed.decimationPolicy = config.decimationPolicy)
    {receive' : ReceiveSettings}
    (hreceive : receive' = { receive with packing := proposed.packing }) :
    InStep proposed receive' := by
  obtain ⟨rate, hselected, rfl⟩ := (configuration_ok_iff config receive).mp h.settings
  obtain ⟨_, hvalidRate, _⟩ := (validate_iff config).mp h.valid
  refine ⟨(validate_iff proposed).mpr ⟨hfrequency, ?_, hgain⟩,
    (configuration_ok_iff proposed receive').mpr ⟨rate, ?_, hreceive⟩⟩
  · rw [hrate]
    exact hvalidRate
  · rw [hrate, hpolicy]
    exact hselected

/-- The packing of receive settings that are in step. -/
theorem InStep.packing {config : Config mode} {receive : ReceiveSettings}
    (h : InStep config receive) : receive.packing = config.packing := by
  obtain ⟨rate, _, rfl⟩ := (configuration_ok_iff config receive).mp h.settings
  rfl

/-- How a call ends; a shutdown that succeeds has closed the device. -/
def CallEnd (operation : DeviceOperation mode) (start : DeviceWorld mode) (result : Result Unit)
    (w : DeviceWorld mode) : Prop :=
  DeviceEnd start result w ∧
    (operation = .shutdown → result = .ok () → w.session.state.device = .closed)

theorem gain_quiet (gain : GainConfig) :
    Quiet (((gainConfigPlan gain).map Command.read).map Transfer.ofCommand) := by
  intro transfer h
  rw [List.map_map, List.mem_map] at h
  obtain ⟨request, _, rfl⟩ := h
  rfl

/-- Building `configure` does not panic: every configuration that can be passed is valid. -/
theorem configure_ok (config : ValidConfig mode) :
    ∃ commands receive, configuration config.1 = .ok (commands, receive) ∧
      InStep config.1 receive ∧
      Device.configure config.1 = .ok (Device.update config.1 commands (some receive) (.ok ())) := by
  obtain ⟨commands, receive, hcommands, hin⟩ := inStep_of_valid config.2
  refine ⟨commands, receive, hcommands, hin, ?_⟩
  unfold Device.configure
  rw [hcommands]

/-- No method of the device panics when it is called. -/
theorem call_ok (operation : DeviceOperation mode) (w : DeviceWorld mode) :
    ∃ built, Device.call operation w = .ok built := by
  cases operation with
  | configure config =>
    obtain ⟨commands, receive, _, _, hcall⟩ := configure_ok config
    exact ⟨_, hcall⟩
  | _ => exact ⟨_, rfl⟩

/-- **Every operation of the device**, built in a state `called` and polled first in a state `w`. -/
theorem call_safe {operation : DeviceOperation mode} {called w : DeviceWorld mode}
    (hstep : InStep called.config called.session.receive)
    (hheld : called.session.state.claim = .held → called.session.state.device = .opened)
    (hr : DeviceRely called w) {built : Operation (DeviceWorld mode) (Result Unit)}
    (hbuilt : Device.call operation called = .ok built) :
    DeviceSafe (CallEnd operation) built w w := by
  have hguar := DeviceGuar.refl w
  have hconfig := hr.settings.config
  have hreceive := hr.settings.receive
  have hstep' : InStep w.config w.session.receive := by
    rw [hconfig, hreceive]
    exact hstep
  obtain ⟨hfrequency, _, hgain⟩ := (validate_iff called.config).mp hstep.valid
  have hpacking : w.session.receive = { called.session.receive with
      packing := called.config.packing } := by
    rw [hreceive, ← hstep.packing]
  have hlift : operation ≠ .shutdown → DeviceSafe DeviceEnd built w w →
      DeviceSafe (CallEnd operation) built w w := fun hne hsafe =>
    hsafe.mono fun _ _ _ hend => ⟨hend, fun h => absurd h hne⟩
  cases operation with
  | configure config =>
    refine hlift (nomatch ·) ?_
    obtain ⟨commands, receive, hcommands, hin, hcall⟩ := configure_ok config
    obtain rfl := Except.ok.inj (hcall.symm.trans hbuilt)
    exact update_safe hguar (configuration_quiet hcommands) _ fun _ => hin
  | setFrequencyHz frequencyHz =>
    refine hlift (nomatch ·) ?_
    obtain rfl := Except.ok.inj hbuilt
    exact update_safe hguar (quiet_command rfl) _ fun h =>
      hstep.replace { called.config with frequencyHz := frequencyHz } h hgain rfl rfl hpacking
  | setSampleRateHz sampleRateHz =>
    refine hlift (nomatch ·) ?_
    obtain rfl := Except.ok.inj hbuilt
    exact updateRate_safe hguar hstep' (by rw [hconfig]) (by rw [hconfig]) (by rw [hconfig])
  | setRfPort port =>
    refine hlift (nomatch ·) ?_
    obtain rfl := Except.ok.inj hbuilt
    exact update_safe hguar (quiet_command rfl) _ fun _ =>
      hstep.replace { called.config with rfPort := port } hfrequency hgain rfl rfl hpacking
  | setGain gain =>
    refine hlift (nomatch ·) ?_
    obtain rfl := Except.ok.inj hbuilt
    exact update_safe hguar (gain_quiet gain) _ fun h =>
      hstep.replace { called.config with gain := gain } hfrequency h rfl rfl hpacking
  | setBiasTee enabled =>
    refine hlift (nomatch ·) ?_
    obtain rfl := Except.ok.inj hbuilt
    exact update_safe hguar (quiet_command rfl) _ fun _ =>
      hstep.replace { called.config with biasTee := enabled } hfrequency hgain rfl rfl hpacking
  | setPacking enabled =>
    refine hlift (nomatch ·) ?_
    obtain rfl := Except.ok.inj hbuilt
    exact update_safe hguar (quiet_command rfl) _ fun _ =>
      hstep.replace { called.config with packing := enabled } hfrequency hgain rfl rfl rfl
  | setDecimationPolicy policy =>
    refine hlift (nomatch ·) ?_
    obtain rfl := Except.ok.inj hbuilt
    exact updateRate_safe hguar hstep' (by rw [hconfig]) (by rw [hconfig]) (by rw [hconfig])
  | shutdown =>
    obtain rfl := Except.ok.inj hbuilt
    refine (shutdown_safe hguar (hr.held hheld)).mono ?_
    rintro start result w' ⟨hstepped, hsame, hbefore, hclosed⟩
    refine ⟨⟨hstepped, fun _ _ => hsame, fun _ => ?_⟩, fun _ => hclosed⟩
    rw [hbefore.config, hbefore.receive]
    exact hstep'

/-! ## Opening -/

/-- **`device_info`** reads the metadata. -/
theorem safe_deviceInfo {post : DeviceWorld mode → Result DeviceInfo → DeviceWorld mode → Prop}
    {start w : DeviceWorld mode} (hopen : StaysOpen start w) (hsame : SameSettings start w)
    (hnext : ∀ start' w' result, StaysOpen start' w' → SameSettings start' w' → Kept w w' →
      post start' result w') :
    DeviceSafe post deviceInfo start w := by
  refine safe_andThen.mpr (safe_andThen.mpr (safe_mapErr.mpr (safe_query hopen hsame ?_)))
  intro start₁ w₁ result₁ hopen₁ hsame₁ hkept₁
  cases result₁ with
  | error e => exact hnext start₁ w₁ _ hopen₁ hsame₁ hkept₁
  | ok board =>
    refine safe_andThen.mpr (safe_ready.mpr ?_)
    dsimp only
    cases BoardId.tryFrom (firstByte board) with
    | none => exact hnext start₁ w₁ _ hopen₁ hsame₁ hkept₁
    | some board =>
      refine safe_mapErr.mpr (safe_query hopen₁ hsame₁ ?_)
      intro start₂ w₂ result₂ hopen₂ hsame₂ hkept₂
      have hkept := hkept₁.trans hkept₂
      cases result₂ with
      | error e => exact hnext start₂ w₂ _ hopen₂ hsame₂ hkept
      | ok firmware =>
        refine safe_map.mpr (safe_andThen.mpr (safe_ready.mpr ?_))
        split
        · refine safe_mapErr.mpr (safe_query hopen₂ hsame₂ ?_)
          intro start₃ w₃ result₃ hopen₃ hsame₃ hkept₃
          exact hnext start₃ w₃ _ hopen₃ hsame₃ (hkept.trans hkept₃)
        · exact hnext start₂ w₂ _ hopen₂ hsame₂ hkept

/-- **`Session::initialize`** on a new session: the configuration is applied, or the hardware is
shut down. -/
theorem initializeSession_safe {w : DeviceWorld mode} (hvalid : w.config.validate = .ok ())
    (hopen : w.session.state.device = .opened) (hinfo : w.session.info = none) :
    DeviceSafe DeviceEnd (Session.initializeSession w.config) w w := by
  obtain ⟨commands, receive, hcommands, hin⟩ := inStep_of_valid hvalid
  have hconfigure : Session.configure w.config = .ok (Session.apply commands (some receive)) := by
    unfold Session.configure
    rw [hcommands]
  have hself : StaysOpen w w := ⟨hopen, rfl, .refl _, rfl⟩
  -- a failure leads to a shutdown
  have hfail : ∀ (start' w' : DeviceWorld mode) (error : Error), DeviceGuar start' w' →
      w'.session.state.device = .opened →
      DeviceSafe DeviceEnd (.right (Session.shutdown.map fun _ w => (w, .error error))) start' w' := by
    intro start' w' error hguar hopen'
    refine safe_right.mpr (safe_map.mpr ((shutdown_safe hguar fun _ => hopen').mono ?_))
    rintro start'' result w'' ⟨hstep, hsame, _, _⟩
    exact ⟨hstep, fun _ _ => hsame, (nomatch ·)⟩
  refine safe_continueWith.mpr (safe_andThen.mpr (safe_mapErr.mpr (safe_deviceInfo hself (.refl w) ?_)))
  intro start₁ w₁ result₁ hopen₁ hsame₁ hkept₁
  cases result₁ with
  | error e => exact hfail start₁ w₁ _ ⟨hopen₁.step, hsame₁⟩ hopen₁.device
  | ok info =>
    have hset : Session.setInfo info w₁ =
        w₁.onSession fun session => { session with info := some info } := by
      unfold Session.setInfo
      rw [hkept₁.info, hinfo]
    simp only [AfterOk, Except.mapError, hconfigure, hset]
    have hstays : StaysOpen start₁
        (w₁.onSession fun session => { session with info := some info }) :=
      ⟨hopen₁.device, hopen₁.state, hopen₁.wire, hopen₁.panic⟩
    refine safe_mapErr.mpr ((apply_safe ⟨hstays.step, hsame₁.config, hsame₁.receive⟩
      (configuration_quiet hcommands) (some receive)).mono ?_)
    rintro start₂ result₂ w₂ ⟨hstep₂, _, hconfig₂, hdevice₂, hresult₂⟩
    cases result₂ with
    | error e => exact hfail start₂ w₂ _ ⟨hstep₂, hresult₂⟩ (hdevice₂.trans hopen₁.device)
    | ok value =>
      refine safe_left.mpr (safe_ready.mpr ⟨hstep₂, fun _ h => (nomatch h), fun _ => ?_⟩)
      show InStep w₂.config w₂.session.receive
      rw [show w₂.config = w.config from hconfig₂.trans hkept₁.settings.config,
        show w₂.session.receive = receive from hresult₂]
      exact hin

end HydraSdr.Analysis
