import HydraSdr.Analysis.StreamRuns

/-!
# The snapshot and the receive settings stay in step

The configuration that a device handle reports is valid and describes the receive settings of its
session, whatever operations succeed, fail or are dropped; both change only in the poll in which an
operation reports success.
-/

set_option autoImplicit false

namespace HydraSdr.Analysis.SettingsAgreement

open HydraSdr.Program HydraSdr.Computation HydraSdr.Analysis

variable {F : Type} {mode : SampleFormat}

/-- `Device::config` of an opened device. -/
def snapshot : DevicePhase mode → Option (Config mode)
  | .idle config => some config
  | .operating config _ _ => some config
  | _ => none

/-- The configuration that an operation asks for. -/
def proposed : {mode : SampleFormat} → DeviceOperation mode → Config mode → Config mode
  | _, .configure config, _ => config.1
  | _, .setFrequencyHz frequencyHz, config => { config with frequencyHz := frequencyHz }
  | _, .setSampleRateHz sampleRateHz, config => { config with sampleRateHz := sampleRateHz }
  | _, .setRfPort port, config => { config with rfPort := port }
  | _, .setGain gain, config => { config with gain := gain }
  | _, .setBiasTee enabled, config => { config with biasTee := enabled }
  | _, .setPacking enabled, config => { config with packing := enabled }
  | _, .setDecimationPolicy policy, config => { config with decimationPolicy := policy }
  | _, .shutdown, config => config

/-! ## Rejections -/

/-- An operation whose first segment ends it without touching the host state. -/
def EndsAtOnce (operation : Operation (DeviceWorld mode) (Result Unit)) (w : DeviceWorld mode) :
    Prop :=
  ∃ e, operation.denote.advance DeviceWorld.port w = (.finished (.error e), w)

theorem EndsAtOnce.poll {operation : Operation (DeviceWorld mode) (Result Unit)}
    {w : DeviceWorld mode} (h : EndsAtOnce operation w) (replies : List AnyReply) :
    ∃ e, (Flight.unpolled operation.denote).poll DeviceWorld.port replies w =
      (.finished (.error e), w) := by
  obtain ⟨e, hadvance⟩ := h
  refine ⟨e, ?_⟩
  show (operation.denote.advance DeviceWorld.port w).1.resumeAll DeviceWorld.port replies
    (operation.denote.advance DeviceWorld.port w).2 = _
  rw [hadvance, Progress.resumeAll_finished]

/-- `apply_update` on a validation that fails, or on a device that is not open. -/
theorem update_endsAtOnce (config : Config mode) (commands : List Command)
    (receive : Option ReceiveSettings) {validation : Result Unit} {w : DeviceWorld mode}
    (h : (∃ e, validation = .error e) ∨ w.session.state.device ≠ .opened) :
    EndsAtOnce (Device.update config commands receive validation) w := by
  cases validation with
  | error e =>
    refine ⟨e, ?_⟩
    simp only [Device.update, MaybeFuture.denote_map, MaybeFuture.denote_andThen,
      MaybeFuture.denote_ready, Resumption.bind_done, Resumption.advance]
  | ok value =>
    have hnot : w.session.state.device ≠ .opened := by
      rcases h with ⟨e, he⟩ | hnot
      · exact nomatch he
      · exact hnot
    have hclosed : w.session.ensureOpen = .error .deviceClosed := if_neg hnot
    refine ⟨.deviceClosed, ?_⟩
    simp only [Device.update, Session.apply, MaybeFuture.denote_map, MaybeFuture.denote_andThen,
      MaybeFuture.denote_continueWith, MaybeFuture.denote_ready, Resumption.bind_done,
      Resumption.bind_act, Resumption.advance, hclosed]

/-- `update_rate` of a rate that cannot be selected, or on a device that is not open. -/
theorem updateRate_endsAtOnce (config : Config mode) {w : DeviceWorld mode}
    (h : validateSampleRate config.sampleRateHz mode ≠ .ok () ∨
      w.session.state.device ≠ .opened) : EndsAtOnce (Device.updateRate config) w := by
  cases hrate : sampleRateConfig mode config.decimationPolicy config.sampleRateHz with
  | error e =>
    refine ⟨e, ?_⟩
    simp only [Device.updateRate, MaybeFuture.denote_andThen, MaybeFuture.denote_ready,
      Resumption.bind_done, Resumption.advance, hrate]
  | ok rate =>
    have hnot : w.session.state.device ≠ .opened := by
      rcases h with hinvalid | hnot
      · exact absurd ((rate_selected_iff config.decimationPolicy _).mp ⟨rate, hrate⟩) hinvalid
      · exact hnot
    obtain ⟨e, hupdate⟩ := update_endsAtOnce config [.read (.setSamplerate rate.param)]
      (some { w.session.receive with decimation := rate.decimation.toNat }) (.inr hnot)
    refine ⟨e, ?_⟩
    simp only [Device.updateRate, MaybeFuture.denote_andThen, MaybeFuture.denote_ready,
      Resumption.bind_done, Resumption.advance, hrate]
    exact hupdate

/-- **An operation that is rejected** by validation, or by a device that is not open, ends in its
first poll and issues nothing. -/
theorem rejected_silent {operation : DeviceOperation mode} {called w : DeviceWorld mode}
    (hvalid : called.config.validate = .ok ())
    {built : Operation (DeviceWorld mode) (Result Unit)}
    (hbuilt : Device.call operation called = .ok built) (hshutdown : operation ≠ .shutdown)
    (hrejected : (proposed operation called.config).validate ≠ .ok () ∨
      w.session.state.device ≠ .opened) : EndsAtOnce built w := by
  obtain ⟨hfrequency, hrate, hgain⟩ := (validate_iff called.config).mp hvalid
  -- a check on one setting fails if the whole configuration is invalid
  have hcheck : ∀ {config : Config mode} {check : Result Unit},
      (check = .ok () → config.validate = .ok ()) → config.validate ≠ .ok () →
        ∃ e, check = .error e := by
    intro config check himplies hinvalid
    cases check with
    | ok value => exact absurd (himplies rfl) hinvalid
    | error e => exact ⟨e, rfl⟩
  cases operation with
  | configure config =>
    obtain ⟨commands, receive, _, _, hcall⟩ := configure_ok config
    obtain rfl := Except.ok.inj (hcall.symm.trans hbuilt)
    refine update_endsAtOnce _ _ _ (hrejected.imp (fun hinvalid => ?_) id)
    exact absurd config.2 hinvalid
  | setFrequencyHz frequencyHz =>
    obtain rfl := Except.ok.inj hbuilt
    exact update_endsAtOnce _ _ _ (hrejected.imp
      (hcheck fun h => (validate_iff { called.config with frequencyHz := frequencyHz }).mpr
        ⟨h, hrate, hgain⟩) id)
  | setSampleRateHz sampleRateHz =>
    obtain rfl := Except.ok.inj hbuilt
    refine updateRate_endsAtOnce _ (hrejected.imp (fun hinvalid h => hinvalid ?_) id)
    exact (validate_iff _).mpr ⟨hfrequency, h, hgain⟩
  | setRfPort port =>
    obtain rfl := Except.ok.inj hbuilt
    exact update_endsAtOnce _ _ _ (hrejected.imp
      (hcheck fun _ => (validate_iff _).mpr ⟨hfrequency, hrate, hgain⟩) id)
  | setGain gain =>
    obtain rfl := Except.ok.inj hbuilt
    exact update_endsAtOnce _ _ _ (hrejected.imp
      (hcheck fun h => (validate_iff { called.config with gain := gain }).mpr
        ⟨hfrequency, hrate, h⟩) id)
  | setBiasTee enabled =>
    obtain rfl := Except.ok.inj hbuilt
    exact update_endsAtOnce _ _ _ (hrejected.imp
      (hcheck fun _ => (validate_iff _).mpr ⟨hfrequency, hrate, hgain⟩) id)
  | setPacking enabled =>
    obtain rfl := Except.ok.inj hbuilt
    exact update_endsAtOnce _ _ _ (hrejected.imp
      (hcheck fun _ => (validate_iff _).mpr ⟨hfrequency, hrate, hgain⟩) id)
  | setDecimationPolicy policy =>
    obtain rfl := Except.ok.inj hbuilt
    refine updateRate_endsAtOnce _ (hrejected.imp (fun hinvalid h => hinvalid ?_) id)
    exact (validate_iff _).mpr ⟨hfrequency, h, hgain⟩
  | shutdown => exact absurd rfl hshutdown

/-! ## Changes -/

/-- The step reports the success of an operation of the device. -/
def Reports (s s' : System F mode) : Prop :=
  ∃ operation, s'.history = s.history ++ [.device operation (.ok ())]

/-- The receive settings are those of before, and so is the snapshot of a handle that is still
there. -/
def Unchanged (s s' : System F mode) : Prop :=
  s'.session.receive = s.session.receive ∧
    ∀ config, snapshot s'.device = some config → snapshot s.device = some config

theorem unchanged_of_same {s s' : System F mode} (hsession : s'.session = s.session)
    (hdevice : s'.device = s.device) : Unchanged s s' := by
  refine ⟨by rw [hsession], fun config h => ?_⟩
  rw [hdevice] at h
  exact h

variable [SampleArithmetic F]

theorem onStream_unchanged {s : System F mode} (h : SystemInv s) {stream : ℕ}
    {use : StreamPhase F mode → (Receiver F mode → StreamWorld F mode) →
      Option (StreamStep F mode)} (huse : StreamUse s stream use) : Unchanged s (s.onStream stream use) := by
  unfold System.onStream
  split
  · exact unchanged_of_same rfl rfl
  · rename_i phase hphase
    split
    · exact unchanged_of_same rfl rfl
    · rename_i step hstep
      obtain ⟨receiver, _, houtcome⟩ := huse phase step
        (h.streams phase (List.mem_of_getElem? hphase)) hstep
      refine ⟨?_, fun config h => h⟩
      show step.session.receive = s.session.receive
      cases houtcome with
      | kept _ hsession _ _ _ _ => rw [hsession]
      | dropped _ hsession _ _ _ _ _ => rw [hsession]
      | released _ _ hsession _ _ _ _ _ _ => rw [hsession]; rfl

/-- Polling the device changes the settings only when its operation succeeds. -/
theorem pollDevice_settings {s : System F mode} (h : SystemInv s) {config : Config mode}
    (hsnapshot : snapshot s.device = some config) (replies : List AnyReply) :
    Reports s (s.pollDevice replies) ∨ Unchanged s (s.pollDevice replies) := by
  unfold System.pollDevice
  have hdevice := h.device
  cases hphase : s.device with
  | opening config flight =>
    rw [hphase] at hsnapshot
    exact nomatch hsnapshot
  | operating active operation flight =>
    rw [hphase] at hdevice
    have hsegment := devicePoll_segment (callEnd_compose operation) hdevice.2 replies
    dsimp only
    generalize hpoll : flight.poll DeviceWorld.port replies (s.deviceWorld active) = outcome
    have hsegment' : Segment DeviceWorld.port DeviceRely DeviceGuar (CallEnd operation)
        (s.deviceWorld active) outcome := hpoll ▸ hsegment
    obtain ⟨progress, w⟩ := outcome
    have hsame : SameSettings (s.deviceWorld active) w → w.session.receive = s.session.receive ∧
        ∀ config, some w.config = some config → snapshot s.device = some config := by
      rintro ⟨hconfig, hreceive⟩
      refine ⟨hreceive, fun config h => ?_⟩
      rw [hphase, ← h]
      exact congrArg some hconfig.symm
    cases progress with
    | finished result =>
      cases result with
      | ok value => exact .inl ⟨operation, rfl⟩
      | error e => exact .inr (hsame (hsegment'.1.failed e rfl))
    | waiting ticket request next => exact .inr (hsame hsegment'.1.settings)
  | idle config => exact .inr (unchanged_of_same rfl rfl)
  | dropped => exact .inr (unchanged_of_same rfl rfl)

/-- **Only a success changes the settings.** -/
theorem act_settings {s : System F mode} (h : SystemInv s) {config : Config mode}
    (hsnapshot : snapshot s.device = some config) (action : Action mode) :
    Reports s (s.act action) ∨ Unchanged s (s.act action) := by
  cases action_cases s action with
  | stream hact huse => exact .inr (hact ▸ onStream_unchanged h huse)
  | callDevice operation =>
    right
    show Unchanged s (s.callDevice operation)
    unfold System.callDevice
    split
    · rename_i active hdevice
      split
      · refine ⟨rfl, fun config h => ?_⟩
        rw [hdevice]
        exact h
      · exact unchanged_of_same rfl rfl
    · exact unchanged_of_same rfl rfl
  | pollDevice replies => exact pollDevice_settings h hsnapshot replies
  | cancelDevice =>
    right
    show Unchanged s s.cancelDevice
    unfold System.cancelDevice
    split
    · exact ⟨rfl, fun _ h => nomatch h⟩
    · rename_i active operation flight hdevice
      refine ⟨rfl, fun config h => ?_⟩
      rw [hdevice]
      exact h
    · exact unchanged_of_same rfl rfl
  | dropDevice =>
    right
    show Unchanged s s.dropDevice
    unfold System.dropDevice
    split
    · exact ⟨rfl, fun _ h => nomatch h⟩
    · exact unchanged_of_same rfl rfl
  | rxStream =>
    right
    show Unchanged s s.rxStream
    unfold System.rxStream
    split
    · rcases acquire_cases s.session with ⟨_, _, hacquire⟩ | ⟨_, e, hacquire⟩
      · rw [hacquire]
        exact ⟨rfl, fun _ h => h⟩
      · rw [hacquire]
        exact ⟨rfl, fun _ h => h⟩
    · exact unchanged_of_same rfl rfl

/-- The snapshot of an opened device is in step with the receive settings of its session. -/
theorem snapshot_inStep {config : ValidConfig mode} {s : System F mode}
    (h : System.Reachable config s) {active : Config mode}
    (hsnapshot : snapshot s.device = some active) : InStep active s.session.receive := by
  have hdevice := (reachable_inv h).system.device
  cases hphase : s.device with
  | idle config =>
    rw [hphase] at hsnapshot hdevice
    exact Option.some.inj hsnapshot ▸ hdevice
  | operating config operation flight =>
    rw [hphase] at hsnapshot hdevice
    exact Option.some.inj hsnapshot ▸ hdevice.1
  | opening config flight =>
    rw [hphase] at hsnapshot
    exact nomatch hsnapshot
  | dropped =>
    rw [hphase] at hsnapshot
    exact nomatch hsnapshot

/-- **The snapshot, the receive settings and validity stay in step.**  The snapshot of an opened
device is valid and the session's receive settings are the ones it stands for; a step that does not
report the success of an operation leaves both unchanged; and an operation that is rejected by
validation, or by a device that is not open, ends in its first poll without touching anything. -/
theorem settings_in_step {config : ValidConfig mode} {s : System F mode}
    (h : System.Reachable config s) {active : Config mode}
    (hsnapshot : snapshot s.device = some active) :
    active.validate = .ok () ∧
    (∃ commands, configuration active = .ok (commands, s.session.receive)) ∧
    (∀ action reply, ¬Reports s (s.step action reply) → Unchanged s (s.step action reply)) ∧
    (∀ operation built, Device.call operation (s.deviceWorld active) = .ok built →
      operation ≠ .shutdown → ∀ w : DeviceWorld mode,
      (proposed operation active).validate ≠ .ok () ∨ w.session.state.device ≠ .opened →
      ∀ replies, ∃ e, (Flight.unpolled built.denote).poll DeviceWorld.port replies w =
        (.finished (.error e), w)) := by
  have hinv := (reachable_inv h).system
  have hin := snapshot_inStep h hsnapshot
  refine ⟨hin.valid, hin.settings, fun action reply hnot => ?_, ?_⟩
  · unfold System.step at hnot ⊢
    split
    · exact unchanged_of_same rfl rfl
    · rename_i hgoes
      rw [if_neg hgoes] at hnot
      have hact := act_settings hinv hsnapshot action
      dsimp only at hnot ⊢
      split
      · rename_i hstays
        rw [if_pos hstays] at hnot
        exact hact.resolve_left hnot
      · rename_i hgone
        rw [if_neg hgone] at hnot
        unfold System.dropSession at hnot ⊢
        split
        · rename_i hclosed
          rw [if_pos hclosed] at hnot
          exact hact.resolve_left hnot
        · rename_i hclosed
          rw [if_neg hclosed] at hnot
          exact hact.resolve_left hnot
  · intro operation built hbuilt hshutdown w hrejected replies
    exact (rejected_silent hin.valid hbuilt hshutdown hrejected).poll replies

/-- An opened device that has been told to use packed transfers. -/
def packedDevice : System Rat .rawAdc :=
  System.after (ValidConfig.standard .rawAdc) (fun _ => obliging)
    [.pollDevice (List.replicate 16 obliging), .callDevice (.setPacking true),
      .pollDevice [obliging]]

/-- The snapshot of that device. -/
def packedConfig : Config .rawAdc := { (Config.standard : Config .rawAdc) with packing := true }

theorem packedDevice_in_step :
    (∃ commands, configuration packedConfig = .ok (commands, packedDevice.session.receive)) ∧
      packedDevice.session.receive.packing = true := by
  have hreachable : System.Reachable (ValidConfig.standard .rawAdc) packedDevice :=
    System.reachable_after _ _ _
  have hsnapshot : snapshot packedDevice.device = some packedConfig := by decide +kernel
  exact ⟨(settings_in_step hreachable hsnapshot).2.1, by decide +kernel⟩

end HydraSdr.Analysis.SettingsAgreement
