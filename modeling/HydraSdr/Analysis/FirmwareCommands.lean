import HydraSdr.Analysis.FirmwareRegisters
import HydraSdr.Analysis.SettingsAgreement

/-!
# What an operation has done to the firmware

The registers behind a wire, whichever of the transfers that were never acknowledged have been
carried out, and what each operation of the device has done to them when it succeeds.
-/

set_option autoImplicit false

namespace HydraSdr.Analysis.FirmwareAgreement

open HydraSdr.Program HydraSdr.Computation HydraSdr.Analysis HydraSdr.Analysis.SettingsAgreement

variable {mode : SampleFormat}

/-! ## The firmware behind a wire -/

/-- The registers of the firmware, if `applied` says which transfers it has carried out. -/
def firmware (applied : ℕ → Bool) (registers : Registers) (wire : Wire) : Registers :=
  replay Registers.write applied 0 wire.issued registers

/-- What has been acknowledged has been carried out. -/
def CarriesOut (applied : ℕ → Bool) (wire : Wire) : Prop :=
  ∀ ticket ∈ wire.acknowledged, applied ticket = true

/-- The settings for which commands have been issued between two states of the wire. -/
def settingsSince (wire wire' : Wire) : List Setting :=
  settingsOf (wire'.issued.drop wire.issued.length)

/-- Others have issued no command for a setting. -/
structure Unwritten (wire wire' : Wire) : Prop where
  issued : ∃ transfers, wire'.issued = wire.issued ++ transfers ∧
    ∀ transfer ∈ transfers, transferSetting transfer = none
  acknowledged : wire.acknowledged ⊆ wire'.acknowledged

/-- All of these transfers have been carried out, in this order, and no other one for a setting
has been issued. -/
structure Carried (wire wire' : Wire) (transfers : List Transfer) : Prop where
  issued : ∃ later, wire'.issued = wire.issued ++ later ∧ settingsOf later = settingsOf transfers
  acknowledged : wire.acknowledged ⊆ wire'.acknowledged
  written : ∀ applied, CarriesOut applied wire' → ∀ registers,
    firmware applied registers wire' =
      Registers.writeAll transfers (firmware applied registers wire)

theorem CarriesOut.before {applied : ℕ → Bool} {wire wire' : Wire} (h : CarriesOut applied wire')
    (hacknowledged : wire.acknowledged ⊆ wire'.acknowledged) : CarriesOut applied wire :=
  fun ticket hticket => h ticket (hacknowledged hticket)

theorem firmware_append (applied : ℕ → Bool) (registers : Registers) {wire wire' : Wire}
    {later : List Transfer} (h : wire'.issued = wire.issued ++ later) :
    firmware applied registers wire' =
      replay Registers.write applied wire.issued.length later (firmware applied registers wire) := by
  unfold firmware
  rw [h, replay_append, Nat.zero_add]

theorem settingsOf_none {transfers : List Transfer}
    (h : ∀ transfer ∈ transfers, transferSetting transfer = none) : settingsOf transfers = [] :=
  List.filterMap_eq_nil_iff.mpr h

theorem settingsOf_append (first second : List Transfer) :
    settingsOf (first ++ second) = settingsOf first ++ settingsOf second :=
  List.filterMap_append

/-- Settings that no command has been issued for are as they were. -/
theorem effective_since {wire wire' : Wire} (h : wire.issued <+: wire'.issued) {setting : Setting}
    (hsetting : setting ∉ settingsSince wire wire') (applied : ℕ → Bool) (registers : Registers)
    (receive : ReceiveSettings) : effective (firmware applied registers wire') receive setting =
      effective (firmware applied registers wire) receive setting := by
  obtain ⟨later, hlater⟩ := h
  unfold settingsSince at hsetting
  rw [← hlater, List.drop_left] at hsetting
  rw [firmware_append applied registers hlater.symm]
  refine replay_view (fun registers => effective registers receive setting) _ ?_ _
  intro transfer htransfer
  refine effective_write (fun h => hsetting ?_) receive
  exact List.mem_filterMap.mpr ⟨transfer, htransfer, h⟩

/-- Settings with commands in two periods that follow each other. -/
theorem settingsSince_trans {a b c : Wire} (hab : a.issued <+: b.issued)
    (hbc : b.issued <+: c.issued) :
    settingsSince a c = settingsSince a b ++ settingsSince b c := by
  obtain ⟨first, hfirst⟩ := hab
  obtain ⟨second, hsecond⟩ := hbc
  unfold settingsSince
  rw [← hsecond, ← hfirst, List.drop_left, List.drop_left, List.append_assoc, List.drop_left,
    settingsOf_append]

theorem Unwritten.refl (wire : Wire) : Unwritten wire wire :=
  ⟨⟨[], (List.append_nil _).symm, fun _ h => absurd h List.not_mem_nil⟩, fun _ h => h⟩

theorem Unwritten.trans {a b c : Wire} (hab : Unwritten a b) (hbc : Unwritten b c) :
    Unwritten a c := by
  obtain ⟨first, hfirst, hnone⟩ := hab.issued
  obtain ⟨second, hsecond, hnone'⟩ := hbc.issued
  refine ⟨⟨first ++ second, ?_, ?_⟩, fun _ h => hbc.acknowledged (hab.acknowledged h)⟩
  · rw [hsecond, hfirst, List.append_assoc]
  · intro transfer h
    rcases List.mem_append.mp h with h | h
    · exact hnone transfer h
    · exact hnone' transfer h

theorem Unwritten.settingsSince {wire wire' : Wire} (h : Unwritten wire wire') :
    settingsSince wire wire' = [] := by
  obtain ⟨transfers, hissued, hnone⟩ := h.issued
  unfold FirmwareAgreement.settingsSince
  rw [hissued, List.drop_left]
  exact settingsOf_none hnone

theorem Unwritten.grows {wire wire' : Wire} (h : Unwritten wire wire') :
    wire.issued <+: wire'.issued := by
  obtain ⟨transfers, hissued, _⟩ := h.issued
  exact ⟨transfers, hissued.symm⟩

theorem Carried.grows {wire wire' : Wire} {transfers : List Transfer}
    (h : Carried wire wire' transfers) : wire.issued <+: wire'.issued := by
  obtain ⟨later, hissued, _⟩ := h.issued
  exact ⟨later, hissued.symm⟩

theorem Carried.settingsSince {wire wire' : Wire} {transfers : List Transfer}
    (h : Carried wire wire' transfers) : settingsSince wire wire' = settingsOf transfers := by
  obtain ⟨later, hissued, hsettings⟩ := h.issued
  unfold FirmwareAgreement.settingsSince
  rw [hissued, List.drop_left]
  exact hsettings

theorem Carried.trans {a b c : Wire} {first second : List Transfer} (hab : Carried a b first)
    (hbc : Carried b c second) : Carried a c (first ++ second) := by
  obtain ⟨later, hlater, hsettings⟩ := hab.issued
  obtain ⟨later', hlater', hsettings'⟩ := hbc.issued
  refine ⟨⟨later ++ later', ?_, ?_⟩, fun _ h => hbc.acknowledged (hab.acknowledged h), ?_⟩
  · rw [hlater', hlater, List.append_assoc]
  · rw [settingsOf_append, settingsOf_append, hsettings, hsettings']
  · intro applied happlied registers
    rw [hbc.written applied happlied registers, writeAll_append,
      hab.written applied (happlied.before hbc.acknowledged) registers]

theorem Unwritten.carried {wire wire' : Wire} (h : Unwritten wire wire') :
    Carried wire wire' [] := by
  obtain ⟨transfers, hissued, hnone⟩ := h.issued
  refine ⟨⟨transfers, hissued, settingsOf_none hnone⟩, h.acknowledged, fun applied _ registers => ?_⟩
  rw [firmware_append applied registers hissued]
  exact replay_view id _ (fun transfer h => write_of_none (hnone transfer h)) _

/-- A transfer is issued, others act, and it is acknowledged. -/
theorem carried_transfer {transfer : Transfer} {reply : transfer.Reply} {wire wire' : Wire}
    (hothers : Unwritten (wire.issue transfer) wire') (hreply : transfer.carriedOut reply = true) :
    Carried wire (wire'.settle wire.issued.length transfer reply) [transfer] := by
  obtain ⟨others, hissued, hnone⟩ := hothers.issued
  have hissued' : (wire'.settle wire.issued.length transfer reply).issued =
      wire.issued ++ transfer :: others := by
    rw [Wire.settle_issued, hissued, Wire.issue_issued, List.append_assoc]
    rfl
  refine ⟨⟨transfer :: others, hissued', ?_⟩, fun ticket hticket => ?_,
    fun applied happlied registers => ?_⟩
  · show settingsOf ([transfer] ++ others) = _
    rw [settingsOf_append, settingsOf_none hnone, List.append_nil]
  · exact acknowledged_settle _ _ _ _ (hothers.acknowledged hticket)
  · rw [firmware_append applied registers hissued']
    refine replay_command _ transfer (happlied _ ?_)
      (fun other hother => write_of_none (hnone other hother)) _
    unfold Wire.settle
    rw [if_pos hreply]
    exact List.mem_append_right _ (List.mem_singleton.mpr rfl)

/-! ## Operations, followed through their commands -/

/-- What streams may do while a device operation waits. -/
structure FirmwareRely (w w' : DeviceWorld mode) : Prop where
  settings : SameSettings w w'
  device : w'.session.state.device = w.session.state.device
  wire : Unwritten w.wire w'.wire

/-- A device operation, of which only its end matters. -/
abbrev FirmwareSafe {α : Type} (post : DeviceWorld mode → α → DeviceWorld mode → Prop)
    (operation : Operation (DeviceWorld mode) α) (start w : DeviceWorld mode) : Prop :=
  OperationSafe DeviceWorld.port FirmwareRely (fun _ _ => True) post operation start w

/-- The settings are those of before, and the transfers have been carried out since. -/
structure Done (w w' : DeviceWorld mode) (transfers : List Transfer) : Prop where
  settings : SameSettings w w'
  wire : Carried w.wire w'.wire transfers

theorem FirmwareRely.refl (w : DeviceWorld mode) : FirmwareRely w w := ⟨.refl w, rfl, .refl _⟩

theorem FirmwareRely.trans {a b c : DeviceWorld mode} (hab : FirmwareRely a b)
    (hbc : FirmwareRely b c) : FirmwareRely a c :=
  ⟨hab.settings.trans hbc.settings, hbc.device.trans hab.device, hab.wire.trans hbc.wire⟩

theorem FirmwareRely.done {w w' : DeviceWorld mode} (h : FirmwareRely w w') : Done w w' [] :=
  ⟨h.settings, h.wire.carried⟩

theorem Done.trans {a b c : DeviceWorld mode} {first second : List Transfer}
    (hab : Done a b first) (hbc : Done b c second) : Done a c (first ++ second) :=
  ⟨hab.settings.trans hbc.settings, hab.wire.trans hbc.wire⟩

/-- An operation of which nothing is asked. -/
theorem firmwareSafe_trivial {α : Type}
    {post : DeviceWorld mode → α → DeviceWorld mode → Prop}
    (hpost : ∀ start value w, post start value w) (operation : Operation (DeviceWorld mode) α)
    (start w : DeviceWorld mode) : FirmwareSafe post operation start w := by
  show Safe _ _ _ _ operation.denote start w
  induction operation.denote generalizing start w with
  | done value => exact hpost start value w
  | act effect next ih => exact ih w start (effect w)
  | submit request next ih => exact ⟨trivial, fun w' _ reply => ih reply w' _⟩

/-- One transfer. -/
theorem firmwareSafe_leaf {transfer : Transfer}
    {post : DeviceWorld mode → transfer.Reply → DeviceWorld mode → Prop} {start w : DeviceWorld mode}
    (hnext : ∀ start' w' reply, (transfer.carriedOut reply = true → Done w w' [transfer]) →
      post start' reply w') :
    FirmwareSafe post (.leaf transfer) start w := by
  refine safe_leaf.mpr ⟨trivial, fun w' hr reply => hnext w' _ reply fun hreply => ⟨?_, ?_⟩⟩
  · exact ⟨hr.settings.config, hr.settings.receive⟩
  · exact carried_transfer hr.wire hreply

theorem firmwareSafe_query {request : InRequest}
    {post : DeviceWorld mode → Result (List UInt8) → DeviceWorld mode → Prop}
    {start w : DeviceWorld mode}
    (hnext : ∀ start' w' result,
      (∀ data, result = .ok data → Done w w' [.controlIn request]) → post start' result w') :
    FirmwareSafe post (query request) start w := by
  refine safe_map.mpr (@firmwareSafe_leaf _ (.controlIn request) _ _ _
    fun start' w' reply hdone => hnext start' w' _ fun data hdata => hdone ?_)
  obtain ⟨response, hresponse, hrest⟩ := bind_ok hdata
  obtain ⟨_, hvalid, _⟩ := bind_ok hrest
  obtain rfl : reply = .ok response := hresponse
  show (request.validate response).isOk = true
  rw [hvalid]
  rfl

theorem firmwareSafe_execute {command : Command}
    {post : DeviceWorld mode → Result Unit → DeviceWorld mode → Prop} {start w : DeviceWorld mode}
    (hnext : ∀ start' w' result,
      (result = .ok () → Done w w' [Transfer.ofCommand command]) → post start' result w') :
    FirmwareSafe post (execute command) start w := by
  cases command with
  | read request =>
    refine safe_left.mpr (safe_mapOk.mpr (firmwareSafe_query fun start' w' result hdone => ?_))
    refine hnext start' w' _ fun hok => ?_
    cases result with
    | ok data => exact hdone data rfl
    | error e => exact nomatch hok
  | write request =>
    refine safe_right.mpr (@firmwareSafe_leaf _ (.controlOut request) _ _ _
      fun start' w' reply hdone => hnext start' w' _ fun hok => hdone ?_)
    obtain rfl : reply = .ok () := hok
    rfl

/-- A command sequence that succeeds has carried out all of its commands, in order. -/
theorem firmwareSafe_commandSequence {commands : List Command}
    {post : DeviceWorld mode → Result Unit → DeviceWorld mode → Prop} {start w : DeviceWorld mode}
    (hnext : ∀ start' w' result,
      (result = .ok () → Done w w' (commands.map Transfer.ofCommand)) → post start' result w') :
    FirmwareSafe post (commandSequence commands) start w := by
  refine safe_sequence (fun rest _ w' => ∃ before, commands = before ++ rest ∧
    Done w w' (before.map Transfer.ofCommand)) ?_ ?_ ⟨[], rfl, (FirmwareRely.refl w).done⟩
  · rintro command rest start' w' ⟨before, hcommands, hdone⟩
    refine firmwareSafe_execute fun start'' w'' result hexecuted => ?_
    cases result with
    | ok value =>
      refine ⟨before ++ [command], by rw [hcommands, List.append_assoc]; rfl, ?_⟩
      rw [List.map_append]
      exact hdone.trans (hexecuted rfl)
    | error e => exact hnext start'' w'' _ (nomatch ·)
  · rintro start' w' ⟨before, hcommands, hdone⟩
    refine hnext start' w' _ fun _ => ?_
    rw [hcommands, List.append_nil]
    exact hdone

/-- What an operation that was called in the state `called` has done when it succeeds: the commands
it has carried out install the configuration `target`, which is the snapshot now. -/
def Landed (called : DeviceWorld mode) (target : Config mode) (settings : List Setting)
    (_start : DeviceWorld mode) (result : Result Unit) (w : DeviceWorld mode) : Prop :=
  result = .ok () → w.config = target ∧ ∃ transfers, Carried called.wire w.wire transfers ∧
    settings ⊆ settingsOf transfers ∧
    Installs transfers called.config target called.session.receive w.session.receive

/-- `Session::apply`, after `earlier` has been carried out. -/
theorem apply_lands {called w : DeviceWorld mode} {earlier : List Transfer}
    (hdone : Done called w earlier) {commands : List Command} {receive : Option ReceiveSettings}
    {post : DeviceWorld mode → Result Unit → DeviceWorld mode → Prop} {start : DeviceWorld mode}
    (hnext : ∀ start' w' result, (result = .ok () →
      w'.config = called.config ∧ w'.session.receive = receive.getD called.session.receive ∧
      Carried called.wire w'.wire (earlier ++ commands.map Transfer.ofCommand)) →
        post start' result w') :
    FirmwareSafe post (Session.apply commands receive) start w := by
  refine safe_continueWith.mpr (safe_ready.mpr (safe_andThen.mpr (safe_ready.mpr ?_)))
  unfold Session.ensureOpen
  split
  · refine safe_map.mpr (firmwareSafe_commandSequence fun start' w' result hcommands => ?_)
    cases result with
    | error e => exact hnext start' _ _ (nomatch ·)
    | ok value =>
      have hall := hdone.trans (hcommands rfl)
      cases receive with
      | none =>
        exact hnext start' w' _ fun _ => ⟨hall.settings.config, hall.settings.receive, hall.wire⟩
      | some receive => exact hnext start' _ _ fun _ => ⟨hall.settings.config, rfl, hall.wire⟩
  · exact hnext start w _ (nomatch ·)

/-- `update` with commands that install the configuration it proposes. -/
theorem update_lands {called w : DeviceWorld mode} (hr : FirmwareRely called w)
    {target : Config mode} {commands : List Command} {receive : Option ReceiveSettings}
    {validation : Result Unit} {settings : List Setting}
    (hsettings : settings ⊆ settingsOf (commands.map Transfer.ofCommand))
    (hinstalls : Installs (commands.map Transfer.ofCommand) called.config target
      called.session.receive (receive.getD called.session.receive)) (start : DeviceWorld mode) :
    FirmwareSafe (Landed called target settings) (Device.update target commands receive validation)
      start w := by
  refine safe_map.mpr (safe_andThen.mpr (safe_ready.mpr ?_))
  cases validation with
  | error e => exact fun h => nomatch h
  | ok value =>
    refine apply_lands hr.done fun start' w' result hresult => ?_
    cases result with
    | error e => exact fun h => nomatch h
    | ok value =>
      obtain ⟨_, hreceive, hcarried⟩ := hresult rfl
      refine fun _ => ⟨rfl, commands.map Transfer.ofCommand, hcarried, hsettings, ?_⟩
      show Installs _ _ _ _ w'.session.receive
      rw [hreceive]
      exact hinstalls

/-! ## Every operation -/

/-- All of the settings. -/
def allSettings : List Setting := [.frequency, .rate, .rfPort, .gain, .packing, .biasTee]

/-- The settings that an operation has commands for. -/
def operationSettings : {mode : SampleFormat} → DeviceOperation mode → List Setting
  | _, .configure _ => allSettings
  | _, .setFrequencyHz _ => [.frequency]
  | _, .setSampleRateHz _ => [.rate]
  | _, .setRfPort _ => [.rfPort]
  | _, .setGain _ => [.gain]
  | _, .setBiasTee _ => [.biasTee]
  | _, .setPacking _ => [.packing]
  | _, .setDecimationPolicy _ => [.rate]
  | _, .shutdown => []

/-- `update` with one command, for a configuration that differs in its setting only. -/
theorem command_lands {called w : DeviceWorld mode} (hr : FirmwareRely called w)
    {target : Config mode} {command : Command} {receive : Option ReceiveSettings}
    {validation : Result Unit} {setting : Setting}
    (hsetting : transferSetting (Transfer.ofCommand command) = some setting)
    (hwritten : ∀ registers, effective (Registers.write (Transfer.ofCommand command) registers)
      (receive.getD called.session.receive) setting = demanded target setting)
    (hkept : ∀ other, other ≠ setting → demanded target other = demanded called.config other ∧
      ∀ registers, effective registers (receive.getD called.session.receive) other =
        effective registers called.session.receive other) (start : DeviceWorld mode) :
    FirmwareSafe (Landed called target [setting])
      (Device.update target [command] receive validation) start w := by
  refine @update_lands _ called w hr target [command] receive validation [setting] ?_
    (installs_command hsetting hwritten hkept) start
  intro other hother
  rw [List.mem_singleton.mp hother]
  exact List.mem_filterMap.mpr ⟨Transfer.ofCommand command, List.mem_cons_self, hsetting⟩

/-- `update_rate` for a configuration that differs in its rate only. -/
theorem updateRate_lands {called w : DeviceWorld mode} (hr : FirmwareRely called w)
    {target : Config mode}
    (hkept : ∀ other, other ≠ .rate → demanded target other = demanded called.config other)
    (start : DeviceWorld mode) :
    FirmwareSafe (Landed called target [.rate]) (Device.updateRate target) start w := by
  refine safe_andThen.mpr (safe_ready.mpr ?_)
  cases hrate : sampleRateConfig mode target.decimationPolicy target.sampleRateHz with
  | error e => exact fun h => nomatch h
  | ok rate =>
    refine @command_lands _ called w hr target _ _ _ .rate rfl (fun registers => ?_)
      (fun other h => ⟨hkept other h, fun registers => ?_⟩) start
    · simp only [demanded, demandedRate_of_selected hrate]
      rfl
    · rw [show w.session.receive = called.session.receive from hr.settings.receive]
      cases other <;> first | rfl | exact absurd rfl h

/-- **Every operation that changes settings**, called in the state `called`. -/
theorem call_lands {operation : DeviceOperation mode} (hoperation : operation ≠ .shutdown)
    {called w : DeviceWorld mode} (hr : FirmwareRely called w)
    {built : Operation (DeviceWorld mode) (Result Unit)}
    (hbuilt : Device.call operation called = .ok built) (start : DeviceWorld mode) :
    FirmwareSafe (Landed called (proposed operation called.config) (operationSettings operation))
      built start w := by
  cases operation with
  | configure config =>
    obtain ⟨commands, receive, hcommands, _, hcall⟩ := configure_ok config
    obtain rfl := Except.ok.inj (hcall.symm.trans hbuilt)
    exact update_lands hr (fun setting _ => settingsOf_configuration hcommands setting)
      (installs_configuration hcommands called.config called.session.receive) start
  | setFrequencyHz frequencyHz =>
    obtain rfl := Except.ok.inj hbuilt
    refine command_lands hr rfl (fun registers => ?_) (fun other h => ?_) start
    · exact congrArg SettingValue.frequency (littleEndianValue_littleEndian frequencyHz)
    · cases other <;> first | exact ⟨rfl, fun _ => rfl⟩ | exact absurd rfl h
  | setSampleRateHz sampleRateHz =>
    obtain rfl := Except.ok.inj hbuilt
    refine updateRate_lands hr (fun other h => ?_) start
    cases other <;> first | rfl | exact absurd rfl h
  | setRfPort port =>
    obtain rfl := Except.ok.inj hbuilt
    refine command_lands hr rfl (fun registers => rfl) (fun other h => ?_) start
    cases other <;> first | exact ⟨rfl, fun _ => rfl⟩ | exact absurd rfl h
  | setGain gain =>
    obtain rfl := Except.ok.inj hbuilt
    refine @update_lands _ called w hr _ ((gainConfigPlan gain).map .read) none _ _
      (fun setting hsetting => ?_) (installs_gain called.config gain called.session.receive) start
    exact (settingsOf_gainTransfers gain setting).mpr (List.mem_singleton.mp hsetting)
  | setBiasTee enabled =>
    obtain rfl := Except.ok.inj hbuilt
    refine command_lands hr rfl (fun registers => rfl) (fun other h => ?_) start
    cases other <;> first | exact ⟨rfl, fun _ => rfl⟩ | exact absurd rfl h
  | setPacking enabled =>
    obtain rfl := Except.ok.inj hbuilt
    refine command_lands hr rfl (fun registers => rfl) (fun other h => ?_) start
    cases other <;> first | exact ⟨rfl, fun _ => rfl⟩ | exact absurd rfl h
  | setDecimationPolicy policy =>
    obtain rfl := Except.ok.inj hbuilt
    refine updateRate_lands hr (fun other h => ?_) start
    cases other <;> first | rfl | exact absurd rfl h
  | shutdown => exact absurd rfl hoperation

/-- `device_info`, after `earlier` has been carried out. -/
theorem deviceInfo_done {called w : DeviceWorld mode} (hr : FirmwareRely called w)
    {post : DeviceWorld mode → Result DeviceInfo → DeviceWorld mode → Prop}
    {start : DeviceWorld mode}
    (hnext : ∀ start' w' result,
      (∀ info, result = .ok info → ∃ transfers, Done called w' transfers) → post start' result w') :
    FirmwareSafe post deviceInfo start w := by
  refine safe_andThen.mpr (safe_andThen.mpr (safe_mapErr.mpr (firmwareSafe_query ?_)))
  intro start₁ w₁ result₁ hdone₁
  cases result₁ with
  | error e => exact hnext start₁ w₁ _ fun _ h => nomatch h
  | ok board =>
    refine safe_andThen.mpr (safe_ready.mpr ?_)
    dsimp only
    cases BoardId.tryFrom (firstByte board) with
    | none => exact hnext start₁ w₁ _ fun _ h => nomatch h
    | some board =>
      refine safe_mapErr.mpr (firmwareSafe_query fun start₂ w₂ result₂ hdone₂ => ?_)
      cases result₂ with
      | error e => exact hnext start₂ w₂ _ fun _ h => nomatch h
      | ok firmware =>
        refine safe_map.mpr (safe_andThen.mpr (safe_ready.mpr ?_))
        split
        · refine safe_mapErr.mpr (firmwareSafe_query fun start₃ w₃ result₃ hdone₃ => ?_)
          cases result₃ with
          | error e => exact hnext start₃ w₃ _ fun _ h => nomatch h
          | ok serial =>
            exact hnext start₃ w₃ _ fun _ _ => ⟨_, ((hr.done.trans (hdone₁ _ rfl)).trans
              (hdone₂ _ rfl)).trans (hdone₃ _ rfl)⟩
        · exact hnext start₂ w₂ _ fun _ h => nomatch h

/-- **Opening** applies the whole configuration. -/
theorem initializeSession_lands {called w : DeviceWorld mode} (hr : FirmwareRely called w)
    (hvalid : called.config.validate = .ok ()) (start : DeviceWorld mode) :
    FirmwareSafe (Landed called called.config allSettings)
      (Session.initializeSession called.config) start w := by
  obtain ⟨commands, receive, hcommands, _⟩ := inStep_of_valid hvalid
  have hconfigure : Session.configure called.config =
      .ok (Session.apply commands (some receive)) := by
    unfold Session.configure
    rw [hcommands]
  -- after a failure nothing can succeed any more
  have hfail : ∀ (start' w' : DeviceWorld mode) (error : Error),
      FirmwareSafe (Landed called called.config allSettings)
        (.right (Session.shutdown.map fun _ w => (w, .error error))) start' w' := by
    intro start' w' error
    refine safe_right.mpr (safe_map.mpr (firmwareSafe_trivial ?_ _ _ _))
    exact fun _ _ _ h => nomatch h
  refine safe_continueWith.mpr (safe_andThen.mpr (safe_mapErr.mpr (deviceInfo_done hr ?_)))
  intro start₁ w₁ result₁ hdone₁
  cases result₁ with
  | error e => exact hfail start₁ w₁ _
  | ok info =>
    obtain ⟨earlier, hdone⟩ := hdone₁ info rfl
    have hset : Done called (Session.setInfo info w₁) earlier := by
      unfold Session.setInfo
      split
      · exact ⟨⟨hdone.settings.config, hdone.settings.receive⟩, hdone.wire⟩
      · exact ⟨⟨hdone.settings.config, hdone.settings.receive⟩, hdone.wire⟩
    simp only [AfterOk, Except.mapError, hconfigure]
    refine safe_mapErr.mpr (apply_lands hset fun start₂ w₂ result₂ hresult₂ => ?_)
    cases result₂ with
    | error e => exact hfail start₂ w₂ _
    | ok value =>
      obtain ⟨hconfig, hreceive, hcarried⟩ := hresult₂ rfl
      refine safe_left.mpr (safe_ready.mpr fun _ => ⟨hconfig, _, hcarried, fun setting _ => ?_, ?_⟩)
      · rw [settingsOf_append]
        exact List.mem_append_right _ (settingsOf_configuration hcommands setting)
      · show Installs _ _ _ _ w₂.session.receive
        rw [show w₂.session.receive = receive from hreceive]
        refine ⟨fun setting _ registers => ?_, fun setting hnot => absurd ?_ hnot⟩
        · rw [writeAll_append]
          exact effective_configuration hcommands setting _
        · rw [settingsOf_append]
          exact List.mem_append_right _ (settingsOf_configuration hcommands setting)

end HydraSdr.Analysis.FirmwareAgreement
