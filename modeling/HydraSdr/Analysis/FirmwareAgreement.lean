import HydraSdr.Analysis.CompletionRuns
import HydraSdr.Analysis.FirmwareCommands

/-!
# The snapshot describes the firmware

The firmware cannot be asked what it is set to.  What it was told is on the wire, and which
operation told it is in the log kept here.  A setting about which the last operation to issue a
command has succeeded is in effect the one that the snapshot of the device shows.
-/

set_option autoImplicit false

namespace HydraSdr.Analysis.FirmwareAgreement

open HydraSdr.Program HydraSdr.Computation HydraSdr.Analysis HydraSdr.Analysis.SettingsAgreement

variable {F : Type} {mode : SampleFormat}

/-! ## The log of operations -/

/-- One operation of the device, or the one that opened it: the settings for which it has issued
commands, and its result, if it has come to one. -/
structure OperationRecord (mode : SampleFormat) where
  operation : Option (DeviceOperation mode)
  touched : List Setting
  outcome : Option (Result Unit)

/-- The record of an operation that has succeeded. -/
def succeeded (operation : DeviceOperation mode) (touched : List Setting) : OperationRecord mode where
  operation := some operation
  touched := touched
  outcome := some (.ok ())

/-- The operation in flight; the one that opens the device has no name. -/
def inFlight : DevicePhase mode → Option (Option (DeviceOperation mode) × DeviceFlight mode)
  | .opening _ flight => some (none, flight)
  | .operating _ operation flight => some (some operation, flight)
  | _ => none

/-- The result of an operation of the device, if there is one among these events. -/
def reported (events : List (CallEvent F mode)) : Option (Result Unit) :=
  events.findSome? fun event => match event with
    | .opened result => some result
    | .device _ result => some result
    | _ => none

/-- The log after a step, newest operation first.  What is issued while an operation is in flight is
put down to it. -/
def record (s s' : System F mode) (log : List (OperationRecord mode)) :
    List (OperationRecord mode) :=
  match inFlight s.device, log with
  | some _, current :: earlier =>
    { current with
      touched := current.touched ++ settingsSince s.wire s'.wire
      outcome := reported (newEvents s s') } :: earlier
  | _, _ =>
    match inFlight s'.device with
    | some (operation, _) => { operation := operation, touched := [], outcome := none } :: log
    | none => log

/-- The runs of a session opened with `config`, with the log of its operations. -/
inductive Logged [SampleArithmetic F] (config : ValidConfig mode) :
    System F mode → List (OperationRecord mode) → Prop
  | initial : Logged config (System.initial config)
      [{ operation := none, touched := [], outcome := none }]
  | step {s : System F mode} {log : List (OperationRecord mode)} (action : Action mode)
      (reply : ℕ → AnyReply) (h : Logged config s log) :
      Logged config (s.step action reply) (record s (s.step action reply) log)

/-- The last operation that has issued a command for a setting. -/
def lastTouching (setting : Setting) (log : List (OperationRecord mode)) :
    Option (OperationRecord mode) :=
  log.find? fun record => setting ∈ record.touched

/-- The configuration that is left when the operations of a log that have succeeded are applied to
an earlier one. -/
def installed (config : Config mode) : List (OperationRecord mode) → Config mode
  | [] => config
  | record :: earlier =>
    match record.operation, record.outcome with
    | some operation, some (.ok _) => proposed operation (installed config earlier)
    | _, _ => installed config earlier

/-- A setting of the firmware is what a configuration asks for, whichever of the transfers that were
never acknowledged have been carried out. -/
def Describes (s : System F mode) (config : Config mode) (setting : Setting) : Prop :=
  ∀ applied, CarriesOut applied s.wire → ∀ registers,
    effective (firmware applied registers s.wire) s.session.receive setting =
      demanded config setting

/-- The configuration an operation leads to when it succeeds. -/
def target (operation : Option (DeviceOperation mode)) (config : Config mode) : Config mode :=
  match operation with
  | some operation => proposed operation config
  | none => config

/-- The settings for which an operation that succeeds has issued commands. -/
def targetSettings : Option (DeviceOperation mode) → List Setting
  | some operation => operationSettings operation
  | none => allSettings

/-- What the log says about the snapshot `active` and about the firmware. -/
structure Settled (config : ValidConfig mode) (s : System F mode)
    (log : List (OperationRecord mode)) (active : Config mode) : Prop where
  current : active = installed config.1 log
  described : ∀ setting record, lastTouching setting log = some record →
    record.outcome = some (.ok ()) → Describes s active setting
  complete : ∀ record ∈ log, record.outcome = some (.ok ()) →
    targetSettings record.operation ⊆ record.touched

/-- The newest record of the log is the one of the operation in flight, which was called in a state
from which on everything issued for a setting has been its own. -/
def Flying (s : System F mode) (log : List (OperationRecord mode)) (active : Config mode)
    (operation : Option (DeviceOperation mode)) (flight : DeviceFlight mode) : Prop :=
  ∃ record earlier, log = record :: earlier ∧ record.operation = operation ∧
    record.outcome = none ∧ ∃ called : DeviceWorld mode, called.config = active ∧
      called.session.receive = s.session.receive ∧ called.wire.issued <+: s.wire.issued ∧
      record.touched = settingsSince called.wire s.wire ∧
      (operation ≠ some .shutdown → FlightSafe DeviceWorld.port FirmwareRely (fun _ _ => True)
        (Landed called (target operation active) (targetSettings operation)) flight
        (s.deviceWorld active))

/-- The configuration of a device that is there. -/
def held : DevicePhase mode → Option (Config mode)
  | .opening config _ => some config
  | .idle config => some config
  | .operating config _ _ => some config
  | .dropped => none

/-- What the log of an open device says. -/
structure LogInv (config : ValidConfig mode) (s : System F mode)
    (log : List (OperationRecord mode)) : Prop where
  settled : s.session.state.device = .opened → ∀ active, held s.device = some active →
    Settled config s log active
  flying : s.session.state.device = .opened → ∀ active operation flight,
    held s.device = some active → inFlight s.device = some (operation, flight) →
      Flying s log active operation flight

theorem Logged.reachable [SampleArithmetic F] {config : ValidConfig mode} {s : System F mode}
    {log : List (OperationRecord mode)} (h : Logged config s log) : System.Reachable config s := by
  induction h with
  | initial => exact .initial
  | step action reply _ ih => exact ih.step action reply

/-! ## What the log keeps saying -/

/-- A setting goes on being as described while no command is issued for it. -/
theorem Describes.since {s s' : System F mode} {active : Config mode} {setting : Setting}
    (h : Describes s active setting) (hwire : Extends s.wire s'.wire)
    (hreceive : s'.session.receive = s.session.receive)
    (hsetting : setting ∉ settingsSince s.wire s'.wire) : Describes s' active setting := by
  intro applied happlied registers
  rw [hreceive, effective_since hwire.issued hsetting]
  exact h applied (happlied.before hwire.acknowledged) registers

theorem lastTouching_cons_of_mem {setting : Setting} {record : OperationRecord mode}
    (h : setting ∈ record.touched) (log : List (OperationRecord mode)) :
    lastTouching setting (record :: log) = some record :=
  List.find?_cons_of_pos (decide_eq_true h)

theorem lastTouching_cons_of_not_mem {setting : Setting} {record : OperationRecord mode}
    (h : setting ∉ record.touched) (log : List (OperationRecord mode)) :
    lastTouching setting (record :: log) = lastTouching setting log :=
  List.find?_cons_of_neg (by simpa using h)

theorem installed_cons_of_not_ok {record : OperationRecord mode}
    (h : record.outcome ≠ some (.ok ())) (config : Config mode)
    (log : List (OperationRecord mode)) : installed config (record :: log) = installed config log := by
  rw [installed]
  split
  · rename_i houtcome
    exact absurd houtcome h
  · rfl

/-- A success applies its operation. -/
theorem installed_cons_of_ok {record : OperationRecord mode} (h : record.outcome = some (.ok ()))
    (config : Config mode) (log : List (OperationRecord mode)) :
    installed config (record :: log) = target record.operation (installed config log) := by
  rw [installed, h]
  cases record.operation <;> rfl

/-- Nothing but the streams has acted. -/
structure Apart (s s' : System F mode) : Prop where
  device : s'.device = s.device
  wire : Unwritten s.wire s'.wire
  receive : s'.session.receive = s.session.receive
  lifecycle : s'.session.state.device = s.session.state.device
  reported : reported (newEvents s s') = none

theorem Apart.refl (s : System F mode) : Apart s s :=
  ⟨rfl, .refl _, rfl, rfl, by unfold newEvents; rw [List.drop_length]; rfl⟩

/-- What streams do leaves the log as it is. -/
theorem Apart.log {config : ValidConfig mode} {s s' : System F mode}
    {log : List (OperationRecord mode)} (h : LogInv config s log) (hapart : Apart s s')
    (hopen : s.session.state.device = .opened) {active : Config mode}
    (hheld : held s.device = some active) : record s s' log = log := by
  unfold record
  rw [hapart.device]
  cases hflight : inFlight s.device with
  | none => rfl
  | some flying =>
    obtain ⟨operation, flight⟩ := flying
    obtain ⟨current, earlier, rfl, _, houtcome, _⟩ :=
      h.flying hopen active operation flight hheld hflight
    obtain ⟨operation, touched, outcome⟩ := current
    obtain rfl : outcome = none := houtcome
    simp only [hapart.reported, hapart.wire.settingsSince, List.append_nil]

theorem LogInv.apart {config : ValidConfig mode} {s s' : System F mode}
    {log : List (OperationRecord mode)} (h : LogInv config s log) (hapart : Apart s s') :
    LogInv config s' (record s s' log) := by
  constructor
  · intro hopen active hheld
    rw [hapart.lifecycle] at hopen
    rw [hapart.device] at hheld
    rw [hapart.log h hopen hheld]
    obtain ⟨hcurrent, hdescribed, hcomplete⟩ := h.settled hopen active hheld
    refine ⟨hcurrent, fun setting record hlast hok => ?_, hcomplete⟩
    intro applied happlied registers
    have hnone : setting ∉ settingsSince s.wire s'.wire := by
      rw [hapart.wire.settingsSince]
      exact List.not_mem_nil
    rw [hapart.receive, effective_since hapart.wire.grows hnone]
    exact hdescribed setting record hlast hok applied (happlied.before hapart.wire.acknowledged)
      registers
  · intro hopen active operation flight hheld hflight
    rw [hapart.lifecycle] at hopen
    rw [hapart.device] at hheld hflight
    rw [hapart.log h hopen hheld]
    obtain ⟨record, earlier, hlog, hoperation, houtcome, called, hconfig, hreceive, hgrows,
      htouched, hsafe⟩ := h.flying hopen active operation flight hheld hflight
    refine ⟨record, earlier, hlog, hoperation, houtcome, called, hconfig,
      hreceive.trans hapart.receive.symm, hgrows.trans hapart.wire.grows, ?_, fun hne => ?_⟩
    · rw [settingsSince_trans hgrows hapart.wire.grows, hapart.wire.settingsSince, List.append_nil]
      exact htouched
    · refine FlightSafe.mono_rely (fun _ _ _ => FirmwareRely.trans) (hsafe hne) ?_
      exact ⟨⟨rfl, hapart.receive⟩, hapart.lifecycle, hapart.wire⟩

/-- An operation in flight goes on, or ends without success. -/
theorem Settled.unsuccessful {config : ValidConfig mode} {s s' : System F mode}
    {current : OperationRecord mode} {earlier : List (OperationRecord mode)} {active : Config mode}
    (h : Settled config s (current :: earlier) active) (hcurrent : current.outcome = none)
    (hwire : Extends s.wire s'.wire) (hreceive : s'.session.receive = s.session.receive)
    {outcome : Option (Result Unit)} (houtcome : outcome ≠ some (.ok ())) :
    Settled config s' ({ current with
      touched := current.touched ++ settingsSince s.wire s'.wire
      outcome := outcome } :: earlier) active := by
  have hnot : current.outcome ≠ some (.ok ()) := by
    rw [hcurrent]
    exact fun h => nomatch h
  refine ⟨?_, fun setting record hlast hok => ?_, fun record hmem hok => ?_⟩
  · rw [installed_cons_of_not_ok houtcome, ← installed_cons_of_not_ok hnot]
    exact h.current
  · by_cases htouched : setting ∈ current.touched ++ settingsSince s.wire s'.wire
    · rw [lastTouching_cons_of_mem htouched] at hlast
      obtain rfl := Option.some.inj hlast
      exact absurd hok houtcome
    · rw [lastTouching_cons_of_not_mem htouched] at hlast
      rw [List.mem_append, not_or] at htouched
      refine (h.described setting record ?_ hok).since hwire hreceive htouched.2
      rw [lastTouching_cons_of_not_mem htouched.1]
      exact hlast
  · rcases List.mem_cons.mp hmem with rfl | hmem
    · exact absurd hok houtcome
    · exact h.complete record (List.mem_cons_of_mem _ hmem) hok

/-- **An operation succeeds**: what it has issued commands for is what the new snapshot asks for, and
the rest is the same in both. -/
theorem Settled.succeeds {config : ValidConfig mode} {s s' : System F mode}
    {current : OperationRecord mode} {earlier : List (OperationRecord mode)}
    {active active' : Config mode} (h : Settled config s (current :: earlier) active)
    (hcurrent : current.outcome = none) (hwire : Extends s.wire s'.wire)
    {called : DeviceWorld mode} (hconfig : called.config = active)
    (hreceive : called.session.receive = s.session.receive)
    (hgrows : called.wire.issued <+: s.wire.issued)
    (htouched : current.touched = settingsSince called.wire s.wire)
    (hactive : active' = target current.operation active) {transfers : List Transfer}
    (hcarried : Carried called.wire s'.wire transfers)
    (hsettings : targetSettings current.operation ⊆ settingsOf transfers)
    (hinstalls : Installs transfers called.config active' called.session.receive s'.session.receive) :
    Settled config s' ({ current with
      touched := current.touched ++ settingsSince s.wire s'.wire
      outcome := some (.ok ()) } :: earlier) active' := by
  have hall : current.touched ++ settingsSince s.wire s'.wire = settingsOf transfers := by
    rw [htouched, ← settingsSince_trans hgrows hwire.issued, hcarried.settingsSince]
  have hnot : current.outcome ≠ some (.ok ()) := by
    rw [hcurrent]
    exact fun h => nomatch h
  rw [hall]
  refine ⟨?_, fun setting record hlast hok => ?_, fun record hmem hok => ?_⟩
  · rw [installed_cons_of_ok rfl, hactive, h.current, installed_cons_of_not_ok hnot]
  · intro applied happlied registers
    rw [hcarried.written applied happlied]
    by_cases hsetting : setting ∈ settingsOf transfers
    · exact hinstalls.written setting hsetting _
    · rw [lastTouching_cons_of_not_mem hsetting] at hlast
      obtain ⟨hdemanded, heffective⟩ := hinstalls.kept setting hsetting
      have hbefore : setting ∉ current.touched ∧ setting ∉ settingsSince s.wire s'.wire := by
        rw [← hall, List.mem_append, not_or] at hsetting
        exact hsetting
      have hdescribes := h.described setting record
        ((lastTouching_cons_of_not_mem hbefore.1 earlier).trans hlast) hok applied
        (happlied.before hwire.acknowledged) registers
      rw [effective_writeAll hsetting, heffective, hdemanded, hconfig, hreceive,
        ← effective_since hgrows (htouched ▸ hbefore.1) applied registers s.session.receive]
      exact hdescribes
  · rcases List.mem_cons.mp hmem with rfl | hmem
    · exact hsettings
    · exact h.complete record (List.mem_cons_of_mem _ hmem) hok

/-! ## Every step -/

/-- A method of the idle device is called: a new record, with nothing in it. -/
theorem callDevice_log {config : ValidConfig mode} {s : System F mode}
    {log : List (OperationRecord mode)} (h : LogInv config s log) (operation : DeviceOperation mode) :
    LogInv config (s.callDevice operation) (record s (s.callDevice operation) log) := by
  by_cases hidle : ∃ active, s.device = .idle active
  · obtain ⟨active, hdevice⟩ := hidle
    obtain ⟨built, hbuilt⟩ := call_ok operation (s.deviceWorld active)
    have hcalled : s.callDevice operation =
        { s with device := .operating active operation (.unpolled built.denote) } := by
      unfold System.callDevice
      rw [hdevice]
      simp only [hbuilt]
    have hlog : record s (s.callDevice operation) log =
        { operation := some operation, touched := [], outcome := none } :: log := by
      unfold record
      rw [hcalled, hdevice]
      rfl
    rw [hlog, hcalled]
    have hheld : held s.device = some active := by rw [hdevice]; rfl
    refine ⟨fun hopen active' hactive => ?_, fun hopen active' operation' flight hactive hflight => ?_⟩
    · obtain rfl := Option.some.inj hactive
      obtain ⟨hcurrent, hdescribed, hcomplete⟩ := h.settled hopen active hheld
      refine ⟨?_, fun setting record hlast hok => ?_, fun record hmem hok => ?_⟩
      · rw [hcurrent]
        rfl
      · rw [lastTouching_cons_of_not_mem List.not_mem_nil] at hlast
        exact hdescribed setting record hlast hok
      · rcases List.mem_cons.mp hmem with rfl | hmem
        · exact nomatch hok
        · exact hcomplete record hmem hok
    · obtain rfl := Option.some.inj hactive
      obtain ⟨rfl, rfl⟩ := Prod.mk.inj (Option.some.inj hflight)
      refine ⟨_, log, rfl, rfl, rfl, s.deviceWorld active, rfl, rfl, List.prefix_rfl, ?_,
        fun hne w hr => ?_⟩
      · exact (Unwritten.refl s.wire).settingsSince.symm
      · exact call_lands (fun h => hne (congrArg some h)) hr hbuilt w
  · have hsame : s.callDevice operation = s := by
      unfold System.callDevice
      split
      · rename_i active hdevice
        exact absurd ⟨active, hdevice⟩ hidle
      · rfl
    rw [hsame]
    exact h.apart (.refl s)

theorem record_flying {s s' : System F mode} {operation : Option (DeviceOperation mode)}
    {flight : DeviceFlight mode} (hflight : inFlight s.device = some (operation, flight))
    (current : OperationRecord mode) (earlier : List (OperationRecord mode)) :
    record s s' (current :: earlier) = { current with
      touched := current.touched ++ settingsSince s.wire s'.wire
      outcome := reported (newEvents s s') } :: earlier := by
  unfold record
  rw [hflight]

/-- The operation in flight ends without success, or waits again. -/
theorem LogInv.unsuccessful {config : ValidConfig mode} {s : System F mode}
    {log : List (OperationRecord mode)} (h : LogInv config s log) {active : Config mode}
    (hheld : held s.device = some active) {operation : Option (DeviceOperation mode)}
    {flight : DeviceFlight mode} (hflight : inFlight s.device = some (operation, flight))
    {w : DeviceWorld mode} (hstep : DeviceStep (s.deviceWorld active) w)
    (hsame : SameSettings (s.deviceWorld active) w) {phase : DevicePhase mode}
    {events : List (CallEvent F mode)} (hevents : reported events ≠ some (.ok ()))
    (hphase : held phase = none ∨ held phase = some w.config)
    (hnext : ∀ operation' flight', inFlight phase = some (operation', flight') →
      operation' = operation ∧ reported events = none ∧ (operation ≠ some .shutdown →
        ∀ called target settings,
        FlightSafe DeviceWorld.port FirmwareRely (fun _ _ => True) (Landed called target settings)
          flight (s.deviceWorld active) →
        FlightSafe DeviceWorld.port FirmwareRely (fun _ _ => True) (Landed called target settings)
          flight' w)) :
    LogInv config (s.putDevice w phase events) (record s (s.putDevice w phase events) log) := by
  have hconfig : w.config = active := hsame.config
  have hreceive : (s.putDevice w phase events).session.receive = s.session.receive := hsame.receive
  have hnew : newEvents s (s.putDevice w phase events) = events :=
    @newEvents_eq F mode s (s.putDevice w phase events) events rfl
  have hwire : Extends s.wire (s.putDevice w phase events).wire := hstep.wire
  have hactive : ∀ active', held phase = some active' → active' = active := by
    intro active' hactive'
    rcases hphase with hnone | hsome
    · exact nomatch hnone.symm.trans hactive'
    · exact (Option.some.inj (hsome.symm.trans hactive')).symm.trans hconfig
  have hopened : (s.putDevice w phase events).session.state.device = .opened →
      s.session.state.device = .opened := by
    intro hopen
    have hstate : w.session.state = s.session.state := (hstep.opened hopen).1
    rw [← hstate]
    exact hopen
  refine ⟨fun hopen active' hactive' => ?_,
    fun hopen active' operation' flight' hactive' hflight' => ?_⟩
  · obtain rfl := hactive active' hactive'
    obtain ⟨current, earlier, rfl, _, houtcome, _⟩ :=
      h.flying (hopened hopen) _ operation flight hheld hflight
    rw [record_flying hflight, hnew]
    exact (h.settled (hopened hopen) _ hheld).unsuccessful houtcome hwire hreceive hevents
  · obtain rfl := hactive active' hactive'
    obtain ⟨current, earlier, rfl, hoperation, houtcome, called, hcalled, hreceived, hgrows, htouched,
      hsafe⟩ := h.flying (hopened hopen) _ operation flight hheld hflight
    obtain ⟨rfl, hreported, hgoes⟩ := hnext operation' flight' hflight'
    rw [record_flying hflight, hnew, hreported]
    refine ⟨_, earlier, rfl, hoperation, rfl, called, hcalled, hreceived.trans hreceive.symm,
      hgrows.trans hwire.issued, ?_, fun hne => ?_⟩
    · rw [settingsSince_trans hgrows hwire.issued, ← htouched]
    · have hworld : (s.putDevice w phase events).deviceWorld active' = w := by
        rw [← hconfig]
        rfl
      rw [hworld]
      exact hgoes hne _ _ _ (hsafe hne)

/-- The operation in flight succeeds. -/
theorem LogInv.successful {config : ValidConfig mode} {s : System F mode}
    {log : List (OperationRecord mode)} (h : LogInv config s log) {active : Config mode}
    (hheld : held s.device = some active) {operation : Option (DeviceOperation mode)}
    {flight : DeviceFlight mode} (hflight : inFlight s.device = some (operation, flight))
    (hopened : s.session.state.device = .opened) {w : DeviceWorld mode}
    (hstep : DeviceStep (s.deviceWorld active) w) {events : List (CallEvent F mode)}
    (hevents : reported events = some (.ok ()))
    (hlands : ∀ called,
      FlightSafe DeviceWorld.port FirmwareRely (fun _ _ => True)
        (Landed called (target operation active) (targetSettings operation)) flight
          (s.deviceWorld active) →
        Landed called (target operation active) (targetSettings operation) w (.ok ()) w)
    (hne : operation ≠ some .shutdown) :
    LogInv config (s.putDevice w (.idle w.config) events)
      (record s (s.putDevice w (.idle w.config) events) log) := by
  have hnew : newEvents s (s.putDevice w (.idle w.config) events) = events :=
    @newEvents_eq F mode s (s.putDevice w (.idle w.config) events) events rfl
  refine ⟨fun _ active' hactive' => ?_, fun _ _ _ _ _ hflight' => nomatch hflight'⟩
  obtain rfl := Option.some.inj hactive'
  obtain ⟨current, earlier, rfl, rfl, houtcome, called, hcalled, hreceived, hgrows, htouched, hsafe⟩ :=
    h.flying hopened active operation flight hheld hflight
  obtain ⟨htarget, transfers, hcarried, hsettings, hinstalls⟩ := hlands called (hsafe hne) rfl
  rw [record_flying hflight, hnew, hevents]
  refine (h.settled hopened active hheld).succeeds houtcome hstep.wire hcalled hreceived hgrows htouched
    htarget hcarried hsettings ?_
  rw [htarget]
  exact hinstalls

/-- One poll of an operation whose end is known. -/
theorem poll_lands {called : DeviceWorld mode} {target : Config mode} {settings : List Setting}
    {flight : DeviceFlight mode} {w : DeviceWorld mode}
    (h : FlightSafe DeviceWorld.port FirmwareRely (fun _ _ => True) (Landed called target settings)
      flight w) (replies : List AnyReply) :
    Segment DeviceWorld.port FirmwareRely (fun _ _ => True) (Landed called target settings) w
      (flight.poll DeviceWorld.port replies w) :=
  h.poll FirmwareRely.refl (fun _ => trivial) (fun _ _ _ _ _ => trivial)
    (fun _ _ _ _ _ hend => hend) replies

variable [SampleArithmetic F]

/-- **A poll of the device.** -/
theorem pollDevice_log {config : ValidConfig mode} {s : System F mode} (hinv : SystemInv s)
    {log : List (OperationRecord mode)} (h : LogInv config s log) (replies : List AnyReply) :
    LogInv config (s.pollDevice replies) (record s (s.pollDevice replies) log) := by
  have hdevice := hinv.device
  cases hphase : s.device with
  | idle active =>
    have hsame : s.pollDevice replies = s := by
      unfold System.pollDevice
      rw [hphase]
    rw [hsame]
    exact h.apart (.refl s)
  | dropped =>
    have hsame : s.pollDevice replies = s := by
      unfold System.pollDevice
      rw [hphase]
    rw [hsame]
    exact h.apart (.refl s)
  | opening active flight =>
    have hheld : held s.device = some active := by rw [hphase]; rfl
    have hflight : inFlight s.device = some (none, flight) := by rw [hphase]; rfl
    rw [hphase] at hdevice
    have hsegment : Segment DeviceWorld.port DeviceRely DeviceGuar DeviceEnd (s.deviceWorld active)
        (flight.poll DeviceWorld.port replies (s.deviceWorld active)) :=
      devicePoll_segment deviceEnd_compose hdevice replies
    have hlands := fun called target settings hsafe =>
      @poll_lands mode called target settings flight (s.deviceWorld active) hsafe replies
    unfold System.pollDevice
    rw [hphase]
    dsimp only
    generalize flight.poll DeviceWorld.port replies (s.deviceWorld active) = outcome at hsegment hlands
    obtain ⟨progress, w⟩ := outcome
    cases progress with
    | finished result =>
      cases result with
      | ok value =>
        have hstep : DeviceStep (s.deviceWorld active) w := hsegment.step
        by_cases hopen : w.session.state.device = .opened
        · have hbefore : s.session.state.device = .opened := by
            rw [← show w.session.state = s.session.state from (hstep.opened hopen).1]
            exact hopen
          exact h.successful hheld hflight hbefore hstep rfl
            (fun called hsafe => hlands called _ _ hsafe) (nomatch ·)
        · exact ⟨fun hopen' => absurd hopen' hopen, fun hopen' => absurd hopen' hopen⟩
      | error e =>
        exact ⟨fun _ _ hactive => (nomatch hactive), fun _ _ _ _ hactive => (nomatch hactive)⟩
    | waiting ticket request next =>
      refine h.unsuccessful hheld hflight hsegment.1.step hsegment.1.settings (nomatch ·) (.inr rfl) ?_
      intro operation' flight' hnext
      obtain ⟨rfl, rfl⟩ := Prod.mk.inj (Option.some.inj hnext)
      exact ⟨rfl, rfl, fun _ called target settings hsafe => (hlands called target settings hsafe).2⟩
  | operating active operation flight =>
    have hheld : held s.device = some active := by rw [hphase]; rfl
    have hflight : inFlight s.device = some (some operation, flight) := by rw [hphase]; rfl
    rw [hphase] at hdevice
    have hsegment : Segment DeviceWorld.port DeviceRely DeviceGuar (CallEnd operation)
        (s.deviceWorld active) (flight.poll DeviceWorld.port replies (s.deviceWorld active)) :=
      devicePoll_segment (callEnd_compose operation) hdevice.2 replies
    have hlands := fun called target settings hsafe =>
      @poll_lands mode called target settings flight (s.deviceWorld active) hsafe replies
    unfold System.pollDevice
    rw [hphase]
    dsimp only
    generalize flight.poll DeviceWorld.port replies (s.deviceWorld active) = outcome at hsegment hlands
    obtain ⟨progress, w⟩ := outcome
    cases progress with
    | finished result =>
      have hstep : DeviceStep (s.deviceWorld active) w := hsegment.1.step
      cases result with
      | ok value =>
        by_cases hopen : w.session.state.device = .opened
        · have hbefore : s.session.state.device = .opened := by
            rw [← show w.session.state = s.session.state from (hstep.opened hopen).1]
            exact hopen
          refine h.successful hheld hflight hbefore hstep rfl
            (fun called hsafe => hlands called _ _ hsafe) fun hshutdown => ?_
          -- a shutdown that succeeds has closed the device
          have hclosed := hsegment.2 (Option.some.inj hshutdown) rfl
          exact nomatch hclosed.symm.trans hopen
        · exact ⟨fun hopen' => absurd hopen' hopen, fun hopen' => absurd hopen' hopen⟩
      | error e =>
        exact h.unsuccessful hheld hflight hstep (hsegment.1.failed e rfl) (nomatch ·) (.inr rfl)
          fun _ _ hnext => nomatch hnext
    | waiting ticket request next =>
      refine h.unsuccessful hheld hflight hsegment.1.step hsegment.1.settings (nomatch ·) (.inr rfl) ?_
      intro operation' flight' hnext
      obtain ⟨rfl, rfl⟩ := Prod.mk.inj (Option.some.inj hnext)
      exact ⟨rfl, rfl, fun _ called target settings hsafe => (hlands called target settings hsafe).2⟩

/-- Streams have no commands for settings. -/
theorem move_unwritten {w w' : StreamWorld F mode} (move : Move w w') : Unwritten w.wire w'.wire := by
  cases move with
  | issue _ htransfer _ =>
    refine ⟨⟨[_], rfl, fun other hother => ?_⟩, fun _ h => h⟩
    rw [List.mem_singleton.mp hother]
    cases htransfer <;> rfl
  | settle _ ticket transfer reply _ =>
    refine ⟨⟨[], ?_, fun _ h => absurd h List.not_mem_nil⟩, acknowledged_settle ticket transfer reply _⟩
    show (w.wire.settle ticket transfer reply).issued = _
    rw [Wire.settle_issued, List.append_nil]
  | openQueue _ wire settings _ _ _ _ hextends hissued _ =>
    exact ⟨⟨[], by rw [List.append_nil]; exact hissued, fun _ h => absurd h List.not_mem_nil⟩,
      hextends.acknowledged⟩
  | _ => exact Unwritten.refl _

theorem moves_unwritten {w w' : StreamWorld F mode} (h : Moves w w') :
    Unwritten w.wire w'.wire := by
  induction h with
  | none => exact .refl _
  | step _ move ih => exact ih.trans (move_unwritten move)

/-- A step of a stream, as far as the device is concerned. -/
theorem outcome_apart {stream : ℕ} {w : StreamWorld F mode} {step : StreamStep F mode}
    (h : Outcome stream w step) : Unwritten w.wire step.wire ∧
      step.session.receive = w.session.receive ∧
      step.session.state.device = w.session.state.device ∧ reported step.events = none := by
  cases h with
  | kept hmoves hsession hwire _ _ hevents =>
    refine ⟨by rw [hwire]; exact moves_unwritten hmoves, by rw [hsession], by rw [hsession], ?_⟩
    refine List.findSome?_eq_none_iff.mpr fun event hevent => ?_
    cases hevents event hevent <;> rfl
  | dropped hmoves hsession hwire _ _ _ hevents =>
    refine ⟨by rw [hwire]; exact moves_unwritten hmoves, by rw [hsession], by rw [hsession], ?_⟩
    refine List.findSome?_eq_none_iff.mpr fun event hevent => ?_
    obtain ⟨result, rfl⟩ := hevents event hevent
    rfl
  | released hmoves claim hsession hwire _ _ _ _ hevents =>
    refine ⟨by rw [hwire]; exact moves_unwritten hmoves, by rw [hsession]; rfl,
      by rw [hsession]; rfl, ?_⟩
    refine List.findSome?_eq_none_iff.mpr fun event hevent => ?_
    rcases hevents event hevent with rfl | ⟨result, rfl⟩ <;> rfl

theorem onStream_apart {s : System F mode} (h : SystemInv s) {stream : ℕ}
    {use : StreamPhase F mode → (Receiver F mode → StreamWorld F mode) →
      Option (StreamStep F mode)} (huse : StreamUse s stream use) :
    Apart s (s.onStream stream use) := by
  unfold System.onStream
  split
  · exact .refl s
  · rename_i phase hphase
    split
    · exact .refl s
    · rename_i step hstep
      obtain ⟨receiver, _, houtcome⟩ := huse phase step
        (h.streams phase (List.mem_of_getElem? hphase)) hstep
      obtain ⟨hwire, hreceive, hlifecycle, hreported⟩ := outcome_apart houtcome
      refine ⟨rfl, hwire, hreceive, hlifecycle, ?_⟩
      rw [@newEvents_eq F mode s (s.putStream stream step) step.events rfl]
      exact hreported

theorem rxStream_apart (s : System F mode) : Apart s s.rxStream := by
  unfold System.rxStream
  split
  · rcases acquire_cases s.session with ⟨_, _, hacquire⟩ | ⟨_, e, hacquire⟩
    · rw [hacquire]
      refine ⟨rfl, .refl _, rfl, rfl, ?_⟩
      unfold newEvents
      rw [List.drop_left]
      rfl
    · rw [hacquire]
      refine ⟨rfl, .refl _, rfl, rfl, ?_⟩
      unfold newEvents
      rw [List.drop_left]
      rfl
  · exact .refl s

/-- **Every action keeps what the log says.** -/
theorem act_log {config : ValidConfig mode} {s : System F mode} (hinv : SystemInv s)
    {log : List (OperationRecord mode)} (h : LogInv config s log) (action : Action mode) :
    LogInv config (s.act action) (record s (s.act action) log) := by
  cases action_cases s action with
  | stream hact huse => exact hact ▸ h.apart (onStream_apart hinv huse)
  | callDevice operation => exact callDevice_log h operation
  | pollDevice replies => exact pollDevice_log hinv h replies
  | cancelDevice =>
    show LogInv config s.cancelDevice (record s s.cancelDevice log)
    unfold System.cancelDevice
    split
    · exact ⟨fun _ _ hactive => (nomatch hactive), fun _ _ _ _ hactive => (nomatch hactive)⟩
    · rename_i active operation flight hdevice
      have hput : ({ s with device := .idle active } : System F mode) =
          s.putDevice (s.deviceWorld active) (.idle active) [] := by
        unfold System.putDevice
        rw [List.append_nil]
        rfl
      rw [hput]
      refine h.unsuccessful (by rw [hdevice]; rfl) (by rw [hdevice]; rfl) (.refl _) (.refl _)
        (nomatch ·) (.inr rfl) fun _ _ hnext => nomatch hnext
    · exact h.apart (.refl s)
  | dropDevice =>
    show LogInv config s.dropDevice (record s s.dropDevice log)
    unfold System.dropDevice
    split
    · exact ⟨fun _ _ hactive => (nomatch hactive), fun _ _ _ _ hactive => (nomatch hactive)⟩
    · exact h.apart (.refl s)
  | rxStream => exact h.apart (rxStream_apart s)

theorem step_log {config : ValidConfig mode} {s : System F mode} (hs : System.Reachable config s)
    {log : List (OperationRecord mode)} (h : LogInv config s log) (action : Action mode)
    (reply : ℕ → AnyReply) :
    LogInv config (s.step action reply) (record s (s.step action reply) log) := by
  by_cases hgoes : s.panic = none ∧ s.ended = false
  · have hnot : ¬(s.panic.isSome || s.ended) = true := by
      rw [hgoes.1, hgoes.2]
      exact Bool.false_ne_true
    unfold System.step
    rw [if_neg hnot]
    dsimp only
    split
    · exact act_log (reachable_inv hs).system h action
    · rename_i hgone
      -- the device is gone, and so there is nothing to say about it
      rw [Bool.or_eq_true, not_or, Bool.not_eq_true] at hgone
      obtain ⟨hdropped, _⟩ := owned_false_iff.mp hgone.1
      have hdevice : ((s.act action).dropSession reply).device = .dropped := by
        unfold System.dropSession
        split <;> exact hdropped
      constructor
      · intro _ active hactive
        rw [hdevice] at hactive
        exact nomatch hactive
      · intro _ active _ _ hactive
        rw [hdevice] at hactive
        exact nomatch hactive
  · rw [step_of_over hgoes]
    exact h.apart (.refl s)

omit [SampleArithmetic F] in
theorem initial_log (config : ValidConfig mode) :
    LogInv config (System.initial config : System F mode)
      [{ operation := none, touched := [], outcome := none }] := by
  constructor
  · intro _ active hactive
    obtain rfl := Option.some.inj hactive
    refine ⟨rfl, fun setting record hlast _ => (nomatch hlast), fun record hmem hok => ?_⟩
    rw [List.mem_singleton.mp hmem] at hok
    exact nomatch hok
  · intro _ active operation flight hactive hflight
    obtain rfl := Option.some.inj hactive
    obtain ⟨rfl, rfl⟩ := Prod.mk.inj (Option.some.inj hflight)
    refine ⟨_, [], rfl, rfl, rfl, (System.initial config : System F mode).deviceWorld config.1, rfl,
      rfl, List.prefix_rfl, rfl, fun _ w hr => ?_⟩
    exact @initializeSession_lands _ ((System.initial config : System F mode).deviceWorld config.1) w hr
      config.2 w

theorem logged_inv {config : ValidConfig mode} {s : System F mode}
    {log : List (OperationRecord mode)} (h : Logged config s log) : LogInv config s log := by
  induction h with
  | initial => exact initial_log config
  | step action reply hs ih => exact step_log hs.reachable ih action reply

/-! ## The firmware and the snapshot -/

omit [SampleArithmetic F] in
theorem held_of_snapshot {phase : DevicePhase mode} {active : Config mode}
    (h : snapshot phase = some active) : held phase = some active := by
  cases phase with
  | idle config => exact h
  | operating config operation flight => exact h
  | _ => exact nomatch h

omit [SampleArithmetic F] in
/-- What comes before a configuration does not matter. -/
theorem installed_append {later earlier : List (OperationRecord mode)} {config config' : Config mode}
    (h : installed config earlier = config') :
    installed config (later ++ earlier) = installed config' later := by
  induction later with
  | nil => exact h
  | cons record later ih =>
    show installed config (record :: (later ++ earlier)) = _
    rw [installed, installed, ih]

omit [SampleArithmetic F] in
/-- The last operation that touched a setting, when all of those since a whole configuration have
succeeded. -/
theorem lastTouching_later {later earlier : List (OperationRecord mode)}
    {current : OperationRecord mode} {setting : Setting} (hcurrent : current.outcome = some (.ok ()))
    (htouched : setting ∈ current.touched) (hlater : ∀ record ∈ later, record.outcome = some (.ok ())) :
    ∃ record, lastTouching setting (later ++ current :: earlier) = some record ∧
      record.outcome = some (.ok ()) := by
  induction later with
  | nil => exact ⟨current, lastTouching_cons_of_mem htouched earlier, hcurrent⟩
  | cons record later ih =>
    by_cases hsetting : setting ∈ record.touched
    · exact ⟨record, lastTouching_cons_of_mem hsetting _, hlater record List.mem_cons_self⟩
    · obtain ⟨other, hother, hok⟩ := ih fun record h => hlater record (List.mem_cons_of_mem _ h)
      exact ⟨other, (lastTouching_cons_of_not_mem hsetting _).trans hother, hok⟩

omit [SampleArithmetic F] in
theorem mem_allSettings (setting : Setting) : setting ∈ allSettings := by
  cases setting <;> decide

/-- Since a whole configuration every operation has succeeded: the firmware is in the state that the
configuration with all the later changes asks for. -/
theorem Logged.whole {config : ValidConfig mode} {s : System F mode}
    {log : List (OperationRecord mode)} (h : Logged config s log)
    (hopen : s.session.state.device = .opened) {active : Config mode}
    (hsnapshot : snapshot s.device = some active) {base : ValidConfig mode} {touched : List Setting}
    {later earlier : List (OperationRecord mode)}
    (hlog : log = later ++ succeeded (.configure base) touched :: earlier)
    (hlater : ∀ record ∈ later, record.outcome = some (.ok ())) :
    active = installed base.1 later ∧ ∀ setting, Describes s (installed base.1 later) setting := by
  have hsettled := (logged_inv h).settled hopen active (held_of_snapshot hsnapshot)
  have hactive : active = installed base.1 later := by
    rw [hsettled.current, hlog]
    exact installed_append rfl
  refine ⟨hactive, fun setting => ?_⟩
  have htouched : setting ∈ touched := by
    refine hsettled.complete (succeeded (.configure base) touched) ?_ rfl (mem_allSettings setting)
    rw [hlog]
    exact List.mem_append_right _ List.mem_cons_self
  obtain ⟨record, hlast, hok⟩ := @lastTouching_later mode later earlier
    (succeeded (.configure base) touched) setting rfl htouched hlater
  rw [← hactive]
  exact hsettled.described setting record (hlog ▸ hlast) hok

/-- **The snapshot describes the firmware.**  In every state of a session that has not been shut
down, whatever its operations have done and wherever they failed or were dropped: if the last
operation that issued a command for a setting has succeeded, the setting is in effect as the snapshot
asks for.  After a configuration and any number of operations that all succeed, the whole state of
the firmware is the one that the configuration with their changes asks for, and the same as in any
other run in which that configuration has been applied as a whole. -/
theorem snapshot_describes_firmware {config : ValidConfig mode} {s : System F mode}
    {log : List (OperationRecord mode)} (h : Logged config s log)
    (hopen : s.session.state.device = .opened) {active : Config mode}
    (hsnapshot : snapshot s.device = some active) :
    (∀ setting record, lastTouching setting log = some record → record.outcome = some (.ok ()) →
      Describes s active setting) ∧
    ∀ (base : ValidConfig mode) touched later earlier,
      log = later ++ succeeded (.configure base) touched :: earlier →
      (∀ record ∈ later, record.outcome = some (.ok ())) →
      (active = installed base.1 later ∧ ∀ setting, Describes s (installed base.1 later) setting) ∧
      ∀ (config' replaced : ValidConfig mode) (s' : System F mode) log' active' touched' earlier',
        replaced.1 = installed base.1 later → Logged config' s' log' →
        s'.session.state.device = .opened → snapshot s'.device = some active' →
        log' = succeeded (.configure replaced) touched' :: earlier' →
        ∀ applied registers applied' registers', CarriesOut applied s.wire →
          CarriesOut applied' s'.wire → ∀ setting,
          effective (firmware applied registers s.wire) s.session.receive setting =
            effective (firmware applied' registers' s'.wire) s'.session.receive setting := by
  refine ⟨((logged_inv h).settled hopen active (held_of_snapshot hsnapshot)).described, ?_⟩
  intro base touched later earlier hlog hlater
  have hwhole := h.whole hopen hsnapshot hlog hlater
  refine ⟨hwhole, ?_⟩
  intro config' replaced s' log' active' touched' earlier' hreplaced h' hopen' hsnapshot' hlog'
    applied registers applied' registers' happlied happlied' setting
  have hother : ∀ record ∈ ([] : List (OperationRecord mode)), record.outcome = some (.ok ()) :=
    fun _ hmem => absurd hmem List.not_mem_nil
  have hwhole' := @Logged.whole F mode _ config' s' log' h' hopen' active' hsnapshot' replaced
    touched' [] earlier' hlog' hother
  rw [hwhole.2 setting applied happlied registers, ← hreplaced]
  exact (hwhole'.2 setting applied' happlied' registers').symm

/-- The state and the log after these actions. -/
def loggedAfter (config : ValidConfig mode) (reply : ℕ → AnyReply) (actions : List (Action mode)) :
    System F mode × List (OperationRecord mode) :=
  actions.foldl (fun run action =>
      (run.1.step action reply, record run.1 (run.1.step action reply) run.2))
    (System.initial config, [{ operation := none, touched := [], outcome := none }])

theorem logged_after (config : ValidConfig mode) (reply : ℕ → AnyReply)
    (actions : List (Action mode)) :
    Logged config (loggedAfter config reply actions : System F mode × _).1
      (loggedAfter config reply actions : System F mode × _).2 := by
  have hfrom : ∀ run : System F mode × List (OperationRecord mode), Logged config run.1 run.2 →
      Logged config
        (actions.foldl (fun run action =>
          (run.1.step action reply, record run.1 (run.1.step action reply) run.2)) run).1
        (actions.foldl (fun run action =>
          (run.1.step action reply, record run.1 (run.1.step action reply) run.2)) run).2 := by
    induction actions with
    | nil => exact fun run h => h
    | cons action actions ih => exact fun run h => ih _ (h.step action reply)
  exact hfrom _ .initial

/-- A device whose gain has been half changed, that has then been told its standard configuration
again, then to control its gain automatically, and then a preset. -/
def reconfigured : System Rat .f32Iq × List (OperationRecord .f32Iq) :=
  loggedAfter (ValidConfig.standard .f32Iq) (fun _ => obliging)
    [.pollDevice (List.replicate 16 obliging),
      .callDevice (.setGain (.preset (.linearity 3))), .pollDevice [obliging, obliging], .cancelDevice,
      .callDevice (.configure (ValidConfig.standard .f32Iq)), .pollDevice (List.replicate 16 obliging),
      .callDevice (.setGain (.stages .agc .agc 3)), .pollDevice (List.replicate 4 obliging),
      .callDevice (.setGain (.preset (.linearity 5))), .pollDevice (List.replicate 5 obliging)]

/-- Its snapshot. -/
def reconfiguredConfig : Config .f32Iq :=
  { (Config.standard : Config .f32Iq) with gain := .preset (.linearity 5) }

theorem reconfigured_describes : snapshot reconfigured.1.device = some reconfiguredConfig ∧
    demanded reconfiguredConfig .gain = .gain ⟨some 0, some 1, 9⟩ ∧
    ∀ setting, Describes reconfigured.1 reconfiguredConfig setting := by
  have hlogged : Logged (ValidConfig.standard .f32Iq) reconfigured.1 reconfigured.2 :=
    logged_after _ _ _
  have hsnapshot : snapshot reconfigured.1.device = some reconfiguredConfig := by decide +kernel
  refine ⟨hsnapshot, by decide, fun setting => ?_⟩
  have hlast : (lastTouching setting reconfigured.2).any
      (fun record => record.outcome.any Except.isOk) = true := by
    cases setting <;> decide +kernel
  obtain ⟨record, hrecord, hok⟩ := (Option.any_eq_true _ _).mp hlast
  obtain ⟨result, hresult, hok⟩ := (Option.any_eq_true _ _).mp hok
  refine (snapshot_describes_firmware hlogged (by decide +kernel) hsnapshot).1 setting record hrecord ?_
  rw [hresult]
  cases result with
  | ok value => rfl
  | error e => exact absurd hok Bool.false_ne_true

end HydraSdr.Analysis.FirmwareAgreement
