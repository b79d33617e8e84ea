import HydraSdr.Analysis.DeviceCalls
import HydraSdr.Analysis.StreamFlights

/-!
# The invariant of the driver

What holds in every state that a session can reach: the device handle and the streams agree with
the shared state, with the wire and with each other, whatever is in flight.
-/

set_option autoImplicit false

namespace HydraSdr.Analysis

open HydraSdr.Program HydraSdr.Computation

variable {F : Type} {mode : SampleFormat}

/-! ## The device handle -/

/-- An operation of the device in flight is safe. -/
abbrev DeviceFlightSafe (post : DeviceWorld mode → Result Unit → DeviceWorld mode → Prop)
    (flight : DeviceFlight mode) (w : DeviceWorld mode) : Prop :=
  FlightSafe DeviceWorld.port DeviceRely DeviceGuar post flight w

/-- The snapshot of an open device is in step with the session, and what it has in flight is
safe. -/
def DeviceInv (session : Session) (wire : Wire) (panic : Option Panic) : DevicePhase mode → Prop
  | .opening config flight => DeviceFlightSafe DeviceEnd flight ⟨session, wire, config, panic⟩
  | .idle config => InStep config session.receive
  | .operating config operation flight => InStep config session.receive ∧
      DeviceFlightSafe (CallEnd operation) flight ⟨session, wire, config, panic⟩
  | .dropped => True

/-- Streams may act between two steps of the device. -/
theorem DeviceInv.rely {session session' : Session} {wire wire' : Wire}
    {panic panic' : Option Panic} {phase : DevicePhase mode}
    (h : DeviceInv session wire panic phase)
    (hr : ∀ config : Config mode,
      DeviceRely ⟨session, wire, config, panic⟩ ⟨session', wire', config, panic'⟩) :
    DeviceInv session' wire' panic' phase := by
  cases phase with
  | opening config flight =>
    exact FlightSafe.mono_rely (fun _ _ _ => DeviceRely.trans) h (hr config)
  | idle config =>
    show InStep config session'.receive
    rw [show session'.receive = session.receive from (hr config).settings.receive]
    exact h
  | operating config operation flight =>
    refine ⟨?_, FlightSafe.mono_rely (fun _ _ _ => DeviceRely.trans) h.2 (hr config)⟩
    rw [show session'.receive = session.receive from (hr config).settings.receive]
    exact h.1
  | dropped => trivial

/-- What a stream of an open device may do. -/
theorem deviceRely_of_open {session session' : Session} {wire wire' : Wire}
    {panic panic' : Option Panic} (hopen : session.state.device = .opened)
    (hreceive : session'.receive = session.receive) (hinfo : session'.info = session.info)
    (hdevice : session'.state.device = session.state.device) (hwire : Extends wire wire')
    (config : Config mode) :
    DeviceRely ⟨session, wire, config, panic⟩ ⟨session', wire', config, panic'⟩ :=
  ⟨⟨rfl, hreceive⟩, hinfo, hdevice, hwire, fun hnot => absurd hopen hnot⟩

/-! ## Live streams -/

theorem live_of_receiver {phase : StreamPhase F mode} {receiver : Receiver F mode}
    (h : phase.receiver? = some receiver) : phase.live = true := by
  cases phase with
  | gone => exact nomatch h
  | _ => rfl

theorem countP_live_set {s : System F mode} {stream : ℕ} {phase : StreamPhase F mode}
    (hphase : s.streams[stream]? = some phase) (hlive : phase.live = true)
    (hcount : s.streams.countP StreamPhase.live = 1) (step : StreamPhase F mode) :
    (s.streams.set stream step).countP StreamPhase.live = if step.live then 1 else 0 := by
  obtain ⟨hlt, hget⟩ := List.getElem?_eq_some_iff.mp hphase
  rw [List.countP_set hlt, hget, hlive, hcount]
  simp

variable [SampleArithmetic F]

theorem phaseInv_of_not_live {session : Session} {wire : Wire} {panic : Option Panic}
    {phase : StreamPhase F mode} (h : phase.live ≠ true) : PhaseInv session wire panic phase := by
  cases phase with
  | gone => trivial
  | _ => exact absurd rfl h

/-- The agreement of everything that owns a session. -/
structure SystemInv (s : System F mode) : Prop where
  valid : ValidReceive s.session.receive
  device : DeviceInv s.session s.wire s.panic s.device
  streams : ∀ phase ∈ s.streams, PhaseInv s.session s.wire s.panic phase
  held : s.session.state.claim = .held → s.session.state.device = .opened
  live : s.streams.countP StreamPhase.live = if s.session.state.claim = .held then 1 else 0
  off : s.ended = false → s.session.state.device = .opened → s.session.state.claim = .available →
    ReceiverOff s.wire
  closed : s.session.state.device = .closed → ShutDown s.wire
  panicking : s.panic.isSome → s.owned = true

/-- A live stream holds the claim of an open device. -/
theorem SystemInv.held_of_live {s : System F mode} (h : SystemInv s) {phase : StreamPhase F mode}
    (hphase : phase ∈ s.streams) (hlive : phase.live = true) :
    s.session.state.claim = .held ∧ s.session.state.device = .opened := by
  have hpos : 0 < s.streams.countP StreamPhase.live :=
    List.countP_pos_iff.mpr ⟨phase, hphase, hlive⟩
  have hheld : s.session.state.claim = .held := by
    by_contra hnot
    rw [h.live, if_neg hnot] at hpos
    exact Nat.lt_irrefl 0 hpos
  exact ⟨hheld, h.held hheld⟩

theorem PhaseInv.streamInv {session : Session} {wire : Wire} {panic : Option Panic}
    {phase : StreamPhase F mode} (h : PhaseInv session wire panic phase)
    {receiver : Receiver F mode} (hreceiver : phase.receiver? = some receiver) :
    StreamInv (⟨session, wire, receiver, panic⟩ : StreamWorld F mode) := by
  cases phase with
  | idle receiver => exact Option.some.inj hreceiver ▸ h.1
  | operating receiver found call flight => exact Option.some.inj hreceiver ▸ h.1
  | reading receiver future => exact Option.some.inj hreceiver ▸ h.1
  | awaiting receiver operation => exact Option.some.inj hreceiver ▸ h.1
  | cleaning receiver flight => exact Option.some.inj hreceiver ▸ h.1
  | gone => exact nomatch hreceiver

/-- Every stream that is not gone agrees with the hardware. -/
theorem SystemInv.streamInv {s : System F mode} (h : SystemInv s) {phase : StreamPhase F mode}
    (hphase : phase ∈ s.streams) {receiver : Receiver F mode}
    (hreceiver : phase.receiver? = some receiver) : StreamInv (s.streamWorld receiver) :=
  (h.streams phase hphase).streamInv hreceiver

/-- A stream other than the live one is gone. -/
theorem SystemInv.others_gone {s : System F mode} (h : SystemInv s) {stream : ℕ}
    {phase : StreamPhase F mode} (hphase : s.streams[stream]? = some phase)
    (hlive : phase.live = true) {other : StreamPhase F mode} (step : StreamPhase F mode)
    (hother : other ∈ s.streams.set stream step) : other = step ∨ other.live ≠ true := by
  obtain ⟨hlt, hget⟩ := List.getElem?_eq_some_iff.mp hphase
  have hmem : phase ∈ s.streams := hget ▸ List.getElem_mem hlt
  have hcount : (s.streams.set stream .gone).countP StreamPhase.live = 0 := by
    rw [List.countP_set hlt, hget, hlive, h.live, if_pos (h.held_of_live hmem hlive).1]
    rfl
  obtain ⟨index, hindex, rfl⟩ := List.mem_iff_getElem.mp hother
  rw [List.getElem_set]
  split
  · exact .inl rfl
  · rename_i hne
    right
    have hlength : index < s.streams.length := by
      rw [List.length_set] at hindex
      exact hindex
    refine List.countP_eq_zero.mp hcount _ ?_
    refine List.mem_iff_getElem.mpr ⟨index, by rw [List.length_set]; exact hlength, ?_⟩
    rw [List.getElem_set, if_neg hne]

/-! ## Steps of a stream -/

/-- A live stream takes a step. -/
theorem SystemInv.putStream {s : System F mode} (h : SystemInv s) (hpanic : s.panic = none)
    {stream : ℕ} {phase : StreamPhase F mode} (hphase : s.streams[stream]? = some phase)
    {step : StreamStep F mode} (hsteps : Steps stream s.session s.wire s.panic phase step) :
    SystemInv (s.putStream stream step) := by
  obtain ⟨receiver, hreceiver, houtcome⟩ := hsteps
  have hlive := live_of_receiver hreceiver
  obtain ⟨hlt, hget⟩ := List.getElem?_eq_some_iff.mp hphase
  have hmem : phase ∈ s.streams := hget ▸ List.getElem_mem hlt
  obtain ⟨hheld, hopen⟩ := h.held_of_live hmem hlive
  have hcount : s.streams.countP StreamPhase.live = 1 := by rw [h.live, if_pos hheld]
  -- a stream that stays live keeps the claim
  have hstays : step.session = s.session → Extends s.wire step.wire →
      step.phase.live = true → PhaseInv step.session step.wire step.panic step.phase →
      SystemInv (s.putStream stream step) := by
    intro hsession hwire hsteplive hinv
    refine ⟨?_, ?_, ?_, ?_, ?_, ?_, ?_, ?_⟩
    · show ValidReceive step.session.receive
      rw [hsession]
      exact h.valid
    · have hsame : step.session.receive = s.session.receive ∧ step.session.info = s.session.info ∧
          step.session.state.device = s.session.state.device := by
        rw [hsession]
        exact ⟨rfl, rfl, rfl⟩
      exact h.device.rely (deviceRely_of_open hopen hsame.1 hsame.2.1 hsame.2.2 hwire)
    · intro other hother
      rcases h.others_gone hphase hlive step.phase hother with rfl | hgone
      · exact hinv
      · exact phaseInv_of_not_live hgone
    · show step.session.state.claim = .held → step.session.state.device = .opened
      rw [hsession]
      exact h.held
    · show (s.streams.set stream step.phase).countP StreamPhase.live =
        if step.session.state.claim = .held then 1 else 0
      rw [countP_live_set hphase hlive hcount, hsteplive, hsession, if_pos hheld]
      rfl
    · show _ → _ → step.session.state.claim = .available → _
      rw [hsession, hheld]
      exact fun _ _ hclaim => nomatch hclaim
    · show step.session.state.device = .closed → _
      rw [hsession, hopen]
      exact fun hclosed => nomatch hclosed
    · intro _
      refine Bool.or_eq_true_iff.mpr (.inr (List.any_eq_true.mpr ⟨step.phase, ?_, hsteplive⟩))
      exact List.mem_set hlt _
  cases houtcome with
  | kept hmoves hsession hwire hreceiver' hinv _ =>
    exact hstays hsession (by rw [hwire]; exact hmoves.extends) (live_of_receiver hreceiver') hinv
  | dropped hmoves hsession hwire hreceiver' _ hinv _ =>
    exact hstays hsession (by rw [hwire]; exact hmoves.extends) (live_of_receiver hreceiver') hinv
  | released hmoves claim hsession hwire hpanic' hgone hclaim hoff _ =>
    refine ⟨?_, ?_, ?_, ?_, ?_, ?_, ?_, ?_⟩
    · show ValidReceive step.session.receive
      rw [hsession]
      exact h.valid
    · have hsame : step.session.receive = s.session.receive ∧ step.session.info = s.session.info ∧
          step.session.state.device = s.session.state.device := by
        rw [hsession]
        exact ⟨rfl, rfl, rfl⟩
      have hextends : Extends s.wire step.wire := by
        rw [hwire]
        exact hmoves.extends
      exact h.device.rely (deviceRely_of_open hopen hsame.1 hsame.2.1 hsame.2.2 hextends)
    · intro other hother
      rcases h.others_gone hphase hlive step.phase hother with rfl | hnot
      · rw [hgone]
        trivial
      · exact phaseInv_of_not_live hnot
    · show step.session.state.claim = .held → _
      rw [hsession]
      exact fun hheld' => absurd hheld' hclaim
    · show (s.streams.set stream step.phase).countP StreamPhase.live =
        if step.session.state.claim = .held then 1 else 0
      rw [countP_live_set hphase hlive hcount, hgone, hsession]
      exact (if_neg hclaim).symm
    · show _ → _ → step.session.state.claim = .available → ReceiverOff step.wire
      rw [hsession, hwire]
      exact fun _ _ => hoff
    · show step.session.state.device = .closed → _
      rw [hsession]
      exact fun hclosed => nomatch hopen.symm.trans hclosed
    · show step.panic.isSome = true → _
      rw [hpanic', hpanic]
      exact (nomatch ·)

/-- A use of one stream that takes it to one of the outcomes. -/
def StreamUse (s : System F mode) (stream : ℕ) (use : StreamPhase F mode →
    (Receiver F mode → StreamWorld F mode) → Option (StreamStep F mode)) : Prop :=
  ∀ phase step, PhaseInv s.session s.wire s.panic phase → use phase s.streamWorld = some step →
    Steps stream s.session s.wire s.panic phase step

/-- An action on one stream. -/
theorem SystemInv.onStream {s : System F mode} (h : SystemInv s) (hpanic : s.panic = none)
    {stream : ℕ} {use : StreamPhase F mode → (Receiver F mode → StreamWorld F mode) →
      Option (StreamStep F mode)} (huse : StreamUse s stream use) : SystemInv (s.onStream stream use) := by
  unfold System.onStream
  split
  · exact h
  · rename_i phase hphase
    have hmem : phase ∈ s.streams := List.mem_of_getElem? hphase
    split
    · exact h
    · rename_i step hstep
      exact h.putStream hpanic hphase (huse phase step (h.streams phase hmem) hstep)

/-! ## Steps of the device -/

/-- The device takes a step. -/
theorem SystemInv.putDevice {s : System F mode} (h : SystemInv s) (hpanic : s.panic = none)
    {config : Config mode} {w : DeviceWorld mode} (hstep : DeviceStep (s.deviceWorld config) w)
    (hvalid : ValidReceive w.session.receive) (phase : DevicePhase mode) (hdevice : DeviceInv w.session w.wire w.panic phase)
    (events : List (CallEvent F mode)) : SystemInv (s.putDevice w phase events) := by
  have hclaim : w.session.state.claim = .held ↔ s.session.state.claim = .held := hstep.claim
  refine ⟨hvalid, hdevice, ?_, ?_, ?_, ?_, ?_, ?_⟩
  · intro stream hstream
    by_cases hlive : stream.live = true
    · obtain ⟨hheld, hopen⟩ := h.held_of_live hstream hlive
      obtain ⟨hstate, hwire⟩ := hstep.opened ((hstep.held hheld).trans hopen)
      exact (h.streams stream hstream).rely (fun _ => hvalid) hstate hwire
    · exact phaseInv_of_not_live hlive
  · intro hheld
    have hheld' := hclaim.mp hheld
    exact (hstep.held hheld').trans (h.held hheld')
  · show s.streams.countP StreamPhase.live = if w.session.state.claim = .held then 1 else 0
    rw [h.live]
    exact if_congr hclaim.symm rfl rfl
  · intro hended hopen havailable
    obtain ⟨hstate, hwire⟩ := hstep.opened hopen
    have hstate' : w.session.state = s.session.state := hstate
    have hopen' : w.session.state.device = .opened := hopen
    have havailable' : w.session.state.claim = .available := havailable
    rw [hstate'] at hopen' havailable'
    exact (h.off hended hopen' havailable').extend hwire
  · intro hclosed
    rcases hstep.shutDown hclosed with hbefore | hshut
    · have hwire : w.wire = s.wire := (hstep.closed hbefore).2
      show ShutDown w.wire
      rw [hwire]
      exact h.closed hbefore
    · exact hshut
  · show w.panic.isSome = true → _
    rw [show w.panic = s.panic from hstep.panic, hpanic]
    exact (nomatch ·)

/-- A method of the device is called: nothing is polled yet. -/
theorem SystemInv.callDevice {s : System F mode} (h : SystemInv s) (hpanic : s.panic = none)
    (operation : DeviceOperation mode) : SystemInv (s.callDevice operation) := by
  unfold System.callDevice
  split
  · rename_i config hdevice
    have hin : InStep config s.session.receive := by
      have := h.device
      rw [hdevice] at this
      exact this
    obtain ⟨built, hbuilt⟩ := call_ok operation (s.deviceWorld config)
    rw [hbuilt]
    refine ⟨h.valid, ⟨hin, fun w hr => call_safe hin h.held hr hbuilt⟩, h.streams, h.held, h.live, h.off,
      h.closed, fun hsome => ?_⟩
    exact nomatch hpanic ▸ hsome
  · exact h

/-- A poll of an operation of the device: what it ends with, or how it goes on. -/
theorem devicePoll_segment {post : DeviceWorld mode → Result Unit → DeviceWorld mode → Prop}
    (hcompose : ∀ a b result c, DeviceGuar a b → post b result c → post a result c)
    {flight : DeviceFlight mode} {w : DeviceWorld mode} (hsafe : DeviceFlightSafe post flight w)
    (replies : List AnyReply) :
    Segment DeviceWorld.port DeviceRely DeviceGuar post w
      (flight.poll DeviceWorld.port replies w) :=
  FlightSafe.poll DeviceRely.refl DeviceGuar.refl (fun _ _ _ => DeviceGuar.trans) hcompose hsafe
    replies

theorem callEnd_compose (operation : DeviceOperation mode) (a b : DeviceWorld mode)
    (result : Result Unit) (c : DeviceWorld mode) (hab : DeviceGuar a b)
    (h : CallEnd operation b result c) : CallEnd operation a result c :=
  ⟨deviceEnd_compose a b result c hab h.1, h.2⟩

/-- **Polling the device.** -/
theorem SystemInv.pollDevice {s : System F mode} (h : SystemInv s) (hpanic : s.panic = none)
    (replies : List AnyReply) : SystemInv (s.pollDevice replies) := by
  unfold System.pollDevice
  have hdevice := h.device
  cases hphase : s.device with
  | opening config flight =>
    rw [hphase] at hdevice
    have hsegment := devicePoll_segment deviceEnd_compose hdevice replies
    dsimp only
    generalize hpoll : flight.poll DeviceWorld.port replies (s.deviceWorld config) = outcome
    have hsegment' : Segment DeviceWorld.port DeviceRely DeviceGuar DeviceEnd
        (s.deviceWorld config) outcome := hpoll ▸ hsegment
    obtain ⟨progress, w⟩ := outcome
    cases progress with
    | finished result =>
      have hvalid := DeviceEnd.valid hsegment' h.valid
      obtain ⟨hstep, hfailed, hsucceeded⟩ := hsegment'
      cases result with
      | ok value => exact h.putDevice hpanic hstep hvalid (.idle w.config) (hsucceeded rfl) _
      | error e => exact h.putDevice hpanic hstep hvalid .dropped trivial _
    | waiting ticket request next =>
      obtain ⟨hguar, hwaits⟩ := hsegment'
      exact h.putDevice hpanic hguar.step (hguar.settings.valid h.valid)
        (.opening w.config (.polled (.waiting ticket request next))) hwaits _
  | operating config operation flight =>
    rw [hphase] at hdevice
    obtain ⟨hin, hsafe⟩ := hdevice
    have hsegment := devicePoll_segment (callEnd_compose operation) hsafe replies
    dsimp only
    generalize hpoll : flight.poll DeviceWorld.port replies (s.deviceWorld config) = outcome
    have hsegment' : Segment DeviceWorld.port DeviceRely DeviceGuar (CallEnd operation)
        (s.deviceWorld config) outcome := hpoll ▸ hsegment
    obtain ⟨progress, w⟩ := outcome
    have hsame : SameSettings (s.deviceWorld config) w → InStep w.config w.session.receive := by
      intro hsame
      rw [hsame.config, hsame.receive]
      exact hin
    cases progress with
    | finished result =>
      have hvalid := hsegment'.1.valid h.valid
      obtain ⟨⟨hstep, hfailed, hsucceeded⟩, hclosed⟩ := hsegment'
      cases result with
      | ok value => exact h.putDevice hpanic hstep hvalid (.idle w.config) (hsucceeded rfl) _
      | error e =>
        exact h.putDevice hpanic hstep hvalid (.idle w.config) (hsame (hfailed e rfl)) _
    | waiting ticket request next =>
      obtain ⟨hguar, hwaits⟩ := hsegment'
      exact h.putDevice hpanic hguar.step (hguar.settings.valid h.valid)
        (.operating w.config operation (.polled (.waiting ticket request next)))
        ⟨hsame hguar.settings, hwaits⟩ _
  | idle config => exact h
  | dropped => exact h

/-- The handle changes hands without a command. -/
theorem SystemInv.setDevice {s : System F mode} (h : SystemInv s) (hpanic : s.panic = none)
    {phase : DevicePhase mode} (hdevice : DeviceInv s.session s.wire s.panic phase) :
    SystemInv { s with device := phase } :=
  ⟨h.valid, hdevice, h.streams, h.held, h.live, h.off, h.closed,
    fun hsome => nomatch hpanic ▸ hsome⟩

theorem SystemInv.cancelDevice {s : System F mode} (h : SystemInv s) (hpanic : s.panic = none) :
    SystemInv s.cancelDevice := by
  unfold System.cancelDevice
  have hdevice := h.device
  cases hphase : s.device with
  | opening config flight => exact h.setDevice hpanic trivial
  | operating config operation flight =>
    rw [hphase] at hdevice
    exact h.setDevice hpanic hdevice.1
  | idle config => exact h
  | dropped => exact h

theorem SystemInv.dropDevice {s : System F mode} (h : SystemInv s) (hpanic : s.panic = none) :
    SystemInv s.dropDevice := by
  unfold System.dropDevice
  split
  · exact h.setDevice hpanic trivial
  · exact h

/-! ## Acquiring a claim -/

/-- `acquire` succeeds on an open device whose claim is available. -/
theorem acquire_cases (session : Session) :
    (session.state.device = .opened ∧ session.state.claim = .available ∧
      RxStreamClaim.acquire session =
        (.ok { receiver := .stopped, cleanupArmed := true }, session.setClaim .held)) ∨
    ¬(session.state.device = .opened ∧ session.state.claim = .available) ∧
      ∃ e, RxStreamClaim.acquire session = (.error e, session) := by
  unfold RxStreamClaim.acquire
  by_cases hopen : session.state.device = .opened
  · by_cases havailable : session.state.claim = .available
    · left
      rw [if_neg (not_not.mpr hopen), if_neg (not_not.mpr havailable)]
      exact ⟨hopen, havailable, rfl⟩
    · right
      rw [if_neg (not_not.mpr hopen), if_pos havailable]
      exact ⟨fun h => havailable h.2, _, rfl⟩
  · right
    rw [if_pos hopen]
    exact ⟨fun h => hopen h.1, _, rfl⟩

theorem SystemInv.rxStream {s : System F mode} (h : SystemInv s) (hpanic : s.panic = none)
    (hended : s.ended = false) : SystemInv s.rxStream := by
  unfold System.rxStream
  split
  · rename_i config hdevice
    rcases acquire_cases s.session with ⟨hopen, havailable, hacquire⟩ | ⟨_, e, hacquire⟩
    · rw [hacquire]
      have hnone : s.streams.countP StreamPhase.live = 0 := by
        rw [h.live, if_neg (by rw [havailable]; exact ClaimAvailability.noConfusion)]
      have hoff := h.off hended hopen havailable
      refine ⟨h.valid, ?_, ?_, fun _ => hopen, ?_, fun _ _ hclaim => (nomatch hclaim),
        fun hclosed => ?_, fun hsome => ?_⟩
      · have := h.device
        rw [hdevice] at this ⊢
        exact this
      · intro phase hphase
        rcases List.mem_append.mp hphase with hold | hnew
        · exact phaseInv_of_not_live (List.countP_eq_zero.mp hnone phase hold)
        · obtain rfl := List.mem_singleton.mp hnew
          refine ⟨⟨h.valid, fun queue hqueue => (nomatch hqueue),
            fun hrunning => (nomatch hrunning), fun _ => hoff,
            fun _ queue _ hqueue => (nomatch hqueue), fun _ => rfl⟩, rfl⟩
      · show (s.streams ++ [StreamPhase.idle (Receiver.new _)]).countP StreamPhase.live = _
        rw [List.countP_append, hnone]
        rfl
      · exact nomatch hopen.symm.trans hclosed
      · exact nomatch hpanic ▸ hsome
    · rw [hacquire]
      exact ⟨h.valid, h.device, h.streams, h.held, h.live, h.off, h.closed, h.panicking⟩
  · exact h

/-! ## Every action -/

/-- An action uses one stream, or it is one of the device and its handle. -/
inductive ActionCases (s : System F mode) : Action mode → Prop
  | stream {action : Action mode} {stream : ℕ} {use : StreamPhase F mode →
      (Receiver F mode → StreamWorld F mode) → Option (StreamStep F mode)}
      (hact : s.act action = s.onStream stream use) (huse : StreamUse s stream use) :
      ActionCases s action
  | callDevice (operation : DeviceOperation mode) : ActionCases s (.callDevice operation)
  | pollDevice (replies : List AnyReply) : ActionCases s (.pollDevice replies)
  | cancelDevice : ActionCases s .cancelDevice
  | dropDevice : ActionCases s .dropDevice
  | rxStream : ActionCases s .rxStream

/-- **Every action.** -/
theorem action_cases (s : System F mode) (action : Action mode) : ActionCases s action := by
  cases action with
  | callDevice operation => exact .callDevice operation
  | pollDevice replies => exact .pollDevice replies
  | cancelDevice => exact .cancelDevice
  | dropDevice => exact .dropDevice
  | rxStream => exact .rxStream
  | callStream stream call =>
    exact .stream rfl fun _ _ hinv =>
      onIdle_steps hinv fun _ hinv harmed => callStream_outcome hinv harmed stream call
  | pollStream stream replies arrivals =>
    exact .stream rfl fun _ _ hinv => poll_steps hinv stream replies arrivals
  | cancelStream stream => exact .stream rfl fun _ _ hinv => cancel_steps hinv stream
  | dropStream stream =>
    exact .stream rfl fun _ _ hinv =>
      onIdle_steps hinv fun _ hinv harmed => dropReceiver_outcome hinv harmed stream
  | nextBlock stream =>
    exact .stream rfl fun _ _ hinv =>
      onIdle_steps hinv fun _ hinv harmed => nextBlock_outcome hinv harmed stream
  | read stream room =>
    exact .stream rfl fun _ _ hinv =>
      onIdle_steps hinv fun _ hinv harmed => read_outcome hinv harmed stream room
  | pollRead stream room arrivals =>
    exact .stream rfl fun _ _ hinv =>
      onIdle_steps hinv fun _ hinv harmed => pollRead_outcome hinv harmed stream room arrivals
  | readBlocking stream room arrivals =>
    exact .stream rfl fun _ _ hinv =>
      onIdle_steps hinv fun _ hinv harmed => readBlocking_outcome hinv harmed stream room arrivals

/-- Every action keeps the invariant. -/
theorem SystemInv.act {s : System F mode} (h : SystemInv s) (hpanic : s.panic = none)
    (hended : s.ended = false) (action : Action mode) : SystemInv (s.act action) := by
  cases action_cases s action with
  | stream hact huse => exact hact ▸ h.onStream hpanic huse
  | callDevice operation => exact h.callDevice hpanic operation
  | pollDevice replies => exact h.pollDevice hpanic replies
  | cancelDevice => exact h.cancelDevice hpanic
  | dropDevice => exact h.dropDevice hpanic
  | rxStream => exact h.rxStream hpanic hended

/-! ## The end of a session -/

/-- The last two transfers issued are the ones that switch the receiver and bias power off. -/
def EndsOff (wire : Wire) : Prop :=
  ∃ before, wire.issued = before ++ [Transfer.receiverMode .off, Transfer.rfBias false]

theorem ShutDown.endsOff {wire : Wire} (h : ShutDown wire) : EndsOff wire := by
  obtain ⟨before, hissued, _⟩ := h
  exact ⟨before, hissued⟩

/-- A shutdown that is waited for issues both commands, whatever becomes of them. -/
theorem shutdownHardware_issued (reply : ℕ → AnyReply) (wire : Wire) :
    EndsOff ((@shutdownHardware Wire).denote.run Wire.port reply wire).2 := by
  refine ⟨wire.issued, ?_⟩
  simp only [shutdownHardware, controlOut, MaybeFuture.denote_andThen, MaybeFuture.denote_map,
    MaybeFuture.denote_mapErr, MaybeFuture.denote_leaf, Resumption.bind_submit,
    Resumption.bind_act, Resumption.bind_done, Resumption.run, Wire.port_settle_issued,
    Wire.port_issue_issued, List.append_assoc]
  rfl

omit [SampleArithmetic F] in
theorem owned_false_iff {s : System F mode} :
    s.owned = false ↔ s.device = .dropped ∧ ∀ phase ∈ s.streams, phase.live ≠ true := by
  unfold System.owned
  rw [Bool.or_eq_false_iff, List.any_eq_false]
  refine and_congr ?_ Iff.rfl
  cases s.device with
  | dropped => exact ⟨fun _ => rfl, fun _ => rfl⟩
  | _ => exact ⟨(nomatch ·), (nomatch ·)⟩

omit [SampleArithmetic F] in
theorem dropSession_extends (reply : ℕ → AnyReply) (s : System F mode) :
    Extends s.wire (s.dropSession reply).wire := by
  unfold System.dropSession
  split
  · exact .refl _
  · simp only [shutdownHardware, controlOut, MaybeFuture.denote_andThen, MaybeFuture.denote_map,
      MaybeFuture.denote_mapErr, MaybeFuture.denote_leaf, Resumption.bind_submit,
      Resumption.bind_act, Resumption.bind_done, Resumption.run]
    exact ((extends_issue _ _).trans (extends_settle _ _ _ _)).trans
      ((extends_issue _ _).trans (extends_settle _ _ _ _))

/-- The last owner is gone, and so is the session. -/
theorem SystemInv.dropSession {s : System F mode} (h : SystemInv s) (howned : s.owned = false)
    (reply : ℕ → AnyReply) :
    SystemInv (s.dropSession reply) ∧ EndsOff (s.dropSession reply).wire ∧
      (s.dropSession reply).ended = true := by
  obtain ⟨hdevice, hstreams⟩ := owned_false_iff.mp howned
  have hpanic : s.panic.isSome ≠ true := fun hsome => by
    rw [h.panicking hsome] at howned
    exact nomatch howned
  unfold System.dropSession
  split
  · rename_i hclosed
    exact ⟨⟨h.valid, h.device, h.streams, h.held, h.live, (nomatch ·), h.closed, h.panicking⟩,
      (h.closed hclosed).endsOff, rfl⟩
  · rename_i hnot
    refine ⟨⟨h.valid, ?_, fun phase hphase => phaseInv_of_not_live (hstreams phase hphase), h.held, h.live,
      (nomatch ·), fun hclosed => absurd hclosed hnot, fun hsome => absurd hsome hpanic⟩,
      shutdownHardware_issued reply s.wire, rfl⟩
    show DeviceInv _ _ _ s.device
    rw [hdevice]
    trivial

/-! ## Runs -/

theorem systemInv_initial (config : ValidConfig mode) :
    SystemInv (System.initial config : System F mode) := by
  refine ⟨?_, fun w hr => ?_, fun _ h => absurd h List.not_mem_nil, (nomatch ·), rfl,
    fun _ _ _ => .inl quiet_nil, (nomatch ·), (nomatch ·)⟩
  · show 1 ∈ decimationFactors
    decide
  have hconfig : w.config = config.1 := hr.settings.config
  rw [← hconfig]
  refine initializeSession_safe ?_ hr.lifecycle hr.info
  rw [hconfig]
  exact config.2

/-- What holds in a reachable state: the invariant, and the hardware is off when nothing owns the
session. -/
structure RunInv (s : System F mode) : Prop where
  system : SystemInv s
  endsOff : s.owned = false → EndsOff s.wire
  ended : s.ended = true ↔ s.owned = false

/-- An action leaves `ended` alone. -/
theorem act_ended (s : System F mode) (action : Action mode) : (s.act action).ended = s.ended := by
  cases action_cases s action with
  | stream hact _ =>
    rw [hact]
    unfold System.onStream
    split
    · rfl
    · split <;> rfl
  | callDevice operation =>
    show (s.callDevice operation).ended = s.ended
    unfold System.callDevice
    split
    · split <;> rfl
    · rfl
  | pollDevice replies =>
    show (s.pollDevice replies).ended = s.ended
    unfold System.pollDevice
    split
    · split <;> rfl
    · split <;> rfl
    · rfl
  | cancelDevice =>
    show s.cancelDevice.ended = s.ended
    unfold System.cancelDevice
    split <;> rfl
  | dropDevice =>
    show s.dropDevice.ended = s.ended
    unfold System.dropDevice
    split <;> rfl
  | rxStream =>
    show s.rxStream.ended = s.ended
    unfold System.rxStream
    split
    · split <;> rfl
    · rfl

/-- **Every step of a run keeps it.** -/
theorem RunInv.step {s : System F mode} (h : RunInv s) (action : Action mode)
    (reply : ℕ → AnyReply) : RunInv (s.step action reply) := by
  unfold System.step
  split
  · exact h
  · rename_i hgoes
    rw [Bool.or_eq_true, not_or, Bool.not_eq_true, Bool.not_eq_true] at hgoes
    obtain ⟨hpanic, hended⟩ := hgoes
    have hact := h.system.act (Option.isNone_iff_eq_none.mp (by simpa using hpanic)) hended action
    have hended' : (s.act action).ended = false := (act_ended s action).trans hended
    dsimp only
    split
    · rename_i hstays
      have howned : (s.act action).owned = true := by
        rcases Bool.or_eq_true_iff.mp hstays with howned | hpanicked
        · exact howned
        · exact hact.panicking hpanicked
      refine ⟨hact, fun hnot => ?_, ?_⟩
      · exact nomatch howned.symm.trans hnot
      · rw [hended', howned]
        exact ⟨(nomatch ·), (nomatch ·)⟩
    · rename_i hgone
      rw [Bool.or_eq_true, not_or, Bool.not_eq_true] at hgone
      obtain ⟨hinv, hoff, hend⟩ := hact.dropSession hgone.1 reply
      refine ⟨hinv, fun _ => hoff, ?_⟩
      have howned : ((s.act action).dropSession reply).owned = (s.act action).owned := by
        unfold System.dropSession
        split <;> rfl
      rw [hend, howned, hgone.1]
      exact ⟨fun _ => rfl, fun _ => rfl⟩

/-- **What holds in every reachable state.** -/
theorem reachable_inv {config : ValidConfig mode} {s : System F mode}
    (h : System.Reachable config s) : RunInv s := by
  induction h with
  | initial =>
    refine ⟨systemInv_initial config, (nomatch ·), ?_⟩
    exact ⟨(nomatch ·), (nomatch ·)⟩
  | step action reply _ ih => exact ih.step action reply

end HydraSdr.Analysis
