import HydraSdr.Analysis.OperationFeeds
import HydraSdr.Program.Opening

/-!
# Opening a device

What `DeviceBuilder::open` asks of the host, in every run of it: the configuration is validated
first, then a device is listed, opened, configured and claimed, in this order and each at most
once, and only then are there transfers, which are those of `Session::initialize`.  From there on
the runs of `System` take over: they start in the state in which a claimed device is left here.
-/

set_option autoImplicit false

namespace HydraSdr.Analysis.OpeningProtocol

open HydraSdr.Program HydraSdr.Computation HydraSdr.Analysis Resumption

variable {mode : SampleFormat}

/-- The replies of a host. -/
abbrev UsbSupply := Supply UsbRequest UsbRequest.Reply

/-! ## Session operations on a transport -/

/-- An operation with a leaf for each of its requests stands for the embedded resumption. -/
theorem denote_embed {ℓ ℓ' : Type} {Reply : ℓ → Type} {Reply' : ℓ' → Type} {ε σ τ α : Type}
    (inclusion : Inclusion ℓ Reply σ ℓ' Reply' τ)
    {leaf : (request : ℓ) → MaybeFuture ℓ' Reply' ε τ (Reply request)}
    (hleaf : ∀ request, (leaf request).denote =
      .submit (inclusion.request request) fun reply => .done (inclusion.reply request reply))
    (operation : MaybeFuture ℓ Reply ε σ α) :
    (operation.embed leaf inclusion.get inclusion.put).denote =
      operation.denote.embed inclusion := by
  induction operation with
  | ready value => rfl
  | leaf request => exact hleaf request
  | mapping source effect value ih =>
    simp only [MaybeFuture.embed, MaybeFuture.denote, ih, Resumption.embed_bind]
    rfl
  | chained wrapped effect next ihw ihn =>
    simp only [MaybeFuture.embed, MaybeFuture.denote, ihw, Resumption.embed_bind]
    congr 1
    funext result
    cases result with
    | ok a => simp only [Resumption.embed, ihn]
    | error e => rfl
  | continued wrapped effect next ihw ihn =>
    simp only [MaybeFuture.embed, MaybeFuture.denote, ihw, ihn, Resumption.embed_bind]
    rfl
  | left operation ih => exact ih
  | right operation ih => exact ih
  | sequence commands execute ih =>
    simp only [MaybeFuture.embed, MaybeFuture.denote, ih]
    clear ih
    induction commands with
    | nil => rfl
    | cons command commands ihc =>
      simp only [Resumption.tryEach, Resumption.embed_bind, ihc]
      congr 1
      funext result
      cases result <;> rfl

theorem onInterface_lawful (interface : UsbInterface) :
    (onInterface interface : Inclusion _ _ (DeviceWorld mode) _ _ _).Lawful DeviceWorld.port
      OpeningWorld.port where
  get_put _ _ := rfl
  put_get _ := rfl
  put_put _ _ _ := rfl
  ticket _ := rfl
  issue _ _ := rfl
  settle _ _ _ _ := rfl

/-- The replies to the transfers on an interface. -/
def transferReplies (mode : SampleFormat) (interface : UsbInterface) (replies : UsbSupply) :
    Supply Transfer Transfer.Reply :=
  replies.map (onInterface interface : Inclusion _ _ (DeviceWorld mode) _ _ _).restrict

/-- A session operation on a transport does what it does on its session. -/
theorem feed_onTransport {α : Type} (control : NusbTransport)
    (operation : Operation (DeviceWorld mode) α) (replies : UsbSupply) (w : OpeningWorld mode) :
    (feedOperation OpeningWorld.port (onTransport control operation) replies w).1.map Prod.fst =
        (feedOperation DeviceWorld.port operation
          (transferReplies mode control.interface replies) w.device).1.map Prod.fst ∧
      (feedOperation OpeningWorld.port (onTransport control operation) replies w).2 =
        { w with device := (feedOperation DeviceWorld.port operation
          (transferReplies mode control.interface replies) w.device).2 } := by
  have hdenote : (onTransport control operation).denote =
      operation.denote.embed (onInterface control.interface) :=
    denote_embed (onInterface control.interface) (fun _ => rfl) operation
  have hembed := feed_embed (onInterface_lawful control.interface) operation.denote
    replies w
  rw [← hdenote] at hembed
  exact hembed

/-! ## The transport -/

/-- What is asked for to open a device. -/
def steps (info : UsbDeviceInfo) (device : UsbDevice) : List UsbRequest :=
  [.listDevices, .openDevice info, .setConfiguration device 1, .detachAndClaimInterface device 0]

/-- The replies by which a device is claimed, and those that are left for its transfers. -/
inductive Claims (serial : Option UInt64) : UsbSupply → UsbDeviceInfo → NusbTransport → UsbSupply → Prop
  | claims {listing opening selecting claiming : (request : UsbRequest) → request.Reply}
      {rest : UsbSupply} {devices : List UsbDeviceInfo} {info : UsbDeviceInfo} {device : UsbDevice}
      {interface : UsbInterface} (hlisted : listing .listDevices = .ok devices)
      (hselected : selected serial devices = .ok info)
      (hopened : opening (.openDevice info) = .ok device)
      (hconfigured : selecting (.setConfiguration device 1) = .ok () ∨
        selecting (.setConfiguration device 1) = .error .unsupported)
      (hclaimed : claiming (.detachAndClaimInterface device 0) = .ok interface) :
      Claims serial (listing :: opening :: selecting :: claiming :: rest) info ⟨device, interface⟩ rest

/-- What may have been asked for, with these replies. -/
inductive Due (serial : Option UInt64) : UsbSupply → List UsbRequest → Prop
  | lists {replies : UsbSupply} : Due serial replies [.listDevices]
  | opens {listing : (request : UsbRequest) → request.Reply} {rest : UsbSupply}
      {devices : List UsbDeviceInfo} {info : UsbDeviceInfo}
      (hlisted : listing .listDevices = .ok devices) (hselected : selected serial devices = .ok info) :
      Due serial (listing :: rest) [.listDevices, .openDevice info]
  | configures {listing opening : (request : UsbRequest) → request.Reply} {rest : UsbSupply}
      {info : UsbDeviceInfo} {device : UsbDevice}
      (h : Due serial (listing :: opening :: rest) [.listDevices, .openDevice info])
      (hopened : opening (.openDevice info) = .ok device) :
      Due serial (listing :: opening :: rest)
        [.listDevices, .openDevice info, .setConfiguration device 1]
  | claims {listing opening selecting : (request : UsbRequest) → request.Reply} {rest : UsbSupply}
      {info : UsbDeviceInfo} {device : UsbDevice}
      (h : Due serial (listing :: opening :: selecting :: rest)
        [.listDevices, .openDevice info, .setConfiguration device 1])
      (hconfigured : selecting (.setConfiguration device 1) = .ok () ∨
        selecting (.setConfiguration device 1) = .error .unsupported) :
      Due serial (listing :: opening :: selecting :: rest) (steps info device)

/-- More has been asked for. -/
def ask (asked : List UsbRequest) (w : OpeningWorld mode) : OpeningWorld mode :=
  { w with asked := w.asked ++ asked }

/-- An opening that has not come to a claim: it is waiting, or it has failed. -/
structure Unclaimed (serial : Option UInt64) (replies : UsbSupply) (w : OpeningWorld mode)
    (outcome : Option (Result NusbTransport × UsbSupply) × OpeningWorld mode) : Prop where
  refused : ∀ info control rest, ¬Claims serial replies info control rest
  asks : ∃ asked, Due serial replies asked ∧ outcome.2 = ask asked w
  fails : ∀ control rest, outcome.1 ≠ some (.ok control, rest)

/-- What an opening may lead to: the device is claimed, or nothing but what was due has been asked
for. -/
def Outcome (serial : Option UInt64) (replies : UsbSupply) (w : OpeningWorld mode)
    (outcome : Option (Result NusbTransport × UsbSupply) × OpeningWorld mode) : Prop :=
  (∃ info control rest, Claims serial replies info control rest ∧
    outcome = (some (.ok control, rest), ask (steps info control.device) w)) ∨
  Unclaimed serial replies w outcome

theorem ask_ask (first second : List UsbRequest) (w : OpeningWorld mode) :
    ask second (ask first w) = ask (first ++ second) w := by
  simp [ask]

/-- One request and what becomes of its reply. -/
theorem feed_asking {α : Type} {request : UsbRequest} {f : request.Reply → Result α}
    {w : OpeningWorld mode} (hissue : OpeningWorld.port.issue request w = ask [request] w)
    (hsettle : ∀ ticket reply (w : OpeningWorld mode),
      OpeningWorld.port.settle ticket request reply w = w) (replies : UsbSupply) :
    feedOperation OpeningWorld.port
        ((MaybeFuture.leaf request : UsbOperation _ request.Reply).map fun reply s => (s, f reply))
        replies w =
      (replies.head?.map fun reply => (f (reply request), replies.tail), ask [request] w) := by
  rw [feed_map]
  cases replies with
  | nil => rw [feed_leaf_nil, onFed_none, hissue]; rfl
  | cons reply rest => rw [feed_leaf_cons, onFed_some, hsettle, hissue]; rfl

theorem feed_select (serial : Option UInt64) (replies : UsbSupply) (w : OpeningWorld mode) :
    feedOperation OpeningWorld.port (selectNusbDevice serial) replies w =
      (replies.head?.map fun reply =>
        ((fromNusb (reply .listDevices)).bind (selected serial), replies.tail),
        ask [.listDevices] w) :=
  feed_asking rfl (fun _ _ _ => rfl) replies

theorem feed_openInfo (info : UsbDeviceInfo) (replies : UsbSupply) (w : OpeningWorld mode) :
    feedOperation OpeningWorld.port (openInfo info) replies w =
      (replies.head?.map fun reply => ((fromNusb (reply (.openDevice info))).mapError
        (Error.atOperation "opening USB device"), replies.tail), ask [.openDevice info] w) :=
  feed_asking rfl (fun _ _ _ => rfl) replies

theorem feed_selectConfiguration (device : UsbDevice) (replies : UsbSupply)
    (w : OpeningWorld mode) :
    feedOperation OpeningWorld.port (selectConfiguration device) replies w =
      (replies.head?.map fun reply =>
        ((configurationSelected (reply (.setConfiguration device 1))).map fun _ => device,
          replies.tail), ask [.setConfiguration device 1] w) :=
  feed_asking rfl (fun _ _ _ => rfl) replies

theorem feed_claimInterface (device : UsbDevice) (replies : UsbSupply) (w : OpeningWorld mode) :
    feedOperation OpeningWorld.port (claimInterface device) replies w =
      (replies.head?.map fun reply =>
        (((fromNusb (reply (.detachAndClaimInterface device 0))).mapError
          (Error.atOperation "claiming HydraSDR USB interface 0")).map fun interface =>
            (⟨device, interface⟩ : NusbTransport), replies.tail),
        ask [.detachAndClaimInterface device 0] w) := by
  unfold claimInterface
  rw [feed_mapOk, feed_asking rfl fun _ _ _ => rfl]
  cases replies <;> rfl

theorem configurationSelected_ok {result : Except UsbErrorKind Unit} :
    configurationSelected result = .ok () ↔ result = .ok () ∨ result = .error .unsupported := by
  cases result with
  | ok value => simp [configurationSelected]
  | error kind => cases kind <;> simp [configurationSelected]

/-! ## The stages, from the last one -/

section Stages

variable {serial : Option UInt64} {w : OpeningWorld mode}
  {listing opening selecting : (request : UsbRequest) → request.Reply} {rest : UsbSupply}
  {devices : List UsbDeviceInfo} {info : UsbDeviceInfo} {device : UsbDevice}

theorem claim_stage (hlisted : listing .listDevices = .ok devices)
    (hselected : selected serial devices = .ok info)
    (hopened : opening (.openDevice info) = .ok device)
    (hconfigured : selecting (.setConfiguration device 1) = .ok () ∨
      selecting (.setConfiguration device 1) = .error .unsupported) :
    Outcome serial (listing :: opening :: selecting :: rest) w
      (feedOperation OpeningWorld.port (claimInterface device) rest
        (ask [.listDevices, .openDevice info, .setConfiguration device 1] w)) := by
  have hdue : Due serial (listing :: opening :: selecting :: rest) (steps info device) :=
    .claims (.configures (.opens hlisted hselected) hopened) hconfigured
  rw [feed_claimInterface, ask_ask]
  cases rest with
  | nil => exact .inr ⟨fun _ _ _ h => (nomatch h), ⟨_, hdue, rfl⟩, fun _ _ h => nomatch h⟩
  | cons claiming rest =>
    cases hclaimed : claiming (.detachAndClaimInterface device 0) with
    | ok interface =>
      refine .inl ⟨info, ⟨device, interface⟩, rest,
        .claims hlisted hselected hopened hconfigured hclaimed, ?_⟩
      simp only [List.head?_cons, Option.map_some, hclaimed]
      rfl
    | error kind =>
      refine .inr ⟨?_, ⟨_, hdue, rfl⟩, ?_⟩
      · rintro _ _ _ ⟨hlisted', hselected', hopened', _, hclaimed'⟩
        cases hlisted.symm.trans hlisted'
        cases hselected.symm.trans hselected'
        cases hopened.symm.trans hopened'
        exact nomatch hclaimed.symm.trans hclaimed'
      · simp only [List.head?_cons, Option.map_some, hclaimed]
        exact fun _ _ h => nomatch h

theorem configure_stage (hlisted : listing .listDevices = .ok devices)
    (hselected : selected serial devices = .ok info)
    (hopened : opening (.openDevice info) = .ok device) :
    Outcome serial (listing :: opening :: rest) w
      (tryFed (feedOperation OpeningWorld.port (selectConfiguration device) rest
        (ask [.listDevices, .openDevice info] w)) fun device =>
          feedOperation OpeningWorld.port (claimInterface device)) := by
  have hdue : Due serial (listing :: opening :: rest)
      [.listDevices, .openDevice info, .setConfiguration device 1] :=
    .configures (.opens hlisted hselected) hopened
  rw [feed_selectConfiguration, ask_ask]
  cases rest with
  | nil => exact .inr ⟨fun _ _ _ h => (nomatch h), ⟨_, hdue, rfl⟩, fun _ _ h => nomatch h⟩
  | cons selecting rest =>
    simp only [List.head?_cons, Option.map_some, List.tail_cons]
    cases hconfigured : configurationSelected (selecting (.setConfiguration device 1)) with
    | ok value =>
      exact claim_stage hlisted hselected hopened (configurationSelected_ok.mp hconfigured)
    | error e =>
      refine .inr ⟨?_, ⟨_, hdue, rfl⟩, fun _ _ h => nomatch h⟩
      rintro _ _ _ ⟨hlisted', hselected', hopened', hconfigured', _⟩
      cases hlisted.symm.trans hlisted'
      cases hselected.symm.trans hselected'
      cases hopened.symm.trans hopened'
      exact nomatch hconfigured.symm.trans (configurationSelected_ok.mpr hconfigured')

theorem open_stage (hlisted : listing .listDevices = .ok devices)
    (hselected : selected serial devices = .ok info) :
    Outcome serial (listing :: rest) w
      (tryFed (feedOperation OpeningWorld.port (openInfo info) rest (ask [.listDevices] w))
        fun device rest w => tryFed (feedOperation OpeningWorld.port (selectConfiguration device)
          rest w) fun device => feedOperation OpeningWorld.port (claimInterface device)) := by
  have hdue : Due serial (listing :: rest) [.listDevices, .openDevice info] :=
    .opens hlisted hselected
  rw [feed_openInfo, ask_ask]
  cases rest with
  | nil => exact .inr ⟨fun _ _ _ h => (nomatch h), ⟨_, hdue, rfl⟩, fun _ _ h => nomatch h⟩
  | cons opening rest =>
    simp only [List.head?_cons, Option.map_some, List.tail_cons]
    cases hopened : opening (.openDevice info) with
    | ok device => exact configure_stage hlisted hselected hopened
    | error kind =>
      refine .inr ⟨?_, ⟨_, hdue, rfl⟩, fun _ _ h => nomatch h⟩
      rintro _ _ _ ⟨hlisted', hselected', hopened', _⟩
      cases hlisted.symm.trans hlisted'
      cases hselected.symm.trans hselected'
      exact nomatch hopened.symm.trans hopened'

end Stages

/-- **The opening of a transport.** -/
theorem openTransport_outcome (serial : Option UInt64) (replies : UsbSupply) (w : OpeningWorld mode) :
    Outcome serial replies w
      (feedOperation OpeningWorld.port (openTransport serial) replies w) := by
  unfold openTransport
  simp only [feed_andThen, tryFed_assoc, feed_select]
  cases replies with
  | nil => exact .inr ⟨fun _ _ _ h => (nomatch h), ⟨_, .lists, rfl⟩, fun _ _ h => nomatch h⟩
  | cons listing rest =>
    simp only [List.head?_cons, Option.map_some, List.tail_cons]
    cases hlisted : listing .listDevices with
    | error kind =>
      refine .inr ⟨?_, ⟨_, .lists, rfl⟩, fun _ _ h => nomatch h⟩
      rintro _ _ _ ⟨hlisted', _⟩
      exact nomatch hlisted.symm.trans hlisted'
    | ok devices =>
      have hfound : (fromNusb (.ok devices : Except UsbErrorKind _)).bind (selected serial) =
          selected serial devices := rfl
      rw [hfound]
      cases hselected : selected serial devices with
      | ok info => exact open_stage hlisted hselected
      | error e =>
        refine .inr ⟨?_, ⟨_, .lists, rfl⟩, fun _ _ h => nomatch h⟩
        rintro _ _ _ ⟨hlisted', hselected', _⟩
        cases hlisted.symm.trans hlisted'
        exact nomatch hselected.symm.trans hselected'

/-! ## The builder -/

theorem Claims.unique {serial : Option UInt64} {replies rest rest' : UsbSupply}
    {info info' : UsbDeviceInfo} {control control' : NusbTransport}
    (h : Claims serial replies info control rest) (h' : Claims serial replies info' control' rest') :
    info = info' ∧ control = control' ∧ rest = rest' := by
  cases h with
  | claims hlisted hselected hopened hconfigured hclaimed =>
    cases h' with
    | claims hlisted' hselected' hopened' hconfigured' hclaimed' =>
      cases hlisted.symm.trans hlisted'
      cases hselected.symm.trans hselected'
      cases hopened.symm.trans hopened'
      cases hclaimed.symm.trans hclaimed'
      exact ⟨rfl, rfl, rfl⟩

/-- What `Session::initialize` leads to with the replies that are left after the claim. -/
def initialized (config : Config mode) (control : NusbTransport) (rest : UsbSupply) :
    Option (Result Unit) × DeviceWorld mode :=
  let fed := feedOperation DeviceWorld.port (Session.initializeSession config)
    (transferReplies mode control.interface rest) (DeviceBuilder.newWorld config)
  (fed.1.map Prod.fst, fed.2)

theorem act_pollDevice {F : Type} [SampleArithmetic F] (s : System F mode)
    (replies : List AnyReply) : s.act (.pollDevice replies) = s.pollDevice replies := by
  cases mode <;> rfl

/-- A session that has been initialized is one in which runs of the driver go on. -/
theorem reachable_initialized {F : Type} [SampleArithmetic F] {config : ValidConfig mode}
    {control : NusbTransport} {rest : UsbSupply} {w : DeviceWorld mode}
    (h : initialized config.1 control rest = (some (.ok ()), w)) :
    ∃ s : System F mode, System.Reachable config s ∧ s.session = w.session ∧ s.wire = w.wire ∧
      s.device = .idle w.config ∧ s.history = [.opened (.ok ())] := by
  have hworld : (System.initial config : System F mode).deviceWorld config.1 =
      DeviceBuilder.newWorld config.1 := rfl
  obtain ⟨left, hfed⟩ : ∃ left, feedOperation DeviceWorld.port (Session.initializeSession config.1)
      (transferReplies mode control.interface rest) (DeviceBuilder.newWorld config.1) =
        (some (.ok (), left), w) := by
    unfold initialized at h
    generalize feedOperation DeviceWorld.port _ _ _ = fed at h ⊢
    obtain ⟨outcome, w'⟩ := fed
    obtain ⟨hresult, rfl⟩ := Prod.mk.inj h
    obtain ⟨⟨result, left⟩, rfl, rfl⟩ := Option.map_eq_some_iff.mp hresult
    exact ⟨left, rfl⟩
  have hpolled := Flight.poll_of_feed hfed
  rw [← hworld] at hpolled
  have hact : (System.initial config : System F mode).act
      (.pollDevice (transferReplies mode control.interface rest)) =
        (System.initial config).putDevice w (.idle w.config) [.opened (.ok ())] := by
    rw [act_pollDevice]
    unfold System.pollDevice
    rw [show (System.initial config : System F mode).device = .opening config.1 (.unpolled
      (Session.initializeSession config.1).denote) from rfl]
    dsimp only
    rw [hpolled]
  have hgoes : ¬((System.initial config : System F mode).panic.isSome ||
      (System.initial config : System F mode).ended) = true := Bool.false_ne_true
  have hstep : (System.initial config : System F mode).step
      (.pollDevice (transferReplies mode control.interface rest)) (fun _ => obliging) =
        (System.initial config).putDevice w (.idle w.config) [.opened (.ok ())] := by
    unfold System.step
    rw [if_neg hgoes]
    dsimp only
    rw [hact]
    exact if_pos rfl
  refine ⟨_, .step (.pollDevice (transferReplies mode control.interface rest))
    (fun _ => obliging) .initial, ?_⟩
  rw [hstep]
  exact ⟨rfl, rfl, rfl, rfl⟩

/-- **The opening protocol.**  Whatever the builder is, whatever the host answers, and wherever the
opening is dropped: an invalid configuration is refused before anything is asked for.  Otherwise
either the first listed device that was asked for has been opened, left in or put into configuration
1 and claimed, and what follows is `Session::initialize` on the transport of that claim, whose
success leaves the idle device of a reachable state behind; or the device has not been claimed, and
then what has been asked for was due at these replies, no transfer has been made, and there is no
device. -/
theorem opening_protocol {F : Type} [SampleArithmetic F] (builder : DeviceBuilder mode)
    (replies : UsbSupply) (device : DeviceWorld mode) :
    let outcome := feedOperation OpeningWorld.port builder.openDevice replies ⟨[], device⟩
    (∀ e, builder.config.build = .error e → outcome = (some (.error e, replies), ⟨[], device⟩)) ∧
    ∀ config, builder.config.build = .ok config →
      (∀ info control rest, Claims builder.selector.wanted replies info control rest →
        (outcome.1.map Prod.fst, outcome.2.device) = initialized config.1 control rest ∧
        outcome.2.asked = steps info control.device ∧
        (outcome.1.map Prod.fst = some (.ok ()) → ∃ s : System F mode, System.Reachable config s ∧
          s.session = outcome.2.device.session ∧ s.wire = outcome.2.device.wire ∧
          s.device = .idle outcome.2.device.config ∧ s.history = [.opened (.ok ())])) ∧
      ((∀ info control rest, ¬Claims builder.selector.wanted replies info control rest) →
        outcome.2.device = device ∧ Due builder.selector.wanted replies outcome.2.asked ∧
        outcome.1.map Prod.fst ≠ some (.ok ())) := by
  unfold DeviceBuilder.openDevice
  simp only [feed_andThen, feed_ready]
  cases builder.config.build with
  | error e => exact ⟨fun _ h => by cases h; rfl, fun _ h => (nomatch h)⟩
  | ok config =>
    refine ⟨fun _ h => (nomatch h), ?_⟩
    rintro _ ⟨⟩
    simp only [tryFed_ok]
    have houtcome := openTransport_outcome builder.selector.wanted replies ⟨[], device⟩
    generalize feedOperation OpeningWorld.port (openTransport _) _ _ = opened at houtcome ⊢
    rcases houtcome with ⟨info, control, rest, hclaims, rfl⟩ | ⟨hrefused, ⟨asked, hdue, hasked⟩, hfails⟩
    · refine ⟨?_, fun hrefused => absurd hclaims (hrefused _ _ _)⟩
      intro info' control' rest' hclaims'
      obtain ⟨rfl, rfl, rfl⟩ := hclaims.unique hclaims'
      obtain ⟨hresult, hworld⟩ := feed_onTransport control (Session.initializeSession config.1) rest
        { ask (steps info control.device) ⟨[], device⟩ with device := DeviceBuilder.newWorld config.1 }
      rw [tryFed_ok, hworld]
      refine ⟨Prod.ext hresult rfl, rfl, fun hok => ?_⟩
      exact reachable_initialized (Prod.ext (hresult.symm.trans hok) rfl)
    · refine ⟨fun _ _ _ h => absurd h (hrefused _ _ _), fun _ => ?_⟩
      obtain ⟨fed, w⟩ := opened
      obtain rfl : w = ask asked ⟨[], device⟩ := hasked
      cases fed with
      | none => exact ⟨rfl, hdue, fun h => nomatch h⟩
      | some value =>
        obtain ⟨result, rest⟩ := value
        cases result with
        | ok control => exact absurd rfl (hfails control rest)
        | error e => exact ⟨rfl, hdue, fun h => nomatch h⟩

end HydraSdr.Analysis.OpeningProtocol
