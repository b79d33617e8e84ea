import HydraSdr.Analysis.DeviceCalls
import HydraSdr.Analysis.OperationFeeds

/-!
# Initializing a session

The transfers of `Session::initialize` for every supply of replies.  They are the three metadata
reads and the commands of the configuration, in this order, up to the first one that the device does
not carry out (or whose metadata is not that of a HydraSDR RFOne), and then the two commands that
switch the device off.  `Leads` is what a part of the initialization does with its steps, and
composes (`Leads.andThen`).
-/

set_option autoImplicit false

namespace HydraSdr.Analysis.InitializationProtocol

open HydraSdr.Program HydraSdr.Computation HydraSdr.Analysis Resumption

variable {mode : SampleFormat} {α β : Type}

/-- The replies of a device. -/
abbrev DeviceSupply := Supply Transfer Transfer.Reply

/-! ## Steps -/

/-- The metadata reads. -/
def metadataSteps : List Transfer :=
  [.controlIn .boardId, .controlIn .firmware, .controlIn .serial]

/-- Whether metadata is that of a HydraSDR RFOne. -/
def recognized (request : VendorRequest) (data : List UInt8) : Bool :=
  match request with
  | .boardIdRead => (BoardId.tryFrom (firstByte data)).isSome
  | .versionStringRead => EXPECTED_FW_PREFIX.isPrefixOf (decodeCString data)
  | .boardPartIdSerialNoRead => (decodeSerial data).isOk
  | _ => true

/-- Whether the initialization goes on with a reply. -/
def accepts : (transfer : Transfer) → transfer.Reply → Bool
  | .controlIn request, .ok data =>
    (request.validate data).isOk && recognized request.request data
  | .controlIn _, .error _ => false
  | .controlOut _, reply => reply.isOk
  | .bulkIn _, reply => reply.isOk
  | .clearHalt, reply => reply.isOk

/-- The number of steps with whose replies the initialization goes on. -/
def acceptedSteps : List Transfer → DeviceSupply → ℕ
  | step :: steps, reply :: replies =>
    if accepts step (reply step) then acceptedSteps steps replies + 1 else 0
  | _, _ => 0

/-- The errors with which a step may end, by its reply. -/
abbrev Refusals := (step : Transfer) → step.Reply → Error → Prop

/-- What a part of the initialization may lead to: it has come to its end, it waits for the reply
to a step, or it has ended with an error at a step whose reply is not accepted. -/
inductive Leads (good : α → Prop) (bad : Refusals) : List Transfer → DeviceSupply →
    Option (Result α × DeviceSupply) → List Transfer → Prop
  | done {a : α} {replies : DeviceSupply} (h : good a) :
      Leads good bad [] replies (some (.ok a, replies)) []
  | waits {step : Transfer} {steps : List Transfer} : Leads good bad (step :: steps) [] none [step]
  | refused {step : Transfer} {steps : List Transfer} {reply : AnyReply} {replies : DeviceSupply}
      {e : Error} (h : accepts step (reply step) = false) (he : bad step (reply step) e) :
      Leads good bad (step :: steps) (reply :: replies) (some (.error e, replies)) [step]
  | accepted {step : Transfer} {steps : List Transfer} {reply : AnyReply} {replies : DeviceSupply}
      {outcome : Option (Result α × DeviceSupply)} {issued : List Transfer}
      (h : accepts step (reply step) = true) (hrest : Leads good bad steps replies outcome issued) :
      Leads good bad (step :: steps) (reply :: replies) outcome (step :: issued)

/-- Steps have been issued, and nothing else has happened but their replies. -/
structure Issued (steps : List Transfer) (w w' : DeviceWorld mode) : Prop where
  issued : w'.wire.issued = w.wire.issued ++ steps
  frame : w' = { w with wire := w'.wire }

theorem Issued.nil (w : DeviceWorld mode) : Issued [] w w := ⟨by simp, rfl⟩

theorem Issued.append {first second : List Transfer} {w w' w'' : DeviceWorld mode}
    (h : Issued first w w') (h' : Issued second w' w'') : Issued (first ++ second) w w'' := by
  refine ⟨by rw [h'.issued, h.issued, List.append_assoc], ?_⟩
  rw [h'.frame, h.frame]

theorem Issued.session {steps : List Transfer} {w w' : DeviceWorld mode} (h : Issued steps w w') :
    w'.session = w.session := by
  rw [h.frame]

/-- A step that waits. -/
theorem Issued.issue (step : Transfer) (w : DeviceWorld mode) :
    Issued [step] w (DeviceWorld.port.issue step w) := ⟨rfl, rfl⟩

/-- A step with its reply. -/
theorem Issued.exchange (step : Transfer) (reply : step.Reply) (ticket : ℕ) (w : DeviceWorld mode) :
    Issued [step] w (DeviceWorld.port.settle ticket step reply (DeviceWorld.port.issue step w)) :=
  ⟨Wire.settle_issued ticket step reply _, rfl⟩

/-- What an operation does with its steps. -/
def Performs (operation : Operation (DeviceWorld mode) (Result α)) (steps : List Transfer)
    (replies : DeviceSupply) (good : α → Prop) (bad : Refusals) : Prop :=
  ∀ w, ∃ issued, Leads good bad steps replies
      (feedOperation DeviceWorld.port operation replies w).1 issued ∧
    Issued issued w (feedOperation DeviceWorld.port operation replies w).2

/-! ## Rules -/

section Rules

variable {good : α → Prop} {bad : Refusals} {steps : List Transfer}
  {replies : DeviceSupply}

/-- Every error is one of a step. -/
theorem Leads.mapError {bad' : Refusals} {f : Error → Error}
    (hbad : ∀ step ∈ steps, ∀ reply e, bad step reply e → bad' step reply (f e))
    {outcome : Option (Result α × DeviceSupply)} {issued : List Transfer}
    (h : Leads good bad steps replies outcome issued) :
    Leads good bad' steps replies (outcome.map fun fed => (fed.1.mapError f, fed.2)) issued := by
  induction h with
  | done h => exact .done h
  | waits => exact .waits
  | refused h he => exact .refused h (hbad _ List.mem_cons_self _ _ he)
  | accepted h hrest ih =>
    exact .accepted h (ih fun step hstep => hbad step (List.mem_cons_of_mem _ hstep))

/-- The context that an operation adds to its errors. -/
theorem Performs.mapErr {bad' : Refusals} {f : Error → Error}
    (hbad : ∀ step ∈ steps, ∀ reply e, bad step reply e → bad' step reply (f e))
    {operation : Operation (DeviceWorld mode) (Result α)}
    (h : Performs operation steps replies good bad) :
    Performs (operation.mapErr f) steps replies good bad' := by
  intro w
  obtain ⟨issued, hleads, hissued⟩ := h w
  rw [feed_mapErr]
  generalize feedOperation DeviceWorld.port operation replies w = outcome at hleads hissued ⊢
  obtain ⟨fed, w'⟩ := outcome
  refine ⟨issued, ?_⟩
  cases fed with
  | none => exact ⟨hleads.mapError hbad, hissued⟩
  | some value => exact ⟨hleads.mapError hbad, hissued⟩

/-- What comes after a part of the initialization. -/
theorem Leads.append (good' : β → Prop) (steps' : List Transfer)
    {outcome : Option (Result α × DeviceSupply)} {issued : List Transfer}
    (h : Leads good bad steps replies outcome issued) :
    (outcome = none → Leads good' bad (steps ++ steps') replies none issued) ∧
    (∀ e rest, outcome = some (.error e, rest) →
      Leads good' bad (steps ++ steps') replies (some (.error e, rest)) issued) ∧
    ∀ a rest, outcome = some (.ok a, rest) → good a ∧ rest = replies.drop steps.length ∧
      issued = steps ∧ ∀ outcome' issued', Leads good' bad steps' rest outcome' issued' →
        Leads good' bad (steps ++ steps') replies outcome' (issued ++ issued') := by
  induction h with
  | done h =>
    refine ⟨(nomatch ·), fun _ _ h => (nomatch h), ?_⟩
    rintro _ _ ⟨⟩
    exact ⟨h, rfl, rfl, fun _ _ h => h⟩
  | waits => exact ⟨fun _ => .waits, fun _ _ h => (nomatch h), fun _ _ h => nomatch h⟩
  | refused h he =>
    refine ⟨(nomatch ·), ?_, fun _ _ h => nomatch h⟩
    rintro _ _ ⟨⟩
    exact .refused h he
  | accepted h hrest ih =>
    obtain ⟨hnone, herror, hok⟩ := ih
    refine ⟨fun h' => .accepted h (hnone h'), fun e rest h' => .accepted h (herror e rest h'), ?_⟩
    intro a rest h'
    obtain ⟨hgood, hrest', hissued, hnext⟩ := hok a rest h'
    exact ⟨hgood, hrest', congrArg _ hissued, fun _ _ h' => .accepted h (hnext _ _ h')⟩

/-- A part of the initialization and what comes after it. -/
theorem Leads.andThen {good' : β → Prop} {steps' issued : List Transfer} {w : DeviceWorld mode}
    {outcome : Option (Result α × DeviceSupply) × DeviceWorld mode}
    {next : α → DeviceSupply → DeviceWorld mode → Option (Result β × DeviceSupply) × DeviceWorld mode}
    (h : Leads good bad steps replies outcome.1 issued) (hissued : Issued issued w outcome.2)
    (hnext : ∀ a, good a → ∃ issued',
      Leads good' bad steps' (replies.drop steps.length)
        (next a (replies.drop steps.length) outcome.2).1 issued' ∧
      Issued issued' outcome.2 (next a (replies.drop steps.length) outcome.2).2) :
    ∃ issued, Leads good' bad (steps ++ steps') replies (tryFed outcome next).1 issued ∧
      Issued issued w (tryFed outcome next).2 := by
  obtain ⟨hnone, herror, hok⟩ := h.append good' steps'
  obtain ⟨fed, w'⟩ := outcome
  cases fed with
  | none => exact ⟨issued, hnone rfl, hissued⟩
  | some value =>
    obtain ⟨result, rest⟩ := value
    cases result with
    | error e => exact ⟨issued, herror e rest rfl, hissued⟩
    | ok a =>
      obtain ⟨hgood, rfl, rfl, happend⟩ := hok a rest rfl
      obtain ⟨issued', hleads, hissued'⟩ := hnext a hgood
      exact ⟨issued ++ issued', happend _ _ hleads, hissued.append hissued'⟩

theorem acceptedSteps_of_accepts {step : Transfer} {reply : AnyReply}
    (h : accepts step (reply step) = true) (steps : List Transfer) (replies : DeviceSupply) :
    acceptedSteps (step :: steps) (reply :: replies) = acceptedSteps steps replies + 1 :=
  if_pos h

theorem acceptedSteps_of_refused {step : Transfer} {reply : AnyReply}
    (h : accepts step (reply step) = false) (steps : List Transfer) (replies : DeviceSupply) :
    acceptedSteps (step :: steps) (reply :: replies) = 0 :=
  if_neg (by simp [h])

/-- The issued steps and the result, by the number of accepted ones. -/
theorem Leads.counts {outcome : Option (Result α × DeviceSupply)} {issued : List Transfer}
    (h : Leads good bad steps replies outcome issued) :
    issued = steps.take (acceptedSteps steps replies + 1) ∧
      (∀ a rest, outcome = some (.ok a, rest) → good a ∧ acceptedSteps steps replies = steps.length) ∧
      (outcome = none → acceptedSteps steps replies < steps.length ∧
        replies.length = acceptedSteps steps replies) ∧
      ∀ e rest, outcome = some (.error e, rest) → acceptedSteps steps replies < steps.length ∧
        replies.length = acceptedSteps steps replies + 1 + rest.length ∧
        ∃ step reply, steps[acceptedSteps steps replies]? = some step ∧
          replies[acceptedSteps steps replies]? = some reply ∧ bad step (reply step) e := by
  induction h with
  | done h =>
    refine ⟨rfl, ?_, (nomatch ·), fun _ _ h => nomatch h⟩
    rintro _ _ ⟨⟩
    exact ⟨h, rfl⟩
  | waits => exact ⟨rfl, fun _ _ h => (nomatch h), fun _ => ⟨Nat.succ_pos _, rfl⟩, fun _ _ h => nomatch h⟩
  | @refused step steps reply replies e h he =>
    rw [acceptedSteps_of_refused h]
    refine ⟨rfl, fun _ _ h => (nomatch h), (nomatch ·), ?_⟩
    rintro _ _ ⟨⟩
    exact ⟨Nat.succ_pos _, by rw [List.length_cons]; omega, step, reply, rfl, rfl, he⟩
  | @accepted step steps reply replies outcome issued h hrest ih =>
    obtain ⟨hissued, hok, hnone, herror⟩ := ih
    rw [acceptedSteps_of_accepts h, hissued]
    simp only [List.length_cons, List.getElem?_cons_succ]
    refine ⟨rfl, fun a rest h' => ?_, fun h' => ?_, fun e rest h' => ?_⟩
    · obtain ⟨hgood, hcount⟩ := hok a rest h'
      exact ⟨hgood, by omega⟩
    · obtain ⟨hlt, hlength⟩ := hnone h'
      omega
    · obtain ⟨hlt, hlength, hstep⟩ := herror e rest h'
      exact ⟨by omega, by omega, hstep⟩

end Rules

/-! ## Commands -/

/-- The data of a response that passes its validation. -/
def validated (request : InRequest) (reply : Result (List UInt8)) : Result (List UInt8) := do
  let data ← reply
  request.validate data
  pure data

theorem validated_ok {request : InRequest} {reply : Result (List UInt8)} {data : List UInt8} :
    validated request reply = .ok data ↔ reply = .ok data ∧ (request.validate data).isOk = true := by
  unfold validated
  cases reply with
  | error e => exact ⟨(nomatch ·), fun h => nomatch h.1⟩
  | ok other =>
    show (request.validate other >>= fun _ => pure other) = .ok data ↔ _
    cases hvalidate : request.validate other with
    | error e =>
      refine ⟨(nomatch ·), ?_⟩
      rintro ⟨⟨⟩, hok⟩
      rw [hvalidate] at hok
      exact nomatch hok
    | ok value =>
      constructor
      · rintro ⟨⟩
        exact ⟨rfl, by rw [hvalidate]; rfl⟩
      · rintro ⟨⟨⟩, _⟩
        rfl

theorem feed_query_cons (request : InRequest) (reply : AnyReply) (replies : DeviceSupply)
    (w : DeviceWorld mode) :
    feedOperation DeviceWorld.port (query request) (reply :: replies) w =
      (some (validated request (reply (.controlIn request)), replies),
        DeviceWorld.port.settle (DeviceWorld.port.ticket w) (.controlIn request)
          (reply (.controlIn request)) (DeviceWorld.port.issue (.controlIn request) w)) := rfl

/-- A reply that is accepted is one whose data is valid and recognized. -/
theorem accepts_read {request : InRequest} {reply : Result (List UInt8)} :
    accepts (.controlIn request) reply = true ↔
      ∃ data, validated request reply = .ok data ∧ recognized request.request data = true := by
  cases reply with
  | error e => exact ⟨(nomatch ·), fun ⟨_, h, _⟩ => nomatch (validated_ok.mp h).1⟩
  | ok data =>
    show ((request.validate data).isOk && recognized request.request data) = true ↔ _
    rw [Bool.and_eq_true]
    constructor
    · exact fun h => ⟨data, validated_ok.mpr ⟨rfl, h.1⟩, h.2⟩
    · rintro ⟨other, h, hrecognized⟩
      obtain ⟨hdata, hvalid⟩ := validated_ok.mp h
      cases hdata
      exact ⟨hvalid, hrecognized⟩

/-- The check of metadata. -/
def recognize (request : VendorRequest) (data : List UInt8) : Result Unit :=
  match request with
  | .boardIdRead => (BoardId.tryFrom (firstByte data)).elim
      (.error (.protocol "read board ID" "firmware returned an unknown board ID")) fun _ => .ok ()
  | .versionStringRead =>
    if EXPECTED_FW_PREFIX.isPrefixOf (decodeCString data) then .ok () else .error .deviceNotFound
  | .boardPartIdSerialNoRead => (decodeSerial data).map fun _ => ()
  | _ => .ok ()

theorem recognize_isOk (request : VendorRequest) (data : List UInt8) :
    (recognize request data).isOk = recognized request data := by
  unfold recognize recognized
  cases request with
  | boardIdRead =>
    dsimp only
    cases BoardId.tryFrom (firstByte data) <;> rfl
  | versionStringRead =>
    dsimp only
    cases EXPECTED_FW_PREFIX.isPrefixOf (decodeCString data) <;> rfl
  | boardPartIdSerialNoRead =>
    dsimp only
    cases decodeSerial data <;> rfl
  | _ => rfl

/-- An error of a metadata read names what was being read. -/
def named (request : VendorRequest) (e : Error) : Error :=
  match request with
  | .boardIdRead => e.atOperation "reading HydraSDR board ID"
  | .versionStringRead => e.atOperation "reading HydraSDR firmware version"
  | .boardPartIdSerialNoRead => e.atOperation "reading HydraSDR part ID and serial number"
  | _ => e

/-- What a step makes of its reply: the initialization goes on, or ends with this error. -/
def verdict : (step : Transfer) → step.Reply → Result Unit
  | .controlIn request, reply => do
    let data ← (validated request reply).mapError (named request.request)
    recognize request.request data
  | .controlOut _, reply => reply
  | .bulkIn _, reply => reply.map fun _ => ()
  | .clearHalt, reply => reply

theorem verdict_error {request : InRequest} {reply : Result (List UInt8)} {e : Error}
    (h : validated request reply = .error e) :
    verdict (.controlIn request) reply = .error (named request.request e) := by
  show ((validated request reply).mapError _ >>= _) = _
  rw [h]
  rfl

theorem verdict_ok {request : InRequest} {reply : Result (List UInt8)} {data : List UInt8}
    (h : validated request reply = .ok data) :
    verdict (.controlIn request) reply = recognize request.request data := by
  show ((validated request reply).mapError _ >>= _) = _
  rw [h]
  rfl

/-- The error of a step is that of its reply. -/
def Refuses : Refusals := fun step reply e => verdict step reply = .error e

/-- The initialization goes on with the replies of which nothing is said. -/
theorem accepts_verdict (step : Transfer) (reply : step.Reply) :
    accepts step reply = (verdict step reply).isOk := by
  cases step with
  | controlIn request =>
    cases hdata : validated request reply with
    | error e =>
      rw [verdict_error hdata, Bool.eq_iff_iff, accepts_read]
      constructor
      · rintro ⟨data, hdata', _⟩
        exact nomatch hdata.symm.trans hdata'
      · exact fun hfalse => nomatch hfalse
    | ok data =>
      rw [verdict_ok hdata, recognize_isOk, Bool.eq_iff_iff, accepts_read]
      constructor
      · rintro ⟨other, hother, hrecognized⟩
        cases hdata.symm.trans hother
        exact hrecognized
      · exact fun hrecognized => ⟨data, hdata, hrecognized⟩
  | controlOut request => rfl
  | bulkIn endpoint => cases reply <;> rfl
  | clearHalt => rfl

theorem Leads.accept {good : α → Prop} {bad : Refusals} {step : Transfer} {steps : List Transfer}
    {reply : AnyReply} {replies : DeviceSupply} {outcome : Option (Result α × DeviceSupply)}
    {issued : List Transfer} (h : verdict step (reply step) = .ok ())
    (hrest : Leads good bad steps replies outcome issued) :
    Leads good bad (step :: steps) (reply :: replies) outcome (step :: issued) :=
  .accepted (by rw [accepts_verdict, h]; rfl) hrest

theorem Leads.refuse {good : α → Prop} {step : Transfer} {steps : List Transfer} {reply : AnyReply}
    {replies : DeviceSupply} {e : Error} (h : verdict step (reply step) = .error e) :
    Leads good Refuses (step :: steps) (reply :: replies) (some (.error e, replies)) [step] :=
  .refused (by rw [accepts_verdict, h]; rfl) h

/-- The requests that read metadata. -/
def readsMetadata : VendorRequest → Bool
  | .boardIdRead => true
  | .versionStringRead => true
  | .boardPartIdSerialNoRead => true
  | _ => false

/-- A command that reads no metadata. -/
def Plain (command : Command) : Prop :=
  ∀ request, command = .read request → readsMetadata request.request = false

/-- The response to a command that reads no metadata needs to be valid only. -/
theorem Plain.verdict {request : InRequest} (h : Plain (.read request)) (reply : Result (List UInt8)) :
    verdict (.controlIn request) reply = (validated request reply).map fun _ => () := by
  have hplain := h request rfl
  have hnamed : ∀ e, named request.request e = e := by
    intro e
    generalize request.request = vendor at hplain
    cases vendor <;> first | rfl | exact nomatch hplain
  have hrecognize : ∀ data, recognize request.request data = .ok () := by
    intro data
    generalize request.request = vendor at hplain
    cases vendor <;> first | rfl | exact nomatch hplain
  cases hdata : validated request reply with
  | error e =>
    rw [verdict_error hdata, hnamed]
    rfl
  | ok data =>
    rw [verdict_ok hdata, hrecognize]
    rfl

theorem Plain.not_metadata {command : Command} (h : Plain command) :
    Transfer.ofCommand command ∉ metadataSteps := by
  intro hmem
  cases command with
  | read request =>
    have hplain := h request rfl
    simp only [metadataSteps, List.mem_cons, List.not_mem_nil, or_false, Transfer.ofCommand,
      Transfer.controlIn.injEq] at hmem
    rcases hmem with rfl | rfl | rfl <;> exact nomatch hplain
  | write request => simp [metadataSteps, Transfer.ofCommand] at hmem

theorem gain_plain (gain : GainConfig) :
    ∀ request ∈ gainConfigPlan gain, readsMetadata request.request = false := by
  intro request hrequest
  have hstage : ∀ {agc level : VendorRequest} {stage : StageGain}, readsMetadata agc = false →
      readsMetadata level = false → request ∈ stagePlan agc level stage →
        readsMetadata request.request = false := by
    intro agc level stage hagc hlevel hmem
    cases stage with
    | manual value =>
      rcases List.mem_cons.mp hmem with rfl | hmem
      · exact hagc
      · rw [List.mem_singleton.mp hmem]
        exact hlevel
    | agc =>
      rw [List.mem_singleton.mp hmem]
      exact hagc
  have hpreset : ∀ {value : UInt8} {vga mixer lna : Vector UInt8 RFONE_GAIN_TABLE_SIZE},
      request ∈ presetGainPlan value vga mixer lna → readsMetadata request.request = false := by
    intro value vga mixer lna hmem
    simp only [presetGainPlan, List.mem_cons, List.not_mem_nil, or_false] at hmem
    rcases hmem with rfl | rfl | rfl | rfl | rfl <;> rfl
  cases gain with
  | preset preset => cases preset <;> exact hpreset hrequest
  | stages lna mixer vga =>
    simp only [gainConfigPlan, stageGainPlan, List.mem_append, List.mem_singleton] at hrequest
    rcases hrequest with (hlna | hmixer) | rfl
    · exact hstage rfl rfl hlna
    · exact hstage rfl rfl hmixer
    · rfl

/-- The commands of a configuration read no metadata. -/
theorem configuration_plain {config : Config mode} {commands : List Command}
    {receive : ReceiveSettings} (h : configuration config = .ok (commands, receive)) :
    ∀ command ∈ commands, Plain command := by
  obtain ⟨rate, _, h⟩ := bind_ok h
  obtain rfl := congrArg Prod.fst (Except.ok.inj h)
  intro command hcommand
  simp only [List.mem_append, List.mem_cons, List.mem_map, List.not_mem_nil, or_false] at hcommand
  rcases hcommand with ((rfl | rfl | rfl) | ⟨request, hrequest, rfl⟩) | rfl | rfl <;>
    rintro _ ⟨⟩
  · rfl
  · rfl
  · exact gain_plain config.gain request hrequest
  · rfl

/-- One command. -/
theorem execute_performs {command : Command} (hplain : Plain command) (replies : DeviceSupply) :
    Performs (execute command : Operation (DeviceWorld mode) _) [Transfer.ofCommand command] replies
      (fun _ => True) Refuses := by
  intro w
  cases replies with
  | nil => cases command <;> exact ⟨_, .waits, Issued.issue _ w⟩
  | cons reply replies =>
    cases command with
    | read request =>
      have hfed : feedOperation DeviceWorld.port (execute (.read request)) (reply :: replies) w =
          (some ((validated request (reply (.controlIn request))).map fun _ => (), replies),
            DeviceWorld.port.settle (DeviceWorld.port.ticket w) (.controlIn request)
              (reply (.controlIn request)) (DeviceWorld.port.issue (.controlIn request) w)) := rfl
      rw [hfed]
      refine ⟨_, ?_, Issued.exchange _ _ _ w⟩
      have hverdict := hplain.verdict (reply (.controlIn request))
      cases hdata : validated request (reply (.controlIn request)) with
      | ok data => exact .accept (hverdict.trans (by rw [hdata]; rfl)) (.done trivial)
      | error e => exact .refuse (hverdict.trans (by rw [hdata]; rfl))
    | write request =>
      have hfed : feedOperation DeviceWorld.port (execute (.write request)) (reply :: replies) w =
          (some (reply (.controlOut request), replies),
            DeviceWorld.port.settle (DeviceWorld.port.ticket w) (.controlOut request)
              (reply (.controlOut request)) (DeviceWorld.port.issue (.controlOut request) w)) := rfl
      rw [hfed]
      refine ⟨_, ?_, Issued.exchange _ _ _ w⟩
      cases hreply : reply (.controlOut request) with
      | ok value => exact .accept hreply (.done trivial)
      | error e => exact .refuse hreply

/-- A sequence of commands. -/
theorem commands_perform {commands : List Command} (hplain : ∀ command ∈ commands, Plain command)
    (replies : DeviceSupply) :
    Performs (commandSequence commands : Operation (DeviceWorld mode) _)
      (commands.map Transfer.ofCommand) replies (fun _ => True) Refuses := by
  induction commands generalizing replies with
  | nil => exact fun w => ⟨[], .done trivial, Issued.nil w⟩
  | cons command commands ih =>
    intro w
    have hfed : feedOperation DeviceWorld.port (commandSequence (command :: commands)) replies w =
        tryFed (feedOperation DeviceWorld.port (execute command) replies w) fun _ =>
          feedOperation DeviceWorld.port (commandSequence commands) :=
      feed_sequence_cons replies w command commands execute
    obtain ⟨issued, hleads, hissued⟩ :=
      execute_performs (hplain command List.mem_cons_self) replies w
    rw [hfed]
    exact hleads.andThen hissued fun _ _ =>
      ih (fun other hother => hplain other (List.mem_cons_of_mem _ hother)) _ _

/-! ## Metadata -/

/-- The data of a response. -/
def response (request : InRequest) (reply : AnyReply) : List UInt8 :=
  (reply (.controlIn request)).toOption.getD []

/-- The metadata that the first three replies report. -/
def reported : DeviceSupply → Option DeviceInfo
  | _ :: firmware :: serial :: _ => some
    { boardName := "HydraSDR RFOne"
      firmwareVersion := decodeCString (response .firmware firmware)
      serial := (decodeSerial (response .serial serial)).toOption.join
      rfPorts := rfPortInfos }
  | _ => none

theorem response_of_validated {request : InRequest} {reply : AnyReply} {data : List UInt8}
    (h : validated request (reply (.controlIn request)) = .ok data) :
    response request reply = data := by
  unfold response
  rw [(validated_ok.mp h).1]
  rfl

/-- A metadata read, the check of its data, and what comes next. -/
theorem read_stage {γ : Type} {good : α → Prop} {request : InRequest}
    {check : List UInt8 → Result γ}
    (hcheck : ∀ data, (check data).map (fun _ => ()) = recognize request.request data)
    {next : List UInt8 → γ → DeviceSupply → DeviceWorld mode →
      Option (Result α × DeviceSupply) × DeviceWorld mode}
    {steps : List Transfer} {replies : DeviceSupply} {w : DeviceWorld mode}
    (hnext : ∀ reply rest data value w', replies = reply :: rest → response request reply = data →
      check data = .ok value → ∃ issued,
        Leads good Refuses steps rest (next data value rest w').1 issued ∧
        Issued issued w' (next data value rest w').2) :
    ∃ issued, Leads good Refuses (.controlIn request :: steps) replies
        (tryFed (feedOperation DeviceWorld.port ((query request).mapErr (named request.request))
            replies w)
          fun data rest w => tryFed (some (check data, rest), w) (next data)).1 issued ∧
      Issued issued w
        (tryFed (feedOperation DeviceWorld.port ((query request).mapErr (named request.request))
            replies w)
          fun data rest w => tryFed (some (check data, rest), w) (next data)).2 := by
  rw [feed_mapErr]
  cases replies with
  | nil => exact ⟨_, .waits, Issued.issue (.controlIn request) w⟩
  | cons reply rest =>
    rw [feed_query_cons, onFed_some]
    have hexchange := Issued.exchange (.controlIn request) (reply (.controlIn request))
      (DeviceWorld.port.ticket w) w
    generalize DeviceWorld.port.settle (DeviceWorld.port.ticket w) (.controlIn request)
      (reply (.controlIn request)) (DeviceWorld.port.issue (.controlIn request) w) = w' at hexchange ⊢
    cases hdata : validated request (reply (.controlIn request)) with
    | error e => exact ⟨_, .refuse (verdict_error hdata), hexchange⟩
    | ok data =>
      have hverdict : verdict (.controlIn request) (reply (.controlIn request)) =
          (check data).map fun _ => () := by
        rw [verdict_ok hdata, hcheck]
      cases hvalue : check data with
      | error e =>
        refine ⟨[.controlIn request], ?_⟩
        simp only [Except.mapError, tryFed_ok, hvalue, tryFed_error]
        exact ⟨.refuse (hverdict.trans (by rw [hvalue]; rfl)), hexchange⟩
      | ok value =>
        obtain ⟨issued, hleads, hissued⟩ := hnext reply rest data value w' rfl
          (response_of_validated hdata) hvalue
        refine ⟨.controlIn request :: issued, ?_⟩
        simp only [Except.mapError, tryFed_ok, hvalue]
        exact ⟨.accept (hverdict.trans (by rw [hvalue]; rfl)) hleads, hexchange.append hissued⟩

/-- **The metadata.** -/
theorem deviceInfo_performs (replies : DeviceSupply) :
    Performs (deviceInfo : Operation (DeviceWorld mode) _) metadataSteps replies
      (fun info => reported replies = some info) Refuses := by
  intro w
  let boardCheck (data : List UInt8) : Result BoardId := (BoardId.tryFrom (firstByte data)).elim
    (.error (.protocol "read board ID" "firmware returned an unknown board ID")) .ok
  let versionCheck (data : List UInt8) : Result Unit :=
    if EXPECTED_FW_PREFIX.isPrefixOf (decodeCString data) then .ok () else .error .deviceNotFound
  let info (version : List UInt8) (serial : Option UInt64) : DeviceInfo :=
    { boardName := "HydraSDR RFOne"
      firmwareVersion := decodeCString version
      serial := serial
      rfPorts := rfPortInfos }
  have hfed : feedOperation DeviceWorld.port (deviceInfo : Operation (DeviceWorld mode) _) replies w =
      tryFed (feedOperation DeviceWorld.port
        ((query .boardId).mapErr (Error.atOperation "reading HydraSDR board ID")) replies w)
      fun board rest w => tryFed (some (boardCheck board, rest), w) fun _ rest w =>
        tryFed (feedOperation DeviceWorld.port
          ((query .firmware).mapErr (Error.atOperation "reading HydraSDR firmware version")) rest w)
        fun version rest w => tryFed (some (versionCheck version, rest), w) fun _ rest w =>
          tryFed (feedOperation DeviceWorld.port
            ((query .serial).mapErr
              (Error.atOperation "reading HydraSDR part ID and serial number")) rest w)
          fun serial rest w => tryFed (some (decodeSerial serial, rest), w) fun number rest w =>
            (some (.ok (info version number), rest), w) := by
    unfold deviceInfo
    simp only [feed_andThen, feed_map, feed_ready, tryFed_assoc]
    congr 1
    funext board rest w
    have hboard : ∀ {result : Result BoardId}, result = boardCheck board →
        ∀ next : BoardId → DeviceSupply → DeviceWorld mode →
          Option (Result DeviceInfo × DeviceSupply) × DeviceWorld mode,
        tryFed (some (result, rest), w) next = tryFed (some (boardCheck board, rest), w) next :=
      fun h _ => by rw [h]
    rw [hboard (by cases hknown : BoardId.tryFrom (firstByte board) <;> simp [boardCheck, hknown])]
    congr 1
    funext _ rest w
    congr 1
    funext version rest w
    cases hversion : versionCheck version with
    | error e =>
      simp only [versionCheck] at hversion
      rw [hversion]
      rfl
    | ok value =>
      simp only [versionCheck] at hversion
      rw [hversion]
      simp only [tryFed_ok]
      generalize feedOperation DeviceWorld.port ((query .serial).mapErr _) rest w = outcome
      obtain ⟨fed, w'⟩ := outcome
      cases fed with
      | none => rfl
      | some value =>
        obtain ⟨result, left⟩ := value
        cases result with
        | error e => rfl
        | ok serial =>
          rw [onFed_some, tryFed_ok]
          show (some (decodeSerial serial >>= fun number => pure (info version number), left), w') = _
          cases decodeSerial serial <;> rfl
  rw [hfed]
  refine read_stage (fun data => ?_) fun board rest₁ data₁ id w₁ hboard _ _ => ?_
  · show (boardCheck data).map _ = (BoardId.tryFrom (firstByte data)).elim _ _
    dsimp only [boardCheck]
    cases BoardId.tryFrom (firstByte data) <;> rfl
  refine read_stage (fun data => ?_) fun firmware rest₂ data₂ _ w₂ hfirmware hdata₂ _ => ?_
  · show (versionCheck data).map _ = if _ then _ else _
    dsimp only [versionCheck]
    cases EXPECTED_FW_PREFIX.isPrefixOf (decodeCString data) <;> rfl
  refine read_stage (fun data => rfl) fun serial rest₃ data₃ number w₃ hserial hdata₃ hnumber => ?_
  refine ⟨[], .done ?_, Issued.nil w₃⟩
  rw [hboard, hfirmware, hserial, reported, hdata₂, hdata₃, hnumber]
  rfl

/-! ## The whole initialization -/

/-- What is being done at a step, as an error says. -/
def context (step : Transfer) : String :=
  if step ∈ metadataSteps then "reading HydraSDR device metadata"
  else "applying initial HydraSDR configuration"

/-- The error of a step, with what was being done. -/
def Labelled : Refusals := fun step reply e =>
  ∃ source, verdict step reply = .error source ∧ e = Error.atOperation (context step) source

/-- The commands that switch a device off. -/
def offSteps : List Transfer := [.receiverMode .off, .rfBias false]

/-- The steps of two parts. -/
theorem acceptedSteps_append (first second : List Transfer) (replies : DeviceSupply) :
    acceptedSteps (first ++ second) replies =
      if acceptedSteps first replies = first.length then
        first.length + acceptedSteps second (replies.drop first.length)
      else acceptedSteps first replies := by
  induction first generalizing replies with
  | nil => simp [acceptedSteps]
  | cons step first ih =>
    cases replies with
    | nil => simp [acceptedSteps]
    | cons reply replies =>
      cases h : accepts step (reply step) with
      | false => simp [acceptedSteps, h]
      | true =>
        simp only [List.cons_append, acceptedSteps, h, if_true, ih, List.length_cons, List.drop_succ_cons,
          Nat.add_right_cancel_iff]
        split <;> omega

/-- The commands of a configuration on an opened device. -/
theorem feed_apply {commands : List Command} {receive : ReceiveSettings} {w : DeviceWorld mode}
    (hopened : w.session.state.device = .opened) (replies : DeviceSupply) :
    feedOperation DeviceWorld.port (Session.apply commands (some receive)) replies w =
      tryFed (feedOperation DeviceWorld.port (commandSequence commands) replies w) fun _ rest w =>
        (some (.ok (), rest), w.onSession (Session.setReceive receive)) := by
  unfold Session.apply
  simp only [feed_continueWith, feed_ready, onFed_some, feed_andThen, Session.ensureOpen, hopened,
    if_true, tryFed_ok, feed_map]
  generalize feedOperation DeviceWorld.port (commandSequence commands) replies w = outcome
  obtain ⟨fed, w'⟩ := outcome
  cases fed with
  | none => rfl
  | some value =>
    obtain ⟨result, rest⟩ := value
    cases result <;> rfl

/-- Both commands that switch a device off are issued, whatever becomes of the first. -/
theorem shutdownHardware_issues (replies : DeviceSupply) (w : DeviceWorld mode) :
    Issued (offSteps.take (replies.length + 1)) w
      (feedOperation DeviceWorld.port shutdownHardware replies w).2 := by
  unfold shutdownHardware
  simp only [feed_andThen, feed_map, feed_mapErr]
  cases replies with
  | nil => exact Issued.issue (.receiverMode .off) w
  | cons off replies =>
    have hoff := Issued.exchange (.receiverMode .off) (off (.receiverMode .off))
      (DeviceWorld.port.ticket w) w
    cases replies with
    | nil => exact hoff.append (Issued.issue (.rfBias false) _)
    | cons bias rest =>
      rw [List.take_of_length_le (by simp [offSteps])]
      exact hoff.append (Issued.exchange (.rfBias false) (bias (.rfBias false)) _ _)

/-- A shutdown of an opened device without a stream. -/
theorem shutdown_issues {w : DeviceWorld mode} (hopened : w.session.state.device = .opened)
    (hclaim : w.session.state.claim = .available) (replies : DeviceSupply) :
    let w' := (feedOperation DeviceWorld.port Session.shutdown replies w).2
    w'.wire.issued = w.wire.issued ++ offSteps.take (replies.length + 1) ∧
      w'.session.info = w.session.info ∧ w'.session.receive = w.session.receive ∧
      w'.session.state.device ≠ .opened := by
  have hbegin : w.session.beginShutdown =
      (.ok true, { w.session with state := { w.session.state with device := .closing } }) := by
    simp [Session.beginShutdown, hopened, hclaim]
  have hruns : w.session.beginShutdown.1 = .ok true := congrArg Prod.fst hbegin
  unfold Session.shutdown
  simp only [feed_andThen, feed_map, feed_ready, onFed_some, hruns, tryFed_ok, if_true, feed_left]
  have hissued := shutdownHardware_issues replies { w with session := w.session.beginShutdown.2 }
  have hsession := hissued.session
  generalize feedOperation DeviceWorld.port shutdownHardware replies _ = outcome at hissued hsession ⊢
  obtain ⟨fed, w'⟩ := outcome
  rw [hbegin] at hsession
  have hsession' : w'.session =
      { w.session with state := { w.session.state with device := .closing } } := hsession
  have hframe : w'.session.info = w.session.info ∧ w'.session.receive = w.session.receive ∧
      w'.session.state.device = .closing := by
    rw [hsession']
    exact ⟨rfl, rfl, rfl⟩
  obtain ⟨hinfo, hreceive, hdevice⟩ := hframe
  cases fed with
  | none => exact ⟨hissued.issued, hinfo, hreceive, by rw [onFed_none, hdevice]; exact nofun⟩
  | some value =>
    obtain ⟨result, rest⟩ := value
    cases result with
    | ok value => exact ⟨hissued.issued, hinfo, hreceive, nofun⟩
    | error e =>
      refine ⟨hissued.issued, hinfo, hreceive, ?_⟩
      show w'.session.state.device ≠ .opened
      rw [hdevice]
      exact nofun

/-- What follows the setup: an error is followed by a shutdown. -/
def finish (result : Result Unit) (rest : DeviceSupply) (w : DeviceWorld mode) :
    Option (Result Unit × DeviceSupply) × DeviceWorld mode :=
  match result with
  | .ok _ => (some (.ok (), rest), w)
  | .error e => onFed (feedOperation DeviceWorld.port Session.shutdown rest w) fun _ rest w =>
      (some (.error e, rest), w)

/-- The metadata and the commands of a configuration. -/
def setup (commands : List Command) (receive : ReceiveSettings) (replies : DeviceSupply)
    (w : DeviceWorld mode) : Option (Result Unit × DeviceSupply) × DeviceWorld mode :=
  tryFed (feedOperation DeviceWorld.port
      (deviceInfo.mapErr (Error.atOperation "reading HydraSDR device metadata")) replies w)
    fun info rest w => feedOperation DeviceWorld.port ((Session.apply commands (some receive)).mapErr
      (Error.atOperation "applying initial HydraSDR configuration")) rest (Session.setInfo info w)

/-- An initialization is the setup and what follows it. -/
theorem feed_initializeSession {config : Config mode} {commands : List Command}
    {receive : ReceiveSettings} (h : configuration config = .ok (commands, receive))
    (replies : DeviceSupply) (w : DeviceWorld mode) :
    feedOperation DeviceWorld.port (Session.initializeSession config) replies w =
      onFed (setup commands receive replies w) finish := by
  have hconfigure : Session.configure config = .ok (Session.apply commands (some receive)) := by
    unfold Session.configure
    rw [h]
  unfold Session.initializeSession setup
  simp only [feed_continueWith, feed_andThen, hconfigure]
  congr 1
  funext result rest w
  cases result with
  | ok value => rfl
  | error e => exact feed_map rest w Session.shutdown _

/-- The state after the setup, by the number of accepted steps. -/
structure SetUp (commands : List Command) (receive : ReceiveSettings) (replies : DeviceSupply)
    (issued : List Transfer) (w : DeviceWorld mode) : Prop where
  issued : w.wire.issued = issued
  opened : w.session.state = Session.new.state
  info : w.session.info =
    if 3 ≤ acceptedSteps (metadataSteps ++ commands.map Transfer.ofCommand) replies then
      reported replies else none
  receive : w.session.receive =
    if acceptedSteps (metadataSteps ++ commands.map Transfer.ofCommand) replies =
      (metadataSteps ++ commands.map Transfer.ofCommand).length then receive
    else Session.new.receive

/-- The commands, as the setup runs them. -/
def configureSession (commands : List Command) (receive : ReceiveSettings) (rest : DeviceSupply)
    (w : DeviceWorld mode) : Option (Result Unit × DeviceSupply) × DeviceWorld mode :=
  feedOperation DeviceWorld.port ((Session.apply commands (some receive)).mapErr
    (Error.atOperation "applying initial HydraSDR configuration")) rest w

/-- What the commands do, once there is metadata. -/
theorem configureSession_leads {commands : List Command} (receive : ReceiveSettings)
    (hplain : ∀ command ∈ commands, Plain command) (rest : DeviceSupply) {w : DeviceWorld mode}
    (hopened : w.session.state.device = .opened) :
    ∃ issued, Leads (fun _ => True) Labelled (commands.map Transfer.ofCommand) rest
        (configureSession commands receive rest w).1 issued ∧
      (configureSession commands receive rest w).2.wire.issued = w.wire.issued ++ issued ∧
      (configureSession commands receive rest w).2.session =
        if acceptedSteps (commands.map Transfer.ofCommand) rest = commands.length then
          { w.session with receive := receive }
        else w.session := by
  have hlabelled : ∀ step ∈ commands.map Transfer.ofCommand, ∀ reply e, Refuses step reply e →
      Labelled step reply (Error.atOperation "applying initial HydraSDR configuration" e) := by
    intro step hstep reply e hrefused
    obtain ⟨command, hcommand, rfl⟩ := List.mem_map.mp hstep
    exact ⟨e, hrefused, by rw [context, if_neg (hplain command hcommand).not_metadata]⟩
  obtain ⟨issued, hleads, hissued⟩ := commands_perform hplain rest w
  have hmapped := hleads.mapError hlabelled
  obtain ⟨_, hok, hnone, herror⟩ := hleads.counts
  rw [List.length_map] at hnone
  have hsession := hissued.session
  refine ⟨issued, ?_⟩
  unfold configureSession
  rw [feed_mapErr, feed_apply hopened]
  generalize feedOperation DeviceWorld.port (commandSequence commands) rest w = outcome
    at hmapped hissued hsession hok hnone herror ⊢
  obtain ⟨fed, w'⟩ := outcome
  cases fed with
  | none =>
    refine ⟨hmapped, hissued.issued, ?_⟩
    rw [if_neg (hnone rfl).1.ne]
    exact hsession
  | some value =>
    obtain ⟨result, left⟩ := value
    cases result with
    | error e =>
      have hcount := (herror e left rfl).1
      rw [List.length_map] at hcount
      refine ⟨hmapped, hissued.issued, ?_⟩
      rw [if_neg hcount.ne]
      exact hsession
    | ok value =>
      have hcount := (hok value left rfl).2
      rw [List.length_map] at hcount
      refine ⟨hmapped, hissued.issued, ?_⟩
      rw [if_pos hcount, ← hsession]
      rfl

/-- What the setup does with the steps, and the state it leaves. -/
theorem setup_leads {config : Config mode} {commands : List Command}
    {receive : ReceiveSettings} (h : configuration config = .ok (commands, receive))
    (replies : DeviceSupply) :
    ∃ issued, Leads (fun _ => True) Labelled (metadataSteps ++ commands.map Transfer.ofCommand) replies
        (setup commands receive replies (⟨.new, .empty, config, none⟩ : DeviceWorld mode)).1 issued ∧
      SetUp commands receive replies issued
        (setup commands receive replies (⟨.new, .empty, config, none⟩ : DeviceWorld mode)).2 := by
  have hlabelled : ∀ step ∈ metadataSteps, ∀ reply e, Refuses step reply e →
      Labelled step reply (Error.atOperation "reading HydraSDR device metadata" e) :=
    fun step hstep _ e hrefused => ⟨e, hrefused, by rw [context, if_pos hstep]⟩
  obtain ⟨issued, hleads, hissued⟩ := (deviceInfo_performs replies).mapErr hlabelled
    (⟨.new, .empty, config, none⟩ : DeviceWorld mode)
  have hcounts := hleads.counts
  have happend := hleads.append (fun _ : Unit => True) (commands.map Transfer.ofCommand)
  have htotal := acceptedSteps_append metadataSteps (commands.map Transfer.ofCommand) replies
  unfold setup
  generalize feedOperation DeviceWorld.port (deviceInfo.mapErr _) replies _ = outcome
    at hissued hcounts happend hleads ⊢
  obtain ⟨fed, w'⟩ := outcome
  obtain ⟨hnone, herror, hok⟩ := happend
  obtain ⟨_, hokCount, hnoneCount, herrorCount⟩ := hcounts
  have hsession : w'.session = .new := hissued.session
  have hwire : w'.wire.issued = issued := hissued.issued
  have hshort : acceptedSteps metadataSteps replies < metadataSteps.length →
      SetUp commands receive replies issued w' := by
    intro hlt
    have hfew : acceptedSteps (metadataSteps ++ commands.map Transfer.ofCommand) replies < 3 := by
      rw [htotal, if_neg hlt.ne]
      exact hlt
    refine ⟨hwire, by rw [hsession], ?_, ?_⟩
    · rw [if_neg (by omega), hsession]
      rfl
    · rw [if_neg ?_, hsession]
      rw [List.length_append]
      have hthree : metadataSteps.length = 3 := rfl
      omega
  cases fed with
  | none => exact ⟨issued, hnone rfl, hshort (hnoneCount rfl).1⟩
  | some value =>
    obtain ⟨result, rest⟩ := value
    cases result with
    | error e => exact ⟨issued, herror e rest rfl, hshort (herrorCount e rest rfl).1⟩
    | ok info =>
      obtain ⟨hreported, hrest, _, hnext⟩ := hok info rest rfl
      obtain ⟨_, hthree⟩ := hokCount info rest rfl
      rw [if_pos hthree, ← hrest] at htotal
      have hinfo : w'.session.info = none := by rw [hsession]; rfl
      have hset : Session.setInfo info w' =
          w'.onSession fun session => { session with info := some info } := by
        unfold Session.setInfo
        rw [hinfo]
      obtain ⟨issued', hleads', hissued', hsession'⟩ := configureSession_leads receive
        (configuration_plain h) rest (w := Session.setInfo info w')
        (by rw [hset]; show w'.session.state.device = _; rw [hsession]; rfl)
      refine ⟨issued ++ issued', hnext _ _ hleads', ?_⟩
      have hcount : acceptedSteps (metadataSteps ++ commands.map Transfer.ofCommand) replies =
          (metadataSteps ++ commands.map Transfer.ofCommand).length ↔
            acceptedSteps (commands.map Transfer.ofCommand) rest = commands.length := by
        rw [htotal, List.length_append, List.length_map, Nat.add_left_cancel_iff]
      have hmany : 3 ≤ acceptedSteps (metadataSteps ++ commands.map Transfer.ofCommand) replies := by
        rw [htotal]
        exact Nat.le_add_right 3 _
      have hstart : (Session.setInfo info w').session =
          { Session.new with info := some info } := by
        rw [hset]
        show { w'.session with info := some info } = _
        rw [hsession]
      have hinfo' : (configureSession commands receive rest (Session.setInfo info w')).2.session =
          { Session.new with
            info := some info
            receive := if acceptedSteps (commands.map Transfer.ofCommand) rest = commands.length then
              receive else Session.new.receive } := by
        rw [hsession', hstart]
        split <;> rfl
      show SetUp commands receive replies _ (configureSession commands receive rest _).2
      refine ⟨?_, by rw [hinfo'], ?_, ?_⟩
      · rw [hissued', ← hwire, hset]
        rfl
      · rw [hinfo', if_pos hmany, hreported]
      · rw [hinfo']
        simp only [hcount]

/-- **The initialization protocol.**  For every valid configuration and every supply of replies, let
`taken` be the number of steps whose replies are accepted, up to the first that is not.  The session
is initialized exactly when all of them are; then the steps are all that has been issued, the
metadata is what the first three replies report, and the receive settings are those of the
configuration.  Otherwise the device has been sent the steps up to the first one that was not
accepted, and after that only the commands that switch it off, as far as there are replies; the
receive settings are still those of a new session, there is metadata exactly when all three reads
were accepted, and the error is what the refused step says of its reply, in the context of what was
being done.  In particular no setting is sent to a device that has not reported a HydraSDR
firmware. -/
theorem initialization_protocol (config : ValidConfig mode) (replies : DeviceSupply) :
    ∃ commands receive, configuration config.1 = .ok (commands, receive) ∧
      let steps := metadataSteps ++ commands.map Transfer.ofCommand
      let taken := acceptedSteps steps replies
      let fed := feedOperation DeviceWorld.port (Session.initializeSession config.1) replies
        ⟨.new, .empty, config.1, none⟩
      (fed.1.map Prod.fst = some (.ok ()) ↔ taken = steps.length) ∧
      (taken = steps.length → fed.2.wire.issued = steps ∧
        fed.2.session = { Session.new with info := reported replies, receive := receive }) ∧
      (taken < steps.length →
        fed.2.wire.issued = steps.take (taken + 1) ++ offSteps.take (replies.length - taken) ∧
        fed.2.session.info = (if 3 ≤ taken then reported replies else none) ∧
        fed.2.session.receive = Session.new.receive ∧
        (fed.2.session.state.device = .opened ↔ replies.length = taken) ∧
        ∀ e, fed.1.map Prod.fst = some (.error e) →
          ∃ step reply source, steps[taken]? = some step ∧ replies[taken]? = some reply ∧
            verdict step (reply step) = .error source ∧
            e = Error.atOperation (context step) source) := by
  obtain ⟨commands, receive, hcommands, _⟩ := inStep_of_valid config.2
  refine ⟨commands, receive, hcommands, ?_⟩
  dsimp only
  obtain ⟨issued, hleads, hwire, hstate, hinfo, hreceive⟩ := setup_leads hcommands replies
  obtain ⟨hissued, hok, hnone, herror⟩ := hleads.counts
  have hthree : 3 ≤ (metadataSteps ++ commands.map Transfer.ofCommand).length := by
    rw [List.length_append]
    exact Nat.le_add_right 3 _
  rw [feed_initializeSession hcommands]
  generalize setup commands receive replies _ = outcome
    at hwire hstate hinfo hreceive hok hnone herror ⊢
  generalize metadataSteps ++ commands.map Transfer.ofCommand = steps at *
  generalize acceptedSteps steps replies = taken at *
  obtain ⟨fed, w⟩ := outcome
  cases fed with
  | none =>
    obtain ⟨hlt, hlength⟩ := hnone rfl
    refine ⟨⟨(nomatch ·), fun h => absurd h hlt.ne⟩, fun h => absurd h hlt.ne, fun _ => ?_⟩
    rw [hlength, Nat.sub_self, List.take_zero, List.append_nil]
    refine ⟨hwire.trans hissued, hinfo, ?_, ?_, fun e h => nomatch h⟩
    · exact hreceive.trans (if_neg hlt.ne)
    · exact ⟨fun _ => rfl, fun _ => congrArg SharedDeviceState.device hstate⟩
  | some value =>
    obtain ⟨result, rest⟩ := value
    cases result with
    | ok value =>
      have hall := (hok value rest rfl).2
      refine ⟨⟨fun _ => hall, fun _ => rfl⟩, fun _ => ⟨?_, ?_⟩, fun h => absurd hall h.ne⟩
      · rw [List.take_of_length_le (by omega)] at hissued
        exact hwire.trans hissued
      · rw [if_pos (by omega)] at hinfo
        rw [if_pos hall] at hreceive
        show w.session = _
        obtain ⟨⟨info, state, receive'⟩, wire, snapshot, panic⟩ := w
        cases hstate
        cases hinfo
        cases hreceive
        rfl
    | error e =>
      obtain ⟨hlt, hlength, step, reply, hstep, hreply, source, hverdict, he⟩ := herror e rest rfl
      have hleft : replies.length - taken = rest.length + 1 := by omega
      obtain ⟨hoff, hinfo', hreceive', hclosing⟩ := shutdown_issues
        (congrArg SharedDeviceState.device hstate) (congrArg SharedDeviceState.claim hstate) rest
      have hfinish : (onFed (some (Except.error e, rest), w) finish).2 =
          (feedOperation DeviceWorld.port Session.shutdown rest w).2 ∧
          ((onFed (some (Except.error e, rest), w) finish).1.map Prod.fst = none ∨
            (onFed (some (Except.error e, rest), w) finish).1.map Prod.fst = some (.error e)) := by
        rw [onFed_some]
        unfold finish
        dsimp only
        generalize feedOperation DeviceWorld.port Session.shutdown rest w = shut
        obtain ⟨fed, w'⟩ := shut
        cases fed with
        | none => exact ⟨rfl, .inl rfl⟩
        | some value => exact ⟨rfl, .inr rfl⟩
      obtain ⟨hworld, hresult⟩ := hfinish
      rw [hworld]
      refine ⟨⟨fun h => ?_, fun h => absurd h hlt.ne⟩, fun h => absurd h hlt.ne, fun _ => ⟨?_, ?_, ?_, ?_, ?_⟩⟩
      · rcases hresult with hresult | hresult <;> exact nomatch hresult.symm.trans h
      · rw [hoff, hwire, hissued, hleft]
      · exact hinfo'.trans hinfo
      · exact (hreceive'.trans hreceive).trans (if_neg hlt.ne)
      · exact ⟨fun h => absurd h hclosing, fun h => by omega⟩
      · rintro _ h
        rcases hresult with hresult | hresult
        · exact nomatch hresult.symm.trans h
        · obtain rfl := Except.error.inj (Option.some.inj (hresult.symm.trans h))
          exact ⟨step, reply, source, hstep, hreply, hverdict, he⟩

end HydraSdr.Analysis.InitializationProtocol
