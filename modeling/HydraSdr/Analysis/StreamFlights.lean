import HydraSdr.Analysis.StreamCalls
import HydraSdr.Analysis.StreamReads

/-!
# What one step of a stream leads to

The invariant of a stream together with whatever it has in flight, and the outcome of every step
that a stream can take: it makes moves and stays, it is dropped and cleans up, or it gives its
claim back.
-/

set_option autoImplicit false

namespace HydraSdr.Analysis

open HydraSdr.Program HydraSdr.Computation

variable {F : Type} [SampleArithmetic F] {mode : SampleFormat}

/-! ## Operations in flight -/

/-- How a call of a stream can end. -/
def CallPost (found : Option ℕ) : {mode : SampleFormat} → (call : StreamCall mode) →
    StreamWorld F mode → Result call.Value → StreamWorld F mode → Prop
  | _, .start => Makes (Restarted found)
  | _, .stop => Stopped
  | _, .close => Closed
  | _, .waitBlock => Makes (Restarted none)

theorem makes_compose {α : Type} {post : α → StreamWorld F mode → Prop}
    (a b : StreamWorld F mode) (value : α) (c : StreamWorld F mode) (hab : ControlMoves a b)
    (h : Makes post b value c) : Makes post a value c :=
  ⟨hab.trans h.1, h.2⟩

theorem closed_compose (a b : StreamWorld F mode) (result : Result StreamingStats)
    (c : StreamWorld F mode) (hab : ControlMoves a b) (h : Closed b result c) : Closed a result c := by
  cases result with
  | ok value =>
    obtain ⟨m, hmoves, hoff, hstats, hc⟩ := h
    exact ⟨m, hab.trans hmoves, hoff, hstats, hc⟩
  | error e => exact ⟨hab.trans h.1, h.2⟩

theorem stopped_compose (a b : StreamWorld F mode) (result : Result StreamingStats)
    (c : StreamWorld F mode) (hab : ControlMoves a b) (h : Stopped b result c) :
    Stopped a result c := by
  cases result with
  | ok value =>
    obtain ⟨hstats, hstate, m, hmoves, hpauses⟩ := h
    exact ⟨hstats, hstate, m, hab.trans hmoves, hpauses⟩
  | error e => exact hab.trans h

theorem callPost_compose (found : Option ℕ) (call : StreamCall mode) (a b : StreamWorld F mode)
    (result : Result call.Value) (c : StreamWorld F mode) (hab : ControlMoves a b)
    (h : CallPost found call b result c) : CallPost found call a result c := by
  cases call with
  | start => exact makes_compose a b result c hab h
  | stop => exact stopped_compose a b result c hab h
  | close => exact closed_compose a b result c hab h
  | waitBlock => exact makes_compose a b result c hab h

theorem cleanedUp_compose (a b : StreamWorld F mode) (value : Unit) (c : StreamWorld F mode)
    (hab : ControlMoves a b) (h : CleanedUp b value c) : CleanedUp a value c := by
  obtain ⟨m, result, hmoves, hoff, hc⟩ := h
  exact ⟨m, result, hab.trans hmoves, hoff, hc⟩

/-- A call in flight is safe. -/
abbrev CallSafe (found : Option ℕ) (call : StreamCall mode)
    (flight : StreamFlight F mode (Result call.Value)) (w : StreamWorld F mode) : Prop :=
  FlightSafe StreamWorld.port StreamRely ControlMoves (CallPost found call) flight w

/-- A restart that a next-block future waits for is safe. -/
def FutureSafe (w : StreamWorld F .rawAdc) : NextBlockFuture F → Prop
  | .restarting progress =>
    Waits StreamWorld.port StreamRely ControlMoves (Makes (Restarted none)) progress w
  | _ => True

/-- A poll of an operation of a stream: what it ends with, or how it goes on. -/
theorem controlPoll {α : Type} {post : StreamWorld F mode → α → StreamWorld F mode → Prop}
    (hcompose : ∀ a b value c, ControlMoves a b → post b value c → post a value c)
    {flight : StreamFlight F mode α} {w : StreamWorld F mode}
    (hsafe : FlightSafe StreamWorld.port StreamRely ControlMoves post flight w)
    (replies : List AnyReply) :
    Segment StreamWorld.port StreamRely ControlMoves post w (flight.poll StreamWorld.port replies w) :=
  FlightSafe.poll StreamRely.refl (fun _ => ControlMoves.none) (fun _ _ _ => ControlMoves.trans)
    hcompose hsafe replies

/-- A call that has just been made is safe. -/
theorem callSafe_unpolled {w : StreamWorld F mode} (hinv : StreamInv w) (call : StreamCall mode) :
    CallSafe (StreamPhase.foundEndpoint w.receiver) call
      (.unpolled (call.operation w).denote) w := by
  intro w' hr
  have hinv' := hinv.rely hr
  cases call with
  | start =>
    rw [← hr.receiver]
    exact start_safe hinv'
  | stop => exact stop_safe w'
  | close => exact close_safe hinv'
  | waitBlock => exact refreshPacking_safe hinv hr

/-! ## Streams with what they have in flight -/

/-- A stream agrees with the hardware, and what it has in flight is safe.  A stream keeps its right
to clean up until it is dropped. -/
def PhaseInv (session : Session) (wire : Wire) (panic : Option Panic) :
    {mode : SampleFormat} → StreamPhase F mode → Prop
  | _, .idle receiver =>
    StreamInv (⟨session, wire, receiver, panic⟩ : StreamWorld F _) ∧
      receiver.claim.cleanupArmed = true
  | _, .operating receiver found call flight =>
    StreamInv (⟨session, wire, receiver, panic⟩ : StreamWorld F _) ∧
      receiver.claim.cleanupArmed = true ∧
      CallSafe (StreamPhase.foundBy receiver found flight) call flight
        ⟨session, wire, receiver, panic⟩
  | _, .reading receiver future =>
    StreamInv (⟨session, wire, receiver, panic⟩ : StreamWorld F _) ∧
      receiver.claim.cleanupArmed = true ∧ FutureSafe ⟨session, wire, receiver, panic⟩ future
  | _, .awaiting receiver _ =>
    StreamInv (⟨session, wire, receiver, panic⟩ : StreamWorld F _) ∧
      receiver.claim.cleanupArmed = true
  | _, .cleaning receiver flight =>
    StreamInv (⟨session, wire, receiver, panic⟩ : StreamWorld F _) ∧
      FlightSafe StreamWorld.port StreamRely ControlMoves CleanedUp flight
        ⟨session, wire, receiver, panic⟩
  | _, .gone => True

/-- Others may act between two steps of a stream. -/
theorem PhaseInv.rely {session session' : Session} {wire wire' : Wire}
    {panic panic' : Option Panic} {phase : StreamPhase F mode}
    (h : PhaseInv session wire panic phase)
    (hvalid : ValidReceive session.receive → ValidReceive session'.receive)
    (hstate : session'.state = session.state) (hwire : QuietlyExtends wire wire') : PhaseInv session' wire' panic' phase := by
  have hr : ∀ {mode : SampleFormat} (receiver : Receiver F mode),
      StreamRely ⟨session, wire, receiver, panic⟩ ⟨session', wire', receiver, panic'⟩ :=
    fun _ => ⟨rfl, hvalid, hstate, hwire⟩
  cases phase with
  | idle receiver => exact ⟨h.1.rely (hr receiver), h.2⟩
  | operating receiver found call flight =>
    exact ⟨h.1.rely (hr receiver), h.2.1,
      FlightSafe.mono_rely (fun _ _ _ => StreamRely.trans) h.2.2 (hr receiver)⟩
  | reading receiver future =>
    refine ⟨h.1.rely (hr receiver), h.2.1, ?_⟩
    cases future with
    | restarting progress =>
      exact Waits.mono_rely (fun _ _ _ => StreamRely.trans) h.2.2 (hr receiver)
    | _ => trivial
  | awaiting receiver operation => exact ⟨h.1.rely (hr receiver), h.2⟩
  | cleaning receiver flight =>
    exact ⟨h.1.rely (hr receiver),
      FlightSafe.mono_rely (fun _ _ _ => StreamRely.trans) h.2 (hr receiver)⟩
  | gone => trivial

/-- The events of a stream that is still there. -/
inductive KeptEvent (stream : ℕ) : CallEvent F mode → Prop
  | started (found : Option ℕ) (result : Result Unit) (queue : Option Queue) :
      KeptEvent stream (.started stream found result queue)
  | stopped (result : Result StreamingStats) : KeptEvent stream (.stopped stream result)
  | block (result : Result (Option SampleBlock)) (queue : Option Queue) :
      KeptEvent stream (.block stream result queue)
  | samples (result : Result (List (Complex F))) (queue : Option Queue) :
      KeptEvent stream (.samples stream result queue)

/-- What a step of a stream leads to: it stays, it is dropped and cleans up, or it gives its claim
back. -/
inductive Outcome (stream : ℕ) (w : StreamWorld F mode) (step : StreamStep F mode) : Prop
  | kept {w' : StreamWorld F mode} (hmoves : Moves w w') (hsession : step.session = w.session)
      (hwire : step.wire = w'.wire) (hreceiver : step.phase.receiver? = some w'.receiver)
      (hinv : PhaseInv step.session step.wire step.panic step.phase)
      (hevents : ∀ event ∈ step.events, KeptEvent stream event)
  | dropped {w' : StreamWorld F mode} (hmoves : Moves w w') (hsession : step.session = w.session)
      (hwire : step.wire = w'.wire) {receiver : Receiver F mode}
      (hreceiver : step.phase.receiver? = some receiver) (hqueue : receiver.queue = none)
      (hinv : PhaseInv step.session step.wire step.panic step.phase)
      (hevents : ∀ event ∈ step.events, ∃ result, event = .closed stream result)
  | released {w' : StreamWorld F mode} (hmoves : Moves w w') (claim : ClaimAvailability)
      (hsession : step.session = w.session.setClaim claim) (hwire : step.wire = w'.wire)
      (hpanic : step.panic = w.panic) (hphase : step.phase = .gone) (hheld : claim ≠ .held)
      (hoff : claim = .available → ReceiverOff w'.wire)
      (hevents : ∀ event ∈ step.events,
        event = .cleanedUp stream claim ∨ ∃ result, event = .closed stream result)

/-- A step that panics leaves the stream where it was. -/
theorem outcome_panic (stream : ℕ) {w : StreamWorld F mode} {phase : StreamPhase F mode}
    (panic : Panic) (hinv : PhaseInv w.session w.wire w.panic phase)
    (hreceiver : phase.receiver? = some w.receiver) :
    Outcome stream w (.of (w.raise panic) phase []) :=
  .kept .none rfl rfl hreceiver (hinv.rely id rfl (QuietlyExtends.refl _))
    fun _ h => absurd h List.not_mem_nil

/-- A stream that is idle again after its moves. -/
theorem outcome_idle {stream : ℕ} {w w' : StreamWorld F mode} (hinv : StreamInv w)
    (harmed : w.receiver.claim.cleanupArmed = true) (hmoves : Moves w w')
    {events : List (CallEvent F mode)}
    (hevents : ∀ event ∈ events, KeptEvent stream event) :
    Outcome stream w (.of w' (.idle w'.receiver) events) :=
  .kept hmoves hmoves.sameOwner.session rfl rfl
    ⟨hinv.moves hmoves, hmoves.sameOwner.armed.trans harmed⟩ hevents

/-- A stream that is idle again, with one event. -/
theorem outcome_event {stream : ℕ} {w w' : StreamWorld F mode} (hinv : StreamInv w)
    (harmed : w.receiver.claim.cleanupArmed = true) (hmoves : Moves w w')
    {event : CallEvent F mode} (hevent : KeptEvent stream event) :
    Outcome stream w (.of w' (.idle w'.receiver) [event]) :=
  outcome_idle hinv harmed hmoves fun _ h => List.mem_singleton.mp h ▸ hevent

/-! ## Dropping -/

/-- The stream that a cleanup starts from has no queue left. -/
theorem cleanup_inv {w : StreamWorld F mode} (hvalid : ValidReceive w.session.receive)
    (hqueue : w.receiver.queue = none)
    (hoff : w.receiver.claim.receiver = .stopped → ReceiverOff w.wire)
    (hunused : w.receiver.claim.receiver = .stopped →
      w.receiver.processor = Processor.default mode) :
    StreamInv (RxStreamClaim.cleanup w).1 := by
  show StreamInv (w.setClaim
    { receiver := w.receiver.claim.beginStop.2.receiver, cleanupArmed := false })
  by_cases hstate : w.receiver.claim.receiver = .stopped
  · rw [beginStop_of_stopped hstate, hstate]
    refine ⟨hvalid, fun queue h => ?_, (nomatch ·), fun _ => hoff hstate, fun _ queue _ h => ?_,
      fun _ => hunused hstate⟩
    · exact nomatch hqueue.symm.trans h
    · exact nomatch hqueue.symm.trans h
  · rw [beginStop_of_ne hstate]
    exact .of_cleanupRequired hvalid rfl fun queue h => nomatch hqueue.symm.trans h

/-- A claim without a queue is dropped: what is left of the stream cleans up. -/
theorem dropClaim_outcome {w w' m : StreamWorld F mode} (hinv : StreamInv w)
    (hmoves : Moves w w') (hsession : m.session = w.session) (hwire : m.wire = w'.wire)
    (hqueue : m.receiver.queue = none) (harmed : m.receiver.claim.cleanupArmed = true)
    (hoff : m.receiver.claim.receiver = .stopped → ReceiverOff m.wire)
    (hunused : m.receiver.claim.receiver = .stopped →
      m.receiver.processor = Processor.default mode) {stream : ℕ}
    {events : List (CallEvent F mode)}
    (hevents : ∀ event ∈ events, ∃ result, event = .closed stream result) :
    Outcome stream w (StreamPhase.dropClaim m events) := by
  unfold StreamPhase.dropClaim
  rw [if_pos harmed]
  exact .dropped hmoves hsession hwire rfl hqueue
    ⟨cleanup_inv (by rw [hsession]; exact hinv.valid) hqueue hoff hunused,
      fun w'' hr => cleanup_safe hoff hr⟩ hevents

/-- A stream is dropped, or the close operation that it has been moved into. -/
theorem dropReceiver_outcome {w : StreamWorld F mode} (hinv : StreamInv w)
    (harmed : w.receiver.claim.cleanupArmed = true) (stream : ℕ) :
    Outcome stream w (StreamPhase.dropReceiver w []) := by
  unfold StreamPhase.dropReceiver
  generalize hm : (w.onReceiver fun receiver => { receiver with queue := none }) = m
  have hsession : m.session = w.session := by rw [← hm]; rfl
  have hwire : m.wire = w.wire := by rw [← hm]; rfl
  have hqueue : m.receiver.queue = none := by rw [← hm]; rfl
  have hclaim : m.receiver.claim = w.receiver.claim := by rw [← hm]; rfl
  have hprocessor : m.receiver.processor = w.receiver.processor := by rw [← hm]; rfl
  refine dropClaim_outcome hinv .none hsession hwire hqueue ?_ ?_ ?_
    fun _ h => absurd h List.not_mem_nil
  · rw [hclaim]
    exact harmed
  · rw [hclaim, hwire]
    exact hinv.stopped
  · rw [hclaim, hprocessor]
    exact hinv.unused

/-! ## Polling -/

/-- The result of a call is handed over. -/
theorem finishCall_outcome {w w' : StreamWorld F mode} (stream : ℕ) (found : Option ℕ)
    (arrivals : List Arrival) (call : StreamCall mode) (result : Result call.Value)
    (hinv : StreamInv w) (harmed : w.receiver.claim.cleanupArmed = true)
    (hpost : CallPost found call w result w') {step : StreamStep F mode}
    (hstep : StreamPhase.finishCall stream found arrivals call result w' = .ok step) :
    Outcome stream w step := by
  cases call with
  | start =>
    cases hstep
    exact outcome_event hinv harmed hpost.1.moves (.started _ _ _)
  | stop =>
    cases hstep
    exact outcome_event hinv harmed hpost.moves (.stopped _)
  | close =>
    cases hstep
    have hevents : ∀ event ∈ ([.closed stream result] : List (CallEvent F mode)),
        ∃ result, event = .closed stream result :=
      fun _ h => ⟨result, List.mem_singleton.mp h⟩
    cases result with
    | ok stats =>
      obtain ⟨m, hcontrol, hoff, _, rfl⟩ := hpost
      have hmoves := hcontrol.moves
      exact .released hmoves .available (congrArg (Session.setClaim .available)
        hmoves.sameOwner.session) rfl hmoves.sameOwner.panic rfl ClaimAvailability.noConfusion
        (fun _ => hoff) fun event h => .inr (hevents event h)
    | error e =>
      obtain ⟨hcontrol, hqueue⟩ := hpost
      have hmoves := hcontrol.moves
      exact dropClaim_outcome hinv hmoves hmoves.sameOwner.session rfl hqueue
        (hmoves.sameOwner.armed.trans harmed) (hinv.moves hmoves).stopped
        (hinv.moves hmoves).unused hevents
  | waitBlock =>
    obtain ⟨hcontrol, hrestarted⟩ := hpost
    have hmoves := hcontrol.moves
    cases result with
    | error e =>
      cases hstep
      exact outcome_event hinv harmed hmoves (.block _ _)
    | ok value =>
      obtain ⟨⟨block, w'', rest⟩, hwait, hstep⟩ := bind_ok hstep
      cases hstep
      have hmoves' := waitNextBlock_moves (hinv.moves hmoves) (hrestarted rfl).1 hwait
      exact outcome_event hinv harmed (hmoves.trans hmoves') (.block _ _)

/-- **Polling a call of a stream.** -/
theorem pollCall_outcome {w : StreamWorld F mode} (stream : ℕ) (found : Option ℕ)
    (replies : List AnyReply) (arrivals : List Arrival) (call : StreamCall mode)
    (flight : StreamFlight F mode (Result call.Value)) (hinv : StreamInv w)
    (harmed : w.receiver.claim.cleanupArmed = true)
    (hsafe : CallSafe (StreamPhase.foundBy w.receiver found flight) call flight w)
    {step : StreamStep F mode}
    (hstep : StreamPhase.pollCall stream (StreamPhase.foundBy w.receiver found flight) arrivals call
      (flight.poll StreamWorld.port replies w) = .ok step) : Outcome stream w step := by
  have hpoll := controlPoll (callPost_compose _ call) hsafe replies
  generalize flight.poll StreamWorld.port replies w = outcome at hpoll hstep
  obtain ⟨progress, w'⟩ := outcome
  cases progress with
  | finished result => exact finishCall_outcome stream _ arrivals call result hinv harmed hpoll hstep
  | waiting ticket request next =>
    cases hstep
    obtain ⟨hcontrol, hwaits⟩ := hpoll
    have hmoves := hcontrol.moves
    exact .kept hmoves hmoves.sameOwner.session rfl rfl
      ⟨hinv.moves hmoves, hmoves.sameOwner.armed.trans harmed, hwaits⟩
      fun _ h => absurd h List.not_mem_nil

/-- **Polling the cleanup of a dropped stream.** -/
theorem pollCleanup_outcome {w : StreamWorld F mode} (stream : ℕ) (replies : List AnyReply)
    (flight : StreamFlight F mode Unit) (hinv : StreamInv w)
    (hsafe : FlightSafe StreamWorld.port StreamRely ControlMoves CleanedUp flight w) :
    Outcome stream w (StreamPhase.pollCleanup stream (flight.poll StreamWorld.port replies w)) := by
  have hpoll := controlPoll cleanedUp_compose hsafe replies
  generalize flight.poll StreamWorld.port replies w = outcome at hpoll
  obtain ⟨progress, w'⟩ := outcome
  cases progress with
  | finished value =>
    obtain ⟨m, result, hcontrol, hoff, rfl⟩ := hpoll
    have hmoves := hcontrol.moves
    refine .released hmoves (if result.isOk then .available else .cleanupRequired)
      (congrArg (Session.setClaim _) hmoves.sameOwner.session) rfl hmoves.sameOwner.panic rfl ?_ ?_
      fun _ h => .inl (List.mem_singleton.mp h)
    · split <;> exact ClaimAvailability.noConfusion
    · intro hclaim
      refine hoff ?_
      cases result with
      | ok value => rfl
      | error e => exact nomatch hclaim
  | waiting ticket request next =>
    obtain ⟨hcontrol, hwaits⟩ := hpoll
    have hmoves := hcontrol.moves
    exact .kept hmoves hmoves.sameOwner.session rfl rfl ⟨hinv.moves hmoves, hwaits⟩
      fun _ h => absurd h List.not_mem_nil

/-! ## The next-block future -/

/-- The wait for a completion makes moves. -/
theorem fill_moves {w w' : StreamWorld F .rawAdc} {waiting last future : NextBlockFuture F}
    {arrivals rest : List Arrival} {result : Option (Result (Option SampleBlock))}
    (hinv : StreamInv w)
    (h : NextBlockFuture.fill waiting last w arrivals = .ok (result, future, w', rest)) :
    Moves w w' := by
  obtain ⟨⟨filled, w₁, rest₁⟩, hpoll, h⟩ := bind_ok h
  have hmoves := pollNextBlock_moves hinv hpoll
  match filled, h with
  | none, h => cases h; exact hmoves
  | some (.error e), h => cases h; exact hmoves
  | some (.ok _), h =>
    obtain ⟨block, _, h⟩ := bind_ok h
    cases h
    exact hmoves

/-- The wait for a completion goes on, or it leaves the future in its last state. -/
theorem fill_future {w w' : StreamWorld F .rawAdc} {waiting last future : NextBlockFuture F}
    {arrivals rest : List Arrival} {result : Option (Result (Option SampleBlock))}
    (h : NextBlockFuture.fill waiting last w arrivals = .ok (result, future, w', rest)) :
    future = if result.isSome then last else waiting := by
  obtain ⟨⟨filled, w₁, rest₁⟩, _, h⟩ := bind_ok h
  match filled, h with
  | none, h => cases h; rfl
  | some (.error e), h => cases h; rfl
  | some (.ok _), h =>
    obtain ⟨block, _, h⟩ := bind_ok h
    cases h
    rfl

/-- A restart goes on, and when it succeeds the wait for a completion begins. -/
theorem restart_moves {w w₁ w' : StreamWorld F .rawAdc} {future : NextBlockFuture F}
    {progress : StreamProgress F .rawAdc (Result Unit)} {arrivals rest : List Arrival}
    {result : Option (Result (Option SampleBlock))} (hinv : StreamInv w)
    (hsegment : Segment StreamWorld.port StreamRely ControlMoves (Makes (Restarted none)) w
      (progress, w₁))
    (h : NextBlockFuture.restart progress w₁ arrivals = .ok (result, future, w', rest)) :
    Moves w w' ∧ FutureSafe w' future := by
  match progress, hsegment, h with
  | .waiting ticket request next, hsegment, h =>
    cases h
    exact ⟨hsegment.1.moves, hsegment.2⟩
  | .finished (.error e), hsegment, h =>
    cases h
    exact ⟨hsegment.1.moves, trivial⟩
  | .finished (.ok _), hsegment, h =>
    refine ⟨hsegment.1.moves.trans (fill_moves (hinv.moves hsegment.1.moves) h), ?_⟩
    rw [fill_future h]
    split <;> trivial

/-- The first poll of a restart. -/
theorem beginRestart_segment {w : StreamWorld F .rawAdc} (hinv : StreamInv w)
    (replies : List AnyReply) :
    Segment StreamWorld.port StreamRely ControlMoves (Makes (Restarted none)) w
      (NextBlockFuture.beginRestart w replies) := by
  have hrestart : FlightSafe StreamWorld.port StreamRely ControlMoves (Makes (Restarted none))
      (.unpolled (Receiver.refreshPacking w).denote) w :=
    fun w'' hr => refreshPacking_safe hinv hr
  exact controlPoll makes_compose hrestart replies

/-- A further poll of a restart. -/
theorem restarting_segment {w : StreamWorld F .rawAdc}
    {progress : StreamProgress F .rawAdc (Result Unit)} (hsafe : FutureSafe w (.restarting progress))
    (replies : List AnyReply) :
    Segment StreamWorld.port StreamRely ControlMoves (Makes (Restarted none)) w
      (progress.resumeAll StreamWorld.port replies w) := by
  have hrestart : FlightSafe StreamWorld.port StreamRely ControlMoves (Makes (Restarted none))
      (.polled progress) w := hsafe
  exact controlPoll makes_compose hrestart replies

/-- **A poll of a next-block future** makes moves, and a restart in it stays safe. -/
theorem futurePoll_moves {w w' : StreamWorld F .rawAdc} {future future' : NextBlockFuture F}
    {replies : List AnyReply} {arrivals rest : List Arrival}
    {result : Option (Result (Option SampleBlock))} (hinv : StreamInv w)
    (hsafe : FutureSafe w future)
    (h : future.poll w replies arrivals = .ok (result, future', w', rest)) :
    Moves w w' ∧ FutureSafe w' future' := by
  cases future with
  | direct =>
    unfold NextBlockFuture.poll at h
    dsimp only at h
    split at h
    · exact restart_moves hinv (beginRestart_segment hinv replies) h
    · refine ⟨fill_moves hinv h, ?_⟩
      rw [fill_future h]
      split <;> trivial
  | restarting progress => exact restart_moves hinv (restarting_segment hsafe replies) h
  | filling =>
    refine ⟨fill_moves hinv h, ?_⟩
    rw [fill_future h]
    split <;> trivial
  | completed => exact nomatch h
  | returned => exact nomatch h

/-- **Polling a next-block future.** -/
theorem pollNextBlock_outcome {w : StreamWorld F .rawAdc} (stream : ℕ) {future : NextBlockFuture F}
    {replies : List AnyReply} {arrivals : List Arrival} {outcome : NextBlockFuture.Outcome F}
    (hinv : StreamInv w) (harmed : w.receiver.claim.cleanupArmed = true)
    (hsafe : FutureSafe w future) (h : future.poll w replies arrivals = .ok outcome) :
    Outcome stream w (StreamPhase.pollNextBlock stream outcome) := by
  obtain ⟨result, future', w', rest⟩ := outcome
  obtain ⟨hmoves, hfuture⟩ := futurePoll_moves hinv hsafe h
  have hinv' := hinv.moves hmoves
  have harmed' := hmoves.sameOwner.armed.trans harmed
  cases result with
  | none =>
    exact .kept hmoves hmoves.sameOwner.session rfl rfl ⟨hinv', harmed', hfuture⟩
      fun _ h => absurd h List.not_mem_nil
  | some result =>
    refine .kept hmoves hmoves.sameOwner.session rfl rfl ⟨hinv', harmed', hfuture⟩ fun event h => ?_
    rw [List.mem_singleton.mp h]
    exact .block _ _

/-- **Polling a read future.** -/
theorem readOperation_outcome {w : StreamWorld F .f32Iq} (stream : ℕ) {operation : ReadOperation}
    {arrivals : List Arrival} {outcome : ReadOperation.Outcome F} (hinv : StreamInv w)
    (harmed : w.receiver.claim.cleanupArmed = true)
    (h : operation.poll w arrivals = .ok outcome) :
    Outcome stream w (StreamPhase.pollRead stream outcome) := by
  obtain ⟨polled, operation', w', rest⟩ := outcome
  obtain ⟨_, _, hread⟩ := readOperation_ok h
  have hmoves := pollRead_moves hinv hread
  have hleft := And.intro (hinv.moves hmoves) (hmoves.sameOwner.armed.trans harmed)
  cases polled with
  | none =>
    exact .kept hmoves hmoves.sameOwner.session rfl rfl hleft fun _ h => absurd h List.not_mem_nil
  | some result =>
    refine .kept hmoves hmoves.sameOwner.session rfl rfl hleft fun event h => ?_
    rw [List.mem_singleton.mp h]
    exact .samples _ _

/-! ## Every step of a stream -/

/-- A step takes a stream that is not gone to one of the outcomes. -/
def Steps (stream : ℕ) (session : Session) (wire : Wire) (panic : Option Panic)
    (phase : StreamPhase F mode) (step : StreamStep F mode) : Prop :=
  ∃ receiver, phase.receiver? = some receiver ∧
    Outcome stream ⟨session, wire, receiver, panic⟩ step

/-- A checked step leads to an outcome when it leads to one without a panic. -/
theorem ofChecked_outcome {stream : ℕ} {w : StreamWorld F mode} {phase : StreamPhase F mode}
    {step : Checked (StreamStep F mode)} (hinv : PhaseInv w.session w.wire w.panic phase)
    (hreceiver : phase.receiver? = some w.receiver)
    (h : ∀ result, step = .ok result → Outcome stream w result) :
    Outcome stream w (.ofChecked w phase step) := by
  cases step with
  | ok result => exact h result rfl
  | error panic => exact outcome_panic stream panic hinv hreceiver

/-- **Polling a stream.** -/
theorem poll_steps {session : Session} {wire : Wire} {panic : Option Panic}
    {phase : StreamPhase F mode} (hinv : PhaseInv session wire panic phase) (stream : ℕ)
    (replies : List AnyReply) (arrivals : List Arrival) {step : StreamStep F mode}
    (h : phase.poll stream replies arrivals
      (fun receiver => ⟨session, wire, receiver, panic⟩) = some step) :
    Steps stream session wire panic phase step := by
  cases phase with
  | operating receiver found call flight =>
    obtain rfl := Option.some.inj h
    refine ⟨receiver, rfl, ofChecked_outcome hinv rfl fun result hresult => ?_⟩
    exact pollCall_outcome stream found replies arrivals call flight hinv.1 hinv.2.1 hinv.2.2
      hresult
  | reading receiver future =>
    obtain rfl := Option.some.inj h
    refine ⟨receiver, rfl, ofChecked_outcome hinv rfl fun result hresult => ?_⟩
    obtain ⟨outcome, hpoll, rfl⟩ := map_ok hresult
    exact pollNextBlock_outcome stream hinv.1 hinv.2.1 hinv.2.2 hpoll
  | awaiting receiver operation =>
    obtain rfl := Option.some.inj h
    refine ⟨receiver, rfl, ofChecked_outcome hinv rfl fun result hresult => ?_⟩
    obtain ⟨outcome, hpoll, rfl⟩ := map_ok hresult
    exact readOperation_outcome stream hinv.1 hinv.2 hpoll
  | cleaning receiver flight =>
    obtain rfl := Option.some.inj h
    exact ⟨receiver, rfl, pollCleanup_outcome stream replies flight hinv.1 hinv.2⟩
  | idle receiver => exact nomatch h
  | gone => exact nomatch h

/-- **Dropping what a stream has in flight.** -/
theorem cancel_steps {session : Session} {wire : Wire} {panic : Option Panic}
    {phase : StreamPhase F mode} (hinv : PhaseInv session wire panic phase) (stream : ℕ)
    {step : StreamStep F mode}
    (h : phase.cancel (fun receiver => ⟨session, wire, receiver, panic⟩) = some step) :
    Steps stream session wire panic phase step := by
  cases phase with
  | operating receiver found call flight =>
    refine ⟨receiver, rfl, ?_⟩
    cases call with
    | close =>
      obtain rfl := Option.some.inj h
      exact dropReceiver_outcome hinv.1 hinv.2.1 stream
    | start | stop | waitBlock =>
      obtain rfl := Option.some.inj h
      exact outcome_idle hinv.1 hinv.2.1 .none fun _ h => absurd h List.not_mem_nil
  | reading receiver future =>
    obtain rfl := Option.some.inj h
    exact ⟨receiver, rfl, outcome_idle hinv.1 hinv.2.1 .none fun _ h => absurd h List.not_mem_nil⟩
  | awaiting receiver operation =>
    obtain rfl := Option.some.inj h
    exact ⟨receiver, rfl, outcome_idle hinv.1 hinv.2 .none fun _ h => absurd h List.not_mem_nil⟩
  | cleaning receiver flight => exact nomatch h
  | idle receiver => exact nomatch h
  | gone => exact nomatch h

/-- An idle stream is used. -/
theorem onIdle_steps {session : Session} {wire : Wire} {panic : Option Panic}
    {phase : StreamPhase F mode} (hinv : PhaseInv session wire panic phase) {stream : ℕ}
    {use : StreamWorld F mode → StreamStep F mode}
    (huse : ∀ w : StreamWorld F mode, StreamInv w → w.receiver.claim.cleanupArmed = true →
      Outcome stream w (use w)) {step : StreamStep F mode}
    (h : phase.onIdle use (fun receiver => ⟨session, wire, receiver, panic⟩) = some step) :
    Steps stream session wire panic phase step := by
  cases phase with
  | idle receiver =>
    obtain rfl := Option.some.inj h
    exact ⟨receiver, rfl, huse _ hinv.1 hinv.2⟩
  | operating receiver found call flight => exact nomatch h
  | reading receiver future => exact nomatch h
  | awaiting receiver operation => exact nomatch h
  | cleaning receiver flight => exact nomatch h
  | gone => exact nomatch h

/-! ## The uses of an idle stream -/

theorem callStream_outcome {w : StreamWorld F mode} (hinv : StreamInv w)
    (harmed : w.receiver.claim.cleanupArmed = true) (stream : ℕ) (call : StreamCall mode) :
    Outcome stream w
      (.of w (.operating w.receiver none call (.unpolled (call.operation w).denote)) []) :=
  .kept .none rfl rfl rfl ⟨hinv, harmed, callSafe_unpolled hinv call⟩
    fun _ h => absurd h List.not_mem_nil

theorem nextBlock_outcome {w : StreamWorld F .rawAdc} (hinv : StreamInv w)
    (harmed : w.receiver.claim.cleanupArmed = true) (stream : ℕ) :
    Outcome stream w (.of w (.reading w.receiver .direct) []) :=
  .kept .none rfl rfl rfl ⟨hinv, harmed, trivial⟩ fun _ h => absurd h List.not_mem_nil

theorem read_outcome {w : StreamWorld F .f32Iq} (hinv : StreamInv w)
    (harmed : w.receiver.claim.cleanupArmed = true) (stream room : ℕ) :
    Outcome stream w (.of w (.awaiting w.receiver (.read room)) []) :=
  .kept .none rfl rfl rfl ⟨hinv, harmed⟩ fun _ h => absurd h List.not_mem_nil

theorem pollRead_outcome {w : StreamWorld F .f32Iq} (hinv : StreamInv w)
    (harmed : w.receiver.claim.cleanupArmed = true) (stream room : ℕ) (arrivals : List Arrival) :
    Outcome stream w (.ofChecked w (.idle w.receiver)
      ((Receiver.pollRead w room arrivals).map fun (result, w, _) =>
        .of w (.idle w.receiver) (result.toList.map fun result =>
          .samples stream result w.receiver.queue))) := by
  refine ofChecked_outcome ⟨hinv, harmed⟩ rfl fun step hstep => ?_
  obtain ⟨⟨polled, w', rest⟩, hread, rfl⟩ := map_ok hstep
  refine outcome_idle hinv harmed (pollRead_moves hinv hread) fun event hevent => ?_
  obtain ⟨result, _, rfl⟩ := List.mem_map.mp hevent
  exact .samples _ _

theorem readBlocking_outcome {w : StreamWorld F .f32Iq} (hinv : StreamInv w)
    (harmed : w.receiver.claim.cleanupArmed = true) (stream room : ℕ) (arrivals : List Arrival) :
    Outcome stream w (.ofChecked w (.idle w.receiver)
      ((Receiver.readBlocking w room arrivals).map fun (result, w, _) =>
        .of w (.idle w.receiver) [.samples stream result w.receiver.queue])) := by
  refine ofChecked_outcome ⟨hinv, harmed⟩ rfl fun step hstep => ?_
  obtain ⟨⟨result, w', rest⟩, hread, rfl⟩ := map_ok hstep
  exact outcome_event hinv harmed (readBlocking_moves hinv hread) (.samples _ _)

end HydraSdr.Analysis
