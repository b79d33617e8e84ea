import HydraSdr.Analysis.BufferPool
import HydraSdr.Analysis.IqRuns
import HydraSdr.Analysis.TakenCompletions

/-!
# What an action does to its stream

An action controls its stream, or it reads: it fills a queue and says what came of that.  The fills
of a reachable state never panic, so that every completion that is taken is accounted for.
-/

set_option autoImplicit false

namespace HydraSdr.Analysis

open HydraSdr.Program HydraSdr.Computation

variable {F : Type} [SampleArithmetic F] {mode : SampleFormat}

/-! ## Acts -/

/-- How many accepted buffers the beginning of a read discards because the factor has changed. -/
def readDiscards (w : StreamWorld F .f32Iq) : ℕ :=
  match w.receiver.ensureRunning, w.receiver.queue with
  | .ok _, some queue =>
    if queue.settings.decimation ≠ w.session.receive.decimation then queue.current.toList.length
    else 0
  | _, _ => 0

/-- The same for a read of a stream, which has to be idle. -/
def idleDiscards (phase : StreamPhase F .f32Iq)
    (view : Receiver F .f32Iq → StreamWorld F .f32Iq) : ℕ :=
  match phase with
  | .idle receiver => readDiscards (view receiver)
  | _ => 0

/-- The same for a poll of a stream, which has to await a read. -/
def phaseDiscards : {mode : SampleFormat} → StreamPhase F mode →
    (Receiver F mode → StreamWorld F mode) → ℕ
  | _, .awaiting receiver operation, view =>
    if operation.completed then 0 else readDiscards (view receiver)
  | _, _, _ => 0

omit [SampleArithmetic F] in
theorem phaseDiscards_awaiting (receiver : Receiver F .f32Iq) (operation : ReadOperation)
    (view : Receiver F .f32Iq → StreamWorld F .f32Iq) :
    phaseDiscards (.awaiting receiver operation) view =
      if operation.completed then 0 else readDiscards (view receiver) := rfl

/-- How many accepted buffers an action discards because the factor has changed.  A start finds
nothing to discard. -/
def actionDiscards : {mode : SampleFormat} → System F mode → Action mode → ℕ
  | _, s, .pollStream stream _ _ =>
    s.streams[stream]?.elim 0 fun phase => phaseDiscards phase s.streamWorld
  | _, s, .pollRead stream _ _ =>
    s.streams[stream]?.elim 0 fun phase => idleDiscards phase s.streamWorld
  | _, s, .readBlocking stream _ _ =>
    s.streams[stream]?.elim 0 fun phase => idleDiscards phase s.streamWorld
  | _, _, _ => 0

/-- What an action does with completions: the queue that it begins to fill with those that arrive
meanwhile, and how many of those accepted before it discards. -/
abbrev Work := Option (Queue × List Arrival) × ℕ

/-- The work of an action. -/
def actionWork (s : System F mode) (action : Action mode) : Work :=
  (actionFill s action, actionDiscards s action)

/-- What the events of an action that does not read say about the stream it leaves. -/
inductive ControlEvent (stream : ℕ) :
    {mode : SampleFormat} → StreamWorld F mode → CallEvent F mode → Prop
  | started {mode : SampleFormat} {w' : StreamWorld F mode} {found : Option ℕ}
      {result : Result Unit} (hready : result = .ok () → ReadyQueue found w') :
      ControlEvent stream w' (.started stream found result w'.receiver.queue)
  | stopped {mode : SampleFormat} {w' : StreamWorld F mode} {result : Result StreamingStats}
      (hreport : ∀ stats, result = .ok stats →
        w'.receiver.claim.receiver = .stopped ∧ stats = w'.receiver.currentStats) :
      ControlEvent stream w' (.stopped stream result)
  | closed {mode : SampleFormat} {w' : StreamWorld F mode} {result : Result StreamingStats}
      (hreport : ∀ stats, result = .ok stats → stats = w'.receiver.currentStats) :
      ControlEvent stream w' (.closed stream result)
  | cleanedUp {mode : SampleFormat} {w' : StreamWorld F mode} (claim : ClaimAvailability) :
      ControlEvent stream w' (.cleanedUp stream claim)
  | failed {w' : StreamWorld F .rawAdc} (e : Error) :
      ControlEvent stream w' (.block stream (.error e) w'.receiver.queue)

/-- What the caller of `next_block` is told about a fill. -/
inductive BlockReport (stream : ℕ) (w' : StreamWorld F .rawAdc) :
    Option (Result Unit) → List (CallEvent F .rawAdc) → Prop
  | pending : BlockReport stream w' none []
  | timeout : BlockReport stream w' none [.block stream (.ok none) w'.receiver.queue]
  | delivered {block : SampleBlock} (hblock : Receiver.currentBlock w' = .ok (.ok block)) :
      BlockReport stream w' (some (.ok ())) [.block stream (.ok (some block)) w'.receiver.queue]
  | failed (e : Error) :
      BlockReport stream w' (some (.error e)) [.block stream (.error e) w'.receiver.queue]

/-- What the caller of a read is told about a poll of it. -/
inductive ReadReport (stream : ℕ) (w' : StreamWorld F .f32Iq) :
    Option (Result (List (Complex F))) → List (CallEvent F .f32Iq) → Prop
  | pending : ReadReport stream w' none []
  | timeout : ReadReport stream w' none [.samples stream (.ok []) w'.receiver.queue]
  | returned (result : Result (List (Complex F))) :
      ReadReport stream w' (some result) [.samples stream result w'.receiver.queue]

/-- What an action does to its stream, with its work and its events. -/
inductive StreamAct (stream : ℕ) : {mode : SampleFormat} → StreamWorld F mode → Work →
    List (CallEvent F mode) → StreamWorld F mode → Prop
  | control {mode : SampleFormat} {w w' : StreamWorld F mode} {events : List (CallEvent F mode)}
      (hmoves : ControlMoves w w') (hevents : ∀ event ∈ events, ControlEvent stream w' event) :
      StreamAct stream w (none, 0) events w'
  | stops {mode : SampleFormat} {w m w' : StreamWorld F mode} (hmoves : ControlMoves w m)
      (hpauses : Pauses m w') :
      StreamAct stream w (none, 0) [.stopped stream (.ok w'.receiver.currentStats)] w'
  | blocks {w w₁ : StreamWorld F .rawAdc} {queue queue' : Queue} {arrivals rest : List Arrival}
      {result : Option (Result Unit)} {events : List (CallEvent F .rawAdc)}
      (hmoves : ControlMoves w w₁) (hstate : w₁.receiver.claim.receiver = .running)
      (hqueue : w₁.receiver.queue = some queue)
      (hfill : Queue.fillLoop arrivals queue.releaseCurrent = .ok (result, queue', rest))
      (hreport : BlockReport stream (afterFill result queue' w₁) result events) :
      StreamAct stream w (some (queue.releaseCurrent, arrivals), 0) events
        (afterFill result queue' w₁)
  | reads {w w' : StreamWorld F .f32Iq} {room : ℕ} {arrivals rest : List Arrival}
      {polled : Option (Result (List (Complex F)))} {events : List (CallEvent F .f32Iq)}
      (hread : Receiver.pollRead w room arrivals = .ok (polled, w', rest))
      (hreport : ReadReport stream w' polled events) :
      StreamAct stream w ((readFill room w).map (·, arrivals), readDiscards w) events w'

/-- The receiver of a stream that its user has not dropped. -/
def ownedReceiver : {mode : SampleFormat} → StreamPhase F mode → Option (Receiver F mode)
  | _, .idle receiver => some receiver
  | _, .operating receiver _ _ _ => some receiver
  | _, .reading receiver _ => some receiver
  | _, .awaiting receiver _ => some receiver
  | _, .cleaning _ _ => none
  | _, .gone => none

/-- What is left of a stream: the receiver that an action has left, or nothing with a queue. -/
inductive Leaves (phase : StreamPhase F mode) (receiver' : Receiver F mode) :
    StreamPhase F mode → Prop
  | kept {phase' : StreamPhase F mode} (hreceiver : phase'.receiver? = some receiver')
      (howned : (ownedReceiver phase').isSome = true → (ownedReceiver phase).isSome = true) :
      Leaves phase receiver' phase'
  | dropped {phase' : StreamPhase F mode} (howned : ownedReceiver phase' = none)
      (hqueue : ∀ receiver, phase'.receiver? = some receiver → receiver.queue = none) :
      Leaves phase receiver' phase'

/-- What is left of a stream that its user has dropped says only that it has cleaned up. -/
def OnlyCleansUp (stream : ℕ) (phase : StreamPhase F mode) (events : List (CallEvent F mode)) :
    Prop :=
  ownedReceiver phase = none → ∀ event ∈ events, ∃ claim, event = .cleanedUp stream claim

omit [SampleArithmetic F] in
theorem onlyCleansUp_owned {phase : StreamPhase F mode}
    (h : (ownedReceiver phase).isSome = true) (stream : ℕ) (events : List (CallEvent F mode)) :
    OnlyCleansUp stream phase events := by
  intro hnone
  rw [hnone] at h
  exact nomatch h

omit [SampleArithmetic F] in
theorem onlyCleansUp_nil (stream : ℕ) (phase : StreamPhase F mode) :
    OnlyCleansUp stream phase [] :=
  fun _ _ hevent => absurd hevent List.not_mem_nil

/-- A step of a stream is an act with this work. -/
def Acts (stream : ℕ) (session : Session) (wire : Wire) (panic : Option Panic)
    (phase : StreamPhase F mode) (work : Work) (step : StreamStep F mode) : Prop :=
  ∃ receiver w', phase.receiver? = some receiver ∧
    StreamAct stream ⟨session, wire, receiver, panic⟩ work step.events w' ∧
    Leaves phase w'.receiver step.phase ∧ step.wire = w'.wire ∧
    OnlyCleansUp stream phase step.events

/-- A queue whose endpoint can be asked. -/
def CanFill (queue : Queue) : Prop :=
  queue.current = none ∧ ∃ bulkIn, queue.bulkIn = some bulkIn ∧ bulkIn.pending ≠ []

omit [SampleArithmetic F] in
theorem MayAsk.canFill {queue : Queue} (h : MayAsk BufferPool.Pooled queue) : CanFill queue := by
  obtain ⟨bulkIn, hbulk, hlength⟩ := BufferPool.pending_of_mayAsk h
  refine ⟨h.current, bulkIn, hbulk, ?_⟩
  intro hnil
  rw [hnil] at hlength
  exact nomatch hlength

omit [SampleArithmetic F] in
/-- A queue that can be asked is filled without a panic. -/
theorem CanFill.fills {queue : Queue} (h : CanFill queue) (arrivals : List Arrival) :
    ∃ result queue' rest, Queue.fillLoop arrivals queue = .ok (result, queue', rest) ∧
      Fills queue arrivals result queue' rest := by
  obtain ⟨_, bulkIn, hbulk, hpending⟩ := h
  obtain ⟨⟨result, queue', rest⟩, hfill⟩ := fillLoop_total hbulk hpending arrivals
  refine ⟨result, queue', rest, hfill, fillLoop_fills ?_ hfill⟩
  rw [hbulk]
  exact Option.some_ne_none _

/-- A fill that succeeds leaves a block. -/
theorem Fills.block {queue queue' : Queue} {arrivals rest : List Arrival}
    (h : Fills queue arrivals (some (.ok ())) queue' rest) (w : StreamWorld F .rawAdc) :
    ∃ block, Receiver.currentBlock (afterFill (some (.ok ())) queue' w) = .ok (.ok block) := by
  rcases h.accepts with ⟨_, taken, _, hcurrent, hlength, hcheck⟩ | ⟨hnot, _⟩
  · apply block_of_current hcurrent
    rw [hlength]
    exact (checkCompletion_ok hcheck).2.2
  · exact absurd rfl hnot

/-! ## Blocks -/

/-- The blocking wait for a block is an act of its stream. -/
theorem waitNextBlock_act {stream : ℕ} {w w₁ : StreamWorld F .rawAdc} {queue : Queue}
    (hmoves : ControlMoves w w₁) (hstate : w₁.receiver.claim.receiver = .running)
    (hqueue : w₁.receiver.queue = some queue) (hcan : CanFill queue.releaseCurrent)
    (arrivals : List Arrival) :
    ∃ result w' rest, Receiver.waitNextBlock w₁ arrivals = .ok (result, w', rest) ∧
      StreamAct stream w (some (queue.releaseCurrent, arrivals), 0)
        [.block stream result w'.receiver.queue] w' := by
  obtain ⟨filled, queue', rest, hfill, hfills⟩ := hcan.fills arrivals
  have hwait : queue.releaseCurrent.waitFill arrivals = .ok (waitResult filled, queue', rest) := by
    rw [waitFill_fill hcan.1, hfill]
    rfl
  unfold Receiver.waitNextBlock
  simp only [hqueue, hwait, bind, Except.bind]
  match filled, hfill, hfills with
  | none, hfill, _ => exact ⟨_, _, _, rfl, .blocks hmoves hstate hqueue hfill .timeout⟩
  | some (.error e), hfill, _ =>
    exact ⟨_, _, _, rfl, .blocks hmoves hstate hqueue hfill (.failed e)⟩
  | some (.ok _), hfill, hfills =>
    obtain ⟨block, hblock⟩ := hfills.block w₁
    have hact : StreamAct stream w _ _ _ :=
      .blocks hmoves hstate hqueue hfill (.delivered hblock)
    refine ⟨_, _, rest, ?_, hact⟩
    have hblock' : Receiver.currentBlock ((w₁.setQueue queue').onReceiver
        (Receiver.failedRead (.ok true : Result Bool))) = .ok (.ok block) := hblock
    dsimp only [waitResult]
    rw [hblock']
    rfl

omit [SampleArithmetic F] in
/-- The queue that a running stream begins to fill. -/
theorem blockFill_some {w : StreamWorld F .rawAdc} {queue : Queue} (h : blockFill w = some queue) :
    w.receiver.claim.receiver = .running ∧ ∃ before, w.receiver.queue = some before ∧
      before.releaseCurrent = queue := by
  unfold blockFill at h
  split at h
  · rename_i hstate
    exact ⟨hstate, Option.map_eq_some_iff.mp h⟩
  · exact nomatch h

/-- A poll for the next block, with the queue that it fills if there is one. -/
theorem fill_act {stream : ℕ} {w w₁ : StreamWorld F .rawAdc} (hmoves : ControlMoves w w₁)
    (waiting last : NextBlockFuture F) (arrivals : List Arrival)
    (hcan : ∀ queue, blockFill w₁ = some queue → CanFill queue) :
    ∃ outcome, NextBlockFuture.fill waiting last w₁ arrivals = .ok outcome ∧
      StreamAct stream w ((blockFill w₁).map (·, arrivals), 0)
        (StreamPhase.pollNextBlock stream outcome).events outcome.2.2.1 := by
  have hpoll := pollNextBlock_fill w₁
  unfold NextBlockFuture.fill
  cases hqueue : blockFill w₁ with
  | none =>
    rw [hqueue] at hpoll
    obtain ⟨e, hpoll⟩ := hpoll
    rw [hpoll]
    refine ⟨_, rfl, .control hmoves ?_⟩
    intro event hevent
    rw [List.mem_singleton.mp hevent]
    exact .failed e
  | some queue =>
    rw [hqueue] at hpoll
    obtain ⟨filled, queue', rest, hfill, hfills⟩ := (hcan queue hqueue).fills arrivals
    have hpoll' : Receiver.pollNextBlock w₁ arrivals =
        .ok (filled, afterFill filled queue' w₁, rest) := by
      rw [hpoll arrivals, hfill]
      rfl
    obtain ⟨hstate, before, hbefore, rfl⟩ := blockFill_some hqueue
    rw [hpoll']
    match filled, hfill, hfills with
    | none, hfill, _ => exact ⟨_, rfl, .blocks hmoves hstate hbefore hfill .pending⟩
    | some (.error e), hfill, _ => exact ⟨_, rfl, .blocks hmoves hstate hbefore hfill (.failed e)⟩
    | some (.ok _), hfill, hfills =>
      obtain ⟨block, hblock⟩ := hfills.block w₁
      have hact : StreamAct stream w _ _ _ :=
        .blocks hmoves hstate hbefore hfill (.delivered hblock)
      dsimp only [bind, Except.bind]
      rw [show Receiver.currentBlock (afterFill (some (.ok ())) queue' w₁) = .ok (.ok block) from
        hblock]
      exact ⟨_, rfl, hact⟩

/-- A future that restarts the pipeline goes on, and fills when it has restarted it. -/
theorem restart_act {stream : ℕ} {w : StreamWorld F .rawAdc}
    {outcome : StreamProgress F .rawAdc (Result Unit) × StreamWorld F .rawAdc}
    (hsegment : Segment StreamWorld.port StreamRely ControlMoves (Makes (Restarted none)) w outcome)
    (arrivals : List Arrival) (hcan : ∀ queue, restartFill outcome = some queue → CanFill queue) :
    ∃ polled, NextBlockFuture.restart outcome.1 outcome.2 arrivals = .ok polled ∧
      StreamAct stream w ((restartFill outcome).map (·, arrivals), 0)
        (StreamPhase.pollNextBlock stream polled).events polled.2.2.1 := by
  obtain ⟨progress, w₁⟩ := outcome
  match progress, hsegment, hcan with
  | .waiting ticket request next, hsegment, _ =>
    exact ⟨_, rfl, .control hsegment.1 fun _ h => absurd h List.not_mem_nil⟩
  | .finished (.error e), hsegment, _ =>
    refine ⟨_, rfl, .control hsegment.1 ?_⟩
    intro event hevent
    rw [List.mem_singleton.mp hevent]
    exact .failed e
  | .finished (.ok _), hsegment, hcan => exact fill_act hsegment.1 .filling .returned arrivals hcan

/-- A next-block future has returned. -/
def futureOver : NextBlockFuture F → Bool
  | .completed => true
  | .returned => true
  | _ => false

/-- **A poll of a next-block future** is an act of its stream, unless the future has returned. -/
theorem futurePoll_act {stream : ℕ} {w : StreamWorld F .rawAdc} (hinv : StreamInv w)
    {future : NextBlockFuture F} (hsafe : FutureSafe w future) (replies : List AnyReply)
    (arrivals : List Arrival)
    (hcan : ∀ queue, futureFill future replies w = some queue → CanFill queue) :
    (futureOver future = true ∧ ∃ panic, future.poll w replies arrivals = .error panic ∧
      futureFill future replies w = none) ∨
    ∃ polled, future.poll w replies arrivals = .ok polled ∧
      StreamAct stream w ((futureFill future replies w).map (·, arrivals), 0)
        (StreamPhase.pollNextBlock stream polled).events polled.2.2.1 := by
  cases future with
  | direct =>
    unfold futureFill at hcan ⊢
    unfold NextBlockFuture.poll
    dsimp only at hcan ⊢
    by_cases hchanged : Receiver.packingChanged w = true
    · simp only [hchanged, if_true] at hcan ⊢
      exact .inr (restart_act (beginRestart_segment hinv replies) arrivals hcan)
    · simp only [hchanged, if_false, Bool.false_eq_true] at hcan ⊢
      exact .inr (fill_act .none .direct .completed arrivals hcan)
  | restarting progress =>
    exact .inr (restart_act (restarting_segment hsafe replies) arrivals hcan)
  | filling => exact .inr (fill_act .none .filling .returned arrivals hcan)
  | completed => exact .inl ⟨rfl, _, rfl, rfl⟩
  | returned => exact .inl ⟨rfl, _, rfl, rfl⟩

/-! ## Calls -/

/-- A step without an act. -/
theorem acts_nothing {stream : ℕ} {w : StreamWorld F mode} {phase phase' : StreamPhase F mode}
    (hreceiver : phase.receiver? = some w.receiver) (hleaves : Leaves phase w.receiver phase')
    {w' : StreamWorld F mode} (hwire : w'.wire = w.wire) :
    Acts stream w.session w.wire w.panic phase (none, 0) (.of w' phase' []) :=
  ⟨w.receiver, w, hreceiver, .control .none fun _ h => absurd h List.not_mem_nil, hleaves, hwire,
    onlyCleansUp_nil stream phase⟩

omit [SampleArithmetic F] in
/-- A claim that is dropped leaves nothing with a queue. -/
theorem dropClaim_leaves {w : StreamWorld F mode} (hqueue : w.receiver.queue = none)
    (phase : StreamPhase F mode) (receiver : Receiver F mode) (events : List (CallEvent F mode)) :
    (StreamPhase.dropClaim w events).events = events ∧
      Leaves phase receiver (StreamPhase.dropClaim w events).phase ∧
      (StreamPhase.dropClaim w events).wire = w.wire := by
  unfold StreamPhase.dropClaim
  split
  · refine ⟨rfl, .dropped rfl ?_, rfl⟩
    intro receiver' hreceiver'
    rw [← Option.some.inj hreceiver']
    exact hqueue
  · exact ⟨rfl, .dropped rfl fun _ h => (nomatch h), rfl⟩

/-- The events of a call that is over. -/
theorem finishCall_acts {stream : ℕ} {found : Option ℕ} {arrivals : List Arrival}
    {call : StreamCall mode} {w w' : StreamWorld F mode} {phase : StreamPhase F mode}
    (hreceiver : phase.receiver? = some w.receiver) (howned : (ownedReceiver phase).isSome = true)
    (hinv : StreamInv w) {result : Result call.Value} (hpost : CallPost found call w result w')
    (hcan : ∀ queue, waitFill call (.finished result, w') = some queue → CanFill queue) :
    ∃ step, StreamPhase.finishCall stream found arrivals call result w' = .ok step ∧
      Acts stream w.session w.wire w.panic phase
        ((waitFill call (.finished result, w')).map (·, arrivals), 0) step := by
  cases call with
  | start =>
    refine ⟨_, rfl, w.receiver, w', hreceiver, .control hpost.1 ?_, .kept rfl fun _ => howned,
      rfl, onlyCleansUp_owned howned _ _⟩
    intro event hevent
    rw [List.mem_singleton.mp hevent]
    exact .started fun hok => (hpost.2 hok).2
  | stop =>
    refine ⟨_, rfl, w.receiver, w', hreceiver, ?_, .kept rfl fun _ => howned,
      rfl, onlyCleansUp_owned howned _ _⟩
    show StreamAct stream w (none, 0) [.stopped stream result] w'
    match result, hpost with
    | .error e, hmoves =>
      refine .control hmoves ?_
      intro event hevent
      rw [List.mem_singleton.mp hevent]
      exact .stopped fun _ h => nomatch h
    | .ok stats, ⟨hstats, hstopped, m, hmoves, hends⟩ =>
      rcases hends with rfl | hpauses
      · refine .control hmoves ?_
        intro event hevent
        rw [List.mem_singleton.mp hevent]
        exact .stopped fun stats' hstats' => ⟨hstopped, (Except.ok.inj hstats').symm.trans hstats⟩
      · rw [hstats]
        exact .stops hmoves hpauses
  | close =>
    cases result with
    | ok stats =>
      obtain ⟨m, hmoves, _, hstats, rfl⟩ := hpost
      refine ⟨_, rfl, w.receiver, m, hreceiver, .control hmoves ?_,
        .dropped rfl fun _ h => (nomatch h), rfl, onlyCleansUp_owned howned _ _⟩
      intro event hevent
      rw [List.mem_singleton.mp hevent]
      exact .closed fun stats' hstats' => (Except.ok.inj hstats').symm.trans hstats
    | error e =>
      obtain ⟨hmoves, hqueue⟩ := hpost
      obtain ⟨hevents, hleaves, hwire⟩ :=
        dropClaim_leaves hqueue phase w'.receiver [.closed stream (.error e)]
      refine ⟨_, rfl, w.receiver, w', hreceiver, ?_, hleaves, hwire,
        onlyCleansUp_owned howned _ _⟩
      rw [hevents]
      refine .control hmoves ?_
      intro event hevent
      rw [List.mem_singleton.mp hevent]
      exact .closed fun _ h => nomatch h
  | waitBlock =>
    obtain ⟨hmoves, hrestarted⟩ := hpost
    match result, hrestarted, hcan with
    | .error e, _, _ =>
      refine ⟨_, rfl, w.receiver, w', hreceiver, .control hmoves ?_, .kept rfl fun _ => howned,
        rfl, onlyCleansUp_owned howned _ _⟩
      intro event hevent
      rw [List.mem_singleton.mp hevent]
      exact .failed e
    | .ok _, hrestarted, hcan =>
      have hstate := (hrestarted rfl).1
      obtain ⟨queue, hqueue, _⟩ := ((hinv.moves hmoves.moves).running hstate).2
      have hfill : waitFill (.waitBlock : StreamCall .rawAdc) (.finished (.ok ()), w') =
          some queue.releaseCurrent :=
        congrArg (Option.map Queue.releaseCurrent) hqueue
      obtain ⟨block, w'', rest, hwait, hact⟩ :=
        @waitNextBlock_act F _ stream _ w' _ hmoves hstate hqueue (hcan _ hfill) arrivals
      refine ⟨.of w'' (.idle w''.receiver) [.block stream block w''.receiver.queue], ?_,
        w.receiver, w'', hreceiver, ?_, .kept rfl fun _ => howned, rfl, onlyCleansUp_owned howned _ _⟩
      · show (Receiver.waitNextBlock w' arrivals >>= _) = _
        rw [hwait]
        rfl
      · rw [hfill]
        exact hact

/-- **A poll of a call** is an act of its stream. -/
theorem pollCall_acts {stream : ℕ} {receiver : Receiver F mode} {found : Option ℕ}
    {call : StreamCall mode} {flight : StreamFlight F mode (Result call.Value)}
    {session : Session} {wire : Wire} {panic : Option Panic}
    (hinv : PhaseInv session wire panic (.operating receiver found call flight))
    (replies : List AnyReply) (arrivals : List Arrival)
    (hcan : ∀ queue, waitFill call (flight.poll StreamWorld.port replies
      ⟨session, wire, receiver, panic⟩) = some queue → CanFill queue) :
    ∃ step, StreamPhase.pollCall stream (StreamPhase.foundBy receiver found flight) arrivals call
        (flight.poll StreamWorld.port replies ⟨session, wire, receiver, panic⟩) = .ok step ∧
      Acts stream session wire panic (.operating receiver found call flight)
        ((waitFill call (flight.poll StreamWorld.port replies
          ⟨session, wire, receiver, panic⟩)).map (·, arrivals), 0) step := by
  have hpoll := controlPoll (callPost_compose _ call) hinv.2.2 replies
  generalize flight.poll StreamWorld.port replies _ = outcome at hpoll hcan ⊢
  obtain ⟨progress, w'⟩ := outcome
  cases progress with
  | finished result =>
    exact finishCall_acts (w := ⟨session, wire, receiver, panic⟩) rfl rfl hinv.1 hpoll hcan
  | waiting ticket request next =>
    have hnone : waitFill call (.waiting ticket request next, w') = none := by
      cases call <;> rfl
    rw [hnone]
    exact ⟨_, rfl, receiver, w', rfl, .control hpoll.1 fun _ h => absurd h List.not_mem_nil,
      .kept rfl fun _ => rfl, rfl, onlyCleansUp_owned rfl _ _⟩

/-! ## Reads -/

/-- **A read of a stream** is an act of it, idle or with a read future before and after. -/
theorem read_acts {stream room : ℕ} {w : StreamWorld F .f32Iq} (hinv : StreamInv w)
    (haligned : ReadsHave Aligned w) {arrivals : List Arrival}
    (hcan : ∀ queue, readFill room w = some queue → CanFill queue)
    {phase : StreamPhase F .f32Iq} (hreceiver : phase.receiver? = some w.receiver)
    (howned : (ownedReceiver phase).isSome = true) :
    ∃ polled w' rest, Receiver.pollRead w room arrivals = .ok (polled, w', rest) ∧
      ∀ phase' events, phase'.receiver? = some w'.receiver → ReadReport stream w' polled events →
        Acts stream w.session w.wire w.panic phase
          ((readFill room w).map (·, arrivals), readDiscards w) (.of w' phase' events) := by
  have hsound := soundRead hinv haligned room arrivals
  cases hread : Receiver.pollRead w room arrivals with
  | error panic =>
    obtain ⟨queue, hfill, hloop⟩ := hsound.panic panic hread
    obtain ⟨result, queue', rest, hloop', _⟩ := (hcan queue hfill).fills arrivals
    exact nomatch hloop.symm.trans hloop'
  | ok outcome =>
    obtain ⟨polled, w', rest⟩ := outcome
    exact ⟨polled, w', rest, rfl, fun phase' events hreceiver' hreport =>
      ⟨w.receiver, w', hreceiver, .reads hread hreport, .kept hreceiver' fun _ => howned,
        rfl, onlyCleansUp_owned howned _ _⟩⟩

omit [SampleArithmetic F] in
/-- What the caller of a read future is told about a poll of it. -/
theorem pollRead_report (stream : ℕ) (operation : ReadOperation) (w' : StreamWorld F .f32Iq)
    (polled : Option (Result (List (Complex F)))) (rest : List Arrival) :
    ∃ events, StreamPhase.pollRead stream (polled, operation, w', rest) =
        .of w' (.awaiting w'.receiver operation) events ∧ ReadReport stream w' polled events := by
  cases polled with
  | none => exact ⟨_, rfl, .pending⟩
  | some result => exact ⟨_, rfl, .returned result⟩

/-- A stream that awaits a read finds its processor and its queue aligned. -/
def AwaitsAligned (session : Session) (wire : Wire) (panic : Option Panic) :
    {mode : SampleFormat} → StreamPhase F mode → Prop
  | _, .awaiting receiver _ => ReadsHave Aligned ⟨session, wire, receiver, panic⟩
  | _, _ => True

theorem reachable_awaitsAligned {config : ValidConfig mode} {s : System F mode}
    (h : System.Reachable config s) {phase : StreamPhase F mode} (hphase : phase ∈ s.streams) :
    AwaitsAligned s.session s.wire s.panic phase := by
  cases phase with
  | awaiting receiver operation => exact reachable_reads keptByReads_aligned h hphase rfl
  | _ => trivial

/-! ## Every use of a stream -/

/-- **Polling a stream** is an act of it. -/
theorem poll_acts {session : Session} {wire : Wire} {panic : Option Panic}
    {phase : StreamPhase F mode} (hinv : PhaseInv session wire panic phase)
    (haligned : AwaitsAligned session wire panic phase) {stream : ℕ}
    {replies : List AnyReply} {arrivals : List Arrival}
    (hcan : ∀ queue, phaseFill replies phase
      (fun receiver => ⟨session, wire, receiver, panic⟩) = some queue → CanFill queue)
    {step : StreamStep F mode}
    (h : phase.poll stream replies arrivals
      (fun receiver => ⟨session, wire, receiver, panic⟩) = some step) :
    Acts stream session wire panic phase ((phaseFill replies phase
      (fun receiver => ⟨session, wire, receiver, panic⟩)).map (·, arrivals),
      phaseDiscards phase fun receiver => ⟨session, wire, receiver, panic⟩) step := by
  cases phase with
  | operating receiver found call flight =>
    rw [phaseFill_operating] at hcan ⊢
    obtain ⟨step', hstep', hacts⟩ :=
      @pollCall_acts F _ mode stream _ _ _ _ _ _ _ hinv replies arrivals hcan
    obtain rfl := Option.some.inj h
    rw [hstep']
    exact hacts
  | reading receiver future =>
    rw [phaseFill_reading] at hcan ⊢
    obtain rfl := Option.some.inj h
    rcases @futurePoll_act F _ stream _ hinv.1 _ hinv.2.2 replies arrivals hcan with
      ⟨_, panicked, hpoll, hnone⟩ | ⟨polled, hpoll, hact⟩
    · rw [hpoll, hnone]
      exact acts_nothing (w := ⟨session, wire, receiver, panic⟩) rfl (.kept rfl fun _ => rfl) rfl
    · rw [hpoll]
      obtain ⟨result, future', w', rest⟩ := polled
      cases result with
      | none => exact ⟨receiver, w', rfl, hact, .kept rfl fun _ => rfl, rfl, onlyCleansUp_owned rfl _ _⟩
      | some result =>
        exact ⟨receiver, w', rfl, hact, .kept rfl fun _ => rfl, rfl, onlyCleansUp_owned rfl _ _⟩
  | awaiting receiver operation =>
    rw [phaseFill_awaiting] at hcan ⊢
    rw [phaseDiscards_awaiting]
    unfold operationFill at hcan ⊢
    obtain rfl := Option.some.inj h
    cases hover : operation.completed with
    | true =>
      rw [readOperation_again hover, if_pos rfl, if_pos rfl]
      exact acts_nothing (w := ⟨session, wire, receiver, panic⟩) rfl (.kept rfl fun _ => rfl) rfl
    | false =>
      rw [hover, if_neg Bool.false_ne_true] at hcan
      rw [if_neg Bool.false_ne_true, if_neg Bool.false_ne_true]
      obtain ⟨polled, w', rest, hread, hacts⟩ := @read_acts F _ stream operation.room
        ⟨session, wire, receiver, panic⟩ hinv.1 haligned arrivals hcan
        (.awaiting receiver operation) rfl rfl
      rw [readOperation_poll hover, hread]
      obtain ⟨events, hstep, hreport⟩ :=
        pollRead_report stream (afterRead operation polled) w' polled rest
      show Acts _ _ _ _ _ _ (StreamPhase.pollRead stream _)
      rw [hstep]
      exact hacts (.awaiting w'.receiver (afterRead operation polled)) events rfl hreport
  | cleaning receiver flight =>
    obtain rfl := Option.some.inj h
    have hpoll := controlPoll cleanedUp_compose hinv.2 replies
    generalize flight.poll StreamWorld.port replies _ = outcome at hpoll ⊢
    obtain ⟨progress, w'⟩ := outcome
    cases progress with
    | finished value =>
      obtain ⟨m, result, hmoves, _, rfl⟩ := hpoll
      refine ⟨receiver, m, rfl, .control hmoves ?_, .dropped rfl fun _ h => (nomatch h), rfl, ?_⟩
      · intro event hevent
        rw [List.mem_singleton.mp hevent]
        exact .cleanedUp _
      · intro _ event hevent
        exact ⟨_, List.mem_singleton.mp hevent⟩
    | waiting ticket request next =>
      exact ⟨receiver, w', rfl, .control hpoll.1 fun _ h => absurd h List.not_mem_nil,
        .kept rfl id, rfl, onlyCleansUp_nil stream _⟩
  | idle receiver => exact nomatch h
  | gone => exact nomatch h

omit [SampleArithmetic F] in
/-- A stream that is dropped leaves nothing with a queue. -/
theorem dropReceiver_leaves (w : StreamWorld F mode) (phase : StreamPhase F mode)
    (receiver : Receiver F mode) :
    (StreamPhase.dropReceiver w []).events = [] ∧
      Leaves phase receiver (StreamPhase.dropReceiver w []).phase ∧
      (StreamPhase.dropReceiver w []).wire = w.wire := by
  unfold StreamPhase.dropReceiver
  exact dropClaim_leaves rfl phase receiver []

theorem dropReceiver_acts {stream : ℕ} {w : StreamWorld F mode} {phase : StreamPhase F mode}
    (hreceiver : phase.receiver? = some w.receiver) :
    Acts stream w.session w.wire w.panic phase (none, 0) (StreamPhase.dropReceiver w []) := by
  obtain ⟨hevents, hleaves, hwire⟩ := dropReceiver_leaves w phase w.receiver
  refine ⟨w.receiver, w, hreceiver, ?_, hleaves, hwire, ?_⟩
  · rw [hevents]
    exact .control .none fun _ h => absurd h List.not_mem_nil
  · rw [hevents]
    exact onlyCleansUp_nil stream phase

/-- **Dropping what a stream has in flight** is an act of it. -/
theorem cancel_acts {session : Session} {wire : Wire} {panic : Option Panic}
    {phase : StreamPhase F mode} (stream : ℕ) {step : StreamStep F mode}
    (h : phase.cancel (fun receiver => ⟨session, wire, receiver, panic⟩) = some step) :
    Acts stream session wire panic phase (none, 0) step := by
  cases phase with
  | operating receiver found call flight =>
    cases call with
    | close =>
      obtain rfl := Option.some.inj h
      exact dropReceiver_acts (w := ⟨session, wire, receiver, panic⟩) rfl
    | start | stop | waitBlock =>
      obtain rfl := Option.some.inj h
      exact acts_nothing (w := ⟨session, wire, receiver, panic⟩) rfl (.kept rfl fun _ => rfl) rfl
  | reading receiver future =>
    obtain rfl := Option.some.inj h
    exact acts_nothing (w := ⟨session, wire, receiver, panic⟩) rfl (.kept rfl fun _ => rfl) rfl
  | awaiting receiver operation =>
    obtain rfl := Option.some.inj h
    exact acts_nothing (w := ⟨session, wire, receiver, panic⟩) rfl (.kept rfl fun _ => rfl) rfl
  | cleaning receiver flight => exact nomatch h
  | idle receiver => exact nomatch h
  | gone => exact nomatch h

/-! ## Every action -/

/-- The stream that an action uses. -/
def actionStream : Action mode → Option ℕ
  | .callStream stream _ => some stream
  | .pollStream stream _ _ => some stream
  | .cancelStream stream => some stream
  | .dropStream stream => some stream
  | .nextBlock stream => some stream
  | .read stream _ => some stream
  | .pollRead stream _ _ => some stream
  | .readBlocking stream _ _ => some stream
  | _ => none

/-- An event that is about no stream. -/
def ApartEvent : CallEvent F mode → Prop
  | .opened _ => True
  | .device _ _ => True
  | .acquired _ => True
  | _ => False

/-- What an action does: it leaves the streams alone or adds one, or it is an act of its stream. -/
inductive Acted (s : System F mode) (action : Action mode) : System F mode → Prop
  | apart {s' : System F mode} {events : List (CallEvent F mode)}
      (hwork : actionWork s action = (none, 0))
      (hstreams : s'.streams = s.streams ∨
        ∃ claim, s'.streams = s.streams ++ [.idle (Receiver.new claim)])
      (hhistory : s'.history = s.history ++ events) (hevents : ∀ event ∈ events, ApartEvent event) :
      Acted s action s'
  | acts {stream : ℕ} {phase : StreamPhase F mode} {step : StreamStep F mode}
      (hstream : actionStream action = some stream) (hphase : s.streams[stream]? = some phase)
      (hacts : Acts stream s.session s.wire s.panic phase (actionWork s action) step) :
      Acted s action (s.putStream stream step)

/-- Nothing happens. -/
theorem acted_same {s s' : System F mode} {action : Action mode}
    (hwork : actionWork s action = (none, 0)) (hstreams : s'.streams = s.streams)
    (hhistory : s'.history = s.history) : Acted s action s' :=
  .apart hwork (.inl hstreams) (hhistory.trans (List.append_nil _).symm)
    fun _ h => absurd h List.not_mem_nil

/-- A step of the device leaves the streams alone. -/
theorem acted_putDevice {s : System F mode} {action : Action mode}
    (hwork : actionWork s action = (none, 0)) (w : DeviceWorld mode) (phase : DevicePhase mode)
    {events : List (CallEvent F mode)} (hevents : ∀ event ∈ events, ApartEvent event) :
    Acted s action (s.putDevice w phase events) :=
  .apart hwork (.inl rfl) rfl hevents

theorem pollDevice_acted (s : System F mode) (replies : List AnyReply) :
    Acted s (.pollDevice replies) (s.pollDevice replies) := by
  unfold System.pollDevice
  split
  · split
    · exact acted_putDevice rfl _ _ (by simp [ApartEvent])
    · exact acted_putDevice rfl _ _ (by simp [ApartEvent])
    · exact acted_putDevice rfl _ _ (by simp)
  · split
    · exact acted_putDevice rfl _ _ (by simp [ApartEvent])
    · exact acted_putDevice rfl _ _ (by simp)
  · exact acted_same rfl rfl rfl

theorem rxStream_acted (s : System F mode) : Acted s .rxStream s.rxStream := by
  unfold System.rxStream
  split
  · split
    · refine .apart rfl (.inr ⟨_, rfl⟩) rfl ?_
      simp [ApartEvent]
    · refine .apart rfl (.inl rfl) rfl ?_
      simp [ApartEvent]
  · exact acted_same rfl rfl rfl

/-- A stream is used as a step of it says, or not at all. -/
theorem onStream_acted {s : System F mode} {action : Action mode} {stream : ℕ}
    (hstream : actionStream action = some stream)
    {use : StreamPhase F mode → (Receiver F mode → StreamWorld F mode) →
      Option (StreamStep F mode)}
    (hmissing : s.streams[stream]? = none → actionWork s action = (none, 0))
    (hunused : ∀ phase, s.streams[stream]? = some phase → use phase s.streamWorld = none →
      actionWork s action = (none, 0))
    (hused : ∀ phase step, s.streams[stream]? = some phase → use phase s.streamWorld = some step →
      Acts stream s.session s.wire s.panic phase (actionWork s action) step) :
    Acted s action (s.onStream stream use) := by
  unfold System.onStream
  cases hphase : s.streams[stream]? with
  | none => exact acted_same (hmissing hphase) rfl rfl
  | some phase =>
    dsimp only
    cases huse : use phase s.streamWorld with
    | none => exact acted_same (hunused phase hphase huse) rfl rfl
    | some step => exact .acts hstream hphase (hused phase step hphase huse)

/-- An idle stream is used without a fill. -/
theorem onIdle_acted {s : System F mode} {action : Action mode} {stream : ℕ}
    (hstream : actionStream action = some stream) (hwork : actionWork s action = (none, 0))
    {use : StreamWorld F mode → StreamStep F mode}
    (huse : ∀ receiver, Acts stream s.session s.wire s.panic (.idle receiver) (none, 0)
      (use (s.streamWorld receiver))) :
    Acted s action (s.onStream stream (StreamPhase.onIdle use)) := by
  refine onStream_acted hstream (fun _ => hwork) (fun _ _ _ => hwork) fun phase step _ hstep => ?_
  rw [hwork]
  cases phase with
  | idle receiver => exact Option.some.inj hstep ▸ huse receiver
  | operating receiver found call flight => exact nomatch hstep
  | reading receiver future => exact nomatch hstep
  | awaiting receiver operation => exact nomatch hstep
  | cleaning receiver flight => exact nomatch hstep
  | gone => exact nomatch hstep

/-- The queues that a phase fills can be filled. -/
theorem phaseFill_canFill {config : ValidConfig mode} {s : System F mode}
    (h : System.Reachable config s) {stream : ℕ} {phase : StreamPhase F mode}
    (hphase : s.streams[stream]? = some phase) {replies : List AnyReply} {queue : Queue}
    (hfill : phaseFill replies phase s.streamWorld = some queue) : CanFill queue := by
  have hmem := List.mem_of_getElem? hphase
  exact (mayAsk_phaseFill (BufferPool.keptByQueue_pooled 0) (Nat.zero_le _)
    ((reachable_inv h).system.streams phase hmem)
    (fun _ hreceiver => reachable_queue (BufferPool.keptByQueue_pooled 0) h hmem hreceiver)
    replies hfill).canFill

/-- An idle stream is read. -/
theorem onRead_acted {config : ValidConfig .f32Iq} {s : System F .f32Iq}
    (h : System.Reachable config s) {action : Action .f32Iq} {stream room : ℕ}
    {arrivals : List Arrival} (hstream : actionStream action = some stream)
    (hwork : actionWork s action = ((s.streams[stream]?.bind fun phase =>
      idleFill room phase s.streamWorld).map (·, arrivals),
      s.streams[stream]?.elim 0 fun phase => idleDiscards phase s.streamWorld))
    {use : StreamWorld F .f32Iq → StreamStep F .f32Iq}
    (huse : ∀ w polled w' rest, Receiver.pollRead w room arrivals = .ok (polled, w', rest) →
      ∃ events, use w = .of w' (.idle w'.receiver) events ∧ ReadReport stream w' polled events) :
    Acted s action (s.onStream stream (StreamPhase.onIdle use)) := by
  have hinv := (reachable_inv h).system
  refine onStream_acted hstream ?_ ?_ ?_
  · intro hnone
    rw [hwork, hnone]
    rfl
  · intro phase hphase hnone
    rw [hwork, hphase]
    cases phase with
    | idle receiver => exact nomatch hnone
    | operating receiver found call flight => rfl
    | awaiting receiver operation => rfl
    | cleaning receiver flight => rfl
    | gone => rfl
  · intro phase step hphase hstep
    rw [hwork, hphase]
    cases phase with
    | idle receiver =>
      have hmem := List.mem_of_getElem? hphase
      have hcan : ∀ queue, readFill room (s.streamWorld receiver) = some queue → CanFill queue := by
        intro queue hqueue
        exact (mayAsk_readFill (BufferPool.keptByQueue_pooled 0) (Nat.zero_le _)
          (hinv.streamInv hmem rfl) (reachable_queue (BufferPool.keptByQueue_pooled 0) h hmem rfl)
          hqueue).canFill
      obtain ⟨polled, w', rest, hread, hacts⟩ := @read_acts F _ stream _ _
        (hinv.streamInv hmem rfl) (reachable_reads keptByReads_aligned h hmem rfl) arrivals hcan
        (.idle receiver) rfl rfl
      obtain ⟨events, hsame, hreport⟩ := huse _ _ _ _ hread
      obtain rfl := Option.some.inj hstep
      rw [hsame]
      exact hacts _ events rfl hreport
    | operating receiver found call flight => exact nomatch hstep
    | awaiting receiver operation => exact nomatch hstep
    | cleaning receiver flight => exact nomatch hstep
    | gone => exact nomatch hstep

/-- **Every action of a reachable state** leaves the streams alone, adds one, or is an act of its
stream. -/
theorem reachable_acted {config : ValidConfig mode} {s : System F mode}
    (h : System.Reachable config s) (action : Action mode) : Acted s action (s.act action) := by
  have hinv := (reachable_inv h).system
  cases action with
  | callDevice operation =>
    show Acted s (.callDevice operation) (s.callDevice operation)
    unfold System.callDevice
    split
    · split <;> exact acted_same rfl rfl rfl
    · exact acted_same rfl rfl rfl
  | pollDevice replies => exact pollDevice_acted s replies
  | cancelDevice =>
    show Acted s .cancelDevice s.cancelDevice
    unfold System.cancelDevice
    split <;> exact acted_same rfl rfl rfl
  | dropDevice =>
    show Acted s .dropDevice s.dropDevice
    unfold System.dropDevice
    split <;> exact acted_same rfl rfl rfl
  | rxStream => exact rxStream_acted s
  | callStream stream call =>
    exact onIdle_acted rfl rfl fun receiver =>
      acts_nothing (w := s.streamWorld receiver) rfl (.kept rfl fun _ => rfl) rfl
  | nextBlock stream =>
    exact onIdle_acted rfl rfl fun receiver =>
      acts_nothing (w := s.streamWorld receiver) rfl (.kept rfl fun _ => rfl) rfl
  | read stream room =>
    exact onIdle_acted rfl rfl fun receiver =>
      acts_nothing (w := s.streamWorld receiver) rfl (.kept rfl fun _ => rfl) rfl
  | dropStream stream =>
    exact onIdle_acted rfl rfl fun receiver =>
      dropReceiver_acts (w := s.streamWorld receiver) rfl
  | cancelStream stream =>
    refine onStream_acted rfl (fun _ => rfl) (fun _ _ _ => rfl) fun phase step _ hstep => ?_
    exact cancel_acts stream hstep
  | pollStream stream replies arrivals =>
    have hworked : ∀ phase, s.streams[stream]? = some phase →
        actionWork s (.pollStream stream replies arrivals) =
          ((phaseFill replies phase s.streamWorld).map (·, arrivals),
            phaseDiscards phase s.streamWorld) := by
      intro phase hphase
      simp only [actionWork, actionFill, actionDiscards, hphase, Option.bind_some, Option.elim_some]
    refine onStream_acted rfl ?_ ?_ ?_
    · intro hnone
      simp only [actionWork, actionFill, actionDiscards, hnone, Option.bind_none, Option.map_none,
        Option.elim_none]
    · intro phase hphase hnone
      rw [hworked phase hphase]
      cases phase with
      | idle receiver => rfl
      | gone => rfl
      | operating receiver found call flight => exact nomatch hnone
      | reading receiver future => exact nomatch hnone
      | awaiting receiver operation => exact nomatch hnone
      | cleaning receiver flight => exact nomatch hnone
    · intro phase step hphase hstep
      rw [hworked phase hphase]
      exact poll_acts (hinv.streams phase (List.mem_of_getElem? hphase))
        (reachable_awaitsAligned h (List.mem_of_getElem? hphase))
        (fun queue hqueue => phaseFill_canFill h hphase hqueue) hstep
  | pollRead stream room arrivals =>
    refine onRead_acted h rfl rfl fun w polled w' rest hread => ?_
    rw [hread]
    cases polled with
    | none => exact ⟨_, rfl, .pending⟩
    | some result => exact ⟨_, rfl, .returned result⟩
  | readBlocking stream room arrivals =>
    refine onRead_acted h rfl rfl fun w polled w' rest hread => ?_
    rw [readBlocking_poll, hread]
    cases polled with
    | none => exact ⟨_, rfl, .timeout⟩
    | some result => exact ⟨_, rfl, .returned result⟩

end HydraSdr.Analysis
