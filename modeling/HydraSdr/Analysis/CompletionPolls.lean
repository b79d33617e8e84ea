import HydraSdr.Analysis.QueueRuns

/-!
# The calls that ask an endpoint for a completion

Which queues an action polls or waits with, call by call (`completionPolls`); that the program makes
these calls and no others (`act_asks`); and the rule by which a property of queues is shown of all of
them.
-/

set_option autoImplicit false

namespace HydraSdr.Analysis

open HydraSdr.Program HydraSdr.Computation

variable {F : Type} {mode : SampleFormat}

/-! ## The queues that ask -/

/-- The queue at each call of `poll_next_complete` or `wait_next_complete` in the loops of
`poll_fill` and `wait_fill`, in order.  A loop goes on after a completion from before a restart. -/
def loopAsks : List Arrival → Queue → List Queue
  | [], queue => if queue.isClosed then [] else [queue]
  | arrival :: arrivals, queue =>
    if queue.isClosed then []
    else queue :: match queue.turn (some arrival) with
      | .ok (.again, queue) => loopAsks arrivals queue
      | _ => []

variable [SampleArithmetic F]

/-- The queue with which `poll_next_block` begins to fill. -/
def blockFill (w : StreamWorld F .rawAdc) : Option Queue :=
  if w.receiver.claim.receiver = .running then w.receiver.queue.map Queue.releaseCurrent else none

/-- The queue with which the await of a restart goes on to fill, once it is over. -/
def restartFill (outcome : StreamProgress F .rawAdc (Result Unit) × StreamWorld F .rawAdc) :
    Option Queue :=
  match outcome with
  | (.finished (.ok _), w) => blockFill w
  | _ => none

/-- The queue with which a poll of a next-block future begins to fill. -/
def futureFill (future : NextBlockFuture F) (replies : List AnyReply) (w : StreamWorld F .rawAdc) :
    Option Queue :=
  match future with
  | .direct =>
    if Receiver.packingChanged w then restartFill (NextBlockFuture.beginRestart w replies)
    else blockFill w
  | .restarting progress => restartFill (progress.resumeAll StreamWorld.port replies w)
  | .filling => blockFill w
  | .completed => none
  | .returned => none

/-- The queue with which a read begins to fill: neither it nor the processor holds samples. -/
def readFill (room : ℕ) (w : StreamWorld F .f32Iq) : Option Queue :=
  match Receiver.beginRead w with
  | (.error _, _) => none
  | (.ok _, w) =>
    if room = 0 then none
    else w.receiver.queue.filter fun queue =>
      queue.current.isNone && w.receiver.processor.pending.isNone

/-- A read that fills has begun, and neither its queue nor its processor holds samples. -/
theorem readFill_some {w : StreamWorld F .f32Iq} {room : ℕ} {queue : Queue}
    (h : readFill room w = some queue) :
    (Receiver.beginRead w).1 = .ok () ∧ (Receiver.beginRead w).2.receiver.queue = some queue ∧
      queue.current = none ∧ CarriesNothing (Receiver.beginRead w).2.receiver.processor := by
  unfold readFill at h
  generalize Receiver.beginRead w = begun at h ⊢
  obtain ⟨result, w'⟩ := begun
  cases result with
  | error e => exact nomatch h
  | ok value =>
    dsimp only at h
    split at h
    · exact nomatch h
    · obtain ⟨hqueue, hempty⟩ := Option.filter_eq_some_iff.mp h
      rw [Bool.and_eq_true] at hempty
      exact ⟨rfl, hqueue, Option.isNone_iff_eq_none.mp hempty.1,
        Option.isNone_iff_eq_none.mp hempty.2⟩

/-- The queue with which a blocking `next_block` begins to fill, once the packing has been
refreshed. -/
def waitFill : {mode : SampleFormat} → (call : StreamCall mode) →
    StreamProgress F mode (Result call.Value) × StreamWorld F mode → Option Queue
  | _, .waitBlock, (.finished (.ok _), w) => w.receiver.queue.map Queue.releaseCurrent
  | _, _, _ => none

/-- The queue with which a poll of a read future begins to fill. -/
def operationFill (operation : ReadOperation) (w : StreamWorld F .f32Iq) : Option Queue :=
  if operation.completed then none else readFill operation.room w

/-- The queue with which a poll of a stream begins to fill. -/
def phaseFill (replies : List AnyReply) : {mode : SampleFormat} → StreamPhase F mode →
    (Receiver F mode → StreamWorld F mode) → Option Queue
  | _, .operating receiver _ call flight, view =>
    waitFill call (flight.poll StreamWorld.port replies (view receiver))
  | _, .reading receiver future, view => futureFill future replies (view receiver)
  | _, .awaiting receiver operation, view => operationFill operation (view receiver)
  | _, _, _ => none

theorem phaseFill_operating (replies : List AnyReply) (receiver : Receiver F mode)
    (found : Option ℕ) (call : StreamCall mode) (flight : StreamFlight F mode (Result call.Value))
    (view : Receiver F mode → StreamWorld F mode) :
    phaseFill replies (.operating receiver found call flight) view =
      waitFill call (flight.poll StreamWorld.port replies (view receiver)) := rfl

theorem phaseFill_reading (replies : List AnyReply) (receiver : Receiver F .rawAdc)
    (future : NextBlockFuture F) (view : Receiver F .rawAdc → StreamWorld F .rawAdc) :
    phaseFill replies (.reading receiver future) view =
      futureFill future replies (view receiver) := rfl

theorem phaseFill_awaiting (replies : List AnyReply) (receiver : Receiver F .f32Iq)
    (operation : ReadOperation) (view : Receiver F .f32Iq → StreamWorld F .f32Iq) :
    phaseFill replies (.awaiting receiver operation) view =
      operationFill operation (view receiver) := rfl

/-- The queue with which a read of an idle stream begins to fill. -/
def idleFill (room : ℕ) (phase : StreamPhase F .f32Iq)
    (view : Receiver F .f32Iq → StreamWorld F .f32Iq) : Option Queue :=
  match phase with
  | .idle receiver => readFill room (view receiver)
  | _ => none

/-- The queue with which an action begins to fill, and the completions that arrive meanwhile. -/
def actionFill (s : System F mode) : Action mode → Option (Queue × List Arrival)
  | .pollStream stream replies arrivals =>
    (s.streams[stream]?.bind fun phase => phaseFill replies phase s.streamWorld).map (·, arrivals)
  | .pollRead stream room arrivals =>
    (s.streams[stream]?.bind fun phase => idleFill room phase s.streamWorld).map (·, arrivals)
  | .readBlocking stream room arrivals =>
    (s.streams[stream]?.bind fun phase => idleFill room phase s.streamWorld).map (·, arrivals)
  | _ => none

/-- The queue at each call that asks an endpoint for a completion during an action. -/
def completionPolls (s : System F mode) (action : Action mode) : List Queue :=
  match actionFill s action with
  | none => []
  | some (queue, arrivals) => loopAsks arrivals queue

/-! ## The fills are these -/

/-- What a call makes of the completions that arrive meanwhile.  It fills a queue with them, once, and
goes on with what the fill has come to; or it never looks at them. -/
def FillsOnly {β : Type} (found : Option Queue) (run : List Arrival → Checked β) : Prop :=
  match found with
  | none => ∃ outcome, ∀ arrivals, run arrivals = outcome
  | some queue => ∃ resume : Option (Result Unit) → Queue → Checked β, ∀ arrivals,
      run arrivals = Queue.fillLoop arrivals queue >>= fun filled => resume filled.1 filled.2.1

omit [SampleArithmetic F] in
/-- A call that takes no completions. -/
theorem fillsOnly_none {β : Type} {run : List Arrival → Checked β} (outcome : Checked β)
    (h : ∀ arrivals, run arrivals = outcome) : FillsOnly none run :=
  ⟨outcome, h⟩

omit [SampleArithmetic F] in
/-- A call that fills, and what it makes of each outcome of the fill. -/
theorem fillsOnly_some {β : Type} {queue : Queue} {run : List Arrival → Checked β}
    (resume : Option (Result Unit) → Queue → Checked β)
    (hpanic : ∀ arrivals panic, Queue.fillLoop arrivals queue = .error panic →
      run arrivals = .error panic)
    (hfilled : ∀ arrivals result queue' rest,
      Queue.fillLoop arrivals queue = .ok (result, queue', rest) →
        run arrivals = resume result queue') : FillsOnly (some queue) run := by
  refine ⟨resume, fun arrivals => ?_⟩
  cases hfill : Queue.fillLoop arrivals queue with
  | error panic => exact hpanic arrivals panic hfill
  | ok filled => exact hfilled arrivals _ _ _ hfill

omit [SampleArithmetic F] in
theorem FillsOnly.congr {β : Type} {found : Option Queue} {run run' : List Arrival → Checked β}
    (h : FillsOnly found run) (heq : ∀ arrivals, run' arrivals = run arrivals) :
    FillsOnly found run' := by
  rwa [show run' = run from funext heq]

/-- What is made of the outcome of a fill: it waits, it has failed, or it has filled the queue. -/
def onFill {β : Type} (waits : β) (fails : Error → β) (fills : β) : Option (Result Unit) → β
  | none => waits
  | some (.error e) => fails e
  | some (.ok _) => fills

/-- `poll_next_block` fills with `blockFill`, or touches no endpoint. -/
theorem pollNextBlock_fill (w : StreamWorld F .rawAdc) :
    match blockFill w with
    | none => ∃ e, ∀ arrivals,
        Receiver.pollNextBlock w arrivals = .ok (some (.error e), w, arrivals)
    | some queue => ∀ arrivals, Receiver.pollNextBlock w arrivals =
        (Queue.fillLoop arrivals queue).map fun (result, queue, rest) =>
          (result, afterFill result queue w, rest) := by
  unfold blockFill Receiver.pollNextBlock Receiver.ensureRunning
  by_cases hstate : w.receiver.claim.receiver = .running
  · rw [if_pos hstate, if_pos hstate]
    cases hqueue : w.receiver.queue with
    | none => exact ⟨_, fun _ => rfl⟩
    | some queue =>
      dsimp only [Option.map_some]
      intro arrivals
      unfold Queue.pollFill
      rw [releaseCurrent_current]
      dsimp only
      cases hfill : Queue.fillLoop arrivals queue.releaseCurrent with
      | error panic => rfl
      | ok outcome =>
        obtain ⟨result, queue', rest⟩ := outcome
        match result with
        | none => rfl
        | some (.ok _) => rfl
        | some (.error e) => rfl
  · rw [if_neg hstate, if_neg hstate]
    exact ⟨_, fun _ => rfl⟩

/-- A poll of a future that goes on to fill. -/
theorem fill_fillsOnly (waiting last : NextBlockFuture F) (w : StreamWorld F .rawAdc) (stream : ℕ) :
    FillsOnly (blockFill w) fun arrivals =>
      (NextBlockFuture.fill waiting last w arrivals).map (StreamPhase.pollNextBlock stream) := by
  have hread := pollNextBlock_fill w
  cases hfill : blockFill w with
  | none =>
    rw [hfill] at hread
    obtain ⟨e, he⟩ := hread
    refine fillsOnly_none (.ok (StreamPhase.pollNextBlock stream (some (.error e), last, w, [])))
      fun arrivals => ?_
    unfold NextBlockFuture.fill
    rw [he]
    rfl
  | some queue =>
    rw [hfill] at hread
    refine fillsOnly_some
      (fun result queue =>
        let w := afterFill result queue w
        onFill (.ok (StreamPhase.pollNextBlock stream (none, waiting, w, [])))
          (fun e => .ok (StreamPhase.pollNextBlock stream (some (.error e), last, w, [])))
          ((Receiver.currentBlock w).map fun block =>
            StreamPhase.pollNextBlock stream (some (block.map some), last, w, [])) result)
      (fun arrivals panic hloop => ?_) (fun arrivals result queue' rest hloop => ?_)
    · unfold NextBlockFuture.fill
      rw [hread arrivals, hloop]
      rfl
    · unfold NextBlockFuture.fill
      rw [hread arrivals, hloop]
      rcases result with _ | e | value
      · rfl
      · rfl
      · show Except.map _ (Receiver.currentBlock (afterFill (some (.ok value)) queue' w) >>= _) =
          Except.map _ (Receiver.currentBlock (afterFill (some (.ok value)) queue' w))
        cases Receiver.currentBlock (afterFill (some (.ok value)) queue' w) <;> rfl

/-- A poll of a future whose restart has come this far. -/
theorem restart_fillsOnly (outcome : StreamProgress F .rawAdc (Result Unit) × StreamWorld F .rawAdc)
    (stream : ℕ) : FillsOnly (restartFill outcome) fun arrivals =>
      (NextBlockFuture.restart outcome.1 outcome.2 arrivals).map
        (StreamPhase.pollNextBlock stream) := by
  obtain ⟨progress, w⟩ := outcome
  cases progress with
  | waiting ticket request next =>
    exact fillsOnly_none (.ok (StreamPhase.pollNextBlock stream
      (none, .restarting (.waiting ticket request next), w, []))) fun _ => rfl
  | finished result =>
    cases result with
    | error e =>
      exact fillsOnly_none (.ok (StreamPhase.pollNextBlock stream
        (some (.error e), .returned, w, []))) fun _ => rfl
    | ok value => exact fill_fillsOnly .filling .returned w stream

/-- A poll of a next-block future fills with `futureFill`. -/
theorem poll_fillsOnly (future : NextBlockFuture F) (w : StreamWorld F .rawAdc)
    (replies : List AnyReply) (stream : ℕ) : FillsOnly (futureFill future replies w) fun arrivals =>
      (future.poll w replies arrivals).map (StreamPhase.pollNextBlock stream) := by
  cases future with
  | direct =>
    unfold futureFill NextBlockFuture.poll
    dsimp only
    split
    · exact restart_fillsOnly _ stream
    · exact fill_fillsOnly .direct .completed w stream
  | restarting progress =>
    exact restart_fillsOnly (progress.resumeAll StreamWorld.port replies w) stream
  | filling => exact fill_fillsOnly .filling .returned w stream
  | completed => exact fillsOnly_none _ fun _ => rfl
  | returned => exact fillsOnly_none _ fun _ => rfl

/-- The result of a polled fill, as one of a blocking fill. -/
def waitResult : Option (Result Unit) → Result Bool
  | none => .ok false
  | some (.ok _) => .ok true
  | some (.error e) => .error e

omit [SampleArithmetic F] in
/-- `wait_fill` of a queue without a current buffer is the loop. -/
theorem waitFill_fill {queue : Queue} (hcurrent : queue.current = none) (arrivals : List Arrival) :
    queue.waitFill arrivals = (Queue.fillLoop arrivals queue).map fun (result, queue, rest) =>
      (waitResult result, queue, rest) := by
  unfold Queue.waitFill
  rw [hcurrent]
  dsimp only
  cases Queue.fillLoop arrivals queue with
  | error panic => rfl
  | ok filled =>
    obtain ⟨result, queue', rest⟩ := filled
    match result with
    | none => rfl
    | some (.ok _) => rfl
    | some (.error e) => rfl

omit [SampleArithmetic F] in
/-- So is `poll_fill`. -/
theorem pollFill_fill {queue : Queue} (hcurrent : queue.current = none) (arrivals : List Arrival) :
    queue.pollFill arrivals = Queue.fillLoop arrivals queue := by
  unfold Queue.pollFill
  rw [hcurrent]

/-- A blocking `next_block` fills once the packing has been refreshed. -/
theorem pollCall_fillsOnly (stream : ℕ) (found : Option ℕ) (call : StreamCall mode)
    (outcome : StreamProgress F mode (Result call.Value) × StreamWorld F mode) :
    FillsOnly (waitFill call outcome) fun arrivals =>
      StreamPhase.pollCall stream found arrivals call outcome := by
  obtain ⟨progress, w⟩ := outcome
  cases progress with
  | waiting ticket request next => cases call <;> exact fillsOnly_none _ fun _ => rfl
  | finished result =>
    cases call with
    | start => exact fillsOnly_none _ fun _ => rfl
    | stop => exact fillsOnly_none _ fun _ => rfl
    | close => exact fillsOnly_none _ fun _ => rfl
    | waitBlock =>
      cases result with
      | error e => exact fillsOnly_none _ fun _ => rfl
      | ok value =>
        show FillsOnly (w.receiver.queue.map Queue.releaseCurrent) fun arrivals =>
          Receiver.waitNextBlock w arrivals >>= fun waited =>
            .ok (StreamStep.of waited.2.1 (.idle waited.2.1.receiver)
              [.block stream waited.1 waited.2.1.receiver.queue])
        unfold Receiver.waitNextBlock
        cases hqueue : w.receiver.queue with
        | none =>
          exact fillsOnly_none (.ok (StreamStep.of w (.idle w.receiver)
            [.block stream (.error (.streamClosed "RX queue is closed")) w.receiver.queue]))
            fun _ => rfl
        | some queue =>
          dsimp only [Option.map_some]
          refine fillsOnly_some
            (fun result queue =>
              let w := (w.setQueue queue).onReceiver (Receiver.failedRead (waitResult result))
              let step := fun block =>
                StreamStep.of w (.idle w.receiver) [.block stream block w.receiver.queue]
              onFill (.ok (step (.ok none))) (fun e => .ok (step (.error e)))
                ((Receiver.currentBlock w).map fun block => step (block.map some)) result)
            (fun arrivals panic hloop => ?_) (fun arrivals result queue' rest hloop => ?_)
          · rw [waitFill_fill (releaseCurrent_current queue), hloop]
            rfl
          · rw [waitFill_fill (releaseCurrent_current queue), hloop]
            rcases result with _ | e | value
            · rfl
            · rfl
            · show (Receiver.currentBlock _ >>= _) >>= _ = Except.map _ (Receiver.currentBlock _)
              cases Receiver.currentBlock _ <;> rfl

/-- A read fills with `readFill`; what is made of its result is up to the caller. -/
theorem pollRead_fillsOnly {β : Type} (w : StreamWorld F .f32Iq) (room : ℕ)
    (f : Option (Result (List (Complex F))) → StreamWorld F .f32Iq → β) :
    FillsOnly (readFill room w) fun arrivals =>
      (Receiver.pollRead w room arrivals).map fun read => f read.1 read.2.1 := by
  unfold readFill Receiver.pollRead
  generalize Receiver.beginRead w = begun
  obtain ⟨begun, w⟩ := begun
  cases begun with
  | error e => exact fillsOnly_none (.ok (f (some (.error e)) w)) fun _ => rfl
  | ok value =>
    dsimp only
    by_cases hroom : room = 0
    · rw [if_pos hroom]
      exact fillsOnly_none (.ok (f (some (.ok [])) w)) fun _ => by rw [if_pos hroom]; rfl
    · simp only [if_neg hroom]
      cases hqueue : w.receiver.queue with
      | none => exact fillsOnly_none (.error (.expectFailed "running queue")) fun _ => rfl
      | some queue =>
        show FillsOnly (if (queue.current.isNone && w.receiver.processor.pending.isNone) = true then
          some queue else none) fun arrivals => Except.map _
            (if (queue.current.isNone && w.receiver.processor.pending.isNone) = true then _ else _)
        by_cases hempty : (queue.current.isNone && w.receiver.processor.pending.isNone) = true
        · simp only [if_pos hempty]
          have hcurrent : queue.current = none :=
            Option.isNone_iff_eq_none.mp (Bool.and_eq_true_iff.mp hempty).1
          refine fillsOnly_some
            (fun result queue =>
              let w := afterFill result queue w
              onFill (.ok (f none w)) (fun e => .ok (f (some (.error e)) w))
                ((Receiver.processRead w queue room).map fun read => f (some read.1) read.2) result)
            (fun arrivals panic hloop => ?_) (fun arrivals result queue' rest hloop => ?_)
          · rw [pollFill_fill hcurrent, hloop]
            rfl
          · rw [pollFill_fill hcurrent, hloop]
            rcases result with _ | e | value
            · rfl
            · rfl
            · show Except.map _ (Receiver.processRead _ _ _ >>= _) =
                Except.map _ (Receiver.processRead (w.setQueue queue') queue' room)
              cases Receiver.processRead (w.setQueue queue') queue' room <;> rfl
        · simp only [if_neg hempty]
          refine fillsOnly_none ((Receiver.processRead w queue room).map
            fun read => f (some read.1) read.2) fun arrivals => ?_
          cases Receiver.processRead w queue room <;> rfl

/-- How a use of a stream takes what arrives: not at all, or it fills. -/
def UseAsks (found : Option Queue) (phase : StreamPhase F mode)
    (use : List Arrival → Option (StreamStep F mode)) : Prop :=
  (found = none ∧ ∃ outcome, ∀ arrivals, use arrivals = outcome) ∨
  ∃ w run, FillsOnly found run ∧ ∀ arrivals, use arrivals = some (.ofChecked w phase (run arrivals))

/-- A poll of whatever a stream has in flight fills with `phaseFill`. -/
theorem poll_useAsks (stream : ℕ) (replies : List AnyReply) (phase : StreamPhase F mode)
    (view : Receiver F mode → StreamWorld F mode) :
    UseAsks (phaseFill replies phase view) phase
      fun arrivals => phase.poll stream replies arrivals view := by
  cases phase with
  | operating receiver found call flight =>
    exact .inr ⟨view receiver, _, pollCall_fillsOnly stream (StreamPhase.foundBy receiver found flight)
      call (flight.poll StreamWorld.port replies (view receiver)), fun _ => rfl⟩
  | reading receiver future =>
    exact .inr ⟨view receiver, _, poll_fillsOnly future (view receiver) replies stream, fun _ => rfl⟩
  | awaiting receiver operation =>
    refine .inr ⟨view receiver, fun arrivals => (operation.poll (view receiver) arrivals).map
      (StreamPhase.pollRead stream), ?_, fun _ => rfl⟩
    rw [phaseFill_awaiting]
    unfold operationFill
    cases hover : operation.completed with
    | true =>
      refine fillsOnly_none (.error (.assertFailed "read future polled after completion"))
        fun arrivals => ?_
      rw [readOperation_again hover]
      rfl
    | false =>
      have hread := pollRead_fillsOnly (view receiver) operation.room fun result w =>
        StreamPhase.pollRead stream (result, afterRead operation result, w, [])
      refine hread.congr fun arrivals => ?_
      rw [readOperation_poll hover]
      cases Receiver.pollRead (view receiver) operation.room arrivals with
      | error panic => rfl
      | ok outcome =>
        obtain ⟨result, w, rest⟩ := outcome
        cases result <;> rfl
  | idle receiver => exact .inl ⟨rfl, none, fun _ => rfl⟩
  | cleaning receiver flight => exact .inl ⟨rfl, _, fun _ => rfl⟩
  | gone => exact .inl ⟨rfl, none, fun _ => rfl⟩

/-- A read of an idle stream fills with `idleFill`. -/
theorem read_useAsks (s : System F .f32Iq) (room : ℕ) (phase : StreamPhase F .f32Iq)
    {read : StreamWorld F .f32Iq → List Arrival → Checked (StreamStep F .f32Iq)}
    (hread : ∀ w, FillsOnly (readFill room w) (read w)) :
    UseAsks (idleFill room phase s.streamWorld) phase fun arrivals =>
      StreamPhase.onIdle (fun w => .ofChecked w (.idle w.receiver) (read w arrivals)) phase
        s.streamWorld := by
  cases phase with
  | idle receiver => exact .inr ⟨_, _, hread (s.streamWorld receiver), fun _ => rfl⟩
  | operating receiver found call flight => exact .inl ⟨rfl, none, fun _ => rfl⟩
  | awaiting receiver operation => exact .inl ⟨rfl, none, fun _ => rfl⟩
  | cleaning receiver flight => exact .inl ⟨rfl, none, fun _ => rfl⟩
  | gone => exact .inl ⟨rfl, none, fun _ => rfl⟩

/-- An action while which these completions arrive. -/
def arriving (arrivals : List Arrival) : {mode : SampleFormat} → Action mode → Action mode
  | _, .pollStream stream replies _ => .pollStream stream replies arrivals
  | _, .pollRead stream room _ => .pollRead stream room arrivals
  | _, .readBlocking stream room _ => .readBlocking stream room arrivals
  | _, action => action

/-- How an action takes what arrives meanwhile. -/
def ActionAsks (s : System F mode) (action : Action mode) : Prop :=
  (∀ arrivals, completionPolls s (arriving arrivals action) = [] ∧
    s.act (arriving arrivals action) = s.act action) ∨
  ∃ queue stream w phase, ∃ resume : Option (Result Unit) → Queue → Checked (StreamStep F mode),
    ∀ arrivals, completionPolls s (arriving arrivals action) = loopAsks arrivals queue ∧
      s.act (arriving arrivals action) = s.putStream stream (.ofChecked w phase
        (Queue.fillLoop arrivals queue >>= fun filled => resume filled.1 filled.2.1))

/-- An action that uses one stream takes what arrives as its use does. -/
theorem actionAsks_of_use {s : System F mode} {action : Action mode} (stream : ℕ)
    {found : StreamPhase F mode → Option Queue}
    {use : List Arrival → StreamPhase F mode → (Receiver F mode → StreamWorld F mode) →
      Option (StreamStep F mode)}
    (hfill : ∀ arrivals, actionFill s (arriving arrivals action) =
      (s.streams[stream]?.bind found).map (·, arrivals))
    (hact : ∀ arrivals, s.act (arriving arrivals action) = s.onStream stream (use arrivals))
    (hown : ∃ arrivals, arriving arrivals action = action)
    (huse : ∀ phase, UseAsks (found phase) phase fun arrivals => use arrivals phase s.streamWorld) :
    ActionAsks s action := by
  have hput : ∀ phase, s.streams[stream]? = some phase → ∀ arrivals {step},
      use arrivals phase s.streamWorld = step → s.act (arriving arrivals action) =
        step.elim s fun step => s.putStream stream step := by
    intro phase hphase arrivals step hstep
    rw [hact, onStream_some hphase, hstep]
  -- what does not depend on the arrivals is what the action itself does
  have hnone : (∀ arrivals, actionFill s (arriving arrivals action) = none) →
      (∃ s', ∀ arrivals, s.act (arriving arrivals action) = s') → ActionAsks s action := by
    rintro hfill ⟨s', hsame⟩
    obtain ⟨own, hown⟩ := hown
    refine .inl fun arrivals => ⟨by rw [completionPolls, hfill], ?_⟩
    exact (hsame arrivals).trans ((hsame own).symm.trans (congrArg s.act hown))
  cases hphase : s.streams[stream]? with
  | none =>
    rw [hphase] at hfill
    refine hnone hfill ⟨s, fun arrivals => ?_⟩
    rw [hact]
    unfold System.onStream
    rw [hphase]
  | some phase =>
    rw [hphase] at hfill
    rcases huse phase with ⟨hempty, outcome, hsame⟩ | ⟨w, run, hruns, hsome⟩
    · refine hnone (fun arrivals => ?_) ⟨_, fun arrivals => hput phase hphase arrivals (hsame arrivals)⟩
      rw [hfill, Option.bind_some, hempty]
      rfl
    · cases hfound : found phase with
      | none =>
        rw [hfound] at hruns
        obtain ⟨outcome, houtcome⟩ := hruns
        refine hnone (fun arrivals => ?_) ⟨s.putStream stream (.ofChecked w phase outcome),
          fun arrivals => ?_⟩
        · rw [hfill, Option.bind_some, hfound]
          rfl
        · rw [hput phase hphase arrivals (hsome arrivals), houtcome]
          rfl
      | some queue =>
        rw [hfound] at hruns
        obtain ⟨resume, hresume⟩ := hruns
        refine .inr ⟨queue, stream, w, phase, resume, fun arrivals => ⟨?_, ?_⟩⟩
        · rw [completionPolls, hfill, Option.bind_some, hfound]
          rfl
        · rw [hput phase hphase arrivals (hsome arrivals), hresume]
          rfl

/-- **The calls that ask are these.**  Either an action asks for no completion, and what arrives makes
no difference to it; or all that it makes of what arrives is to fill one queue, whose calls are the
`completionPolls`, and to go on with what the fill has come to: a panic of the fill is its own. -/
theorem act_asks (s : System F mode) (action : Action mode) : ActionAsks s action := by
  cases action with
  | pollStream stream replies own =>
    exact actionAsks_of_use stream (fun _ => rfl) (fun _ => rfl) ⟨own, rfl⟩ fun phase =>
      poll_useAsks stream replies phase s.streamWorld
  | pollRead stream room own =>
    exact actionAsks_of_use stream (fun _ => rfl) (fun _ => rfl) ⟨own, rfl⟩ fun phase =>
      read_useAsks s room phase fun w => pollRead_fillsOnly w room fun result w =>
        StreamStep.of w (.idle w.receiver)
          (result.toList.map fun result => .samples stream result w.receiver.queue)
  | readBlocking stream room own =>
    refine actionAsks_of_use stream (fun _ => rfl) (fun _ => rfl) ⟨own, rfl⟩ fun phase =>
      read_useAsks s room phase fun w => ?_
    refine (pollRead_fillsOnly w room fun result w => StreamStep.of w (.idle w.receiver)
      [.samples stream (result.getD (.ok [])) w.receiver.queue]).congr fun arrivals => ?_
    rw [readBlocking_poll]
    cases Receiver.pollRead w room arrivals <;> rfl
  | _ => exact .inl fun _ => ⟨rfl, rfl⟩

/-! ## Full transfers are delivered -/

/-- The completion of a whole transfer. -/
def fullTransfer (packing : Bool) : Arrival where
  status := .ok ()
  actualLen := transferLength packing
  data := List.replicate (transferLength packing) 0

/-- The queue has nothing to discard, and its oldest submitted buffer is of its own length. -/
structure Delivering (queue : Queue) : Prop where
  discard : queue.discardRemaining = 0
  oldest : (queue.bulkIn.bind fun bulkIn => bulkIn.pending.head?).map Buffer.capacity =
    some (transferLength queue.settings.packing)

instance (queue : Queue) : Decidable (Delivering queue) :=
  decidable_of_iff (queue.discardRemaining = 0 ∧
    (queue.bulkIn.bind fun bulkIn => bulkIn.pending.head?).map Buffer.capacity =
      some (transferLength queue.settings.packing))
    ⟨fun h => ⟨h.1, h.2⟩, fun h => ⟨h.discard, h.oldest⟩⟩

omit [SampleArithmetic F] in
/-- A whole transfer becomes the current block. -/
theorem fillLoop_fullTransfer {queue : Queue} (h : Delivering queue) :
    ∃ queue' block, Queue.fillLoop [fullTransfer queue.settings.packing] queue =
      .ok (some (.ok ()), queue', []) ∧ queue'.settings = queue.settings ∧
      queue'.block = .ok (.ok block) := by
  obtain ⟨buffer, holdest, hcapacity⟩ := Option.map_eq_some_iff.mp h.oldest
  obtain ⟨bulkIn, hbulk, hhead⟩ := Option.bind_eq_some_iff.mp holdest
  obtain ⟨pending, hpending⟩ := List.head?_eq_some_iff.mp hhead
  have hlength : (BulkIn.completion buffer (fullTransfer queue.settings.packing)).buffer.bytes.length =
      transferLength queue.settings.packing := by
    simp [BulkIn.completion, fullTransfer, hcapacity]
  have hcheck : queue.checkCompletion
      (BulkIn.completion buffer (fullTransfer queue.settings.packing)) = .ok () := by
    have hstatus : (BulkIn.completion buffer (fullTransfer queue.settings.packing)).status =
      .ok () := rfl
    have hactual : (BulkIn.completion buffer (fullTransfer queue.settings.packing)).actualLen =
      transferLength queue.settings.packing := rfl
    unfold Queue.checkCompletion
    simp only [hstatus, hactual, hlength, ne_eq, not_true_eq_false, lt_irrefl, or_self, if_false]
  obtain ⟨queue', hturn, hsettings, hcurrent, hcurrentLen⟩ :=
    turn_accepted hbulk hpending h.discard hcheck
  obtain ⟨block, hblock⟩ := block_of_current hcurrent (hcurrentLen.trans hlength.symm).le
  refine ⟨queue', block, ?_, hsettings, hblock⟩
  unfold Queue.fillLoop
  rw [hturn]
  rfl

/-- A future whose queue is delivered a whole transfer returns it as a block. -/
theorem poll_fullTransfer {future : NextBlockFuture F} {replies : List AnyReply}
    {w : StreamWorld F .rawAdc} {queue : Queue} (hfill : futureFill future replies w = some queue)
    (h : Delivering queue) :
    ∃ w' last queue' block, future.poll w replies [fullTransfer queue.settings.packing] =
      .ok (some (.ok (some block)), last, w', []) ∧ w'.receiver.queue = some queue' ∧
      queue'.settings = queue.settings := by
  obtain ⟨queue', block, hloop, hsettings, hblock⟩ := fillLoop_fullTransfer h
  -- wherever the future fills from, it does so with this queue
  have hpoll : ∀ (waiting last : NextBlockFuture F) (w₁ : StreamWorld F .rawAdc),
      blockFill w₁ = some queue →
      NextBlockFuture.fill waiting last w₁ [fullTransfer queue.settings.packing] =
        .ok (some (.ok (some block)), last, w₁.setQueue queue', []) := by
    intro waiting last w₁ hfill₁
    have hread := pollNextBlock_fill w₁
    rw [hfill₁] at hread
    have hread := hread [fullTransfer queue.settings.packing]
    rw [hloop] at hread
    have hcurrent : Receiver.currentBlock (w₁.setQueue queue') = .ok (.ok block) := hblock
    unfold NextBlockFuture.fill
    rw [hread]
    show (Receiver.currentBlock (w₁.setQueue queue') >>= _) = _
    rw [hcurrent]
    rfl
  have hrestart : ∀ outcome, restartFill outcome = some queue →
      ∃ w₁, NextBlockFuture.restart outcome.1 outcome.2 [fullTransfer queue.settings.packing] =
        .ok (some (.ok (some block)), .returned, (w₁ : StreamWorld F .rawAdc).setQueue queue', []) := by
    intro outcome hfill₁
    obtain ⟨progress, w₁⟩ := outcome
    cases progress with
    | waiting ticket request next => exact nomatch hfill₁
    | finished result =>
      cases result with
      | error e => exact nomatch hfill₁
      | ok value => exact ⟨w₁, hpoll .filling .returned w₁ hfill₁⟩
  cases future with
  | direct =>
    unfold futureFill at hfill
    unfold NextBlockFuture.poll
    dsimp only at hfill ⊢
    split at hfill
    · rename_i hchanged
      rw [if_pos hchanged]
      obtain ⟨w₁, hsome⟩ := hrestart _ hfill
      exact ⟨_, _, queue', block, hsome, rfl, hsettings⟩
    · rename_i hunchanged
      rw [if_neg hunchanged]
      exact ⟨_, _, queue', block, hpoll .direct .completed w hfill, rfl, hsettings⟩
  | restarting progress =>
    obtain ⟨w₁, hsome⟩ := hrestart _ hfill
    exact ⟨_, _, queue', block, hsome, rfl, hsettings⟩
  | filling => exact ⟨_, _, queue', block, hpoll .filling .returned w hfill, rfl, hsettings⟩
  | completed => exact nomatch hfill
  | returned => exact nomatch hfill

/-- What polling a stream that reads does to it. -/
theorem act_pollStream {s : System F .rawAdc} {stream : ℕ} {receiver : Receiver F .rawAdc}
    {future : NextBlockFuture F} (hphase : s.streams[stream]? = some (.reading receiver future))
    (replies : List AnyReply) (arrivals : List Arrival) :
    s.act (.pollStream stream replies arrivals) = s.putStream stream
      (.ofChecked (s.streamWorld receiver) (.reading receiver future)
        ((future.poll (s.streamWorld receiver) replies arrivals).map
          (StreamPhase.pollNextBlock stream))) := by
  show s.onStream stream (StreamPhase.poll stream replies arrivals) = _
  unfold System.onStream
  rw [hphase]
  rfl

/-- A poll that can fill returns a block when the next transfer completes as a whole. -/
theorem step_fullTransfer {s : System F .rawAdc} (hpanic : s.panic = none) (hended : s.ended = false)
    {stream : ℕ} {receiver : Receiver F .rawAdc} {future : NextBlockFuture F}
    (hphase : s.streams[stream]? = some (.reading receiver future)) {replies : List AnyReply}
    {queue : Queue} (hfill : futureFill future replies (s.streamWorld receiver) = some queue)
    (h : Delivering queue) (reply : ℕ → AnyReply) :
    ∃ block queue', (s.step (.pollStream stream replies [fullTransfer queue.settings.packing])
        reply).history = s.history ++ [.block stream (.ok (some block)) (some queue')] ∧
      queue'.settings = queue.settings := by
  obtain ⟨w', last, queue', block, hpoll, hqueue', hsettings⟩ := poll_fullTransfer hfill h
  refine ⟨block, queue', ?_, hsettings⟩
  obtain ⟨_, hhistory, _⟩ := step_streams hpanic hended
    (.pollStream stream replies [fullTransfer queue.settings.packing]) reply
  rw [hhistory, act_pollStream hphase, hpoll, ← hqueue']
  rfl

/-! ## What holds at every call -/

/-- The queue may ask: it has been initialised, has its endpoint, and holds nothing. -/
structure MayAsk (keep : Queue → Prop) (queue : Queue) : Prop where
  kept : keep queue
  initialized : queue.initialized = true
  current : queue.current = none
  endpoint : ∃ bulkIn, queue.bulkIn = some bulkIn

omit [SampleArithmetic F] in
/-- A queue that goes on after a completion from before a restart may ask again. -/
theorem MayAsk.again {since : ℕ} {keep : Queue → Prop} (hkeep : KeptByQueue since keep)
    {queue queue' : Queue} {arrival : Arrival} (h : MayAsk keep queue)
    (hturn : queue.turn (some arrival) = .ok (.again, queue')) : MayAsk keep queue' := by
  rcases turn_cases hturn with ⟨_, hend, _⟩ | ⟨bulkIn, buffer, pending, hbulk, hpending, hcases⟩
  · exact nomatch hend
  · have hkept := hkeep.turn queue bulkIn buffer pending arrival .again queue' hbulk hpending
      h.current hcases (fun _ => Queue.Turn.noConfusion) h.kept
    cases hcases
    exact ⟨hkept, h.initialized, h.current, _, rfl⟩

omit [SampleArithmetic F] in
theorem MayAsk.asks {since : ℕ} {keep : Queue → Prop} (hkeep : KeptByQueue since keep)
    {queue : Queue} (h : MayAsk keep queue) (arrivals : List Arrival) :
    ∀ asking ∈ loopAsks arrivals queue, MayAsk keep asking := by
  induction arrivals generalizing queue with
  | nil =>
    intro asking hmem
    unfold loopAsks at hmem
    split at hmem
    · exact absurd hmem List.not_mem_nil
    · exact List.mem_singleton.mp hmem ▸ h
  | cons arrival arrivals ih =>
    intro asking hmem
    unfold loopAsks at hmem
    split at hmem
    · exact absurd hmem List.not_mem_nil
    · rcases List.mem_cons.mp hmem with rfl | hmem
      · exact h
      · split at hmem
        · rename_i queue' hturn
          exact ih (h.again hkeep hturn) asking hmem
        · exact absurd hmem List.not_mem_nil

/-- The queue of a running stream may ask once it has given its current buffer back. -/
theorem mayAsk_release {since : ℕ} {keep : Queue → Prop} (hkeep : KeptByQueue since keep)
    {w : StreamWorld F mode} (hinv : StreamInv w) (hkept : QueueHas keep w.receiver)
    (hstate : w.receiver.claim.receiver = .running) {queue : Queue}
    (h : w.receiver.queue.map Queue.releaseCurrent = some queue) : MayAsk keep queue := by
  obtain ⟨before, hbefore, rfl⟩ := Option.map_eq_some_iff.mp h
  obtain ⟨other, hother, hinitialized⟩ := (hinv.running hstate).2
  obtain rfl := Option.some.inj (hbefore.symm.trans hother)
  obtain ⟨bulkIn, hbulk, _⟩ := hinv.endpoint before hbefore
  obtain ⟨bulkIn', hbulk', _⟩ := (keepsEndpoint_releaseCurrent before).bulkIn bulkIn hbulk
  exact ⟨hkeep.release _ (hkept before hbefore),
    (keepsEndpoint_releaseCurrent before).initialized.trans hinitialized,
    releaseCurrent_current before, bulkIn', hbulk'⟩

theorem mayAsk_blockFill {keep : Queue → Prop} {since : ℕ} (hkeep : KeptByQueue since keep)
    {w : StreamWorld F .rawAdc} (hinv : StreamInv w) (hkept : QueueHas keep w.receiver)
    {queue : Queue} (h : blockFill w = some queue) : MayAsk keep queue := by
  unfold blockFill at h
  split at h
  · rename_i hstate
    exact mayAsk_release hkeep hinv hkept hstate h
  · exact nomatch h

theorem mayAsk_restartFill {keep : Queue → Prop} {since : ℕ} (hkeep : KeptByQueue since keep)
    {w : StreamWorld F .rawAdc} (hsince : since ≤ w.wire.opened) (hinv : StreamInv w)
    (hkept : QueueHas keep w.receiver)
    {outcome : StreamProgress F .rawAdc (Result Unit) × StreamWorld F .rawAdc}
    (hsegment : Segment StreamWorld.port StreamRely ControlMoves (Makes (Restarted none)) w outcome)
    {queue : Queue} (h : restartFill outcome = some queue) : MayAsk keep queue := by
  obtain ⟨progress, w'⟩ := outcome
  cases progress with
  | waiting ticket request next => exact nomatch h
  | finished result =>
    cases result with
    | error e => exact nomatch h
    | ok value =>
      exact mayAsk_blockFill hkeep (hinv.moves hsegment.1.moves)
        (hkeep.moves hsince hinv hsegment.1.moves hkept) h

theorem mayAsk_futureFill {keep : Queue → Prop} {since : ℕ} (hkeep : KeptByQueue since keep)
    {w : StreamWorld F .rawAdc} (hsince : since ≤ w.wire.opened) (hinv : StreamInv w)
    (hkept : QueueHas keep w.receiver) {future : NextBlockFuture F} (hsafe : FutureSafe w future)
    (replies : List AnyReply) {queue : Queue} (h : futureFill future replies w = some queue) :
    MayAsk keep queue := by
  cases future with
  | direct =>
    unfold futureFill at h
    dsimp only at h
    split at h
    · exact mayAsk_restartFill hkeep hsince hinv hkept (beginRestart_segment hinv replies) h
    · exact mayAsk_blockFill hkeep hinv hkept h
  | restarting progress =>
    exact mayAsk_restartFill hkeep hsince hinv hkept (restarting_segment hsafe replies) h
  | filling => exact mayAsk_blockFill hkeep hinv hkept h
  | completed => exact nomatch h
  | returned => exact nomatch h

theorem mayAsk_readFill {keep : Queue → Prop} {since : ℕ} (hkeep : KeptByQueue since keep)
    {w : StreamWorld F .f32Iq} (hsince : since ≤ w.wire.opened) (hinv : StreamInv w)
    (hkept : QueueHas keep w.receiver) {room : ℕ} {queue : Queue}
    (h : readFill room w = some queue) : MayAsk keep queue := by
  obtain ⟨hbegin, hrunning⟩ := beginRead_moves hinv
  obtain ⟨hbegun, hqueue, hcurrent, _⟩ := readFill_some h
  have hinv' := hinv.moves hbegin
  obtain ⟨other, hother, hinitialized⟩ := (hinv'.running (hrunning hbegun)).2
  obtain rfl := Option.some.inj (hqueue.symm.trans hother)
  obtain ⟨bulkIn, hbulk, _⟩ := hinv'.endpoint queue hqueue
  exact ⟨hkeep.moves hsince hinv hbegin hkept queue hqueue, hinitialized, hcurrent, bulkIn, hbulk⟩

theorem mayAsk_operationFill {keep : Queue → Prop} {since : ℕ} (hkeep : KeptByQueue since keep)
    {w : StreamWorld F .f32Iq} (hsince : since ≤ w.wire.opened) (hinv : StreamInv w)
    (hkept : QueueHas keep w.receiver) {operation : ReadOperation} {queue : Queue}
    (h : operationFill operation w = some queue) : MayAsk keep queue := by
  unfold operationFill at h
  split at h
  · exact nomatch h
  · exact mayAsk_readFill hkeep hsince hinv hkept h

theorem mayAsk_phaseFill {keep : Queue → Prop} {since : ℕ} (hkeep : KeptByQueue since keep)
    {session : Session} {wire : Wire} {panic : Option Panic} {phase : StreamPhase F mode}
    (hsince : since ≤ wire.opened) (hinv : PhaseInv session wire panic phase)
    (hkept : ∀ receiver, phase.receiver? = some receiver → QueueHas keep receiver)
    (replies : List AnyReply) {queue : Queue}
    (h : phaseFill replies phase (fun receiver => ⟨session, wire, receiver, panic⟩) = some queue) :
    MayAsk keep queue := by
  cases phase with
  | operating receiver found call flight =>
    have hpoll := controlPoll (callPost_compose _ call) hinv.2.2 replies
    rw [phaseFill_operating] at h
    generalize flight.poll StreamWorld.port replies _ = outcome at hpoll h
    obtain ⟨progress, w'⟩ := outcome
    cases call with
    | waitBlock =>
      cases progress with
      | waiting ticket request next => exact nomatch h
      | finished result =>
        cases result with
        | error e => exact nomatch h
        | ok value =>
          obtain ⟨hcontrol, hrestarted⟩ := hpoll
          have hmoves := hcontrol.moves
          exact mayAsk_release hkeep (hinv.1.moves hmoves)
            (hkeep.moves hsince hinv.1 hmoves (hkept receiver rfl)) (hrestarted rfl).1 h
    | start => exact nomatch h
    | stop => exact nomatch h
    | close => exact nomatch h
  | reading receiver future =>
    rw [phaseFill_reading] at h
    exact mayAsk_futureFill hkeep hsince hinv.1 (hkept receiver rfl) hinv.2.2 replies h
  | awaiting receiver operation =>
    rw [phaseFill_awaiting] at h
    exact mayAsk_operationFill hkeep hsince hinv.1 (hkept receiver rfl) h
  | idle receiver => exact nomatch h
  | cleaning receiver flight => exact nomatch h
  | gone => exact nomatch h

/-- **Every call that asks an endpoint for a completion** in an action of a reachable state is made
by a queue that may ask, with what every operation on a queue keeps. -/
theorem completionPolls_mayAsk {keep : Queue → Prop} (hkeep : KeptByQueue 0 keep)
    {config : ValidConfig mode} {s : System F mode} (h : System.Reachable config s)
    (action : Action mode) : ∀ asking ∈ completionPolls s action, MayAsk keep asking := by
  have hinv := (reachable_inv h).system
  have hkept : ∀ {stream : ℕ} {phase : StreamPhase F mode}, s.streams[stream]? = some phase →
      ∀ receiver, phase.receiver? = some receiver → QueueHas keep receiver :=
    fun hphase receiver hreceiver => reachable_queue hkeep h (List.mem_of_getElem? hphase) hreceiver
  -- the queue that an action begins to fill with may ask
  have hfill : ∀ queue arrivals, actionFill s action = some (queue, arrivals) →
      MayAsk keep queue := by
    intro queue arrivals hfill
    cases action with
    | pollStream stream replies arrivals' =>
      obtain ⟨found, hfound, hpair⟩ := Option.map_eq_some_iff.mp hfill
      obtain ⟨phase, hphase, hfound⟩ := Option.bind_eq_some_iff.mp hfound
      obtain rfl := congrArg Prod.fst hpair
      exact mayAsk_phaseFill hkeep (Nat.zero_le _) (hinv.streams phase (List.mem_of_getElem? hphase))
        (hkept hphase) replies hfound
    | pollRead stream room arrivals' =>
      obtain ⟨found, hfound, hpair⟩ := Option.map_eq_some_iff.mp hfill
      obtain ⟨phase, hphase, hfound⟩ := Option.bind_eq_some_iff.mp hfound
      obtain rfl := congrArg Prod.fst hpair
      cases phase with
      | idle receiver =>
        exact mayAsk_readFill hkeep (Nat.zero_le _)
          (hinv.streamInv (List.mem_of_getElem? hphase) rfl) (hkept hphase receiver rfl) hfound
      | _ => exact nomatch hfound
    | readBlocking stream room arrivals' =>
      obtain ⟨found, hfound, hpair⟩ := Option.map_eq_some_iff.mp hfill
      obtain ⟨phase, hphase, hfound⟩ := Option.bind_eq_some_iff.mp hfound
      obtain rfl := congrArg Prod.fst hpair
      cases phase with
      | idle receiver =>
        exact mayAsk_readFill hkeep (Nat.zero_le _)
          (hinv.streamInv (List.mem_of_getElem? hphase) rfl) (hkept hphase receiver rfl) hfound
      | _ => exact nomatch hfound
    | _ => exact nomatch hfill
  intro asking hmem
  unfold completionPolls at hmem
  split at hmem
  · exact absurd hmem List.not_mem_nil
  · rename_i queue arrivals hsome
    exact (hfill queue arrivals hsome).asks hkeep arrivals asking hmem

end HydraSdr.Analysis
