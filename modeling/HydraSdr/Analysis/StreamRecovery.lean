import HydraSdr.Analysis.BufferPool
import HydraSdr.Analysis.OperationFeeds
import HydraSdr.Analysis.ReadMechanisms
import HydraSdr.Analysis.SubmissionOrder

/-!
# Streams recover

A stream whose call has failed or has been dropped may be left anywhere between two commands.
Whatever has become of it, stopping and starting it on a device that accepts its commands makes it
run with the settings in force, and once the transfers from before the restart have been given back
the next one is delivered, with nothing of what came before it.
-/

set_option autoImplicit false

namespace HydraSdr.Analysis.StreamRecovery

open HydraSdr.Program HydraSdr.Computation HydraSdr.Analysis Resumption SpuriousPolls
  ReadMechanisms BufferPool

variable {F : Type} {mode : SampleFormat}

/-! ## The calls on a device that accepts them -/

/-- A device that carries out what a stream asks of it. -/
structure Accepts (reply : AnyReply) : Prop where
  controlOut : ∀ request, reply (.controlOut request) = .ok ()
  bulkIn : ∀ endpoint, reply (.bulkIn endpoint) = .ok ()
  clearHalt : reply .clearHalt = .ok ()

theorem obliging_accepts : Accepts obliging := ⟨fun _ => rfl, fun _ => rfl, rfl⟩

variable [SampleArithmetic F]

omit [SampleArithmetic F] in
/-- A command touches the wire alone. -/
theorem command_accepted {reply : AnyReply} (h : Accepts reply) (request : OutRequest)
    (replies : Supply Transfer Transfer.Reply) (w : StreamWorld F mode) :
    ∃ wire, feedOperation StreamWorld.port (controlOut request) (reply :: replies) w =
      (some (.ok (), replies), { w with wire := wire }) := by
  rw [controlOut, feed_leaf_cons, h.controlOut]
  exact ⟨_, rfl⟩

omit [SampleArithmetic F] in
theorem prepareQueue_accepted {reply : AnyReply} (h : Accepts reply) (settings : ReceiveSettings)
    (replies : Supply Transfer Transfer.Reply) (w : StreamWorld F mode) :
    ∃ wire id, feedOperation StreamWorld.port (Receiver.prepareQueue settings) (reply :: replies) w =
      (some (.ok (), replies),
        { w with wire := wire }.setQueue (Queue.new (BulkIn.opened id) settings)) := by
  rw [Receiver.prepareQueue, feed_map, feed_leaf_cons, onFed_some, h.bulkIn]
  exact ⟨_, _, rfl⟩

omit [SampleArithmetic F] in
theorem initializeQueue_accepted {reply : AnyReply} (h : Accepts reply)
    (replies : Supply Transfer Transfer.Reply) {w : StreamWorld F mode} {queue : Queue}
    {bulkIn : BulkIn} (hqueue : w.receiver.queue = some queue) (hbulk : queue.bulkIn = some bulkIn) :
    ∃ wire queue', feedOperation StreamWorld.port (Receiver.initializeQueue w).2 (reply :: replies)
        (Receiver.initializeQueue w).1 =
      (some (.ok (), replies), { w with wire := wire }.setQueue queue') ∧
      queue'.settings = queue.settings ∧ queue'.current = queue.current := by
  have hopen : queue.isClosed = false := by
    rw [Queue.isClosed, hbulk]
    rfl
  have hsubmit : ∃ queue', queue.submitBuffers = .ok queue' ∧ queue'.settings = queue.settings ∧
      queue'.current = queue.current := by
    unfold Queue.submitBuffers
    rw [hbulk]
    exact ⟨_, rfl, rfl, rfl⟩
  obtain ⟨queue', hsubmit, hsame⟩ := hsubmit
  unfold Receiver.initializeQueue
  rw [hqueue]
  dsimp only
  rw [hopen, if_neg Bool.false_ne_true, feed_map, feed_leaf_cons, onFed_some, h.clearHalt]
  have hqueue' : (StreamWorld.port.settle (StreamWorld.port.ticket w) Transfer.clearHalt (.ok ())
      (StreamWorld.port.issue Transfer.clearHalt w)).receiver.queue = some queue := hqueue
  dsimp only
  rw [hqueue']
  dsimp only
  rw [hsubmit]
  exact ⟨_, queue', rfl, hsame⟩

/-- What a call that has ended leaves alone: it is about its own stream. -/
structure Ended (w w' : StreamWorld F mode) : Prop where
  session : w'.session = w.session
  panic : w'.panic = w.panic

/-- A receiver that holds nothing, of which nothing has been converted. -/
def Unused (receiver : Receiver F mode) : Prop :=
  receiver.processor = Processor.default mode ∧
    ∀ queue, receiver.queue = some queue → queue.current = none

/-- **Stopping a stream** on a device that accepts it leaves nothing of what has been received. -/
theorem stop_accepted {w : StreamWorld F mode} (hinv : StreamInv w) {reply : AnyReply}
    (h : Accepts reply) (replies : Supply Transfer Transfer.Reply) :
    ∃ stats rest w', feedOperation StreamWorld.port Receiver.stop (reply :: replies) w =
      (some (.ok stats, rest), w') ∧ Ended w w' ∧ w'.receiver.claim.receiver = .stopped ∧
      Unused w'.receiver := by
  rw [Receiver.stop, feed_continueWith, feed_ready, onFed_some]
  by_cases hstate : w.receiver.claim.receiver = .stopped
  · simp only [beginStop_of_stopped hstate]
    refine ⟨_, _, _, rfl, ⟨rfl, rfl⟩, hstate, hinv.unused hstate, fun queue hqueue => ?_⟩
    obtain ⟨bulkIn, hbulk, _⟩ := hinv.endpoint queue hqueue
    exact (hinv.paused hstate queue bulkIn hqueue hbulk).1
  · obtain ⟨wire, hfed⟩ := command_accepted h (.receiverMode .off) replies
      (w.setClaim { w.receiver.claim with receiver := .cleanupRequired })
    simp only [beginStop_of_ne hstate, if_true, feed_left, feed_map, hfed, onFed_some]
    refine ⟨_, _, _, rfl, ⟨rfl, rfl⟩, rfl, rfl, fun queue hqueue => ?_⟩
    obtain ⟨before, _, rfl⟩ := Option.map_eq_some_iff.mp hqueue
    exact pause_current before

/-- The queue that a restart on an accepting device ends with. -/
def Adopted (settings : ReceiveSettings) (receiver : Receiver F mode) : Prop :=
  ∃ queue, receiver.queue = some queue ∧ queue.settings = settings

/-- What a start ends with on a device that accepts it. -/
def Starts (w : StreamWorld F mode)
    (outcome : Option (Result Unit × Supply Transfer Transfer.Reply) × StreamWorld F mode) : Prop :=
  ∃ rest w', outcome = (some (.ok (), rest), w') ∧ Ended w w' ∧
    w'.receiver.claim.receiver = .running ∧ Adopted w.session.receive w'.receiver ∧
    Unused w'.receiver

theorem retired_unused (receiver : Receiver F mode) : Unused receiver.retireStream :=
  ⟨retireStream_processor receiver, fun _ h => nomatch (retireStream_queue receiver).symm.trans h⟩

theorem adopt_unused {receiver : Receiver F mode} (settings : ReceiveSettings)
    (h : Unused receiver) : Unused (receiver.adopt settings) := by
  unfold Receiver.adopt
  split
  · exact h
  · rename_i queue hqueue
    have hcurrent := h.2 queue hqueue
    split
    · refine ⟨rfl, fun other hother => ?_⟩
      obtain rfl := Option.some.inj hother
      show queue.discardCurrent.current = none
      rw [discardCurrent_of_none hcurrent]
      exact hcurrent
    · refine ⟨h.1, fun other hother => ?_⟩
      obtain rfl := Option.some.inj hother
      exact hcurrent

/-- A start that builds a queue. -/
theorem startFresh_accepted {w : StreamWorld F mode} {off opened on cleared : AnyReply}
    (hoff : Accepts off) (hopened : Accepts opened) (hon : Accepts on) (hcleared : Accepts cleared)
    (replies : Supply Transfer Transfer.Reply) :
    Starts w (feedOperation StreamWorld.port (Receiver.startPipeline true w).2
      (off :: opened :: on :: cleared :: replies) (Receiver.startPipeline true w).1) := by
  unfold Receiver.startPipeline
  simp only [if_true, feed_continueWith, feed_andThen, feed_left]
  obtain ⟨wire₁, hoff⟩ := command_accepted hoff (.receiverMode .off)
    (opened :: on :: cleared :: replies)
    ((w.onReceiver Receiver.retireStream).onReceiver (Receiver.adopt w.session.receive))
  rw [hoff, tryFed_ok]
  obtain ⟨wire₂, id, hopened⟩ := prepareQueue_accepted hopened w.session.receive
    (on :: cleared :: replies) { (w.onReceiver Receiver.retireStream).onReceiver
      (Receiver.adopt w.session.receive) with wire := wire₁ }
  rw [hopened, tryFed_ok]
  generalize hprepared : StreamWorld.setQueue _ _ = prepared
  obtain ⟨wire₃, hon⟩ := command_accepted hon (.receiverMode .rx) (cleared :: replies) prepared
  rw [hon, tryFed_ok]
  have hqueue : ({ prepared with wire := wire₃ } : StreamWorld F mode).receiver.queue =
      some (Queue.new (BulkIn.opened id) w.session.receive) := by
    rw [← hprepared]
    rfl
  obtain ⟨wire₄, queue, hcleared, hsettings, hcurrent⟩ :=
    initializeQueue_accepted hcleared replies hqueue rfl
  rw [hcleared, onFed_some]
  subst hprepared
  refine ⟨_, _, rfl, ⟨rfl, rfl⟩, rfl, ⟨queue, rfl, hsettings⟩, ?_, fun other hother => ?_⟩
  · show (w.receiver.retireStream.adopt w.session.receive).processor = Processor.default mode
    exact (adopt_unused _ (retired_unused w.receiver)).1
  · obtain rfl := Option.some.inj hother
    exact hcurrent

/-- A start that keeps the queue. -/
theorem startKept_accepted {w : StreamWorld F mode} (hunused : Unused w.receiver) {queue : Queue}
    (hqueue : w.receiver.queue = some queue) {on : AnyReply} (hon : Accepts on)
    (replies : Supply Transfer Transfer.Reply) :
    Starts w (feedOperation StreamWorld.port (Receiver.startPipeline false w).2 (on :: replies)
      (Receiver.startPipeline false w).1) := by
  unfold Receiver.startPipeline
  simp only [Bool.false_eq_true, if_false, feed_continueWith, feed_andThen, feed_right, feed_ready,
    tryFed_ok]
  obtain ⟨wire, hon⟩ := command_accepted hon (.receiverMode .rx) replies
    (w.onReceiver (Receiver.adopt w.session.receive))
  rw [hon, tryFed_ok, onFed_some]
  refine ⟨_, _, rfl, ⟨rfl, rfl⟩, rfl, ?_, adopt_unused _ hunused⟩
  show Adopted w.session.receive (w.receiver.adopt w.session.receive)
  unfold Receiver.adopt
  rw [hqueue]
  dsimp only
  split
  · exact ⟨_, rfl, rfl⟩
  · exact ⟨_, rfl, rfl⟩

/-- **Starting a stopped stream** on a device that accepts it makes it run with the settings in
force. -/
theorem start_accepted {w : StreamWorld F mode} (hstate : w.receiver.claim.receiver = .stopped)
    (hunused : Unused w.receiver) {off opened on cleared : AnyReply} (hoff : Accepts off) (hopened : Accepts opened)
    (hon : Accepts on) (hcleared : Accepts cleared) (replies : Supply Transfer Transfer.Reply) :
    Starts w (feedOperation StreamWorld.port Receiver.start
      (off :: opened :: on :: cleared :: replies) w) := by
  rw [Receiver.start, feed_continueWith, feed_ready, onFed_some]
  simp only [beginStart_of_stopped hstate, feed_andThen, feed_ready, tryFed_ok, if_true, feed_left]
  generalize hbegun : w.setClaim _ = begun
  have hsession : begun.session = w.session := by rw [← hbegun]; rfl
  have hpanic : begun.panic = w.panic := by rw [← hbegun]; rfl
  have hbegunUnused : Unused begun.receiver := by rw [← hbegun]; exact hunused
  have hstarts : Starts begun (feedOperation StreamWorld.port
      (Receiver.startPipeline (begun.receiver.needsFreshQueue begun.session.receive) begun).2
      (off :: opened :: on :: cleared :: replies)
      (Receiver.startPipeline (begun.receiver.needsFreshQueue begun.session.receive) begun).1) := by
    cases hfresh : begun.receiver.needsFreshQueue begun.session.receive with
    | true => exact startFresh_accepted hoff hopened hon hcleared replies
    | false =>
      cases hqueue : begun.receiver.queue with
      | none => simp [Receiver.needsFreshQueue, hqueue] at hfresh
      | some queue => exact startKept_accepted hbegunUnused hqueue hoff _
  obtain ⟨rest, w', houtcome, hended, hrunning, hadopted, hleft⟩ := hstarts
  rw [hsession] at hadopted
  exact ⟨rest, w', houtcome, ⟨hended.session.trans hsession, hended.panic.trans hpanic⟩, hrunning,
    hadopted, hleft⟩

/-! ## The first transfer after a restart -/

/-- The completion of a whole transfer. -/
structure Whole (packing : Bool) (arrival : Arrival) : Prop where
  status : arrival.status = .ok ()
  actualLen : arrival.actualLen = transferLength packing
  data : transferLength packing ≤ arrival.data.length

omit [SampleArithmetic F] in
/-- The transfers from before a restart are given back, whatever they say. -/
theorem fillLoop_stale {queue : Queue} (h : MayAsk Pooled queue) {stale : List Arrival}
    (hstale : stale.length = queue.discardRemaining) (later : List Arrival) :
    ∃ queue', Queue.fillLoop (stale ++ later) queue = Queue.fillLoop later queue' ∧
      MayAsk Pooled queue' ∧ queue'.discardRemaining = 0 ∧ queue'.settings = queue.settings := by
  induction stale generalizing queue with
  | nil => exact ⟨queue, rfl, h, hstale.symm, rfl⟩
  | cons arrival stale ih =>
    obtain ⟨bulkIn, hbulk, hcount⟩ := pending_of_mayAsk h
    cases hpending : bulkIn.pending with
    | nil => rw [hpending] at hcount; exact nomatch hcount
    | cons buffer pending =>
      have hdiscard : queue.discardRemaining ≠ 0 := by
        rw [← hstale]
        exact Nat.succ_ne_zero _
      have hcases : TurnCases queue bulkIn buffer pending arrival .again _ := .discarded hdiscard
      have hturn := turn_of_cases hbulk hpending hcases
      have hleft : stale.length = queue.discardRemaining - 1 := by
        rw [← hstale]
        rfl
      obtain ⟨queue', hloop, hasks, hzero, hsettings⟩ :=
        ih (h.again (keptByQueue_pooled 0) hturn) hleft
      refine ⟨queue', ?_, hasks, hzero, hsettings⟩
      rw [← hloop, List.cons_append, Queue.fillLoop, hturn]
      rfl

/-- The current buffer of a queue is this transfer. -/
structure Holds (queue : Queue) (data : List UInt8) : Prop where
  current : ∃ buffer, queue.current = some buffer ∧ buffer.bytes = data
  currentLen : queue.currentLen = data.length

omit [SampleArithmetic F] in
/-- The block of a queue that holds a transfer. -/
theorem Holds.block {queue : Queue} {data : List UInt8} (h : Holds queue data) :
    ∃ block, queue.block = .ok (.ok block) ∧ block.raw = data := by
  obtain ⟨buffer, hcurrent, rfl⟩ := h.current
  unfold Queue.block
  rw [hcurrent]
  dsimp only
  rw [if_neg (by rw [h.currentLen]; exact lt_irrefl _)]
  refine ⟨_, rfl, ?_⟩
  show buffer.bytes.take queue.currentLen = buffer.bytes
  rw [h.currentLen, List.take_length]

/-- **A read of a whole transfer** with a processor that is not in use converts it afresh. -/
theorem Holds.read {queue queue' : Queue} {data : List UInt8} (h : Holds queue data)
    (haligned : Aligned (IqProcessor.default : IqProcessor F) queue) {room : ℕ} (hroom : 0 < room)
    {written : List (Complex F)} {processor' : IqProcessor F}
    (hread : ReadOutcome room IqProcessor.default queue written processor' queue') :
    ∃ converter progress, (Float32IqConverter.default : Float32IqConverter F).processU16leToF32iqSlice
      data queue.settings.decimation room = .ok (converter, progress, written) := by
  obtain ⟨buffer, hcurrent, rfl⟩ := h.current
  have hunread : ∀ {other : Buffer} {raw : List UInt8}, queue.current = some other →
      (IqProcessor.default : IqProcessor F).unread queue other = .ok raw → raw = buffer.bytes := by
    intro other raw hother hraw
    obtain rfl := Option.some.inj (hcurrent.symm.trans hother)
    obtain ⟨_, _, _, _, hraw', _, hcall⟩ := readCall_ok haligned hcurrent hroom
    obtain rfl := Except.ok.inj (hraw.symm.trans hraw')
    rw [hcall.raw, h.currentLen, List.take_length]
    rfl
  cases hread with
  | carried hidle =>
    rcases hidle with hnone | hzero
    · exact nomatch hcurrent.symm.trans hnone
    · exact absurd hzero (Nat.ne_of_gt hroom)
  | released hother hraw _ hcall _ _ =>
    rw [hunread hother hraw] at hcall
    exact ⟨_, _, hcall⟩
  | filled hother hraw _ hcall _ _ _ =>
    rw [hunread hother hraw] at hcall
    exact ⟨_, _, hcall⟩

omit [SampleArithmetic F] in
/-- With nothing to give back, a whole transfer becomes the current block. -/
theorem fillLoop_whole {queue : Queue} (h : MayAsk Pooled queue) (hzero : queue.discardRemaining = 0)
    {arrival : Arrival} (hwhole : Whole queue.settings.packing arrival) (later : List Arrival) :
    ∃ queue', Queue.fillLoop (arrival :: later) queue = .ok (some (.ok ()), queue', later) ∧
      Holds queue' (arrival.data.take (transferLength queue.settings.packing)) ∧
      queue'.settings = queue.settings := by
  obtain ⟨bulkIn, hbulk, hcount⟩ := pending_of_mayAsk h
  cases hpending : bulkIn.pending with
  | nil => rw [hpending] at hcount; exact nomatch hcount
  | cons buffer pending =>
    have hbuffer : buffer ∈ queue.buffers ++ bulkIn.pending ++ queue.current.toList := by
      simp [hpending]
    have hcapacity := h.kept.capacity hbulk hbuffer
    have hbytes : (BulkIn.completion buffer arrival).buffer.bytes =
        arrival.data.take (transferLength queue.settings.packing) :=
      congrArg arrival.data.take hcapacity
    have hlength : (BulkIn.completion buffer arrival).buffer.bytes.length =
        transferLength queue.settings.packing := by
      rw [hbytes, List.length_take, Nat.min_eq_left hwhole.data]
    have hstatus : (BulkIn.completion buffer arrival).status = .ok () := hwhole.status
    have hactual : (BulkIn.completion buffer arrival).actualLen =
        transferLength queue.settings.packing := hwhole.actualLen
    have hcheck : queue.checkCompletion (BulkIn.completion buffer arrival) = .ok () := by
      unfold Queue.checkCompletion
      simp only [hstatus, hactual, hlength, ne_eq, not_true_eq_false, lt_irrefl, or_self, if_false]
    have hturn := turn_of_cases hbulk hpending (.accepted hzero hcheck)
    rw [Queue.fillLoop, hturn]
    refine ⟨_, rfl, ⟨⟨_, rfl, hbytes⟩, ?_⟩, rfl⟩
    rw [List.length_take, Nat.min_eq_left hwhole.data]
    exact hwhole.actualLen

omit [SampleArithmetic F] in
/-- **The loop of a fill after a restart** gives back what is stale and delivers what comes next. -/
theorem fillLoop_restarted {queue : Queue} (h : MayAsk Pooled queue) {stale : List Arrival}
    (hstale : stale.length = queue.discardRemaining) {arrival : Arrival}
    (hwhole : Whole queue.settings.packing arrival) (later : List Arrival) :
    ∃ queue', Queue.fillLoop (stale ++ arrival :: later) queue =
        .ok (some (.ok ()), queue', later) ∧
      Holds queue' (arrival.data.take (transferLength queue.settings.packing)) ∧
      queue'.settings = queue.settings := by
  obtain ⟨ready, hloop, hasks, hzero, hsettings⟩ := fillLoop_stale h hstale (arrival :: later)
  rw [← hsettings] at hwhole ⊢
  rw [hloop]
  exact fillLoop_whole hasks hzero hwhole later

/-- A queue that runs may ask for completions once it holds nothing. -/
theorem mayAsk_release {queue : Queue} (hkept : Pooled queue)
    (hinitialized : queue.initialized = true) (hopen : ∃ bulkIn, queue.bulkIn = some bulkIn) :
    MayAsk Pooled queue.releaseCurrent := by
  obtain ⟨bulkIn, hbulk⟩ := hopen
  have hkeeps := keepsEndpoint_releaseCurrent queue
  obtain ⟨bulkIn', hbulk', _⟩ := hkeeps.bulkIn bulkIn hbulk
  exact ⟨pooled_release hkept, hkeeps.initialized.trans hinitialized, releaseCurrent_current queue,
    bulkIn', hbulk'⟩

/-- A next-block future on a stream that has been started. -/
theorem block_restarted {w : StreamWorld F .rawAdc} {queue : Queue}
    (hrunning : w.receiver.claim.receiver = .running) (hqueue : w.receiver.queue = some queue)
    (hsettings : queue.settings = w.session.receive) (hasks : MayAsk Pooled queue.releaseCurrent)
    {stale : List Arrival} (hstale : stale.length = queue.discardRemaining) {arrival : Arrival}
    (hwhole : Whole queue.settings.packing arrival) (later : List Arrival) :
    ∃ w' block, NextBlockFuture.direct.poll w [] (stale ++ arrival :: later) =
        .ok (some (.ok (some block)), .completed, w', later) ∧ w'.panic = w.panic ∧
      block.raw = arrival.data.take (transferLength queue.settings.packing) := by
  have hunchanged : Receiver.packingChanged w = false := by
    unfold Receiver.packingChanged
    rw [hqueue]
    dsimp only
    rw [hsettings, bne_self_eq_false]
  have hfill : blockFill w = some queue.releaseCurrent := by
    unfold blockFill
    rw [if_pos hrunning, hqueue]
    rfl
  rw [← releaseCurrent_discardRemaining] at hstale
  rw [← releaseCurrent_settings] at hwhole ⊢
  obtain ⟨queue', hloop, hholds, _⟩ := fillLoop_restarted hasks hstale hwhole later
  obtain ⟨block, hblock, hraw⟩ := hholds.block
  have hread := pollNextBlock_fill w
  rw [hfill] at hread
  have hread := hread (stale ++ arrival :: later)
  rw [hloop] at hread
  refine ⟨w.setQueue queue', block, ?_, rfl, hraw⟩
  unfold NextBlockFuture.poll
  rw [if_neg (by rw [hunchanged]; exact Bool.false_ne_true)]
  unfold NextBlockFuture.fill
  rw [hread]
  have hcurrent : Receiver.currentBlock (w.setQueue queue') = .ok (.ok block) := hblock
  show (Receiver.currentBlock (w.setQueue queue') >>= _) = _
  rw [hcurrent]
  rfl

/-- A read on a stream that has been started converts what comes next afresh. -/
theorem samples_restarted {w : StreamWorld F .f32Iq} {queue : Queue}
    (hrunning : w.receiver.claim.receiver = .running) (hqueue : w.receiver.queue = some queue)
    (hsettings : queue.settings = w.session.receive) (haligned : ReadsHave Aligned w)
    (hunused : Unused w.receiver) (hasks : MayAsk Pooled queue) {room : ℕ} (hroom : 0 < room)
    {stale : List Arrival} (hstale : stale.length = queue.discardRemaining) {arrival : Arrival}
    (hwhole : Whole queue.settings.packing arrival) (later : List Arrival) :
    ∃ samples w' converter progress, Receiver.pollRead w room (stale ++ arrival :: later) =
        .ok (some (.ok samples), w', later) ∧ w'.panic = w.panic ∧ samples ≠ [] ∧
      (Float32IqConverter.default : Float32IqConverter F).processU16leToF32iqSlice
        (arrival.data.take (transferLength queue.settings.packing)) queue.settings.decimation room =
          .ok (converter, progress, samples) := by
  have hbegin : Receiver.beginRead w = (.ok (), w) := by
    refine beginRead_again hrunning hqueue ?_
    rw [hsettings]
  obtain ⟨hprocessor, _⟩ := hunused
  have hcarried : IqProcessor.pending w.receiver.processor = none := by
    rw [hprocessor]
    rfl
  have hcurrent := hasks.current
  obtain ⟨queue', hloop, hholds, hsame⟩ := fillLoop_restarted hasks hstale hwhole later
  obtain ⟨bulkIn, hbulk⟩ := hasks.endpoint
  have hopen : queue.bulkIn ≠ none := by
    rw [hbulk]
    exact Option.some_ne_none _
  have hfilled := fillLoop_fills hopen hloop
  have hqueue' : Aligned (w.receiver.processor : IqProcessor F) queue' :=
    (keptByReads_aligned.fill hfilled (fun _ h => nomatch h) hcurrent hcarried
      (haligned queue hqueue)).aligned
  obtain ⟨samples, processor', queue'', hprocess, houtcome⟩ :=
    processRead_sound (w := w.setQueue queue') hqueue' hroom
  have hread := (pollRead_fills hbegin hqueue (Nat.ne_of_gt hroom) hcurrent hcarried _).filled
    queue' later hloop
  rw [hprocess] at hread
  have hsome := houtcome.nonempty hqueue' hroom (.inl (hfilled.current rfl))
  have hdefault : (w.setQueue queue').receiver.processor = IqProcessor.default := hprocessor
  rw [hdefault] at houtcome
  rw [show w.receiver.processor = IqProcessor.default from hprocessor] at hqueue'
  obtain ⟨converter, progress, hcall⟩ := hholds.read hqueue' hroom houtcome
  rw [hsame] at hcall
  exact ⟨samples, _, converter, progress, hread, rfl, hsome, hcall⟩

/-! ## As actions -/

/-- An action that lets a stream take a step and leaves it behind. -/
theorem step_put {s : System F mode} (hgoes : s.panic = none ∧ s.ended = false) {stream : ℕ}
    {phase : StreamPhase F mode} (hphase : s.streams[stream]? = some phase) {action : Action mode}
    {use : StreamPhase F mode → (Receiver F mode → StreamWorld F mode) → Option (StreamStep F mode)}
    (hact : s.act action = s.onStream stream use) {step : StreamStep F mode}
    (huse : use phase s.streamWorld = some step) (hlive : step.phase.live = true)
    (reply : ℕ → AnyReply) :
    s.step action reply = s.putStream stream step := by
  have hput : s.act action = s.putStream stream step := by
    rw [hact, onStream_some hphase, huse, Option.elim_some]
  have hleft : (s.act action).streams[stream]? = some step.phase := by
    rw [hput]
    exact List.getElem?_set_self (List.getElem?_eq_some_iff.mp hphase).1
  rw [step_of_live hgoes hleft hlive reply, hput]

/-- **A call that gets all its replies**: it is made and polled, and leaves the stream idle. -/
theorem call_answered {s : System F mode} (hgoes : s.panic = none ∧ s.ended = false) {stream : ℕ}
    {receiver : Receiver F mode} (hphase : s.streams[stream]? = some (.idle receiver))
    (call : StreamCall mode) {replies rest : Supply Transfer Transfer.Reply}
    {result : Result call.Value} {w' : StreamWorld F mode} {event : CallEvent F mode}
    (hfed : feedOperation StreamWorld.port (call.operation (s.streamWorld receiver)) replies
      (s.streamWorld receiver) = (some (result, rest), w'))
    (hfinish : StreamPhase.finishCall stream (StreamPhase.foundEndpoint receiver) [] call result w' =
      .ok (.of w' (.idle w'.receiver) [event]))
    (reply : ℕ → AnyReply) :
    (s.step (.callStream stream call) reply).step (.pollStream stream replies []) reply =
      s.putStream stream (.of w' (.idle w'.receiver) [event]) := by
  have hlt := (List.getElem?_eq_some_iff.mp hphase).1
  rw [step_put hgoes hphase rfl rfl rfl reply]
  have hcalled : (s.putStream stream (.of (s.streamWorld receiver) (.operating receiver none call
      (.unpolled (call.operation (s.streamWorld receiver)).denote)) [])).streams[stream]? = some
        (.operating receiver none call
          (.unpolled (call.operation (s.streamWorld receiver)).denote)) :=
    List.getElem?_set_self hlt
  have hpoll : StreamPhase.poll stream replies [] (.operating receiver none call
      (.unpolled (call.operation (s.streamWorld receiver)).denote)) s.streamWorld =
        some (.of w' (.idle w'.receiver) [event]) := by
    have hdone := Flight.poll_of_feed hfed
    unfold StreamPhase.poll
    dsimp only
    rw [hdone]
    exact congrArg (fun made => some (StreamStep.ofChecked _ _ made)) hfinish
  refine Eq.trans (step_put ?_ hcalled rfl hpoll rfl reply) (putStream_again rfl)
  exact hgoes

/-- The stream that its owner can call, once what it has in flight is dropped. -/
def usable : {mode : SampleFormat} → StreamPhase F mode → Option (Receiver F mode)
  | _, .idle receiver => some receiver
  | _, .operating receiver _ call _ =>
    match call with
    | .close => none
    | _ => some receiver
  | _, .reading receiver _ => some receiver
  | _, .awaiting receiver _ => some receiver
  | _, .cleaning _ _ => none
  | _, .gone => none

omit [SampleArithmetic F] in
theorem usable_receiver {phase : StreamPhase F mode} {receiver : Receiver F mode}
    (h : usable phase = some receiver) : phase.receiver? = some receiver := by
  cases phase with
  | idle | reading | awaiting => exact h
  | operating other found call flight =>
    cases call with
    | close => exact nomatch h
    | start | stop | waitBlock => exact h
  | cleaning | gone => exact nomatch h

omit [SampleArithmetic F] in
theorem putStream_putStream (s : System F mode) (stream : ℕ) (first second : StreamStep F mode) :
    (s.putStream stream first).putStream stream second =
      s.putStream stream { second with events := first.events ++ second.events } := by
  unfold System.putStream
  rw [List.set_set, List.append_assoc]

omit [SampleArithmetic F] in
/-- An idle stream may be put where it is. -/
theorem putStream_idle {s : System F mode} {stream : ℕ} {receiver : Receiver F mode}
    (hphase : s.streams[stream]? = some (.idle receiver)) :
    s.putStream stream (.of (s.streamWorld receiver) (.idle receiver) []) = s := by
  obtain ⟨hlt, hget⟩ := List.getElem?_eq_some_iff.mp hphase
  have hset : s.streams.set stream (.idle receiver) = s.streams := by
    rw [← hget, List.set_getElem_self]
  show { s with
    streams := s.streams.set stream (.idle receiver)
    history := s.history ++ [] } = s
  rw [hset, List.append_nil]

/-- **Dropping what a stream has in flight** leaves the stream as it is by then. -/
theorem cancel_usable {s : System F mode} (hgoes : s.panic = none ∧ s.ended = false) {stream : ℕ}
    {phase : StreamPhase F mode} (hphase : s.streams[stream]? = some phase)
    {receiver : Receiver F mode} (husable : usable phase = some receiver) (reply : ℕ → AnyReply) :
    s.step (.cancelStream stream) reply =
      s.putStream stream (.of (s.streamWorld receiver) (.idle receiver) []) := by
  cases phase with
  | idle other =>
    obtain rfl := Option.some.inj husable
    have hact : s.act (.cancelStream stream) = s := onStream_some hphase _
    rw [putStream_idle hphase]
    have hidle : (s.act (.cancelStream stream)).streams[stream]? = some (.idle other) := by
      rw [hact]
      exact hphase
    exact (step_of_live hgoes hidle rfl reply).trans hact
  | operating other found call flight =>
    cases call with
    | close => exact nomatch husable
    | start | stop | waitBlock =>
      obtain rfl := Option.some.inj husable
      exact step_put hgoes hphase rfl rfl rfl reply
  | reading other future =>
    obtain rfl := Option.some.inj husable
    exact step_put hgoes hphase rfl rfl rfl reply
  | awaiting other operation =>
    obtain rfl := Option.some.inj husable
    exact step_put hgoes hphase rfl rfl rfl reply
  | cleaning other flight => exact nomatch husable
  | gone => exact nomatch husable

/-- Whatever a stream has in flight is dropped; then the stream is stopped and started. -/
def restart (stream : ℕ) (replies : List AnyReply) : List (Action mode) :=
  [.cancelStream stream, .callStream stream .stop, .pollStream stream replies [],
    .callStream stream .start, .pollStream stream replies []]

/-- What follows these actions. -/
def runFrom (reply : ℕ → AnyReply) (s : System F mode) (actions : List (Action mode)) :
    System F mode :=
  actions.foldl (fun s action => s.step action reply) s

/-- **A restart on an accepting device** leaves a running stream. -/
theorem restart_runs {s : System F mode} (hgoes : s.panic = none ∧ s.ended = false) {stream : ℕ}
    {phase : StreamPhase F mode} (hphase : s.streams[stream]? = some phase)
    {receiver : Receiver F mode} (husable : usable phase = some receiver)
    (hinv : StreamInv (s.streamWorld receiver)) {replies : List AnyReply}
    (hall : ∀ other ∈ replies, Accepts other) (hlength : 4 ≤ replies.length)
    (reply : ℕ → AnyReply) :
    ∃ w' stats found, runFrom reply s (restart stream replies) =
        s.putStream stream (.of w' (.idle w'.receiver)
          [.stopped stream (.ok stats), .started stream found (.ok ()) w'.receiver.queue]) ∧
      Ended (s.streamWorld receiver) w' ∧ w'.receiver.claim.receiver = .running ∧
      Adopted s.session.receive w'.receiver ∧ Unused w'.receiver := by
  match replies, hall, hlength with
  | off :: opened :: on :: cleared :: replies, hall, _ =>
    have hlt := (List.getElem?_eq_some_iff.mp hphase).1
    have hoff : Accepts off := hall _ (by simp)
    have hopened : Accepts opened := hall _ (by simp)
    have hon : Accepts on := hall _ (by simp)
    have hcleared : Accepts cleared := hall _ (by simp)
    unfold runFrom restart
    rw [List.foldl_cons, cancel_usable hgoes hphase husable reply]
    -- the stream is stopped
    generalize hidle : s.putStream stream (.of (s.streamWorld receiver) (.idle receiver) []) = idle
    have hphase₁ : idle.streams[stream]? = some (.idle receiver) := by
      rw [← hidle]
      exact List.getElem?_set_self hlt
    have hview₁ : idle.streamWorld receiver = s.streamWorld receiver := by rw [← hidle]; rfl
    have hgoes₁ : idle.panic = none ∧ idle.ended = false := by rw [← hidle]; exact hgoes
    obtain ⟨stats, rest₁, w₁, hfed₁, hended₁, hstopped, hunused₁⟩ :=
      stop_accepted (hview₁ ▸ hinv) hoff (opened :: on :: cleared :: replies)
    rw [List.foldl_cons, List.foldl_cons, call_answered hgoes₁ hphase₁ .stop hfed₁ rfl reply, ← hidle,
      putStream_again rfl]
    -- the stream is started
    generalize hstop : s.putStream stream (.of w₁ (.idle w₁.receiver) [.stopped stream (.ok stats)]) =
      stopped
    have hphase₂ : stopped.streams[stream]? = some (.idle w₁.receiver) := by
      rw [← hstop]
      exact List.getElem?_set_self hlt
    have hview₂ : stopped.streamWorld w₁.receiver = w₁ := by rw [← hstop]; rfl
    have hgoes₂ : stopped.panic = none ∧ stopped.ended = false := by
      rw [← hstop]
      exact ⟨hended₁.panic.trans hgoes₁.1, hgoes.2⟩
    have hstopped₂ : (stopped.streamWorld w₁.receiver).receiver.claim.receiver = .stopped := hstopped
    obtain ⟨rest₂, w₂, hfed₂, hended₂, hrunning, hadopted, hunused₂⟩ :=
      start_accepted hstopped₂ hunused₁ hoff hopened hon hcleared replies
    rw [List.foldl_cons, List.foldl_cons, List.foldl_nil,
      call_answered hgoes₂ hphase₂ .start hfed₂ rfl reply, ← hstop, putStream_putStream]
    rw [hview₁] at hended₁
    rw [hview₂] at hended₂ hadopted
    refine ⟨w₂, stats, _, rfl, ?_, hrunning, ?_, hunused₂⟩
    · exact ⟨hended₂.session.trans hended₁.session, hended₂.panic.trans hended₁.panic⟩
    · rw [hended₁.session] at hadopted
      exact hadopted

/-- The next read of a stream, polled once. -/
def readNext (stream room : ℕ) (arrivals : List Arrival) :
    {mode : SampleFormat} → List (Action mode)
  | .rawAdc => [.nextBlock stream, .pollStream stream [] arrivals]
  | .f32Iq => [.pollRead stream room arrivals]

/-- The caller has been given this transfer: as a block, or as what a converter that is new makes of
it in an output of this length. -/
def Received (stream : ℕ) (data : List UInt8) (factor room : ℕ) : CallEvent F mode → Prop
  | .block reader (.ok (some block)) _ => reader = stream ∧ block.raw = data
  | .samples reader (.ok samples) _ => reader = stream ∧ samples ≠ [] ∧
      ∃ converter progress,
        (Float32IqConverter.default : Float32IqConverter F).processU16leToF32iqSlice data factor room =
          .ok (converter, progress, samples)
  | _ => False

/-- **What a running stream reads next**, once what is stale has been given back. -/
theorem readNext_received {config : ValidConfig mode} {s : System F mode}
    (h : System.Reachable config s) (hgoes : s.panic = none ∧ s.ended = false) {stream : ℕ}
    {receiver : Receiver F mode} (hphase : s.streams[stream]? = some (.idle receiver))
    (hrunning : receiver.claim.receiver = .running) {queue : Queue}
    (hqueue : receiver.queue = some queue) (hsettings : queue.settings = s.session.receive)
    (hunused : Unused receiver) {room : ℕ} (hroom : 0 < room) {stale : List Arrival}
    (hstale : stale.length = queue.discardRemaining) {arrival : Arrival}
    (hwhole : Whole queue.settings.packing arrival) (later : List Arrival) (reply : ℕ → AnyReply) :
    ∃ event, (runFrom reply s (readNext stream room (stale ++ arrival :: later))).history =
        s.history ++ [event] ∧
      Received stream (arrival.data.take (transferLength queue.settings.packing))
        queue.settings.decimation room event := by
  have hmem := List.mem_of_getElem? hphase
  have hinv : StreamInv (s.streamWorld receiver) := (reachable_inv h).system.streamInv hmem rfl
  have hkept : Pooled queue := reachable_queue (keptByQueue_pooled 0) h hmem rfl queue hqueue
  obtain ⟨other, hother, hinitialized⟩ := (hinv.running hrunning).2
  obtain rfl : queue = other := Option.some.inj (hqueue.symm.trans hother)
  obtain ⟨bulkIn, hbulk, _⟩ := hinv.endpoint queue hqueue
  have hlt := (List.getElem?_eq_some_iff.mp hphase).1
  unfold runFrom
  cases mode with
  | rawAdc =>
    have hasks := mayAsk_release hkept hinitialized ⟨bulkIn, hbulk⟩
    obtain ⟨w', block, hpoll, hpanic, hraw⟩ := block_restarted (w := s.streamWorld receiver)
      hrunning hqueue hsettings hasks hstale hwhole later
    have hbegun : s.step (.nextBlock stream) reply =
        s.putStream stream (.of (s.streamWorld receiver) (.reading receiver .direct) []) :=
      step_put hgoes hphase rfl rfl rfl reply
    have hreading : (s.putStream stream (.of (s.streamWorld receiver)
        (.reading receiver .direct) [])).streams[stream]? = some (.reading receiver .direct) :=
      List.getElem?_set_self hlt
    have huse : StreamPhase.poll stream [] (stale ++ arrival :: later)
        (.reading receiver .direct) s.streamWorld = some (.of w' (.reading w'.receiver .completed)
          [.block stream (.ok (some block)) w'.receiver.queue]) := by
      unfold StreamPhase.poll
      dsimp only
      rw [hpoll]
      rfl
    refine ⟨.block stream (.ok (some block)) w'.receiver.queue, ?_, rfl, hraw⟩
    rw [readNext, List.foldl_cons, List.foldl_cons, List.foldl_nil, hbegun]
    refine (congrArg System.history (step_put ?_ hreading rfl huse rfl reply)).trans ?_
    · exact hgoes
    · rw [putStream_again rfl]
      rfl
  | f32Iq =>
    have haligned := reachable_reads keptByReads_aligned h hmem rfl
    obtain ⟨samples, w', converter, progress, hread, hpanic, hsome, hcall⟩ :=
      samples_restarted (w := s.streamWorld receiver) hrunning hqueue hsettings haligned hunused
        ⟨hkept, hinitialized, hunused.2 queue hqueue, bulkIn, hbulk⟩ hroom hstale hwhole later
    refine ⟨.samples stream (.ok samples) w'.receiver.queue, ?_, rfl, hsome, converter, progress,
      hcall⟩
    have hact := act_pollRead hphase hread
    have hleft : (s.act (.pollRead stream room (stale ++ arrival :: later))).streams[stream]? =
        some (.idle w'.receiver) := by
      rw [hact]
      exact List.getElem?_set_self hlt
    rw [readNext, List.foldl_cons, List.foldl_nil, step_of_live hgoes hleft rfl reply, hact]
    rfl

/-- **A stream recovers from whatever has become of it.**  Take any reachable state of a session
that goes on, and any stream in it that its owner can still call: idle, or with a call or a read in
flight that is then dropped.  On a device that accepts the commands, stopping and starting it
succeeds and leaves the receiver running with the settings in force.  Then, once the transfers from
before the restart have come back, whatever they say and at most sixteen of them, the next whole
transfer is delivered to the next read: as that block, or as the samples that a new converter makes
of it. -/
theorem streams_recover {config : ValidConfig mode} {s : System F mode}
    (h : System.Reachable config s) (hpanic : s.panic = none) (hended : s.ended = false)
    {stream : ℕ} {phase : StreamPhase F mode} (hphase : s.streams[stream]? = some phase)
    {receiver : Receiver F mode} (husable : usable phase = some receiver)
    {replies : List AnyReply} (hall : ∀ other ∈ replies, Accepts other) (hlength : 4 ≤ replies.length)
    (reply : ℕ → AnyReply) :
    let restarted := runFrom reply s (restart stream replies)
    ∃ receiver' queue stats found,
      restarted.streams = s.streams.set stream (.idle receiver') ∧
      restarted.session = s.session ∧
      restarted.history = s.history ++
        [.stopped stream (.ok stats), .started stream found (.ok ()) (some queue)] ∧
      receiver'.claim.receiver = .running ∧ AcknowledgedMode .rx restarted.wire ∧
      receiver'.queue = some queue ∧ queue.settings = s.session.receive ∧
      queue.discardRemaining ≤ RFONE_TRANSFER_COUNT ∧
      ∀ room stale arrival later, 0 < room → stale.length = queue.discardRemaining →
        Whole s.session.receive.packing arrival →
        ∃ event, (runFrom reply restarted
            (readNext stream room (stale ++ arrival :: later))).history =
            restarted.history ++ [event] ∧
          Received stream (arrival.data.take (transferLength s.session.receive.packing))
            s.session.receive.decimation room event := by
  have hinv := (reachable_inv h).system.streamInv (List.mem_of_getElem? hphase)
    (usable_receiver husable)
  obtain ⟨w', stats, found, hruns, hleft, hrunning, ⟨queue, hqueue, hsettings⟩, hunused⟩ :=
    restart_runs ⟨hpanic, hended⟩ hphase husable hinv hall hlength reply
  have hreachable : System.Reachable config (runFrom reply s (restart stream replies)) :=
    ((((h.step _ _).step _ _).step _ _).step _ _).step _ _
  intro restarted
  have hgoes : restarted.panic = none ∧ restarted.ended = false := by
    rw [show restarted = _ from hruns]
    exact ⟨hleft.panic.trans hpanic, hended⟩
  have hidle : restarted.streams[stream]? = some (.idle w'.receiver) := by
    rw [show restarted = _ from hruns]
    exact List.getElem?_set_self (List.getElem?_eq_some_iff.mp hphase).1
  have hsession : restarted.session = s.session := by
    rw [show restarted = _ from hruns]
    exact hleft.session
  have hinv : StreamInv (restarted.streamWorld w'.receiver) :=
    (reachable_inv hreachable).system.streamInv (List.mem_of_getElem? hidle) rfl
  obtain ⟨bulkIn, hbulk, _⟩ := hinv.endpoint queue hqueue
  have hbounded : queue.discardRemaining ≤ RFONE_TRANSFER_COUNT := by
    have hstamped := reachable_queue (keptByQueue_stamped 0) hreachable (List.mem_of_getElem? hidle)
      rfl queue hqueue
    have hpooled : Pooled queue := reachable_queue (keptByQueue_pooled 0) hreachable
      (List.mem_of_getElem? hidle) rfl queue hqueue
    have hcount := hpooled.count hbulk
    have hpending := (hstamped bulkIn hbulk).1.bounded
    omega
  refine ⟨w'.receiver, queue, stats, found, ?_, hsession, ?_, hrunning, (hinv.running hrunning).1,
    hqueue, hsettings, hbounded, ?_⟩
  · rw [show restarted = _ from hruns]
    rfl
  · rw [← hqueue, show restarted = _ from hruns]
    rfl
  · intro room stale arrival later hroom hstale hwhole
    rw [← hsettings] at hwhole ⊢
    rw [← hsession] at hsettings
    exact readNext_received hreachable hgoes hidle hrunning hqueue hsettings hunused hroom hstale
      hwhole later reply

/-- An IQ session whose stream runs, with a read future that waits. -/
def abandonedRead : System Rat .f32Iq :=
  System.after (ValidConfig.standard .f32Iq) (fun _ => obliging)
    [.pollDevice (List.replicate 16 obliging), .rxStream, .callStream 0 .start,
      .pollStream 0 (List.replicate 4 obliging) [], .read 0 3, .pollStream 0 [] []]

/-- The read has been dropped, and the stream restarted. -/
def restartedRead : System Rat .f32Iq :=
  runFrom (fun _ => obliging) abandonedRead (restart 0 (List.replicate 4 obliging))

/-- The number of transfers from before a restart. -/
def staleCount (phase : StreamPhase Rat .f32Iq) : Option ℕ :=
  (phase.receiver?.bind Receiver.queue).map Queue.discardRemaining

theorem abandonedRead_recovers :
    ∃ event, (runFrom (fun _ => obliging) restartedRead
        (readNext 0 3 (List.replicate 16 ⟨.error .busy, 0, []⟩ ++ [fullTransfer false]))).history =
        restartedRead.history ++ [event] ∧
      Received 0 ((fullTransfer false).data.take (transferLength false)) 1 3 event := by
  have hreachable : System.Reachable (ValidConfig.standard .f32Iq) abandonedRead :=
    System.reachable_after _ _ _
  have hthere : (abandonedRead.streams[0]?.bind usable).isSome = true := by decide +kernel
  obtain ⟨receiver, hreceiver⟩ := Option.isSome_iff_exists.mp hthere
  obtain ⟨phase, hphase, husable⟩ := Option.bind_eq_some_iff.mp hreceiver
  have hall : ∀ other ∈ List.replicate 4 obliging, Accepts other := fun other hother =>
    List.eq_of_mem_replicate hother ▸ obliging_accepts
  obtain ⟨receiver', queue, _, _, hstreams, _, _, _, _, hqueue, _, _, hdelivers⟩ :=
    streams_recover hreachable (by decide +kernel) (by decide +kernel) hphase husable hall
      (by decide) fun _ => obliging
  have hidle : restartedRead.streams[0]? = some (.idle receiver') := by
    refine (congrArg (fun streams => streams[0]?) hstreams).trans ?_
    exact List.getElem?_set_self (List.getElem?_eq_some_iff.mp hphase).1
  -- all sixteen transfers come from before the restart
  have hcount : restartedRead.streams[0]?.bind staleCount = some 16 := by decide +kernel
  have hstale : queue.discardRemaining = 16 := by
    rw [hidle] at hcount
    refine Option.some.inj (Eq.trans ?_ hcount)
    exact (congrArg (Option.map Queue.discardRemaining) hqueue).symm
  have hpacking : abandonedRead.session.receive.packing = false := by decide +kernel
  have hfactor : abandonedRead.session.receive.decimation = 1 := by decide +kernel
  rw [hpacking, hfactor] at hdelivers
  refine hdelivers 3 _ (fullTransfer false) [] (by decide) ?_ ⟨rfl, rfl, ?_⟩
  · rw [List.length_replicate, hstale]
  · exact (List.length_replicate ..).ge

end HydraSdr.Analysis.StreamRecovery
