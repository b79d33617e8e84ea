import HydraSdr.Analysis.OperationRules
import HydraSdr.Analysis.StreamInvariant

/-!
# The operations of a stream are sequences of moves

Each operation of a stream is followed through its control transfers, whatever others do while it
waits, whatever the replies are and wherever it is dropped.  Between two waits it makes moves, and
what its result says is true of the state it ends in.
-/

set_option autoImplicit false

namespace HydraSdr.Analysis

open HydraSdr.Program HydraSdr.Computation

variable {F : Type} {mode : SampleFormat}

/-! ## The endpoint a restart finds -/

/-- The queue is ready to run, and nothing has been submitted to a kept endpoint since it was
cancelled. -/
def ReadyQueue (found : Option ℕ) (w : StreamWorld F mode) : Prop :=
  ∃ queue, w.receiver.queue = some queue ∧ queue.initialized = true ∧
    ∀ bulkIn, queue.bulkIn = some bulkIn → found = some bulkIn.id →
      bulkIn.cancelled = bulkIn.submitted

/-- What a restart finds when it keeps the queue. -/
def KeepsQueue (found : Option ℕ) (settings : ReceiveSettings) (w : StreamWorld F mode) : Prop :=
  ∃ queue, w.receiver.queue = some queue ∧ queue.initialized = true ∧ queue.current = none ∧
    queue.settings.packing = settings.packing ∧
    ∀ bulkIn, queue.bulkIn = some bulkIn → found = some bulkIn.id →
      bulkIn.cancelled = bulkIn.submitted

variable [SampleArithmetic F]

/-- A stream whose queue is kept was stopped with it. -/
theorem keepsQueue_of_stopped {w w' : StreamWorld F mode} (hinv : StreamInv w)
    (hstopped : w.receiver.claim.receiver = .stopped) (settings : ReceiveSettings)
    (hqueue : w'.receiver.queue = w.receiver.queue)
    (hkeep : w.receiver.needsFreshQueue settings = false) :
    KeepsQueue (StreamPhase.foundEndpoint w.receiver) settings w' := by
  unfold Receiver.needsFreshQueue at hkeep
  unfold KeepsQueue
  rw [hqueue]
  cases hw : w.receiver.queue with
  | none => simp [hw] at hkeep
  | some queue =>
    simp only [hw, Bool.not_eq_false', Bool.and_eq_true, beq_iff_eq] at hkeep
    obtain ⟨bulkIn, hbulk, _⟩ := hinv.endpoint queue hw
    obtain ⟨hcurrent, hcancelled⟩ := hinv.paused hstopped queue bulkIn hw hbulk
    refine ⟨queue, rfl, hkeep.1.1, hcurrent, hkeep.2, fun other hother _ => ?_⟩
    obtain rfl := Option.some.inj (hbulk.symm.trans hother)
    exact hcancelled

theorem foundEndpoint_le {w : StreamWorld F mode} (hinv : StreamInv w) {id : ℕ}
    (h : StreamPhase.foundEndpoint w.receiver = some id) : id ≤ w.wire.opened := by
  unfold StreamPhase.foundEndpoint at h
  split at h
  · obtain ⟨bulkIn, hbulk, rfl⟩ := Option.map_eq_some_iff.mp h
    obtain ⟨queue, hqueue, hbulk⟩ := Option.bind_eq_some_iff.mp hbulk
    obtain ⟨other, hother, hle⟩ := hinv.endpoint queue hqueue
    obtain rfl := Option.some.inj (hbulk.symm.trans hother)
    exact hle
  · exact nomatch h

theorem readyQueue_of_running {w : StreamWorld F mode} (hinv : StreamInv w)
    (hrunning : w.receiver.claim.receiver = .running) : ReadyQueue none w := by
  obtain ⟨queue, hqueue, hinitialized⟩ := (hinv.running hrunning).2
  exact ⟨queue, hqueue, hinitialized, fun _ _ h => nomatch h⟩

/-! ## Beginning to start or to stop -/

theorem beginStart_of_running {claim : RxStreamClaim} (h : claim.receiver = .running) :
    claim.beginStart = (.ok false, claim) := by
  unfold RxStreamClaim.beginStart
  rw [h]

theorem beginStart_of_cleanupRequired {claim : RxStreamClaim}
    (h : claim.receiver = .cleanupRequired) : claim.beginStart = (.error .busy, claim) := by
  unfold RxStreamClaim.beginStart
  rw [h]

theorem beginStart_of_stopped {claim : RxStreamClaim} (h : claim.receiver = .stopped) :
    claim.beginStart = (.ok true, { claim with receiver := .cleanupRequired }) := by
  unfold RxStreamClaim.beginStart
  rw [h]

theorem beginStop_of_stopped {claim : RxStreamClaim} (h : claim.receiver = .stopped) :
    claim.beginStop = (false, claim) :=
  if_pos h

theorem beginStop_of_ne {claim : RxStreamClaim} (h : claim.receiver ≠ .stopped) :
    claim.beginStop = (true, { claim with receiver := .cleanupRequired }) :=
  if_neg h

omit [SampleArithmetic F] in
/-- A stream without a queue has all its counters itself. -/
theorem currentStats_of_none {receiver : Receiver F mode} (h : receiver.queue = none) :
    receiver.currentStats = receiver.stats := by
  unfold Receiver.currentStats
  rw [h]

/-! ## Waiting for a reply -/

/-- A stream operation under interference. -/
abbrev StreamSafe {α : Type} (post : StreamWorld F mode → α → StreamWorld F mode → Prop)
    (operation : Operation (StreamWorld F mode) α) (start w : StreamWorld F mode) : Prop :=
  OperationSafe StreamWorld.port StreamRely ControlMoves post operation start w

/-- The postcondition of an operation that makes moves and ends as `post` says. -/
def Makes {α : Type} (post : α → StreamWorld F mode → Prop) (start : StreamWorld F mode)
    (value : α) (w : StreamWorld F mode) : Prop :=
  ControlMoves start w ∧ post value w

/-- A stream in the state `w` has issued a transfer, waited, and got a reply that is a move from
`start` to `w'`. -/
structure Resumed (transfer : Transfer) (w start w' : StreamWorld F mode) : Prop where
  receiver : w'.receiver = w.receiver
  state : w'.session.state = w.session.state
  wire : QuietlyExtends (w.wire.issue transfer) w'.wire
  moves : ControlMoves start w'

theorem resumed_settle {w w' : StreamWorld F mode} {transfer : Transfer}
    (hstate : w.receiver.claim.receiver = .cleanupRequired)
    (hr : StreamRely (StreamWorld.port.issue transfer w) w')
    (h : ∀ endpoint, transfer ≠ .bulkIn endpoint) (reply : transfer.Reply) :
    Resumed transfer w w' (StreamWorld.port.settle (StreamWorld.port.ticket w) transfer reply w')
    where
  receiver := hr.receiver
  state := hr.state
  wire := hr.wire.trans (quietlyExtends_settle h _ reply _)
  moves := ControlMoves.none.prepare (by rw [hr.receiver]; exact hstate)
    (Move.settle w' w.wire.issued.length transfer reply (opened_settle h _ reply w'.wire))
    (not_stopped (w := w') (by rw [hr.receiver]; exact hstate))

/-- A `ReceiverMode` command: when it is acknowledged, it is the last one issued. -/
theorem safe_receiverMode {receiverMode : ReceiverMode}
    {post : StreamWorld F mode → Result Unit → StreamWorld F mode → Prop}
    {start w : StreamWorld F mode} (hmoves : ControlMoves start w)
    (hstate : w.receiver.claim.receiver = .cleanupRequired)
    (hnext : ∀ start' w' reply, Resumed (.receiverMode receiverMode) w start' w' →
      (reply = .ok () → AcknowledgedMode receiverMode w'.wire) → post start' reply w') :
    StreamSafe post (controlOut (.receiverMode receiverMode)) start w := by
  have hissue : ControlMoves start (StreamWorld.port.issue (.receiverMode receiverMode) w) :=
    hmoves.prepare hstate (.issue w (.receiverMode receiverMode) hstate) (not_stopped hstate)
  refine safe_leaf.mpr ⟨hissue, fun w' hr reply => ?_⟩
  refine hnext w' _ reply (resumed_settle hstate hr (fun _ => Transfer.noConfusion) reply) fun hreply => ?_
  exact ((lastMode_issue receiverMode w.wire).extend hr.wire).acknowledge hreply

/-! ## Starting -/

/-- The queue has just been built, on an endpoint other than the one found. -/
def NewQueue (found : Option ℕ) (w : StreamWorld F mode) : Prop :=
  ∃ queue bulkIn, w.receiver.queue = some queue ∧ queue.initialized = false ∧
    queue.bulkIn = some bulkIn ∧ found ≠ some bulkIn.id

/-- How the commands of a restart can end. -/
def Prepared (found : Option ℕ) (result : Result Unit) (w : StreamWorld F mode) : Prop :=
  w.receiver.claim.receiver = .cleanupRequired ∧
    (result = .ok () → AcknowledgedMode .rx w.wire ∧ ReadyQueue found w)

/-- How a restart can end. -/
def Restarted (found : Option ℕ) (result : Result Unit) (w : StreamWorld F mode) : Prop :=
  result = .ok () → w.receiver.claim.receiver = .running ∧ ReadyQueue found w

/-- Clearing the halt and submitting the buffers. -/
theorem initializeQueue_safe {found : Option ℕ} {start w : StreamWorld F mode}
    (hmoves : ControlMoves start w) (hstate : w.receiver.claim.receiver = .cleanupRequired)
    (hnew : NewQueue found w) (hrx : AcknowledgedMode .rx w.wire) :
    StreamSafe (Makes (Prepared found)) (Receiver.initializeQueue w).2 start
      (Receiver.initializeQueue w).1 := by
  obtain ⟨queue, bulkIn, hqueue, hinitialized, hbulk, hfound⟩ := hnew
  have hopen : queue.isClosed = false := by simp [Queue.isClosed, hbulk]
  unfold Receiver.initializeQueue
  simp only [hqueue, hopen, Bool.false_eq_true, if_false]
  have hissue : ControlMoves start (StreamWorld.port.issue .clearHalt w) :=
    hmoves.prepare hstate (.issue w .clearHalt hstate) (not_stopped hstate)
  refine safe_map.mpr (safe_leaf.mpr ⟨hissue, fun w' hr reply => ?_⟩)
  have hresumed := resumed_settle hstate hr (fun _ => Transfer.noConfusion) reply
  generalize StreamWorld.port.settle (StreamWorld.port.ticket w) Transfer.clearHalt reply w' = w''
    at hresumed ⊢
  have hstate' : w''.receiver.claim.receiver = .cleanupRequired := by
    rw [hresumed.receiver]
    exact hstate
  have hqueue' : w''.receiver.queue = some queue := by
    rw [hresumed.receiver]
    exact hqueue
  cases reply with
  | error e => exact ⟨hresumed.moves, hstate', (nomatch ·)⟩
  | ok value =>
    have hsubmit : queue.submitBuffers = .ok { queue with
        bulkIn := some (queue.buffers.foldl BulkIn.submit bulkIn)
        buffers := []
        initialized := true } := by
      unfold Queue.submitBuffers
      rw [hbulk]
    simp only [hqueue', hsubmit]
    refine ⟨hresumed.moves.prepare hstate'
      (.submitBuffers w'' hstate' hqueue' hinitialized hsubmit) (not_stopped hstate'), hstate',
      fun _ => ⟨?_, _, rfl, rfl, ?_⟩⟩
    · exact hrx.extend ((quietlyExtends_issue rfl w.wire).trans hresumed.wire)
    · intro bulkIn' hbulk' hsame
      obtain rfl := Option.some.inj hbulk'
      rw [foldl_submit_id] at hsame
      exact absurd hsame hfound

/-- Switching the receiver on, with a queue that is new or kept. -/
theorem turnOn_safe (fresh : Bool) {found : Option ℕ} {start w : StreamWorld F mode}
    (hmoves : ControlMoves start w) (hstate : w.receiver.claim.receiver = .cleanupRequired)
    (hnew : fresh = true → NewQueue found w) (hkept : fresh = false → ReadyQueue found w) :
    StreamSafe (Makes (Prepared found))
      ((controlOut (.receiverMode .rx)).andThen fun _ w =>
        if fresh then ((Receiver.initializeQueue w).1, .left (Receiver.initializeQueue w).2)
        else (w, .right (.ready (.ok ())))) start w := by
  refine safe_andThen.mpr (safe_receiverMode hmoves hstate fun start' w' reply hres hrx => ?_)
  have hstate' : w'.receiver.claim.receiver = .cleanupRequired := by
    rw [hres.receiver]
    exact hstate
  cases reply with
  | error e => exact ⟨hres.moves, hstate', (nomatch ·)⟩
  | ok value =>
    cases fresh with
    | true =>
      have hnew' : NewQueue found w' := by
        unfold NewQueue
        rw [hres.receiver]
        exact hnew rfl
      exact safe_left.mpr (initializeQueue_safe hres.moves hstate' hnew' (hrx rfl))
    | false =>
      have hkept' : ReadyQueue found w' := by
        unfold ReadyQueue
        rw [hres.receiver]
        exact hkept rfl
      exact safe_right.mpr (safe_ready.mpr ⟨hres.moves, hstate', fun _ => ⟨hrx rfl, hkept'⟩⟩)

/-- Opening an endpoint builds a queue on a new one, or changes nothing. -/
theorem prepareQueue_safe {found : Option ℕ} {settings : ReceiveSettings}
    {start w : StreamWorld F mode} (hmoves : ControlMoves start w)
    (hstate : w.receiver.claim.receiver = .cleanupRequired) (hvalid : ValidReceive settings)
    (hprocessor : w.receiver.processor = Processor.default mode) (hqueue : w.receiver.queue = none)
    (hfound : ∀ id, found = some id → id ≤ w.wire.opened) :
    StreamSafe (Makes fun result w => w.receiver.claim.receiver = .cleanupRequired ∧
        (result = .ok () → NewQueue found w))
      (Receiver.prepareQueue settings) start w := by
  have hissue : ControlMoves start (StreamWorld.port.issue (.bulkIn RFONE_RX_ENDPOINT) w) :=
    hmoves.prepare hstate (.issue w .bulkIn hstate) (not_stopped hstate)
  refine safe_map.mpr (safe_leaf.mpr ⟨hissue, fun w' hr reply => ?_⟩)
  have hreceiver : w'.receiver = w.receiver := hr.receiver
  have hstate' : w'.receiver.claim.receiver = .cleanupRequired := by
    rw [hreceiver]
    exact hstate
  cases reply with
  | error e =>
    have hmove := Move.settle w' w.wire.issued.length (.bulkIn RFONE_RX_ENDPOINT) (.error e) rfl
    exact ⟨ControlMoves.none.prepare hstate' hmove (not_stopped hstate'), hstate', (nomatch ·)⟩
  | ok value =>
    have hmove := Move.openQueue w'
      (w'.wire.settle w.wire.issued.length (.bulkIn RFONE_RX_ENDPOINT) (.ok value)) settings
      hstate' hvalid (hreceiver ▸ hprocessor) (hreceiver ▸ hqueue) (extends_settle _ _ _ _) (Wire.settle_issued _ _ _ _) rfl
    refine ⟨ControlMoves.none.prepare hstate' hmove (not_stopped hstate'), hstate',
      fun _ => ⟨_, _, rfl, rfl, rfl, fun hsame => ?_⟩⟩
    have hle : w'.wire.opened + 1 ≤ w.wire.opened := hfound _ hsame
    have hopened : w'.wire.opened = w.wire.opened := hr.wire.opened
    omega

/-- The part of a restart that happens before its first command. -/
theorem startPipeline_enter {fresh : Bool} {found : Option ℕ} {start w : StreamWorld F mode}
    (hmoves : ControlMoves start w) (hstate : w.receiver.claim.receiver = .cleanupRequired)
    (hvalid : ValidReceive w.session.receive)
    (hkept : fresh = false → KeepsQueue found w.session.receive w) :
    ControlMoves start (Receiver.startPipeline fresh w).1 ∧
      (Receiver.startPipeline fresh w).1.receiver.claim.receiver = .cleanupRequired ∧
      (Receiver.startPipeline fresh w).1.wire = w.wire ∧
      (fresh = true → (Receiver.startPipeline fresh w).1.receiver.queue = none ∧
        (Receiver.startPipeline fresh w).1.receiver.processor = Processor.default mode) ∧
      (fresh = false → ReadyQueue found (Receiver.startPipeline fresh w).1) := by
  cases fresh with
  | true =>
    have hadopt : ((w.onReceiver Receiver.retireStream).onReceiver
        (Receiver.adopt w.session.receive)) = w.onReceiver Receiver.retireStream := by
      have hnone := retireStream_queue w.receiver
      simp only [StreamWorld.onReceiver, Receiver.adopt, hnone]
    have hworld : (Receiver.startPipeline true w).1 = w.onReceiver Receiver.retireStream := hadopt
    rw [hworld]
    have hstate' : (w.onReceiver Receiver.retireStream).receiver.claim.receiver =
        .cleanupRequired := by
      rw [show (w.onReceiver Receiver.retireStream).receiver.claim = w.receiver.claim from
        retireStream_claim _]
      exact hstate
    exact ⟨hmoves.prepare hstate (.retire w (by rw [hstate]; exact ReceiverState.noConfusion))
      (not_stopped hstate'), hstate', rfl,
      fun _ => ⟨retireStream_queue _, retireStream_processor _⟩, (nomatch ·)⟩
  | false =>
    obtain ⟨queue, hqueue, hinitialized, hcurrent, hpacking, hcancelled⟩ := hkept rfl
    have hmove := Move.adopt w w.session.receive hstate hvalid
      (fun other hother => Option.some.inj (hqueue.symm.trans hother) ▸ hcurrent)
      (fun other hother => Option.some.inj (hqueue.symm.trans hother) ▸ hpacking)
    have hdiscard := discardCurrent_of_none hcurrent
    have hstate' : (w.onReceiver (Receiver.adopt w.session.receive)).receiver.claim.receiver =
        .cleanupRequired := by
      rw [show (w.onReceiver (Receiver.adopt w.session.receive)).receiver.claim = w.receiver.claim
        from adopt_claim _ _]
      exact hstate
    refine ⟨hmoves.prepare hstate hmove (not_stopped hstate'), hstate', rfl, (nomatch ·), fun _ => ?_⟩
    · show ReadyQueue found (w.onReceiver (Receiver.adopt w.session.receive))
      unfold ReadyQueue StreamWorld.onReceiver Receiver.adopt
      simp only [hqueue, hdiscard]
      split
      · exact ⟨_, rfl, hinitialized, hcancelled⟩
      · exact ⟨_, rfl, hinitialized, hcancelled⟩

/-- **A restart**, from the moment at which the stream is known to require cleanup. -/
theorem startPipeline_safe {fresh : Bool} {found : Option ℕ} {start w : StreamWorld F mode}
    (hmoves : ControlMoves start w) (hstate : w.receiver.claim.receiver = .cleanupRequired)
    (hvalid : ValidReceive w.session.receive)
    (hfound : ∀ id, found = some id → id ≤ w.wire.opened)
    (hkept : fresh = false → KeepsQueue found w.session.receive w) :
    StreamSafe (Makes (Restarted found)) (Receiver.startPipeline fresh w).2 start
      (Receiver.startPipeline fresh w).1 := by
  obtain ⟨hmoves₁, hstate₁, hwire₁, hfresh₁, hkept₁⟩ :=
    startPipeline_enter hmoves hstate hvalid hkept
  generalize hworld : (Receiver.startPipeline fresh w).1 = w₁ at *
  -- the commands, up to an error
  have hrun : StreamSafe (Makes (Prepared found))
      ((if fresh then .left (controlOut (.receiverMode .off)) else .right (.ready (.ok ())) :
        Operation (StreamWorld F mode) (Result Unit)).andThen fun _ w₂ =>
        (w₂, (if fresh then Receiver.prepareQueue w.session.receive else .ready (.ok ()) :
          Operation (StreamWorld F mode) (Result Unit)).andThen fun _ w₃ =>
          (w₃, (controlOut (.receiverMode .rx)).andThen fun _ w₄ =>
            if fresh then ((Receiver.initializeQueue w₄).1, .left (Receiver.initializeQueue w₄).2)
            else (w₄, .right (.ready (.ok ())))))) start w₁ := by
    cases fresh with
    | true =>
      refine safe_andThen.mpr (safe_left.mpr
        (safe_receiverMode hmoves₁ hstate₁ fun start₂ w₂ reply hres _ => ?_))
      have hstate₂ : w₂.receiver.claim.receiver = .cleanupRequired := by
        rw [hres.receiver]
        exact hstate₁
      cases reply with
      | error e => exact ⟨hres.moves, hstate₂, (nomatch ·)⟩
      | ok value =>
        have hfound₂ : ∀ id, found = some id → id ≤ w₂.wire.opened := by
          intro id hid
          rw [show w₂.wire.opened = w₁.wire.opened from hres.wire.opened, hwire₁]
          exact hfound id hid
        refine safe_andThen.mpr ((prepareQueue_safe hres.moves hstate₂ hvalid
          (by rw [hres.receiver]; exact (hfresh₁ rfl).2)
          (by rw [hres.receiver]; exact (hfresh₁ rfl).1) hfound₂).mono ?_)
        rintro start₃ result w₃ ⟨hmoves₃, hstate₃, hnew₃⟩
        cases result with
        | error e => exact ⟨hmoves₃, hstate₃, (nomatch ·)⟩
        | ok value => exact turnOn_safe true hmoves₃ hstate₃ (fun _ => hnew₃ rfl) (nomatch ·)
    | false =>
      have hon := turnOn_safe false hmoves₁ hstate₁ (nomatch ·) hkept₁
      exact safe_andThen.mpr (safe_right.mpr (safe_ready.mpr
        (safe_andThen.mpr (safe_ready.mpr hon))))
  -- the result, and the attempt to switch off after an error
  refine safe_continueWith.mpr (hrun.mono ?_)
  rintro start₂ result w₂ ⟨hmoves₂, hstate₂, hready₂⟩
  cases result with
  | ok value =>
    obtain ⟨hrx, hqueue⟩ := hready₂ rfl
    obtain ⟨queue, hqueue', hinitialized, _⟩ := id hqueue
    exact safe_left.mpr (safe_ready.mpr
      ⟨hmoves₂.prepare hstate₂ (.run w₂ hstate₂ hqueue' hinitialized hrx) (nomatch ·),
        fun _ => ⟨rfl, hqueue⟩⟩)
  | error e =>
    refine safe_right.mpr (safe_map.mpr
      (safe_receiverMode hmoves₂ hstate₂ fun start₃ w₃ reply hres _ => ?_))
    exact ⟨hres.moves, (nomatch ·)⟩

/-- **`start`** makes moves and, when it succeeds, leaves the stream running; an endpoint that was
kept has had nothing submitted since it was cancelled. -/
theorem start_safe {w : StreamWorld F mode} (hinv : StreamInv w) :
    StreamSafe (Makes (Restarted (StreamPhase.foundEndpoint w.receiver))) Receiver.start w w := by
  refine safe_continueWith.mpr (safe_ready.mpr ?_)
  cases hstate : w.receiver.claim.receiver with
  | running =>
    have hbegin := beginStart_of_running hstate
    have hfound : StreamPhase.foundEndpoint w.receiver = none := by
      unfold StreamPhase.foundEndpoint
      rw [hstate]
      rfl
    simp only [hbegin, hfound]
    exact safe_andThen.mpr (safe_ready.mpr (safe_right.mpr (safe_ready.mpr
      ⟨.none, fun _ => ⟨hstate, readyQueue_of_running hinv hstate⟩⟩)))
  | cleanupRequired =>
    have hbegin := beginStart_of_cleanupRequired hstate
    simp only [hbegin]
    exact safe_andThen.mpr (safe_ready.mpr ⟨.none, (nomatch ·)⟩)
  | stopped =>
    have hbegin := beginStart_of_stopped hstate
    simp only [hbegin]
    refine safe_andThen.mpr (safe_ready.mpr (safe_left.mpr ?_))
    refine startPipeline_safe (.giveUp w) rfl hinv.valid
      (fun id hid => foundEndpoint_le hinv hid) fun hfresh => ?_
    exact keepsQueue_of_stopped hinv hstate _ rfl hfresh

/-! ## Stopping and closing -/

/-- The receiver is known to be off, and the queue is paused. -/
def Pauses (w w' : StreamWorld F mode) : Prop :=
  w.receiver.claim.receiver = .cleanupRequired ∧ AcknowledgedMode .off w.wire ∧
    w' = w.onReceiver Receiver.pause

/-- What stopping a stream leads to: the stream has been stopped before or its queue is paused, and
its counters are reported, or only moves have been made. -/
def Stopped (start : StreamWorld F mode) (result : Result StreamingStats) (w : StreamWorld F mode) :
    Prop :=
  match result with
  | .ok stats => stats = w.receiver.currentStats ∧ w.receiver.claim.receiver = .stopped ∧
      ∃ m, ControlMoves start m ∧ (w = m ∨ Pauses m w)
  | .error _ => ControlMoves start w

theorem Pauses.move {w w' : StreamWorld F mode} (h : Pauses w w') : Move w w' := by
  obtain ⟨hstate, hoff, rfl⟩ := h
  exact .pause w hstate hoff

theorem Stopped.moves {start w : StreamWorld F mode} {result : Result StreamingStats}
    (h : Stopped start result w) : Moves start w := by
  cases result with
  | error e => exact ControlMoves.moves h
  | ok stats =>
    obtain ⟨_, _, m, hmoves, rfl | hpauses⟩ := h
    · exact hmoves.moves
    · exact hmoves.moves.step hpauses.move

/-- **`stop`** makes moves and, when it succeeds, leaves the stream stopped. -/
theorem stop_safe (w : StreamWorld F mode) : StreamSafe Stopped Receiver.stop w w := by
  refine safe_continueWith.mpr (safe_ready.mpr ?_)
  by_cases hstate : w.receiver.claim.receiver = .stopped
  · have hbegin := beginStop_of_stopped hstate
    simp only [hbegin]
    exact safe_right.mpr (safe_ready.mpr ⟨rfl, hstate, w, .none, .inl rfl⟩)
  · have hbegin := beginStop_of_ne hstate
    simp only [hbegin]
    refine safe_left.mpr (safe_map.mpr
      (safe_receiverMode (.giveUp w) rfl fun start' w' reply hres hoff => ?_))
    have hstate' : w'.receiver.claim.receiver = .cleanupRequired := by
      rw [hres.receiver]
      rfl
    cases reply with
    | error e => exact hres.moves
    | ok value => exact ⟨rfl, rfl, w', hres.moves, .inr ⟨hstate', hoff rfl, rfl⟩⟩

/-- What closing a stream leads to: its claim is released with the receiver off and its counters
are reported, or only moves have been made and the queue is gone. -/
def Closed (start : StreamWorld F mode) (result : Result StreamingStats) (w : StreamWorld F mode) :
    Prop :=
  match result with
  | .ok stats => ∃ m, ControlMoves start m ∧ ReceiverOff m.wire ∧
      stats = m.receiver.currentStats ∧
      w = RxStreamClaim.release (m.onReceiver (Receiver.setState .stopped))
  | .error _ => ControlMoves start w ∧ w.receiver.queue = none

theorem retireStream_setState (state : ReceiverState) (receiver : Receiver F mode) :
    (receiver.setState state).retireStream = receiver.retireStream.setState state := by
  unfold Receiver.retireStream Receiver.setState
  split <;> simp_all

/-- **`close`** makes moves, and releases the claim when it succeeds. -/
theorem close_safe {w : StreamWorld F mode} (hinv : StreamInv w) :
    StreamSafe Closed Receiver.close w w := by
  refine safe_continueWith.mpr (safe_ready.mpr (safe_mapOk.mpr
    (safe_continueWith.mpr (safe_ready.mpr ?_))))
  have hclaim : (w.onReceiver Receiver.retireStream).receiver.claim = w.receiver.claim :=
    retireStream_claim _
  by_cases hstate : w.receiver.claim.receiver = .stopped
  · have hbegin := beginStop_of_stopped (hclaim ▸ hstate)
    simp only [hbegin]
    refine safe_map.mpr (safe_right.mpr (safe_ready.mpr ⟨w.onReceiver Receiver.retireStream,
      ControlMoves.none.step (.retire w (by rw [hstate]; exact ReceiverState.noConfusion))
        (.inl (by rw [hstate]; exact ReceiverState.noConfusion)) fun _ => hstate,
      hinv.stopped hstate, (currentStats_of_none (retireStream_queue _)).symm, rfl⟩))
  · have hbegin := beginStop_of_ne (hclaim ▸ hstate)
    simp only [hbegin]
    have hmoves : ControlMoves w ((w.onReceiver Receiver.retireStream).onReceiver
        (Receiver.setState .cleanupRequired)) := by
      have hretire := Move.retire (w.onReceiver (Receiver.setState .cleanupRequired))
        (fun h => nomatch h)
      have hcomm : (w.onReceiver (Receiver.setState .cleanupRequired)).onReceiver
          Receiver.retireStream = (w.onReceiver Receiver.retireStream).onReceiver
            (Receiver.setState .cleanupRequired) := by
        simp only [StreamWorld.onReceiver, retireStream_setState]
      rw [← hcomm]
      exact (ControlMoves.giveUp w).prepare rfl hretire (hcomm ▸ (nomatch ·))
    refine safe_map.mpr (safe_left.mpr
      (safe_receiverMode hmoves rfl fun start' w' reply hres hoff => ?_))
    cases reply with
    | error e =>
      refine ⟨hres.moves, ?_⟩
      show w'.receiver.queue = none
      rw [hres.receiver]
      exact retireStream_queue w.receiver
    | ok value =>
      refine ⟨w', hres.moves, .inr (hoff rfl), ?_, rfl⟩
      rw [hres.receiver]
      exact (currentStats_of_none (retireStream_queue _)).symm

/-- What the cleanup of a claim leads to. -/
def CleanedUp (start : StreamWorld F mode) (_ : Unit) (w : StreamWorld F mode) : Prop :=
  ∃ m result, ControlMoves start m ∧ (result = .ok () → ReceiverOff m.wire) ∧
    w = RxStreamClaim.cleanedUp result m

/-- **`cleanup`**: its operation can be polled first at any later time. -/
theorem cleanup_safe {w : StreamWorld F mode}
    (hoff : w.receiver.claim.receiver = .stopped → ReceiverOff w.wire) {w' : StreamWorld F mode}
    (hr : StreamRely (RxStreamClaim.cleanup w).1 w') :
    StreamSafe CleanedUp (RxStreamClaim.cleanup w).2 w' w' := by
  by_cases hstate : w.receiver.claim.receiver = .stopped
  · have hwire : QuietlyExtends w.wire w'.wire := hr.wire
    unfold RxStreamClaim.cleanup
    simp only [beginStop_of_stopped hstate]
    exact safe_map.mpr (safe_right.mpr (safe_ready.mpr
      ⟨w', .ok (), .none, fun _ => (hoff hstate).extend hwire, rfl⟩))
  · have hstate' : w'.receiver.claim.receiver = .cleanupRequired := by
      have hreceiver := hr.receiver
      unfold RxStreamClaim.cleanup at hreceiver
      simp only [beginStop_of_ne hstate] at hreceiver
      rw [hreceiver]
      rfl
    unfold RxStreamClaim.cleanup
    simp only [beginStop_of_ne hstate]
    refine safe_map.mpr (safe_left.mpr
      (safe_receiverMode .none hstate' fun start' w'' reply hres hacknowledged => ?_))
    exact ⟨w'', reply, hres.moves, fun hreply => .inr (hacknowledged hreply), rfl⟩

/-! ## Refreshing the packing -/

/-- **`refresh_packing`** makes moves and, when it succeeds, leaves the stream running. -/
theorem refreshPacking_safe {w w' : StreamWorld F .rawAdc} (hinv : StreamInv w)
    (hr : StreamRely w w') :
    StreamSafe (Makes (Restarted none)) (Receiver.refreshPacking w) w' w' := by
  unfold Receiver.refreshPacking Receiver.ensureRunning
  refine safe_andThen.mpr (safe_ready.mpr ?_)
  split
  · rename_i hrunning
    have hrunning' : w'.receiver.claim.receiver = .running := by
      rw [hr.receiver]
      exact hrunning
    dsimp only [AfterOk]
    by_cases hchanged : Receiver.packingChanged w' = true
    · rw [if_pos hchanged]
      exact safe_left.mpr (startPipeline_safe (.giveUp w') rfl (hinv.rely hr).valid
        (fun _ h => nomatch h) (nomatch ·))
    · rw [if_neg hchanged]
      exact safe_right.mpr (safe_ready.mpr
        ⟨.none, fun _ => ⟨hrunning', readyQueue_of_running (hinv.rely hr) hrunning'⟩⟩)
  · exact ⟨.none, (nomatch ·)⟩

end HydraSdr.Analysis
