import HydraSdr.Analysis.QueueSteps
import HydraSdr.Analysis.StreamMoves

/-!
# The invariant of a stream

What the receiver state of a stream says about the hardware and the queue.  It is kept by every
move, and by whatever others may do to the session while the stream waits.
-/

set_option autoImplicit false

namespace HydraSdr.Analysis

open HydraSdr.Program

variable {F : Type} {mode : SampleFormat}

/-- What others may do while a stream waits: they leave the stream, the lifecycle of the device
and the claim alone, keep the receive settings valid, and do not switch the receiver. -/
structure StreamRely (w w' : StreamWorld F mode) : Prop where
  receiver : w'.receiver = w.receiver
  valid : ValidReceive w.session.receive → ValidReceive w'.session.receive
  state : w'.session.state = w.session.state
  wire : QuietlyExtends w.wire w'.wire

theorem StreamRely.refl (w : StreamWorld F mode) : StreamRely w w :=
  ⟨rfl, id, rfl, QuietlyExtends.refl _⟩

theorem StreamRely.trans {a b c : StreamWorld F mode} (hab : StreamRely a b)
    (hbc : StreamRely b c) : StreamRely a c :=
  ⟨hbc.receiver.trans hab.receiver, fun h => hbc.valid (hab.valid h), hbc.state.trans hab.state,
    hab.wire.trans hbc.wire⟩

variable [SampleArithmetic F]

/-- The state of a stream agrees with the hardware and the queue. -/
structure StreamInv (w : StreamWorld F mode) : Prop where
  valid : ValidReceive w.session.receive
  endpoint : ∀ queue, w.receiver.queue = some queue →
    ∃ bulkIn, queue.bulkIn = some bulkIn ∧ bulkIn.id ≤ w.wire.opened
  running : w.receiver.claim.receiver = .running →
    AcknowledgedMode .rx w.wire ∧
      ∃ queue, w.receiver.queue = some queue ∧ queue.initialized = true
  stopped : w.receiver.claim.receiver = .stopped → ReceiverOff w.wire
  paused : w.receiver.claim.receiver = .stopped → ∀ queue bulkIn, w.receiver.queue = some queue →
    queue.bulkIn = some bulkIn → queue.current = none ∧ bulkIn.cancelled = bulkIn.submitted
  unused : w.receiver.claim.receiver = .stopped → w.receiver.processor = Processor.default mode

theorem StreamInv.rely {w w' : StreamWorld F mode} (h : StreamInv w) (hr : StreamRely w w') :
    StreamInv w' := by
  refine ⟨hr.valid h.valid, fun queue hqueue => ?_, fun hstate => ?_, fun hstate => ?_, ?_, ?_⟩
  · rw [hr.receiver] at hqueue
    rw [hr.wire.opened]
    exact h.endpoint queue hqueue
  · rw [hr.receiver] at hstate ⊢
    exact ⟨(h.running hstate).1.extend hr.wire, (h.running hstate).2⟩
  · rw [hr.receiver] at hstate
    exact (h.stopped hstate).extend hr.wire
  · rw [hr.receiver]
    exact h.paused
  · rw [hr.receiver]
    exact h.unused

/-! ## A stream that requires cleanup -/

/-- A stream that requires cleanup only has to know its endpoint. -/
theorem StreamInv.of_cleanupRequired {w : StreamWorld F mode}
    (hvalid : ValidReceive w.session.receive)
    (hstate : w.receiver.claim.receiver = .cleanupRequired)
    (hendpoint : ∀ queue, w.receiver.queue = some queue →
      ∃ bulkIn, queue.bulkIn = some bulkIn ∧ bulkIn.id ≤ w.wire.opened) : StreamInv w := by
  refine ⟨hvalid, hendpoint, fun h => ?_, fun h => ?_, fun h => ?_, fun h => ?_⟩ <;>
    rw [hstate] at h <;> exact nomatch h

/-- A stream that goes on running with its endpoint. -/
theorem StreamInv.keep_running {w w' : StreamWorld F mode} (h : StreamInv w)
    (hstate : w.receiver.claim.receiver = .running) {queue queue' : Queue}
    (hqueue : w.receiver.queue = some queue) (hsession : w'.session = w.session)
    (hwire : w'.wire = w.wire) (hstate' : w'.receiver.claim.receiver = .running) (hqueue' : w'.receiver.queue = some queue')
    (hkeeps : KeepsEndpoint queue queue') : StreamInv w' := by
  obtain ⟨hrx, queue₀, hqueue₀, hinitialized⟩ := h.running hstate
  obtain rfl : queue = queue₀ := Option.some.inj (hqueue.symm.trans hqueue₀)
  obtain ⟨bulkIn, hbulk, hid⟩ := h.endpoint queue hqueue
  obtain ⟨bulkIn', hbulk', hid', _⟩ := hkeeps.bulkIn bulkIn hbulk
  refine ⟨by rw [hsession]; exact h.valid, fun other hother => ?_,
    fun _ => ⟨?_, queue', hqueue', ?_⟩, fun hstop => ?_, fun hstop => ?_, fun hstop => ?_⟩
  · obtain rfl : queue' = other := Option.some.inj (hqueue'.symm.trans hother)
    exact ⟨bulkIn', hbulk', by rw [hid', hwire]; exact hid⟩
  · rw [hwire]
    exact hrx
  · rw [hkeeps.initialized]
    exact hinitialized
  · rw [hstate'] at hstop
    exact nomatch hstop
  · rw [hstate'] at hstop
    exact nomatch hstop
  · rw [hstate'] at hstop
    exact nomatch hstop

/-! ## The single moves -/

theorem streamInv_retire {w : StreamWorld F mode} (h : StreamInv w)
    (hstate : w.receiver.claim.receiver ≠ .running) :
    StreamInv (w.onReceiver Receiver.retireStream) := by
  have hqueue : (w.onReceiver Receiver.retireStream).receiver.queue = none := retireStream_queue _
  have hclaim : (w.onReceiver Receiver.retireStream).receiver.claim = w.receiver.claim :=
    retireStream_claim _
  refine ⟨h.valid, fun queue h' => ?_, fun h' => ?_, fun h' => ?_, fun _ queue _ h' => ?_,
    fun _ => retireStream_processor _⟩
  · rw [hqueue] at h'
    exact nomatch h'
  · rw [hclaim] at h'
    exact absurd h' hstate
  · rw [hclaim] at h'
    exact h.stopped h'
  · rw [hqueue] at h'
    exact nomatch h'

/-- What `adopt` makes of a queue. -/
theorem adopt_queue (settings : ReceiveSettings) (receiver : Receiver F mode) {queue' : Queue}
    (h : (receiver.adopt settings).queue = some queue') :
    ∃ queue, receiver.queue = some queue ∧ queue'.settings = settings ∧
      ((queue'.bulkIn = queue.bulkIn ∧ queue' = { queue with settings := settings }) ∨
        queue' = { queue.discardCurrent with settings := settings }) := by
  unfold Receiver.adopt at h
  split at h
  · rename_i hnone
    rw [hnone] at h
    exact nomatch h
  · rename_i queue hqueue
    refine ⟨queue, hqueue, ?_⟩
    split at h
    · obtain rfl := Option.some.inj h
      exact ⟨rfl, .inr rfl⟩
    · obtain rfl := Option.some.inj h
      exact ⟨rfl, .inl ⟨rfl, rfl⟩⟩

theorem keepsEndpoint_adopt (settings : ReceiveSettings) (receiver : Receiver F mode)
    {queue queue' : Queue} (hqueue : receiver.queue = some queue)
    (h : (receiver.adopt settings).queue = some queue') : KeepsEndpoint queue queue' := by
  obtain ⟨queue₀, hqueue₀, _, hcases⟩ := adopt_queue settings receiver h
  obtain rfl : queue = queue₀ := Option.some.inj (hqueue.symm.trans hqueue₀)
  rcases hcases with ⟨_, rfl⟩ | rfl
  · exact ⟨rfl, fun bulkIn h => ⟨bulkIn, h, rfl, rfl⟩⟩
  · exact ⟨(keepsEndpoint_discardCurrent queue).initialized,
      (keepsEndpoint_discardCurrent queue).bulkIn⟩

theorem streamInv_adopt {w : StreamWorld F mode} (h : StreamInv w) (settings : ReceiveSettings)
    (hstate : w.receiver.claim.receiver = .cleanupRequired) :
    StreamInv (w.onReceiver (Receiver.adopt settings)) := by
  have hclaim : (w.onReceiver (Receiver.adopt settings)).receiver.claim = w.receiver.claim :=
    adopt_claim settings _
  refine .of_cleanupRequired h.valid (by rw [hclaim]; exact hstate) fun queue' hqueue' => ?_
  obtain ⟨queue, hqueue, _, _⟩ := adopt_queue settings w.receiver hqueue'
  obtain ⟨bulkIn, hbulk, hid⟩ := h.endpoint queue hqueue
  obtain ⟨bulkIn', hbulk', hid', _⟩ :=
    (keepsEndpoint_adopt settings w.receiver hqueue hqueue').bulkIn bulkIn hbulk
  exact ⟨bulkIn', hbulk', hid'.le.trans hid⟩

/-- Submitting the buffers of a queue with an endpoint. -/
theorem submitBuffers_open {queue queue' : Queue} {bulkIn : BulkIn}
    (hbulk : queue.bulkIn = some bulkIn) (h : queue.submitBuffers = .ok queue') :
    queue' = { queue with
      bulkIn := some (queue.buffers.foldl BulkIn.submit bulkIn)
      buffers := []
      initialized := true } := by
  unfold Queue.submitBuffers at h
  rw [hbulk] at h
  exact (Except.ok.inj h).symm

theorem pause_open {queue : Queue} {bulkIn : BulkIn} (hbulk : queue.bulkIn = some bulkIn) :
    ∃ bulkIn', queue.releaseCurrent.bulkIn = some bulkIn' ∧ bulkIn'.id = bulkIn.id ∧
      queue.pause = { queue.releaseCurrent with
        discardRemaining := bulkIn'.pending.length
        bulkIn := some bulkIn'.cancelAll } := by
  obtain ⟨bulkIn', hbulk', hid, _⟩ := (keepsEndpoint_releaseCurrent queue).bulkIn bulkIn hbulk
  refine ⟨bulkIn', hbulk', hid, ?_⟩
  unfold Queue.pause
  simp only [hbulk']

theorem streamInv_pause {w : StreamWorld F mode} (h : StreamInv w)
    (hoff : AcknowledgedMode .off w.wire) : StreamInv (w.onReceiver Receiver.pause) := by
  have hpaused : ∀ queue', (w.onReceiver Receiver.pause).receiver.queue = some queue' →
      ∃ (queue : Queue) (bulkIn bulkIn' : BulkIn), w.receiver.queue = some queue ∧
        queue.bulkIn = some bulkIn ∧ bulkIn.id ≤ w.wire.opened ∧ bulkIn'.id = bulkIn.id ∧
        queue' = { queue.releaseCurrent with
          discardRemaining := bulkIn'.pending.length
          bulkIn := some bulkIn'.cancelAll } := by
    intro queue' hqueue'
    obtain ⟨queue, hqueue, rfl⟩ := Option.map_eq_some_iff.mp hqueue'
    obtain ⟨bulkIn, hbulk, hid⟩ := h.endpoint queue hqueue
    obtain ⟨bulkIn', _, hid', hpause⟩ := pause_open hbulk
    exact ⟨queue, bulkIn, bulkIn', hqueue, hbulk, hid, hid', hpause⟩
  refine ⟨h.valid, ?_, (nomatch ·), fun _ => .inr hoff, ?_, fun _ => rfl⟩
  · intro queue' hqueue'
    obtain ⟨queue, bulkIn, bulkIn', _, _, hid, hid', rfl⟩ := hpaused queue' hqueue'
    exact ⟨bulkIn'.cancelAll, rfl, hid'.le.trans hid⟩
  · intro _ queue' bulkIn₀ hqueue' hbulk₀
    obtain ⟨queue, bulkIn, bulkIn', _, _, _, _, rfl⟩ := hpaused queue' hqueue'
    obtain rfl := Option.some.inj hbulk₀
    exact ⟨releaseCurrent_current queue, rfl⟩

theorem streamInv_failedRead {w : StreamWorld F mode} (hvalid : ValidReceive w.session.receive)
    (e : Error) {α : Type} :
    StreamInv (w.onReceiver (Receiver.failedRead (.error e : Result α))) := by
  refine .of_cleanupRequired hvalid rfl fun queue hqueue => ?_
  have hnone : (w.receiver.retireStream.setState .cleanupRequired).queue = none :=
    retireStream_queue _
  exact nomatch hqueue.symm.trans hnone

/-- **Every move keeps the invariant.** -/
theorem StreamInv.move {w w' : StreamWorld F mode} (h : StreamInv w) (move : Move w w') :
    StreamInv w' := by
  cases move with
  | requireCleanup _ => exact .of_cleanupRequired h.valid rfl h.endpoint
  | issue _ _ hstate => exact .of_cleanupRequired h.valid hstate h.endpoint
  | settle _ ticket transfer reply hopened =>
    have hquiet : QuietlyExtends w.wire (w.wire.settle ticket transfer reply) :=
      ⟨⟨[], by rw [Wire.settle_issued, List.append_nil], quiet_nil⟩,
        acknowledged_settle ticket transfer reply w.wire, hopened⟩
    exact h.rely ⟨rfl, id, rfl, hquiet⟩
  | retire _ hstate => exact streamInv_retire h hstate
  | adopt _ settings hstate _ _ _ => exact streamInv_adopt h settings hstate
  | openQueue _ wire settings hstate _ _ _ _ _ _ =>
    refine .of_cleanupRequired h.valid hstate fun queue hqueue => ?_
    obtain rfl := Option.some.inj hqueue
    exact ⟨BulkIn.opened wire.opened, rfl, Nat.le_refl _⟩
  | submitBuffers _ hstate hqueue _ hsubmit =>
    refine .of_cleanupRequired h.valid hstate fun queue' hqueue' => ?_
    obtain rfl := Option.some.inj hqueue'
    obtain ⟨bulkIn, hbulk, hid⟩ := h.endpoint _ hqueue
    rw [submitBuffers_open hbulk hsubmit]
    exact ⟨_, rfl, by rw [foldl_submit_id]; exact hid⟩
  | run _ _ hqueue hinitialized hrx =>
    exact ⟨h.valid, h.endpoint, fun _ => ⟨hrx, _, hqueue, hinitialized⟩, (nomatch ·), (nomatch ·),
      (nomatch ·)⟩
  | pause _ _ hoff => exact streamInv_pause h hoff
  | release _ hstate hqueue =>
    exact h.keep_running hstate hqueue rfl rfl hstate rfl (keepsEndpoint_releaseCurrent _)
  | take _ _ hstate hqueue _ _ hturn hresult =>
    exact h.keep_running hstate hqueue rfl rfl hstate rfl (keepsEndpoint_turn hturn hresult)
  | reject _ _ _ _ _ _ =>
    apply streamInv_failedRead
    exact h.valid
  | redecimate _ hstate hqueue _ =>
    exact h.keep_running hstate hqueue rfl rfl hstate rfl
      ⟨(keepsEndpoint_discardCurrent _).initialized, (keepsEndpoint_discardCurrent _).bulkIn⟩
  | @convert _ _ _ _ result _ hstate hqueue hprocess =>
    cases result with
    | ok samples => exact h.keep_running hstate hqueue rfl rfl hstate rfl (keepsEndpoint_process hprocess)
    | error e =>
      refine .of_cleanupRequired h.valid rfl fun queue hqueue => ?_
      exact nomatch hqueue.symm.trans (retireStream_queue _)

theorem StreamInv.moves {w w' : StreamWorld F mode} (h : StreamInv w) (moves : Moves w w') :
    StreamInv w' :=
  moves.keep (fun _ _ move hinv => hinv.move move) h

/-- What every move keeps of a stream that agrees with the hardware. -/
theorem Moves.keep_inv {inv : StreamWorld F mode → Prop}
    (hstep : ∀ w w', StreamInv w → Move w w' → inv w → inv w') {a b : StreamWorld F mode}
    (h : Moves a b) (hinv : StreamInv a) (ha : inv a) : inv b := by
  induction h with
  | none => exact ha
  | step moves move ih => exact hstep _ _ (hinv.moves moves) move ih

end HydraSdr.Analysis
