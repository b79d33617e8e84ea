import HydraSdr.Analysis.Configurations

/-!
# The moves of a stream

Everything an operation or a read of a stream does to its host state between two waits is a
sequence of the elementary moves below.  The moves say what has been made sure of when each is
made; an invariant of streams is proved once for each move, and never again for the operations.
-/

set_option autoImplicit false

namespace HydraSdr.Analysis

open HydraSdr.Program

variable {F : Type} [SampleArithmetic F] {mode : SampleFormat}

/-- The transfers a stream issues. -/
inductive StreamTransfer : Transfer → Prop
  | receiverMode (mode : ReceiverMode) : StreamTransfer (.receiverMode mode)
  | bulkIn : StreamTransfer (.bulkIn RFONE_RX_ENDPOINT)
  | clearHalt : StreamTransfer .clearHalt

/-- The wire of a host state is replaced. -/
def onWire (f : Wire → Wire) (w : StreamWorld F mode) : StreamWorld F mode :=
  { w with wire := f w.wire }

/-- The processor carries no sample over to the next read. -/
def CarriesNothing : {mode : SampleFormat} → Processor F mode → Prop
  | .rawAdc, _ => True
  | .f32Iq, processor => IqProcessor.pending processor = none

/-- The elementary moves.  The first group prepares the hardware, and needs a stream that is known
to require cleanup; the second group reads, and needs a running one. -/
inductive Move : {mode : SampleFormat} → StreamWorld F mode → StreamWorld F mode → Prop
  | requireCleanup {mode : SampleFormat} (w : StreamWorld F mode) :
      Move w (w.onReceiver (Receiver.setState .cleanupRequired))
  | issue {mode : SampleFormat} (w : StreamWorld F mode) {transfer : Transfer}
      (htransfer : StreamTransfer transfer)
      (hstate : w.receiver.claim.receiver = .cleanupRequired) :
      Move w (onWire (Wire.issue transfer) w)
  | settle {mode : SampleFormat} (w : StreamWorld F mode) (ticket : ℕ) (transfer : Transfer)
      (reply : transfer.Reply)
      (hopened : (w.wire.settle ticket transfer reply).opened = w.wire.opened) :
      Move w (onWire (Wire.settle ticket transfer reply) w)
  | retire {mode : SampleFormat} (w : StreamWorld F mode)
      (hstate : w.receiver.claim.receiver ≠ .running) :
      Move w (w.onReceiver Receiver.retireStream)
  | adopt {mode : SampleFormat} (w : StreamWorld F mode) (settings : ReceiveSettings)
      (hstate : w.receiver.claim.receiver = .cleanupRequired) (hvalid : ValidReceive settings)
      (hcurrent : ∀ queue, w.receiver.queue = some queue → queue.current = none)
      (hpacking : ∀ queue, w.receiver.queue = some queue →
        queue.settings.packing = settings.packing) :
      Move w (w.onReceiver (Receiver.adopt settings))
  | openQueue {mode : SampleFormat} (w : StreamWorld F mode) (wire : Wire)
      (settings : ReceiveSettings) (hstate : w.receiver.claim.receiver = .cleanupRequired)
      (hvalid : ValidReceive settings) (hprocessor : w.receiver.processor = Processor.default mode)
      (hqueue : w.receiver.queue = none) (hextends : Extends w.wire wire)
      (hissued : wire.issued = w.wire.issued) (hopened : wire.opened = w.wire.opened + 1) :
      Move w ({ w with wire := wire }.setQueue (Queue.new (BulkIn.opened wire.opened) settings))
  | submitBuffers {mode : SampleFormat} (w : StreamWorld F mode) {queue queue' : Queue}
      (hstate : w.receiver.claim.receiver = .cleanupRequired)
      (hqueue : w.receiver.queue = some queue) (hnew : queue.initialized = false)
      (hsubmit : queue.submitBuffers = .ok queue') :
      Move w (w.setQueue queue')
  | run {mode : SampleFormat} (w : StreamWorld F mode) {queue : Queue}
      (hstate : w.receiver.claim.receiver = .cleanupRequired)
      (hqueue : w.receiver.queue = some queue) (hinitialized : queue.initialized = true)
      (hrx : AcknowledgedMode .rx w.wire) :
      Move w (w.onReceiver (Receiver.setState .running))
  | pause {mode : SampleFormat} (w : StreamWorld F mode)
      (hstate : w.receiver.claim.receiver = .cleanupRequired)
      (hoff : AcknowledgedMode .off w.wire) :
      Move w (w.onReceiver Receiver.pause)
  | release (w : StreamWorld F .rawAdc) {queue : Queue}
      (hstate : w.receiver.claim.receiver = .running) (hqueue : w.receiver.queue = some queue) :
      Move w (w.setQueue queue.releaseCurrent)
  | take {mode : SampleFormat} (w : StreamWorld F mode) {queue queue' : Queue} {turn : Queue.Turn}
      (arrival : Arrival) (hstate : w.receiver.claim.receiver = .running)
      (hqueue : w.receiver.queue = some queue) (hcurrent : queue.current = none)
      (hcarried : CarriesNothing w.receiver.processor)
      (hturn : queue.turn (some arrival) = .ok (turn, queue'))
      (hresult : ∀ e, turn ≠ .ends (.error e)) :
      Move w (w.setQueue queue')
  | reject {mode : SampleFormat} (w : StreamWorld F mode) {queue queue' : Queue} {e : Error}
      (arrival : Arrival) (hstate : w.receiver.claim.receiver = .running)
      (hqueue : w.receiver.queue = some queue) (hcurrent : queue.current = none)
      (hturn : queue.turn (some arrival) = .ok (.ends (.error e), queue')) :
      Move w ((w.setQueue queue').onReceiver (Receiver.failedRead (.error e : Result Unit)))
  | redecimate (w : StreamWorld F .f32Iq) {queue : Queue}
      (hstate : w.receiver.claim.receiver = .running) (hqueue : w.receiver.queue = some queue)
      (hchanged : queue.settings.decimation ≠ w.session.receive.decimation) :
      Move w (w.onReceiver (Receiver.redecimate queue w.session.receive.decimation))
  | convert (w : StreamWorld F .f32Iq) {queue queue' : Queue} {room : ℕ}
      {result : Result (List (Complex F))} {processor' : IqProcessor F}
      (hstate : w.receiver.claim.receiver = .running) (hqueue : w.receiver.queue = some queue)
      (hprocess : IqProcessor.process w.receiver.processor queue room =
        .ok (result, processor', queue')) :
      Move w (w.onReceiver fun receiver => (receiver.setIq queue' processor').failedRead result)

/-- Sequences of moves. -/
inductive Moves {mode : SampleFormat} (start : StreamWorld F mode) : StreamWorld F mode → Prop
  | none : Moves start start
  | step {w w' : StreamWorld F mode} (h : Moves start w) (move : Move w w') : Moves start w'

/-- Moves of which none reads or stops: each is made by a stream that does not run, or that is given
up. -/
inductive ControlMoves {mode : SampleFormat} (start : StreamWorld F mode) :
    StreamWorld F mode → Prop
  | none : ControlMoves start start
  | step {w w' : StreamWorld F mode} (h : ControlMoves start w) (move : Move w w')
      (hcontrol : w.receiver.claim.receiver ≠ .running ∨
        w' = w.onReceiver (Receiver.setState .cleanupRequired))
      (hstops : w'.receiver.claim.receiver = .stopped → w.receiver.claim.receiver = .stopped) :
      ControlMoves start w'

theorem Move.moves {w w' : StreamWorld F mode} (move : Move w w') : Moves w w' :=
  Moves.none.step move

theorem Moves.trans {a b c : StreamWorld F mode} (hab : Moves a b) (hbc : Moves b c) :
    Moves a c := by
  induction hbc with
  | none => exact hab
  | step _ move ih => exact ih.step move

theorem ControlMoves.moves {a b : StreamWorld F mode} (h : ControlMoves a b) : Moves a b := by
  induction h with
  | none => exact .none
  | step _ move _ _ ih => exact ih.step move

theorem ControlMoves.trans {a b c : StreamWorld F mode} (hab : ControlMoves a b)
    (hbc : ControlMoves b c) : ControlMoves a c := by
  induction hbc with
  | none => exact hab
  | step _ move hcontrol hstops ih => exact ih.step move hcontrol hstops

/-- A stream is given up. -/
theorem ControlMoves.giveUp (w : StreamWorld F mode) :
    ControlMoves w (w.onReceiver (Receiver.setState .cleanupRequired)) :=
  ControlMoves.none.step (.requireCleanup w) (.inr rfl) (nomatch ·)

omit [SampleArithmetic F] in
/-- A stream that requires cleanup does not run. -/
theorem not_running {w : StreamWorld F mode}
    (h : w.receiver.claim.receiver = .cleanupRequired) : w.receiver.claim.receiver ≠ .running := by
  rw [h]
  exact ReceiverState.noConfusion

omit [SampleArithmetic F] in
/-- A stream that requires cleanup is not stopped. -/
theorem not_stopped {w : StreamWorld F mode}
    (h : w.receiver.claim.receiver = .cleanupRequired) : w.receiver.claim.receiver ≠ .stopped := by
  rw [h]
  exact ReceiverState.noConfusion

/-- A move of a stream that requires cleanup, and is not stopped by it. -/
theorem ControlMoves.prepare {start w w' : StreamWorld F mode} (h : ControlMoves start w)
    (hstate : w.receiver.claim.receiver = .cleanupRequired) (move : Move w w')
    (hstate' : w'.receiver.claim.receiver ≠ .stopped) : ControlMoves start w' :=
  h.step move (.inl (not_running hstate)) (absurd · hstate')

/-- What holds before a sequence of moves and is kept by each of them holds after it. -/
theorem Moves.keep {inv : StreamWorld F mode → Prop}
    (hstep : ∀ w w', Move w w' → inv w → inv w') {a b : StreamWorld F mode} (h : Moves a b)
    (ha : inv a) : inv b := by
  induction h with
  | none => exact ha
  | step _ move ih => exact hstep _ _ move ih

/-! ## What no move touches -/

/-- The parts of a host state that moves leave alone. -/
structure SameOwner (w w' : StreamWorld F mode) : Prop where
  session : w'.session = w.session
  armed : w'.receiver.claim.cleanupArmed = w.receiver.claim.cleanupArmed
  panic : w'.panic = w.panic

@[simp] theorem retireStream_claim (receiver : Receiver F mode) :
    receiver.retireStream.claim = receiver.claim := by
  unfold Receiver.retireStream
  split <;> rfl

@[simp] theorem retireStream_queue (receiver : Receiver F mode) :
    receiver.retireStream.queue = none := by
  unfold Receiver.retireStream
  split
  · assumption
  · rfl

@[simp] theorem retireStream_processor (receiver : Receiver F mode) :
    receiver.retireStream.processor = Processor.default mode := by
  unfold Receiver.retireStream
  split <;> rfl

@[simp] theorem adopt_claim (settings : ReceiveSettings) (receiver : Receiver F mode) :
    (receiver.adopt settings).claim = receiver.claim := by
  unfold Receiver.adopt
  split
  · rfl
  · split <;> rfl

theorem failedRead_error {α : Type} (e : Error) (receiver : Receiver F mode) :
    Receiver.failedRead (.error e : Result α) receiver =
      receiver.retireStream.setState .cleanupRequired := rfl

theorem failedRead_armed {α : Type} (result : Result α) (receiver : Receiver F mode) :
    (Receiver.failedRead result receiver).claim.cleanupArmed = receiver.claim.cleanupArmed := by
  cases result with
  | ok value => rfl
  | error e => rw [failedRead_error, Receiver.setState, retireStream_claim]

theorem Move.sameOwner {w w' : StreamWorld F mode} (move : Move w w') : SameOwner w w' := by
  cases move with
  | retire _ _ => exact ⟨rfl, congrArg RxStreamClaim.cleanupArmed (retireStream_claim _), rfl⟩
  | adopt _ settings _ _ _ _ =>
    exact ⟨rfl, congrArg RxStreamClaim.cleanupArmed (adopt_claim settings _), rfl⟩
  | reject _ _ _ _ _ _ => exact ⟨rfl, failedRead_armed _ _, rfl⟩
  | convert _ _ _ _ => exact ⟨rfl, failedRead_armed _ _, rfl⟩
  | _ => exact ⟨rfl, rfl, rfl⟩

theorem Moves.sameOwner {w w' : StreamWorld F mode} (h : Moves w w') : SameOwner w w' := by
  induction h with
  | none => exact ⟨rfl, rfl, rfl⟩
  | step _ move ih =>
    have hmove := move.sameOwner
    exact ⟨hmove.session.trans ih.session, hmove.armed.trans ih.armed, hmove.panic.trans ih.panic⟩

/-- Moves only add to the wire. -/
theorem Move.extends {w w' : StreamWorld F mode} (move : Move w w') : Extends w.wire w'.wire := by
  cases move with
  | issue _ _ _ => exact extends_issue _ _
  | settle _ ticket transfer reply _ => exact extends_settle ticket transfer reply _
  | openQueue _ wire settings _ _ _ _ hextends _ _ => exact hextends
  | _ => exact Extends.refl _

theorem Moves.extends {w w' : StreamWorld F mode} (h : Moves w w') : Extends w.wire w'.wire := by
  induction h with
  | none => exact Extends.refl _
  | step _ move ih => exact ih.trans move.extends

end HydraSdr.Analysis
