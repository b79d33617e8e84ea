import HydraSdr.Analysis.StreamRuns

/-!
# Receiver state, hardware and queue agree

What the state of a receiver says about the last `ReceiverMode` command and about its queue, in
every state that a session can reach.
-/

set_option autoImplicit false

namespace HydraSdr.Analysis.ReceiverAgreement

open HydraSdr.Program HydraSdr.Computation HydraSdr.Analysis

variable {F : Type} {mode : SampleFormat}

/-- The receiver runs with an initialised queue on an open endpoint. -/
def RunsWithQueue (receiver : Receiver F mode) : Prop :=
  ∃ queue, receiver.queue = some queue ∧ queue.initialized = true ∧ queue.isClosed = false

variable [SampleArithmetic F]

theorem runsWithQueue_of_running {w : StreamWorld F mode} (hinv : StreamInv w)
    (hstate : w.receiver.claim.receiver = .running) : RunsWithQueue w.receiver := by
  obtain ⟨queue, hqueue, hinitialized⟩ := (hinv.running hstate).2
  obtain ⟨bulkIn, hbulk, _⟩ := hinv.endpoint queue hqueue
  refine ⟨queue, hqueue, hinitialized, ?_⟩
  unfold Queue.isClosed
  rw [hbulk]
  rfl

/-- A claim is acquired from an open device whose claim is available, and is stopped. -/
theorem acquired_stopped {session session' : Session} {claim : RxStreamClaim}
    (h : RxStreamClaim.acquire session = (.ok claim, session')) :
    session.state.device = .opened ∧ session.state.claim = .available ∧
      claim.receiver = .stopped := by
  rcases acquire_cases session with ⟨hopen, havailable, hacquire⟩ | ⟨_, e, hacquire⟩
  · rw [hacquire] at h
    cases h
    exact ⟨hopen, havailable, rfl⟩
  · rw [hacquire] at h
    exact nomatch (Prod.mk.inj h).1

/-- A read that has begun finds its queue. -/
theorem read_finds_queue {w : StreamWorld F .f32Iq} (hinv : StreamInv w)
    (hbegun : (Receiver.beginRead w).1 = .ok ()) :
    ∃ queue, expect "running queue" (Receiver.beginRead w).2.receiver.queue = .ok queue := by
  obtain ⟨hmoves, hrunning⟩ := beginRead_moves hinv
  obtain ⟨queue, hqueue, _⟩ := ((hinv.moves hmoves).running (hrunning hbegun)).2
  rw [hqueue]
  exact ⟨queue, rfl⟩

/-- A read of an idle stream that has begun finds its queue. -/
def ReadsFindQueue : {mode : SampleFormat} → System F mode → Prop
  | .rawAdc, _ => True
  | .f32Iq, s => ∀ (stream : ℕ) receiver, s.streams[stream]? = some (.idle receiver) →
      (Receiver.beginRead (s.streamWorld receiver)).1 = .ok () →
      ∃ queue, expect "running queue" (Receiver.beginRead (s.streamWorld receiver)).2.receiver.queue =
        .ok queue

theorem readsFindQueue {s : System F mode} (hinv : SystemInv s) : ReadsFindQueue s := by
  cases mode with
  | rawAdc => trivial
  | f32Iq =>
    exact fun stream receiver hphase hbegun =>
      read_finds_queue (hinv.streamInv (List.mem_of_getElem? hphase) rfl) hbegun

/-- **Receiver state agrees with the hardware and the queue**, in every reachable state.  A running
receiver has been switched on by the last `ReceiverMode` command, which was acknowledged, and has an
initialised queue on an open endpoint.  When the receiver of a live claim is stopped, or an open
device whose session has not ended has its claim to give away, the last `ReceiverMode` command, if
any, was an acknowledged `Off`.  So an acquired claim does not inherit a running receiver, and the
reads of an IQ stream find their queue. -/
theorem receiver_agrees {config : ValidConfig mode} {s : System F mode}
    (h : System.Reachable config s) :
    (∀ phase ∈ s.streams, ∀ receiver, phase.receiver? = some receiver →
      (receiver.claim.receiver = .running →
        AcknowledgedMode .rx s.wire ∧ RunsWithQueue receiver) ∧
      (receiver.claim.receiver = .stopped → ReceiverOff s.wire)) ∧
    (s.ended = false → s.session.state.device = .opened → s.session.state.claim = .available →
      ReceiverOff s.wire) ∧
    (s.ended = false → ∀ claim session, RxStreamClaim.acquire s.session = (.ok claim, session) →
      claim.receiver = .stopped ∧ ReceiverOff s.wire) ∧
    ReadsFindQueue s := by
  have hinv := (reachable_inv h).system
  refine ⟨fun phase hphase receiver hreceiver => ?_, hinv.off, fun hended claim session hacquire => ?_,
    readsFindQueue hinv⟩
  · have hstream := hinv.streamInv hphase hreceiver
    exact ⟨fun hstate => ⟨(hstream.running hstate).1, runsWithQueue_of_running hstream hstate⟩,
      hstream.stopped⟩
  · obtain ⟨hopen, havailable, hstopped⟩ := acquired_stopped hacquire
    exact ⟨hstopped, hinv.off hended hopen havailable⟩

/-- Whether the receiver of a stream runs. -/
def isRunning (phase : StreamPhase F mode) : Bool :=
  match phase.receiver? with
  | some receiver => receiver.claim.receiver = .running
  | none => false

/-- An IQ stream that has been started. -/
def startedStream : System Rat .f32Iq :=
  System.after (ValidConfig.standard .f32Iq) (fun _ => obliging)
    [.pollDevice (List.replicate 16 obliging), .rxStream, .callStream 0 .start,
      .pollStream 0 (List.replicate 4 obliging) []]

theorem startedStream_agrees :
    ∃ phase ∈ startedStream.streams, ∃ receiver, phase.receiver? = some receiver ∧
      AcknowledgedMode .rx startedStream.wire ∧ RunsWithQueue receiver := by
  have hreachable : System.Reachable (ValidConfig.standard .f32Iq) startedStream :=
    System.reachable_after _ _ _
  have hrunning : startedStream.streams.any isRunning = true := by decide +kernel
  obtain ⟨phase, hphase, hphase'⟩ := List.any_eq_true.mp hrunning
  unfold isRunning at hphase'
  split at hphase'
  · rename_i receiver hreceiver
    exact ⟨phase, hphase, receiver, hreceiver,
      ((receiver_agrees hreachable).1 phase hphase receiver hreceiver).1 (of_decide_eq_true hphase')⟩
  · exact nomatch hphase'

end HydraSdr.Analysis.ReceiverAgreement
