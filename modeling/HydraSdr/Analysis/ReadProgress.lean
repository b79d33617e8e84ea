import HydraSdr.Analysis.IqRuns

/-!
# IQ reads make progress

In every reachable state, the unread part of the current buffer of an IQ stream is made of whole
conversion groups and a sample that is carried over stems from that buffer.  So every read that
comes to convert calls the converter at most once, and returns a sample.
-/

set_option autoImplicit false

namespace HydraSdr.Analysis.ReadProgress

open HydraSdr.Program HydraSdr.Computation HydraSdr.Analysis

variable {F : Type} [SampleArithmetic F]

/-- **An IQ read always makes progress.**  Whenever a current buffer is held, the offset is inside
it, a whole number of conversion groups is left, and a sample that is carried over stems from it.
A read that comes to convert neither panics nor fails there, hands over what is carried over before
it calls the converter at most once, and returns a sample.  A blocking read is a poll that times
out where the poll stays pending. -/
theorem reads_progress {config : ValidConfig .f32Iq} {s : System F .f32Iq}
    (h : System.Reachable config s) {phase : StreamPhase F .f32Iq} (hphase : phase ∈ s.streams)
    {receiver : Receiver F .f32Iq} (hreceiver : phase.receiver? = some receiver) :
    (∀ queue buffer, receiver.queue = some queue → queue.current = some buffer →
      IqProcessor.offset receiver.processor < queue.currentLen ∧
      8 * queue.settings.decimation ∣ queue.currentLen - IqProcessor.offset receiver.processor ∧
      ((IqProcessor.pending receiver.processor).isSome = true →
        StemsFrom receiver.processor queue buffer)) ∧
    ∀ room arrivals, SoundRead (s.streamWorld receiver) room arrivals ∧
      Receiver.readBlocking (s.streamWorld receiver) room arrivals =
        (Receiver.pollRead (s.streamWorld receiver) room arrivals).map
          fun outcome => (outcome.1.getD (.ok []), outcome.2) := by
  have haligned := reachable_reads keptByReads_aligned h hphase hreceiver
  have hinv := (reachable_inv h).system.streamInv hphase hreceiver
  constructor
  · intro queue buffer hqueue hcurrent
    have hqueue' := (haligned queue hqueue).aligned
    obtain ⟨hoffset, hwhole⟩ := hqueue'.unread buffer hcurrent
    exact ⟨hoffset, hwhole, fun hpending => hqueue'.carried buffer hcurrent (.inr hpending)⟩
  · intro room arrivals
    exact ⟨soundRead hinv haligned room arrivals, readBlocking_poll _ room arrivals⟩

/-- An IQ stream that has been started. -/
def startedReads : System Rat .f32Iq :=
  System.after (ValidConfig.standard .f32Iq) (fun _ => obliging)
    [.pollDevice (List.replicate 16 obliging), .rxStream, .callStream 0 .start,
      .pollStream 0 (List.replicate 4 obliging) []]

/-- Whether a stream has a queue. -/
def hasQueue (phase : StreamPhase Rat .f32Iq) : Bool :=
  (phase.receiver?.bind fun receiver => receiver.queue).isSome

theorem startedReads_progress :
    ∃ phase ∈ startedReads.streams, ∃ receiver, phase.receiver? = some receiver ∧
      receiver.queue ≠ none ∧
      ∀ room arrivals, SoundRead (startedReads.streamWorld receiver) room arrivals := by
  have hreachable : System.Reachable (ValidConfig.standard .f32Iq) startedReads :=
    System.reachable_after _ _ _
  have hqueue : startedReads.streams.any hasQueue = true := by decide +kernel
  obtain ⟨phase, hphase, hphase'⟩ := List.any_eq_true.mp hqueue
  obtain ⟨queue, hsome⟩ := Option.isSome_iff_exists.mp hphase'
  obtain ⟨receiver, hreceiver, hsome⟩ := Option.bind_eq_some_iff.mp hsome
  refine ⟨phase, hphase, receiver, hreceiver, ?_, ?_⟩
  · rw [hsome]
    exact Option.some_ne_none _
  · intro room arrivals
    exact ((reads_progress hreachable hphase hreceiver).2 room arrivals).1

end HydraSdr.Analysis.ReadProgress
