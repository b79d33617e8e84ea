import HydraSdr.Analysis.IqRuns

/-!
# Decimation factors are never mixed

The factor of a session can change at any time between two steps of an IQ stream.  What has been
received, converted or carried over under one factor is never used under another.
-/

set_option autoImplicit false

namespace HydraSdr.Analysis.DecimationChanges

open HydraSdr.Program HydraSdr.Computation HydraSdr.Analysis

variable {F : Type} [SampleArithmetic F]

/-- Since it was reset last, the converter has been called with this factor only. -/
def FedWith (factor : ℕ) (processor : IqProcessor F) : Prop :=
  Fed (fun _ used => used = factor) processor.converter processor.pending

/-- The converter, the sample it carries over and the offset, while this buffer is converted.  The
buffer was taken with nothing carried over and the offset at zero, after calls with this factor only
since the last reset; from there on every byte up to the offset has been fed, with the factor. -/
inductive FedUpTo (factor : ℕ) (raw : List UInt8) :
    Float32IqConverter F → Option (Complex F) → ℕ → Prop
  | taken {converter : Float32IqConverter F}
      (h : Fed (fun _ used => used = factor) converter none) : FedUpTo factor raw converter none 0
  | call {before converter : Float32IqConverter F} {carried : Option (Complex F)}
      {offset room : ℕ} {progress : ConversionProgress F} {samples : List (Complex F)}
      (h : FedUpTo factor raw before carried offset)
      (hcall : before.processU16leToF32iqSlice (raw.drop offset) factor room =
        .ok (converter, progress, samples)) :
      FedUpTo factor raw converter progress.pending (offset + progress.consumedBytes)
  | handOver {converter : Float32IqConverter F} {carried : Option (Complex F)} {offset : ℕ}
      (h : FedUpTo factor raw converter carried offset) : FedUpTo factor raw converter none offset

/-- The converter of a stream has been called with the factor of its queue only, and with all of the
current buffer up to the offset. -/
structure OneFactor (processor : IqProcessor F) (queue : Queue) : Prop where
  fed : FedWith queue.settings.decimation processor
  upTo : ∀ buffer, queue.current = some buffer → FedUpTo queue.settings.decimation
    (buffer.bytes.take queue.currentLen) processor.converter processor.pending processor.offset

/-- A read calls the converter with the factor of its queue. -/
theorem fedWith_read {room : ℕ} {processor processor' : IqProcessor F} {queue queue' : Queue}
    {written : List (Complex F)}
    (hread : ReadOutcome room processor queue written processor' queue')
    (h : OneFactor processor queue) : FedWith queue.settings.decimation processor' :=
  hread.fed (fun _ _ _ _ => rfl) h.fed

/-- A read leaves the settings of its queue. -/
theorem read_settings {room : ℕ} {processor processor' : IqProcessor F} {queue queue' : Queue}
    {written : List (Complex F)}
    (hread : ReadOutcome room processor queue written processor' queue') :
    queue'.settings = queue.settings := by
  cases hread with
  | carried _ => rfl
  | released _ _ _ _ _ _ => exact releaseCurrent_settings queue
  | filled _ _ _ _ _ _ _ => rfl

/-- A read feeds the current buffer from the offset on, or is done with it. -/
theorem fedUpTo_read {room : ℕ} {processor processor' : IqProcessor F} {queue queue' : Queue}
    {written : List (Complex F)} (haligned : Aligned processor queue)
    (hread : ReadOutcome room processor queue written processor' queue')
    (h : OneFactor processor queue) {buffer : Buffer} (hcurrent' : queue'.current = some buffer) :
    FedUpTo queue.settings.decimation (buffer.bytes.take queue'.currentLen) processor'.converter
      processor'.pending processor'.offset := by
  cases hread with
  | carried _ => exact (h.upTo buffer hcurrent').handOver
  | released _ _ _ _ _ _ =>
    exact nomatch (releaseCurrent_current queue).symm.trans hcurrent'
  | filled hcurrent hraw hroom hcall _ _ _ =>
    obtain rfl := Option.some.inj (hcurrent.symm.trans hcurrent')
    have hunread := (readCall_of_ok haligned hcurrent (Nat.sub_pos_of_lt hroom) hraw hcall).raw
    rw [hunread] at hcall
    exact (h.upTo _ hcurrent').call hcall

/-- **Everything keeps to one factor**: the queue changes its factor only with a reset. -/
theorem keptByReads_oneFactor : KeptByReads (OneFactor : IqProcessor F → Queue → Prop) where
  reset _ _ hcurrent := ⟨.reset, fun _ hbuffer => nomatch hcurrent.symm.trans hbuffer⟩
  same processor queue queue' hsame h := by
    refine ⟨?_, ?_⟩
    · rw [hsame.decimation]
      exact h.fed
    · rw [hsame.current, hsame.currentLen, hsame.decimation]
      exact h.upTo
  turn processor queue bulkIn buffer pending arrival turn queue' _ _ hcurrent hcarried hcases hresult
      _ haligned h := by
    cases hcases with
    | discarded _ => exact ⟨h.fed, h.upTo⟩
    | accepted _ _ =>
      refine ⟨h.fed, fun taken _ => ?_⟩
      have hfed : Fed (fun _ used => used = queue.settings.decimation) processor.converter none :=
        hcarried ▸ h.fed
      rw [hcarried, haligned.released hcurrent]
      exact .taken hfed
    | rejected _ _ => exact absurd rfl (hresult _)
  read room processor queue written processor' queue' haligned hread h := by
    refine ⟨?_, fun buffer hcurrent => ?_⟩
    · rw [read_settings hread]
      exact fedWith_read hread h
    · rw [read_settings hread]
      exact fedUpTo_read haligned hread h hcurrent

/-- A read that begins under another factor gives up everything of the one before. -/
theorem beginRead_changes {w w₁ : StreamWorld F .f32Iq}
    (hbegin : Receiver.beginRead w = (.ok (), w₁)) {before : Queue}
    (hbefore : w.receiver.queue = some before)
    (hchanged : before.settings.decimation ≠ w.session.receive.decimation) :
    w₁.receiver.processor = IqProcessor.default ∧ ∃ queue, w₁.receiver.queue = some queue ∧
      queue.current = none ∧ queue.settings.decimation = w.session.receive.decimation := by
  obtain ⟨_, found, hfound, ⟨_, rfl⟩ | ⟨hsame, _⟩⟩ := beginRead_ok hbegin
  · obtain ⟨_, hdiscarded⟩ := discardCurrent_eq found
    refine ⟨rfl, _, rfl, ?_, rfl⟩
    show found.discardCurrent.current = none
    rw [hdiscarded]
    exact releaseCurrent_current found
  · obtain rfl := Option.some.inj (hbefore.symm.trans hfound)
    exact absurd hsame hchanged

/-- **Decimation factors are never mixed.**  In every reachable state, the converter of a stream has
since its last reset been called with the factor of the queue only; the offset is zero while no
buffer is held, and a current buffer has been fed with that factor from its beginning up to the
offset.  A read under a factor other than the queue's resets the converter, the carried sample and
the offset, and gives up the current buffer.  So it fills with the offset at zero, and the samples
that it returns are those carried over and converted under the factor that the session has at that
poll. -/
theorem factors_never_mixed {config : ValidConfig .f32Iq} {s : System F .f32Iq}
    (h : System.Reachable config s) {phase : StreamPhase F .f32Iq} (hphase : phase ∈ s.streams)
    {receiver : Receiver F .f32Iq} (hreceiver : phase.receiver? = some receiver) :
    (∀ queue, receiver.queue = some queue →
      OneFactor (receiver.processor : IqProcessor F) queue ∧
      (queue.current = none → IqProcessor.offset receiver.processor = 0)) ∧
    ∀ room arrivals w₁, Receiver.beginRead (s.streamWorld receiver) = (.ok (), w₁) →
      (∀ before, receiver.queue = some before →
        before.settings.decimation ≠ s.session.receive.decimation →
        w₁.receiver.processor = IqProcessor.default ∧ ∃ queue, w₁.receiver.queue = some queue ∧
          queue.current = none ∧ queue.settings.decimation = s.session.receive.decimation) ∧
      (∀ queue, readFill room (s.streamWorld receiver) = some queue →
        queue.current = none ∧ IqProcessor.offset w₁.receiver.processor = 0) ∧
      ∀ samples w' rest, samples ≠ [] →
        Receiver.pollRead (s.streamWorld receiver) room arrivals =
            .ok (some (.ok samples), w', rest) ∨
          Receiver.readBlocking (s.streamWorld receiver) room arrivals =
            .ok (.ok samples, w', rest) →
        ∃ queue queue', ReadsFrom (s.streamWorld receiver) room arrivals queue ∧
          queue.settings.decimation = s.session.receive.decimation ∧
          OneFactor (w₁.receiver.processor : IqProcessor F) queue ∧
          ReadOutcome room w₁.receiver.processor queue samples w'.receiver.processor queue' ∧
          w'.receiver.queue = some queue' := by
  have hreads := reachable_reads keptByReads_oneFactor h hphase hreceiver
  have hinv := (reachable_inv h).system.streamInv hphase hreceiver
  constructor
  · intro queue hqueue
    obtain ⟨_, haligned, hkept⟩ := hreads queue hqueue
    exact ⟨hkept, haligned.released⟩
  · intro room arrivals w₁ hbegin
    refine ⟨fun before hbefore hchanged => beginRead_changes hbegin hbefore hchanged, ?_, ?_⟩
    · intro queue hfill
      obtain ⟨_, hqueue, hcurrent, _⟩ := readFill_some hfill
      have hbegun := keptByReads_oneFactor.moves hinv (beginRead_moves hinv).1 hreads
      rw [hbegin] at hqueue hbegun
      exact ⟨hcurrent, (hbegun queue hqueue).aligned.released hcurrent⟩
    · intro samples w' rest hsome hread
      have hpolled : Receiver.pollRead (s.streamWorld receiver) room arrivals =
          .ok (some (.ok samples), w', rest) := by
        rcases hread with hread | hread
        · exact hread
        · obtain ⟨polled, hpolled, hresult | ⟨_, hnil⟩⟩ := readBlocking_eq hread
          · rw [← hresult]
            exact hpolled
          · exact absurd (Except.ok.inj hnil) hsome
      have hroom : 0 < room := pollRead_room hpolled hsome
      have haligned := reachable_reads keptByReads_aligned h hphase hreceiver
      obtain ⟨_, queue, queue', hfrom, houtcome, hqueue'⟩ :=
        (soundRead hinv haligned room arrivals).samples samples w' rest hroom hpolled
      have hfactor := readsFrom_factor hbegin hfrom
      have hkept := (keptByReads_oneFactor.converts hinv hreads hfrom).kept
      rw [hbegin] at houtcome hkept
      exact ⟨queue, queue', hfrom, hfactor, hkept, houtcome, hqueue'⟩

/-- An IQ stream has been started, and then the rate of its device has been changed. -/
def changedFactor : System Rat .f32Iq :=
  System.after (ValidConfig.standard .f32Iq) (fun _ => obliging)
    [.pollDevice (List.replicate 16 obliging), .rxStream, .callStream 0 .start,
      .pollStream 0 (List.replicate 4 obliging) [], .callDevice (.setSampleRateHz 1250000),
      .pollDevice [obliging]]

/-- Whether a stream can be read, and its queue has another factor than the session. -/
def leftFactor (phase : StreamPhase Rat .f32Iq) : Bool :=
  phase.receiver?.any fun receiver =>
    (Receiver.beginRead (changedFactor.streamWorld receiver)).1.isOk &&
      receiver.queue.any fun queue =>
        queue.settings.decimation != changedFactor.session.receive.decimation

theorem changedFactor_never_mixed :
    ∃ phase ∈ changedFactor.streams, ∃ receiver queue w₁, phase.receiver? = some receiver ∧
      receiver.queue = some queue ∧
      queue.settings.decimation ≠ changedFactor.session.receive.decimation ∧
      OneFactor (receiver.processor : IqProcessor Rat) queue ∧
      Receiver.beginRead (changedFactor.streamWorld receiver) = (.ok (), w₁) ∧
      w₁.receiver.processor = IqProcessor.default := by
  have hreachable : System.Reachable (ValidConfig.standard .f32Iq) changedFactor :=
    System.reachable_after _ _ _
  have hleft : changedFactor.streams.any leftFactor = true := by decide +kernel
  obtain ⟨phase, hphase, hphase'⟩ := List.any_eq_true.mp hleft
  obtain ⟨receiver, hreceiver, hboth⟩ := (Option.any_eq_true _ _).mp hphase'
  rw [Bool.and_eq_true] at hboth
  obtain ⟨hbegins, hqueues⟩ := hboth
  obtain ⟨queue, hqueue, hfactor⟩ := (Option.any_eq_true _ _).mp hqueues
  have hchanged : queue.settings.decimation ≠ changedFactor.session.receive.decimation := by
    simpa using hfactor
  obtain ⟨hkept, hreads⟩ := factors_never_mixed hreachable hphase hreceiver
  cases hbegin : Receiver.beginRead (changedFactor.streamWorld receiver) with
  | mk result w₁ =>
    rw [hbegin] at hbegins
    cases result with
    | error e => exact nomatch hbegins
    | ok value =>
      refine ⟨phase, hphase, receiver, queue, w₁, hreceiver, hqueue, hchanged,
        (hkept queue hqueue).1, hbegin, ?_⟩
      exact ((hreads 1 [] w₁ hbegin).1 queue hqueue hchanged).1

end HydraSdr.Analysis.DecimationChanges
