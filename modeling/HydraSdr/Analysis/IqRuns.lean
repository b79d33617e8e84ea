import HydraSdr.Analysis.IqReads
import HydraSdr.Analysis.CompletionPolls
import HydraSdr.Analysis.SubmissionOrder

/-!
# IQ streams over whole runs

The rule by which a property of the processor of an IQ stream and its queue is shown of every state
of a run.  What it may rely on, and what is proved with it first, is that they are aligned.
-/

set_option autoImplicit false

namespace HydraSdr.Analysis

open HydraSdr.Program HydraSdr.Computation

variable {F : Type} [SampleArithmetic F]

/-! ## What reads keep -/

/-- The queue holds the same buffer, at the same factor, on an endpoint on which no more has been
cancelled or has completed. -/
structure SameHeld (queue queue' : Queue) : Prop where
  current : queue'.current = queue.current
  currentLen : queue'.currentLen = queue.currentLen
  decimation : queue'.settings.decimation = queue.settings.decimation
  cancelled : queue'.bulkIn.map BulkIn.cancelled = queue.bulkIn.map BulkIn.cancelled
  completed : queue'.bulkIn.map BulkIn.completed = queue.bulkIn.map BulkIn.completed

/-- What the driver may do to the processor and the queue of an IQ stream keeps the property: reset
the processor when nothing is held, leave alone what is held, take a completion when nothing is
held or carried over, and read. -/
structure KeptByReads (keep : IqProcessor F → Queue → Prop) : Prop where
  reset : ∀ queue, queue.settings.decimation ∈ decimationFactors → queue.current = none →
    keep .default queue
  same : ∀ processor queue queue', SameHeld queue queue' → keep processor queue →
    keep processor queue'
  turn : ∀ processor queue bulkIn buffer pending arrival turn queue',
    queue.bulkIn = some bulkIn → bulkIn.pending = buffer :: pending → queue.current = none →
    processor.pending = none → TurnCases queue bulkIn buffer pending arrival turn queue' →
    (∀ e, turn ≠ .ends (.error e)) → Stamped queue → Aligned processor queue →
    keep processor queue → keep processor queue'
  read : ∀ room processor queue written processor' queue', Aligned processor queue →
    ReadOutcome room processor queue written processor' queue' → keep processor queue →
    keep processor' queue'

/-! ## Alignment -/

/-- A whole transfer is made of whole groups, whatever the factor. -/
theorem group_dvd_transfer {factor : ℕ} (hfactor : factor ∈ decimationFactors) (packing : Bool) :
    8 * factor ∣ transferLength packing ∧ 0 < transferLength packing := by
  have hall : decimationFactors.all (fun factor =>
      decide (8 * factor ∣ DEFAULT_BUFFER_SIZE ∧ 8 * factor ∣ PACKED_BUFFER_SIZE)) = true := by
    decide
  have hboth := of_decide_eq_true (List.all_eq_true.mp hall factor hfactor)
  cases packing with
  | true => exact ⟨hboth.2, by decide⟩
  | false => exact ⟨hboth.1, by decide⟩

/-- A completion that is taken keeps the alignment: nothing is carried over, and the offset is zero
when it becomes the current buffer. -/
theorem aligned_turn {processor : IqProcessor F} {queue queue' : Queue} {bulkIn : BulkIn}
    {buffer : Buffer} {pending : List Buffer} {arrival : Arrival} {turn : Queue.Turn}
    (h : Aligned processor queue) (hcurrent : queue.current = none)
    (hcarried : processor.pending = none)
    (hcases : TurnCases queue bulkIn buffer pending arrival turn queue')
    (hresult : ∀ e, turn ≠ .ends (.error e)) : Aligned processor queue' := by
  have hoffset := h.released hcurrent
  cases hcases with
  | discarded _ =>
    exact ⟨h.factor, h.converter, h.unread, h.inside, h.released, h.carried⟩
  | accepted _ hcheck =>
    obtain ⟨_, hlength, hinside⟩ := checkCompletion_ok hcheck
    have hlength' : arrival.actualLen = transferLength queue.settings.packing := hlength
    obtain ⟨hdvd, hpositive⟩ := group_dvd_transfer h.factor queue.settings.packing
    refine ⟨h.factor, h.converter, ?_, ?_, ?_, ?_⟩
    · intro other _
      dsimp only
      rw [hoffset, hlength', Nat.sub_zero]
      exact ⟨hpositive, hdvd⟩
    · intro other hother
      obtain rfl := Option.some.inj hother
      exact hinside
    · exact (nomatch ·)
    · intro other _ hpart
      rw [hoffset, hcarried] at hpart
      exact absurd hpart (by simp)
  | rejected _ _ => exact absurd rfl (hresult _)

/-- **Everything keeps the alignment.** -/
theorem keptByReads_aligned : KeptByReads (Aligned : IqProcessor F → Queue → Prop) where
  reset queue hfactor hcurrent := by
    refine ⟨hfactor, converterValid_default, ?_, ?_, fun _ => rfl, ?_⟩
    all_goals
      intro buffer hbuffer
      exact nomatch hcurrent.symm.trans hbuffer
  same processor queue queue' hsame h := by
    obtain ⟨hcurrent, hlen, hdecimation, _⟩ := hsame
    have hstems : ∀ buffer, StemsFrom processor queue buffer → StemsFrom processor queue' buffer := by
      intro buffer hbuffer
      unfold StemsFrom at hbuffer ⊢
      rw [hlen, hdecimation]
      exact hbuffer
    refine ⟨hdecimation ▸ h.factor, h.converter, ?_, ?_, ?_, ?_⟩
    all_goals rw [hcurrent]
    · rw [hlen, hdecimation]
      exact h.unread
    · rw [hlen]
      exact h.inside
    · exact h.released
    · exact fun buffer hbuffer hpart => hstems buffer (h.carried buffer hbuffer hpart)
  turn _ _ _ _ _ _ _ _ _ _ hcurrent hcarried hcases hresult _ h _ :=
    aligned_turn h hcurrent hcarried hcases hresult
  read _ _ _ _ _ _ h hread _ := hread.aligned h

/-! ## Runs -/

/-- What everything keeps of a processor and a queue, with what it relies on. -/
structure HaveKept (keep : IqProcessor F → Queue → Prop) (processor : IqProcessor F)
    (queue : Queue) : Prop where
  stamped : Stamped queue
  aligned : Aligned processor queue
  kept : keep processor queue

/-- The processor of an IQ stream and its queue, if it has one, satisfy the property. -/
def ReadsHave (keep : IqProcessor F → Queue → Prop) (w : StreamWorld F .f32Iq) : Prop :=
  QueueHas (HaveKept keep w.receiver.processor) w.receiver

/-- **Every move of an IQ stream** keeps what everything keeps of its processor and queue. -/
theorem KeptByReads.move {keep : IqProcessor F → Queue → Prop} (hkeep : KeptByReads keep)
    {w w' : StreamWorld F .f32Iq} (hinv : StreamInv w) (move : Move w w')
    (h : ReadsHave keep w) : ReadsHave keep w' := by
  have hstamped : QueueHas Stamped w'.receiver :=
    (keptByQueue_stamped 0).move (Nat.zero_le _) hinv move fun queue hqueue =>
      (h queue hqueue).stamped
  have hreset : ∀ queue, w'.receiver.queue = some queue →
      queue.settings.decimation ∈ decimationFactors → queue.current = none →
      HaveKept keep (IqProcessor.default : IqProcessor F) queue :=
    fun queue hqueue hfactor hcurrent => ⟨hstamped queue hqueue,
      keptByReads_aligned.reset queue hfactor hcurrent, hkeep.reset queue hfactor hcurrent⟩
  have hsame : ∀ queue, w.receiver.queue = some queue → ∀ queue', w'.receiver.queue = some queue' →
      SameHeld queue queue' → HaveKept keep w.receiver.processor queue' :=
    fun queue hqueue queue' hqueue' hsame => ⟨hstamped queue' hqueue',
      keptByReads_aligned.same _ _ _ hsame (h queue hqueue).aligned,
      hkeep.same _ _ _ hsame (h queue hqueue).kept⟩
  cases move with
  | requireCleanup _ => exact h
  | issue _ _ _ => exact h
  | settle _ _ _ _ _ => exact h
  | retire _ _ => exact queueHas_none (retireStream_queue _)
  | adopt _ settings _ hvalid hcurrent _ =>
    unfold ReadsHave StreamWorld.onReceiver Receiver.adopt
    unfold StreamWorld.onReceiver Receiver.adopt at hreset hsame
    cases hqueue : w.receiver.queue with
    | none => exact queueHas_none hqueue
    | some queue =>
      have hnone := hcurrent queue hqueue
      rw [hqueue] at hreset hsame
      dsimp only at hreset hsame ⊢
      split
      · rename_i hdecimation
        rw [if_pos hdecimation] at hreset
        refine queueHas_some rfl (hreset _ rfl hvalid ?_)
        show queue.discardCurrent.current = none
        rw [discardCurrent_of_none hnone]
        exact hnone
      · rename_i hdecimation
        rw [if_neg hdecimation] at hsame
        exact queueHas_some rfl
          (hsame queue rfl _ rfl ⟨rfl, rfl, (not_not.mp hdecimation).symm, rfl, rfl⟩)
  | openQueue _ wire settings _ hvalid hprocessor _ _ _ _ =>
    refine queueHas_some rfl ?_
    show HaveKept keep w.receiver.processor _
    rw [hprocessor]
    exact hreset _ rfl hvalid rfl
  | submitBuffers _ _ hqueue _ hsubmit =>
    obtain ⟨bulkIn, hbulk, _⟩ := hinv.endpoint _ hqueue
    rw [submitBuffers_open hbulk hsubmit] at hsame ⊢
    refine queueHas_some rfl (hsame _ hqueue _ rfl ⟨rfl, rfl, rfl, ?_, ?_⟩)
    · rw [hbulk]
      exact congrArg some (foldl_submit_cancelled _ bulkIn)
    · rw [hbulk]
      exact congrArg some (foldl_submit_completed _ bulkIn)
  | run _ _ _ _ _ => exact h
  | pause _ _ _ =>
    intro queue' hqueue'
    have hpaused := hreset queue' hqueue'
    obtain ⟨queue, hqueue, rfl⟩ := Option.map_eq_some_iff.mp hqueue'
    refine hpaused ?_ (pause_current queue)
    rw [pause_settings]
    exact (h queue hqueue).aligned.factor
  | take _ arrival _ hqueue hcurrent hcarried hturn hresult =>
    obtain ⟨hbefore, haligned, hkept⟩ := h _ hqueue
    rcases turn_cases hturn with ⟨_, hend, _⟩ | ⟨bulkIn, buffer, pending, hbulk, hpending, hcases⟩
    · exact absurd hend (hresult _)
    · exact queueHas_some rfl ⟨hstamped _ rfl,
        aligned_turn haligned hcurrent hcarried hcases hresult,
        hkeep.turn _ _ bulkIn buffer pending arrival _ _ hbulk hpending hcurrent hcarried hcases
          hresult hbefore haligned hkept⟩
  | reject _ _ _ _ _ _ => exact queueHas_none (retireStream_queue _)
  | @redecimate _ queue _ hqueue _ =>
    refine queueHas_some rfl (hreset _ rfl hinv.valid ?_)
    obtain ⟨stats, hdiscard⟩ := discardCurrent_eq queue
    show queue.discardCurrent.current = none
    rw [hdiscard]
    exact releaseCurrent_current queue
  | @convert _ queue queue' room result processor' _ hqueue hprocess =>
    obtain ⟨hbefore, haligned, hkept⟩ := h queue hqueue
    by_cases hroom : room = 0
    · unfold IqProcessor.process at hprocess
      rw [if_pos hroom] at hprocess
      cases hprocess
      exact queueHas_some rfl ⟨hbefore, haligned, hkept⟩
    · obtain ⟨written, _, _, hprocess', houtcome⟩ :=
        process_outcome haligned (Nat.pos_of_ne_zero hroom)
      cases hprocess.symm.trans hprocess'
      exact queueHas_some rfl ⟨hstamped _ rfl, houtcome.aligned haligned,
        hkeep.read _ _ _ _ _ _ haligned houtcome hkept⟩

theorem KeptByReads.moves {keep : IqProcessor F → Queue → Prop} (hkeep : KeptByReads keep)
    {w w' : StreamWorld F .f32Iq} (hinv : StreamInv w) (hmoves : Moves w w')
    (h : ReadsHave keep w) : ReadsHave keep w' :=
  hmoves.keep_inv (fun _ _ hinv move => hkeep.move hinv move) hinv h

/-- A fill keeps what everything keeps. -/
theorem KeptByReads.fill {keep : IqProcessor F → Queue → Prop} (hkeep : KeptByReads keep)
    {processor : IqProcessor F} {arrivals rest : List Arrival} {queue queue' : Queue}
    {result : Option (Result Unit)} (hfill : Fills queue arrivals result queue' rest)
    (hresult : ∀ e, result ≠ some (.error e)) (hcurrent : queue.current = none)
    (hcarried : processor.pending = none) (h : HaveKept keep processor queue) :
    HaveKept keep processor queue' := by
  induction hfill with
  | waits _ => exact h
  | again hbulk hpending hcases _ ih =>
    have hgoes : ∀ e, Queue.Turn.again ≠ .ends (.error e) := fun _ => Queue.Turn.noConfusion
    refine ih hresult ?_ ⟨h.stamped.turn hbulk hpending hcurrent hcases,
      aligned_turn h.aligned hcurrent hcarried hcases hgoes,
      hkeep.turn _ _ _ _ _ _ _ _ hbulk hpending hcurrent hcarried hcases hgoes h.stamped h.aligned
        h.kept⟩
    cases hcases
    exact hcurrent
  | ends hbulk hpending hcases =>
    have hends : ∀ e, Queue.Turn.ends _ ≠ .ends (.error e) :=
      fun e hend => hresult e (congrArg some (Queue.Turn.ends.inj hend))
    exact ⟨h.stamped.turn hbulk hpending hcurrent hcases,
      aligned_turn h.aligned hcurrent hcarried hcases hends,
      hkeep.turn _ _ _ _ _ _ _ _ hbulk hpending hcurrent hcarried hcases hends h.stamped h.aligned
        h.kept⟩

/-! ## Reads -/

/-- The queue with which a read that begins comes to convert: the one it finds, or the one it has
filled. -/
def ReadsFrom (w : StreamWorld F .f32Iq) (room : ℕ) (arrivals : List Arrival) (queue : Queue) :
    Prop :=
  (readFill room w = none ∧ (Receiver.beginRead w).2.receiver.queue = some queue) ∨
    ∃ before rest, readFill room w = some before ∧
      Queue.fillLoop arrivals before = .ok (some (.ok ()), queue, rest)

/-- A read that has begun converts with the factor of the session. -/
theorem readsFrom_factor {w w₁ : StreamWorld F .f32Iq} (hbegin : Receiver.beginRead w = (.ok (), w₁))
    {room : ℕ} {arrivals : List Arrival} {queue : Queue} (hfrom : ReadsFrom w room arrivals queue) :
    queue.settings.decimation = w.session.receive.decimation := by
  obtain ⟨found, hfound, hfactor⟩ := beginRead_queue hbegin
  rcases hfrom with ⟨_, hqueue⟩ | ⟨before, rest, hfill, hloop⟩
  · rw [hbegin] at hqueue
    obtain rfl := Option.some.inj (hfound.symm.trans hqueue)
    exact hfactor
  · have hqueue := (readFill_some hfill).2.1
    rw [hbegin] at hqueue
    obtain rfl := Option.some.inj (hfound.symm.trans hqueue)
    rw [fillLoop_settings hloop]
    exact hfactor

/-- What everything keeps holds when a read comes to convert. -/
theorem KeptByReads.converts {keep : IqProcessor F → Queue → Prop} (hkeep : KeptByReads keep)
    {w : StreamWorld F .f32Iq} (hinv : StreamInv w) (h : ReadsHave keep w) {room : ℕ}
    {arrivals : List Arrival} {queue : Queue} (hfrom : ReadsFrom w room arrivals queue) :
    HaveKept keep (Receiver.beginRead w).2.receiver.processor queue := by
  obtain ⟨hmoves, _⟩ := beginRead_moves hinv
  have hbegun := hkeep.moves hinv hmoves h
  rcases hfrom with ⟨_, hqueue⟩ | ⟨before, rest, hfill, hloop⟩
  · exact hbegun queue hqueue
  · obtain ⟨_, hqueue, hcurrent, hcarried⟩ := readFill_some hfill
    obtain ⟨bulkIn, hbulk, _⟩ := (hinv.moves hmoves).endpoint before hqueue
    have hopen : before.bulkIn ≠ none := by
      rw [hbulk]
      exact Option.some_ne_none _
    exact hkeep.fill (fillLoop_fills hopen hloop) (fun _ h => nomatch h) hcurrent hcarried
      (hbegun before hqueue)

/-- The queue with which a read comes to convert is open, and has what every operation on a queue
keeps. -/
theorem KeptByQueue.converts {since : ℕ} {kept : Queue → Prop} (hkeep : KeptByQueue since kept)
    {w : StreamWorld F .f32Iq} (hsince : since ≤ w.wire.opened) (hinv : StreamInv w)
    (h : QueueHas kept w.receiver) {room : ℕ} {arrivals : List Arrival} {queue : Queue}
    (hfrom : ReadsFrom w room arrivals queue) : queue.bulkIn ≠ none ∧ kept queue := by
  obtain ⟨hmoves, _⟩ := beginRead_moves hinv
  have hbegun := hkeep.moves hsince hinv hmoves h
  have hopen : ∀ queue, (Receiver.beginRead w).2.receiver.queue = some queue →
      ∃ bulkIn, queue.bulkIn = some bulkIn := by
    intro queue hqueue
    obtain ⟨bulkIn, hbulk, _⟩ := (hinv.moves hmoves).endpoint queue hqueue
    exact ⟨bulkIn, hbulk⟩
  rcases hfrom with ⟨_, hqueue⟩ | ⟨before, rest, hfill, hloop⟩
  · exact ⟨Option.ne_none_iff_exists'.mpr (hopen queue hqueue), hbegun queue hqueue⟩
  · obtain ⟨_, hqueue, hcurrent, _⟩ := readFill_some hfill
    obtain ⟨bulkIn, hbulk⟩ := hopen before hqueue
    have hfills := fillLoop_fills (Option.ne_none_iff_exists'.mpr ⟨bulkIn, hbulk⟩) hloop
    obtain ⟨bulkIn', hbulk', _⟩ := hfills.completed (fun _ h => nomatch h) hbulk
    exact ⟨Option.ne_none_iff_exists'.mpr ⟨bulkIn', hbulk'⟩,
      hkeep.fill hfills (fun _ h => nomatch h) hcurrent (hbegun before hqueue)⟩

/-- **What everything keeps of processor and queue holds of every IQ stream of a reachable
state.** -/
theorem reachable_reads {keep : IqProcessor F → Queue → Prop} (hkeep : KeptByReads keep)
    {config : ValidConfig .f32Iq} {s : System F .f32Iq} (h : System.Reachable config s)
    {phase : StreamPhase F .f32Iq} (hphase : phase ∈ s.streams) {receiver : Receiver F .f32Iq}
    (hreceiver : phase.receiver? = some receiver) : ReadsHave keep (s.streamWorld receiver) := by
  refine reachable_stream ?_ ?_ ?_ h hphase hreceiver
  · exact fun _ hnone => queueHas_none hnone
  · exact fun _ _ hinv move => hkeep.move hinv move
  · intro w w' hrely hkept
    unfold ReadsHave
    rw [hrely.receiver]
    exact hkept

/-- What a poll of a read says.  A panic or an error of it comes from its beginning or its fill,
never from the conversion; and samples that it returns come from one conversion or none, and are
at least one. -/
structure SoundRead (w : StreamWorld F .f32Iq) (room : ℕ) (arrivals : List Arrival) : Prop where
  panic : ∀ panic, Receiver.pollRead w room arrivals = .error panic →
    ∃ queue, readFill room w = some queue ∧ Queue.fillLoop arrivals queue = .error panic
  error : ∀ e w' rest, Receiver.pollRead w room arrivals = .ok (some (.error e), w', rest) →
    (Receiver.beginRead w).1 = .error e ∨ ∃ queue queue' rest, readFill room w = some queue ∧
      Queue.fillLoop arrivals queue = .ok (some (.error e), queue', rest)
  samples : ∀ samples w' rest, 0 < room →
    Receiver.pollRead w room arrivals = .ok (some (.ok samples), w', rest) →
    samples ≠ [] ∧ ∃ queue queue', ReadsFrom w room arrivals queue ∧
      ReadOutcome room (Receiver.beginRead w).2.receiver.processor queue samples
        w'.receiver.processor queue' ∧ w'.receiver.queue = some queue'

/-- A read that has begun fills the queue that it finds, if nothing is held. -/
theorem readFill_empty {w w₁ : StreamWorld F .f32Iq} {queue : Queue} {room : ℕ}
    (hbegin : Receiver.beginRead w = (.ok (), w₁)) (hqueue : w₁.receiver.queue = some queue)
    (hroom : room ≠ 0) (hcurrent : queue.current = none)
    (hcarried : CarriesNothing w₁.receiver.processor) : readFill room w = some queue := by
  have hnone : IqProcessor.pending w₁.receiver.processor = none := hcarried
  unfold readFill
  rw [hbegin]
  dsimp only
  rw [if_neg hroom, hqueue]
  simp [Option.filter, hcurrent, hnone]

theorem readFill_held {w w₁ : StreamWorld F .f32Iq} {queue : Queue} {room : ℕ}
    (hbegin : Receiver.beginRead w = (.ok (), w₁)) (hqueue : w₁.receiver.queue = some queue)
    (hheld : queue.current.isSome = true ∨ IqProcessor.pending w₁.receiver.processor ≠ none) :
    readFill room w = none := by
  unfold readFill
  rw [hbegin]
  dsimp only
  split
  · rfl
  · rw [hqueue]
    rcases hheld with hsome | hsome
    · simp [Option.filter, Option.isSome_iff_ne_none.mp hsome]
    · simp [Option.filter, hsome]

/-- A read that returns a sample had room for it. -/
theorem pollRead_room {w w' : StreamWorld F .f32Iq} {room : ℕ} {arrivals rest : List Arrival}
    {samples : List (Complex F)}
    (hread : Receiver.pollRead w room arrivals = .ok (some (.ok samples), w', rest))
    (hsome : samples ≠ []) : 0 < room := by
  apply Nat.pos_of_ne_zero
  intro hzero
  cases hbegin : Receiver.beginRead w with
  | mk begun w₁ =>
    cases begun with
    | error e => exact nomatch hread.symm.trans (pollRead_refused hbegin room arrivals)
    | ok value =>
      cases hread.symm.trans (pollRead_noRoom hbegin hzero arrivals)
      exact hsome rfl

/-- The conversion at the end of a read, on an aligned processor and queue. -/
theorem processRead_sound {w : StreamWorld F .f32Iq} {queue : Queue} {room : ℕ}
    (h : Aligned (w.receiver.processor : IqProcessor F) queue) (hroom : 0 < room) :
    ∃ written processor' queue',
      Receiver.processRead w queue room =
        .ok (.ok written, w.onReceiver fun receiver => receiver.setIq queue' processor') ∧
      ReadOutcome room w.receiver.processor queue written processor' queue' := by
  obtain ⟨written, processor', queue', hprocess, houtcome⟩ := process_outcome h hroom
  refine ⟨written, processor', queue', ?_, houtcome⟩
  unfold Receiver.processRead
  rw [hprocess]
  rfl

/-- A read that returns is sound when its error or its samples are. -/
theorem soundRead_of_ok {w w' : StreamWorld F .f32Iq} {room : ℕ} {arrivals rest : List Arrival}
    {polled : Option (Result (List (Complex F)))}
    (hread : Receiver.pollRead w room arrivals = .ok (polled, w', rest))
    (herror : ∀ e, polled = some (.error e) → (Receiver.beginRead w).1 = .error e ∨
      ∃ queue queue' rest, readFill room w = some queue ∧
        Queue.fillLoop arrivals queue = .ok (some (.error e), queue', rest))
    (hsamples : ∀ samples, 0 < room → polled = some (.ok samples) → samples ≠ [] ∧
      ∃ queue queue', ReadsFrom w room arrivals queue ∧
        ReadOutcome room (Receiver.beginRead w).2.receiver.processor queue samples
          w'.receiver.processor queue' ∧ w'.receiver.queue = some queue') :
    SoundRead w room arrivals := by
  refine ⟨?_, ?_, ?_⟩
  · intro panic hpanic
    exact nomatch hread.symm.trans hpanic
  · intro e w'' rest' herror'
    cases hread.symm.trans herror'
    exact herror e rfl
  · intro samples w'' rest' hroom hsamples'
    cases hread.symm.trans hsamples'
    exact hsamples samples hroom rfl

/-- A read that comes to convert is sound. -/
theorem soundRead_of_process {w w₁ w₂ : StreamWorld F .f32Iq} {room : ℕ}
    {arrivals rest : List Arrival} {queue : Queue} (hroom : 0 < room)
    (hbegin : Receiver.beginRead w = (.ok (), w₁))
    (hread : Receiver.pollRead w room arrivals = (Receiver.processRead w₂ queue room).map
      fun outcome => (some outcome.1, outcome.2, rest))
    (hprocessor : w₂.receiver.processor = w₁.receiver.processor)
    (haligned : Aligned (w₁.receiver.processor : IqProcessor F) queue)
    (hheld : queue.current.isSome = true ∨
      (IqProcessor.pending w₁.receiver.processor).isSome = true)
    (hfrom : ReadsFrom w room arrivals queue) : SoundRead w room arrivals := by
  rw [← hprocessor] at haligned hheld
  obtain ⟨written, processor', queue', hprocess, houtcome⟩ := processRead_sound haligned hroom
  rw [hprocess] at hread
  refine soundRead_of_ok hread (fun _ h => nomatch h) ?_
  intro samples _ hsamples
  obtain rfl : written = samples := by
    simpa using hsamples
  refine ⟨houtcome.nonempty haligned hroom hheld, queue, queue', hfrom, ?_, rfl⟩
  rw [hbegin, ← hprocessor]
  exact houtcome

/-- **Every read of a stream whose processor is aligned with its queue is sound.** -/
theorem soundRead {w : StreamWorld F .f32Iq} (hinv : StreamInv w) (h : ReadsHave Aligned w)
    (room : ℕ) (arrivals : List Arrival) : SoundRead w room arrivals := by
  obtain ⟨hmoves, hrunning⟩ := beginRead_moves hinv
  cases hbegin : Receiver.beginRead w with
  | mk begun w₁ =>
    rw [hbegin] at hmoves hrunning
    have haligned := keptByReads_aligned.moves hinv hmoves h
    cases begun with
    | error e =>
      refine soundRead_of_ok (pollRead_refused hbegin room arrivals) ?_ (fun _ _ h => nomatch h)
      intro e' he'
      cases he'
      exact .inl (by rw [hbegin])
    | ok value =>
      obtain ⟨queue, hqueue, _⟩ := ((hinv.moves hmoves).running (hrunning rfl)).2
      by_cases hroom : room = 0
      · refine soundRead_of_ok (pollRead_noRoom hbegin hroom arrivals) (fun _ h => nomatch h) ?_
        intro _ hpositive
        omega
      · have hpositive : 0 < room := Nat.pos_of_ne_zero hroom
        by_cases hheld : queue.current.isSome = true ∨
            IqProcessor.pending w₁.receiver.processor ≠ none
        · refine soundRead_of_process hpositive hbegin
            (pollRead_held hbegin hqueue hroom hheld arrivals) rfl (haligned queue hqueue).aligned
            (hheld.imp id Option.isSome_iff_ne_none.mpr) (.inl ⟨?_, ?_⟩)
          · exact readFill_held hbegin hqueue hheld
          · rw [hbegin]
            exact hqueue
        · rw [not_or, not_not, Option.isSome_iff_ne_none, not_not] at hheld
          obtain ⟨hcurrent, hcarried⟩ := hheld
          have hfills := pollRead_fills hbegin hqueue hroom hcurrent hcarried arrivals
          have hfill := readFill_empty hbegin hqueue hroom hcurrent hcarried
          obtain ⟨bulkIn, hbulk, _⟩ := (hinv.moves hmoves).endpoint queue hqueue
          have hopen : queue.bulkIn ≠ none := by
            rw [hbulk]
            exact Option.some_ne_none _
          cases hloop : Queue.fillLoop arrivals queue with
          | error panic =>
            have hread := hfills.panic panic hloop
            refine ⟨?_, ?_, ?_⟩
            · intro panic' hpanic
              cases hread.symm.trans hpanic
              exact ⟨queue, hfill, hloop⟩
            · intro e w' rest herror
              exact nomatch hread.symm.trans herror
            · intro samples w' rest _ hsamples
              exact nomatch hread.symm.trans hsamples
          | ok outcome =>
            obtain ⟨filled, queue', rest⟩ := outcome
            match filled with
            | none =>
              exact soundRead_of_ok (hfills.pending queue' rest hloop) (fun _ h => nomatch h)
                (fun _ _ h => nomatch h)
            | some (.error e) =>
              refine soundRead_of_ok (hfills.rejected e queue' rest hloop) ?_
                (fun _ _ h => nomatch h)
              intro e' he'
              cases he'
              exact .inr ⟨queue, queue', rest, hfill, hloop⟩
            | some (.ok _) =>
              have hfilled := fillLoop_fills hopen hloop
              exact soundRead_of_process hpositive hbegin (hfills.filled queue' rest hloop) rfl
                (keptByReads_aligned.fill hfilled (fun _ h => nomatch h) hcurrent hcarried
                  (haligned queue hqueue)).aligned (.inl (hfilled.current rfl)) (.inr ⟨queue, rest, hfill, hloop⟩)

end HydraSdr.Analysis
