import HydraSdr.Analysis.CompletionRuns
import HydraSdr.Analysis.SliceConversion

/-!
# IQ samples over whole runs

However an IQ stream is sliced into reads, what they return is the beginning of what one conversion
of everything received gives, and all of it whenever nothing is held back.
-/

set_option autoImplicit false

namespace HydraSdr.Analysis.SampleDelivery

open HydraSdr.Program HydraSdr.Computation HydraSdr.Analysis HydraSdr.Analysis.SliceConversion

variable {F : Type}

/-! ## What is held back -/

/-- The bytes of the completions that have been accepted, one after the other. -/
def payload (takes : List Taken) : List UInt8 :=
  (acceptedOf takes).flatMap fun taken =>
    taken.completion.buffer.bytes.take taken.completion.actualLen

/-- The part of the current buffer that has not been converted. -/
def unconverted (processor : IqProcessor F) (queue : Queue) : List UInt8 :=
  match queue.current with
  | none => []
  | some buffer => (buffer.bytes.take queue.currentLen).drop processor.offset

theorem payload_append (takes more : List Taken) :
    payload (takes ++ more) = payload takes ++ payload more := by
  unfold payload
  rw [acceptedOf_append, List.flatMap_append]

theorem payload_accepted (endpoint : ℕ) (completion : BulkInCompletion) :
    payload [⟨endpoint, completion, .accepted⟩] =
      completion.buffer.bytes.take completion.actualLen := by
  simp [payload, acceptedOf]

theorem unconverted_none {processor : IqProcessor F} {queue : Queue} (h : queue.current = none) :
    unconverted processor queue = [] := by
  unfold unconverted
  rw [h]

theorem unconverted_some {processor : IqProcessor F} {queue : Queue} {buffer : Buffer}
    (h : queue.current = some buffer) :
    unconverted processor queue = (buffer.bytes.take queue.currentLen).drop processor.offset := by
  unfold unconverted
  rw [h]

variable [SampleArithmetic F]

/-- Of the bytes received, all but what the current buffer still holds have been converted, and the
samples have been returned up to the one carried over.  The queue has the factor already, or nothing
has been received and converted yet. -/
structure Converting (k : ℕ) (raw : List UInt8) (out : List (Complex F)) (processor : IqProcessor F)
    (queue : Queue) : Prop where
  exact : queue.discardRemaining = 0
  drove : ∃ consumed, Drove k raw .default ⟨processor.converter, consumed, processor.pending, out⟩ ∧
    raw.drop consumed = unconverted processor queue
  factor : queue.settings.decimation = 2 ^ k ∨
    raw = [] ∧ processor = .default ∧ queue.current = none

/-- More bytes may follow those that have been converted. -/
theorem drove_more {k : ℕ} {raw : List UInt8} {converter : Float32IqConverter F} {drive : Drive F}
    (h : Drove k raw converter drive) (more : List UInt8) : Drove k (raw ++ more) converter drive where
  valid := h.valid
  inside := by
    rw [List.length_append]
    exact h.inside.trans (Nat.le_add_right _ _)
  whole := h.whole
  unused := h.unused
  converted := by
    rw [List.take_append_of_le_length h.inside]
    exact h.converted

/-- A fill with nothing to discard accepts a completion, waits, or rejects. -/
theorem Converting.fill {k : ℕ} {raw : List UInt8} {out : List (Complex F)}
    {processor : IqProcessor F} {queue queue' : Queue} {arrivals rest : List Arrival}
    {result : Option (Result Unit)} (h : Converting k raw out processor queue)
    (hfactor : queue.settings.decimation = 2 ^ k) (hcurrent : queue.current = none)
    (hoffset : processor.offset = 0) (hfills : Fills queue arrivals result queue' rest) :
    (∃ taken ∈ loopTakes arrivals queue, taken.fate = .rejected) ∨
      (∀ e, result ≠ some (.error e)) ∧
        Converting k (raw ++ payload (loopTakes arrivals queue)) out processor queue' := by
  cases hfills with
  | waits _ =>
    refine .inr ⟨fun e he => (nomatch he), ?_⟩
    show Converting k (raw ++ []) out processor queue
    rw [List.append_nil]
    exact h
  | again _ _ hcases _ =>
    cases hcases with
    | discarded hdiscard => exact absurd h.exact hdiscard
  | ends hbulk hpending hcases =>
    rw [loopTakes_cons hbulk hpending hcases]
    cases hcases with
    | rejected _ _ => exact .inl ⟨_, List.mem_cons_self, rfl⟩
    | accepted _ _ =>
      refine .inr ⟨fun e he => (nomatch he), ?_⟩
      obtain ⟨consumed, hdrove, hrest⟩ := h.drove
      rw [unconverted_none hcurrent] at hrest
      refine ⟨h.exact, ⟨consumed, drove_more hdrove _, ?_⟩, .inl hfactor⟩
      rw [List.drop_append_of_le_length hdrove.inside, hrest]
      refine (payload_accepted _ _).trans ?_
      rw [unconverted_some rfl, hoffset, List.drop_zero]
      rfl

/-- A read goes on with the conversion. -/
theorem Converting.read {k : ℕ} (hk : k ≤ 6) {raw : List UInt8} {out : List (Complex F)}
    {processor processor' : IqProcessor F} {queue queue' : Queue} {room : ℕ}
    {written : List (Complex F)} (h : Converting k raw out processor queue)
    (hfactor : queue.settings.decimation = 2 ^ k) (haligned : Aligned processor queue)
    (hread : ReadOutcome room processor queue written processor' queue') :
    Converting k raw (out ++ written) processor' queue' := by
  obtain ⟨consumed, hdrove, hrest⟩ := h.drove
  have hcalled : ∀ {buffer : Buffer} {bytes : List UInt8} {converter : Float32IqConverter F}
      {progress : ConversionProgress F} {samples : List (Complex F)},
      queue.current = some buffer → processor.unread queue buffer = .ok bytes →
      processor.pending.toList.length < room →
      processor.converter.processU16leToF32iqSlice bytes queue.settings.decimation
        (room - processor.pending.toList.length) = .ok (converter, progress, samples) →
      Drove k raw .default ⟨converter, consumed + progress.consumedBytes, progress.pending,
        out ++ (processor.pending.toList ++ samples)⟩ := by
    intro buffer bytes converter progress samples hcurrent hbytes hroom hcall
    have hread := readCall_of_ok haligned hcurrent (Nat.sub_pos_of_lt hroom) hbytes hcall
    obtain ⟨drive', hfill, hdrove', _⟩ := drove_fill hk converterValid_default hdrove room
    rw [hread.raw, ← unconverted_some hcurrent, ← hrest, hfactor] at hcall
    unfold Drive.fill at hfill
    rw [if_neg (by omega)] at hfill
    unfold Drive.rest at hfill
    dsimp only at hfill
    rw [hcall] at hfill
    cases hfill
    rw [← List.append_assoc]
    exact hdrove'
  cases hread with
  | carried _ =>
    refine ⟨h.exact, ⟨consumed, ⟨hdrove.valid, hdrove.inside, hdrove.whole, hdrove.unused, ?_⟩, hrest⟩,
      .inl hfactor⟩
    have hconverted := hdrove.converted
    dsimp only at hconverted ⊢
    rw [Option.toList_none, List.append_nil]
    exact hconverted
  | @released buffer bytes _ progress _ hcurrent hraw hroom hcall _ hoffset =>
    refine ⟨?_, ⟨consumed + progress.consumedBytes, hcalled hcurrent hraw hroom hcall, ?_⟩, .inl ?_⟩
    · rw [releaseCurrent_discardRemaining]
      exact h.exact
    · rw [unconverted_none (releaseCurrent_current queue), ← List.drop_drop, hrest,
        unconverted_some hcurrent, List.drop_drop, hoffset]
      exact List.drop_eq_nil_of_le (List.length_take_le _ _)
    · rw [releaseCurrent_settings]
      exact hfactor
  | @filled buffer bytes _ progress _ hcurrent hraw hroom hcall _ _ _ =>
    refine ⟨h.exact, ⟨consumed + progress.consumedBytes, hcalled hcurrent hraw hroom hcall, ?_⟩,
      .inl hfactor⟩
    rw [← List.drop_drop, hrest, unconverted_some hcurrent, unconverted_some hcurrent,
      List.drop_drop]

/-! ## One read -/

/-- The samples that a poll of a read has returned. -/
def returnedBy : Option (Result (List (Complex F))) → List (Complex F)
  | some (.ok samples) => samples
  | _ => []

/-- A running IQ stream that is being converted. -/
def Receives (k : ℕ) (raw : List UInt8) (out : List (Complex F)) (receiver : Receiver F .f32Iq) :
    Prop :=
  receiver.claim.receiver = .running ∧
    ∃ queue, receiver.queue = some queue ∧ Converting k raw out receiver.processor queue

/-- A read that begins at the stream's factor has lost nothing. -/
theorem Receives.begin {k : ℕ} {raw : List UInt8} {out : List (Complex F)}
    {w : StreamWorld F .f32Iq} (h : Receives k raw out w.receiver)
    (hfactor : w.session.receive.decimation = 2 ^ k) :
    ∃ w₁ queue, Receiver.beginRead w = (.ok (), w₁) ∧ w₁.receiver.claim.receiver = .running ∧
      w₁.receiver.queue = some queue ∧ queue.settings.decimation = 2 ^ k ∧
      Converting k raw out w₁.receiver.processor queue := by
  obtain ⟨hrunning, queue, hqueue, hconverting⟩ := h
  have hensured : w.receiver.ensureRunning = .ok () := if_pos hrunning
  by_cases hsame : queue.settings.decimation = w.session.receive.decimation
  · refine ⟨w, queue, ?_, hrunning, hqueue, hsame.trans hfactor, hconverting⟩
    unfold Receiver.beginRead
    rw [hensured, hqueue]
    dsimp only
    rw [if_neg (not_not.mpr hsame)]
  · have hother : queue.settings.decimation ≠ 2 ^ k :=
      fun hchosen => hsame (hchosen.trans hfactor.symm)
    obtain ⟨rfl, hprocessor, hcurrent⟩ := hconverting.factor.resolve_left hother
    refine ⟨w.onReceiver (Receiver.redecimate queue w.session.receive.decimation), _, ?_, hrunning,
      rfl, hfactor, ?_⟩
    · unfold Receiver.beginRead
      rw [hensured, hqueue]
      dsimp only
      rw [if_pos hsame]
    · obtain ⟨consumed, hdrove, _⟩ := hconverting.drove
      rw [hprocessor] at hdrove
      have hdiscarded : queue.discardCurrent.current = none ∧
          queue.discardCurrent.discardRemaining = 0 := by
        rw [discardCurrent_of_none hcurrent]
        exact ⟨hcurrent, hconverting.exact⟩
      refine ⟨hdiscarded.2, ⟨consumed, hdrove, ?_⟩, .inl hfactor⟩
      exact List.drop_nil.trans (unconverted_none hdiscarded.1).symm

/-- **A poll of a read** accepts at most one completion, and goes on with the conversion unless it
has rejected one. -/
theorem poll_converts {k : ℕ} (hk : k ≤ 6) {raw : List UInt8} {out : List (Complex F)}
    {w w' : StreamWorld F .f32Iq} (hinv : StreamInv w) (haligned : ReadsHave Aligned w)
    (h : Receives k raw out w.receiver) (hfactor : w.session.receive.decimation = 2 ^ k)
    {room : ℕ} {arrivals rest : List Arrival} {polled : Option (Result (List (Complex F)))}
    (hread : Receiver.pollRead w room arrivals = .ok (polled, w', rest)) :
    (∃ taken ∈ takesOf ((readFill room w).map (·, arrivals)), taken.fate = .rejected) ∨
      (∀ e, polled ≠ some (.error e)) ∧
        Receives k (raw ++ payload (takesOf ((readFill room w).map (·, arrivals))))
          (out ++ returnedBy polled) w'.receiver := by
  obtain ⟨w₁, queue, hbegin, hrunning, hqueue, hchosen, hconverting⟩ := h.begin hfactor
  have hbegun := keptByReads_aligned.moves hinv (beginRead_moves hinv).1 haligned
  rw [hbegin] at hbegun
  have hbefore : Aligned (w₁.receiver.processor : IqProcessor F) queue :=
    (hbegun queue hqueue).aligned
  -- a read that does not fill takes nothing
  have hunfilled : readFill room w = none →
      raw ++ payload (takesOf ((readFill room w).map (·, arrivals))) = raw := by
    intro hnone
    rw [hnone]
    exact List.append_nil raw
  -- a read that comes to convert leaves the stream running
  have hprocessed : ∀ {left : Queue} {bytes : List UInt8} {w₂ : StreamWorld F .f32Iq}
      {result : Result (List (Complex F))}, 0 < room →
      w₂.receiver.processor = w₁.receiver.processor →
      w₂.receiver.claim.receiver = .running → left.settings.decimation = 2 ^ k →
      Aligned (w₁.receiver.processor : IqProcessor F) left →
      Converting k bytes out w₁.receiver.processor left →
      Receiver.processRead w₂ left room = .ok (result, w') →
      (∀ e, some result ≠ some (.error e)) ∧
        Receives k bytes (out ++ returnedBy (some result)) w'.receiver := by
    intro left bytes w₂ result hroom hsame hrunning₂ hfactor₂ haligned₂ hconverting₂ hprocess
    rw [← hsame] at haligned₂ hconverting₂
    obtain ⟨written, processor', queue', hprocess', houtcome⟩ := processRead_sound haligned₂ hroom
    cases hprocess.symm.trans hprocess'
    exact ⟨fun e he => (nomatch he), hrunning₂, queue', rfl,
      hconverting₂.read hk hfactor₂ haligned₂ houtcome⟩
  cases pollRead_cases hread with
  | refused hbegin' => exact nomatch hbegin.symm.trans hbegin'
  | begun hbegin' hqueue' hbegunRead =>
    cases hbegin.symm.trans hbegin'
    obtain rfl := Option.some.inj (hqueue.symm.trans hqueue')
    cases hbegunRead with
    | noRoom hroom =>
      rw [hunfilled (by rw [hroom, readFill_noRoom])]
      refine .inr ⟨fun e he => (nomatch he), hrunning, queue, hqueue, ?_⟩
      rw [show returnedBy (some (.ok [])) = ([] : List (Complex F)) from rfl, List.append_nil]
      exact hconverting
    | held hroom hheld hprocess =>
      rw [hunfilled (readFill_held hbegin hqueue hheld)]
      exact .inr (hprocessed (Nat.pos_of_ne_zero hroom) rfl hrunning hchosen hbefore hconverting
        hprocess)
    | @pending queue' _ hroom hcurrent hcarried hfill =>
      rw [readFill_empty hbegin hqueue hroom hcurrent hcarried]
      have hfills := fillLoop_fills (queue_open (beginRead_inv hinv hbegin) hqueue) hfill
      refine (hconverting.fill hchosen hcurrent (hbefore.released hcurrent) hfills).imp id ?_
      rintro ⟨_, hfilled⟩
      refine ⟨fun e he => (nomatch he), hrunning, queue', rfl, ?_⟩
      rw [show returnedBy none = ([] : List (Complex F)) from rfl, List.append_nil]
      exact hfilled
    | rejected hroom hcurrent hcarried hfill =>
      rw [readFill_empty hbegin hqueue hroom hcurrent hcarried]
      have hfills := fillLoop_fills (queue_open (beginRead_inv hinv hbegin) hqueue) hfill
      obtain ⟨taken, htaken, hfate, _⟩ := hfills.rejects rfl
      exact .inl ⟨taken, htaken, hfate⟩
    | @filled queue' _ _ _ hroom hcurrent hcarried hfill hprocess =>
      rw [readFill_empty hbegin hqueue hroom hcurrent hcarried]
      have hfills := fillLoop_fills (queue_open (beginRead_inv hinv hbegin) hqueue) hfill
      have hgoes : ∀ e, some (.ok ()) ≠ some (.error e : Result Unit) := fun e he => (nomatch he)
      have hcarried' : IqProcessor.pending w₁.receiver.processor = none := hcarried
      refine (hconverting.fill hchosen hcurrent (hbefore.released hcurrent) hfills).imp id ?_
      rintro ⟨_, hfilled⟩
      refine hprocessed (Nat.pos_of_ne_zero hroom) rfl hrunning ?_ ?_ hfilled hprocess
      · rw [hfills.settings]
        exact hchosen
      · exact (keptByReads_aligned.fill hfills hgoes hcurrent hcarried' (hbegun queue hqueue)).aligned

/-! ## A fresh queue -/

/-- Nothing is converted or held before the endpoint has handed something out. -/
def Unfed (processor : IqProcessor F) (queue : Queue) : Prop :=
  ∀ bulkIn, queue.bulkIn = some bulkIn → bulkIn.completed = [] →
    processor = .default ∧ queue.current = none

theorem keptByReads_unfed : KeptByReads (Unfed : IqProcessor F → Queue → Prop) where
  reset _ _ hcurrent _ _ _ := ⟨rfl, hcurrent⟩
  same processor queue queue' hsame h bulkIn' hbulk' hnothing := by
    have hcompleted := hsame.completed
    rw [hbulk'] at hcompleted
    obtain ⟨bulkIn, hbulk, hcompleted'⟩ := Option.map_eq_some_iff.mp hcompleted.symm
    obtain ⟨hprocessor, hcurrent⟩ := h bulkIn hbulk (hcompleted'.trans hnothing)
    exact ⟨hprocessor, hsame.current.trans hcurrent⟩
  turn _ _ _ _ _ _ _ _ _ _ _ _ hcases _ _ _ _ bulkIn' hbulk' hnothing := by
    cases hcases with
    | discarded _ =>
      obtain rfl := Option.some.inj hbulk'
      exact absurd (show _ ++ [_] = [] from hnothing) (by simp)
    | accepted _ _ =>
      obtain rfl := Option.some.inj hbulk'
      exact absurd (show _ ++ [_] = [] from hnothing) (by simp)
    | rejected _ _ => exact nomatch hbulk'
  read room processor queue written processor' queue' _ hread h bulkIn' hbulk' hnothing := by
    cases hread with
    | carried _ =>
      obtain ⟨rfl, hcurrent⟩ := h bulkIn' hbulk' hnothing
      exact ⟨rfl, hcurrent⟩
    | filled hcurrent _ _ _ _ _ _ =>
      exact nomatch (h bulkIn' hbulk' hnothing).2.symm.trans hcurrent
    | released hcurrent _ _ _ _ _ =>
      rcases releaseCurrent_cases queue with ⟨_, bulkIn, _, hbulk, heq⟩ | ⟨hnot, heq⟩
      · rw [heq] at hbulk'
        obtain rfl := Option.some.inj hbulk'
        exact nomatch (h bulkIn hbulk hnothing).2.symm.trans hcurrent
      · rw [heq] at hbulk'
        exact nomatch (h bulkIn' hbulk' hnothing).2.symm.trans hcurrent

/-- An idle IQ stream is running on a queue whose endpoint has handed out nothing, and whose
transfers have never been cancelled. -/
def StartedFresh (s : System F .f32Iq) (stream : ℕ) : Prop :=
  ∃ receiver queue bulkIn, s.streams[stream]? = some (.idle receiver) ∧
    receiver.claim.receiver = .running ∧ receiver.queue = some queue ∧
    queue.bulkIn = some bulkIn ∧ bulkIn.completed = [] ∧ bulkIn.cancelled = 0

/-- Nothing has been received from a fresh queue. -/
theorem startedFresh_receives {k : ℕ} (hk : k ≤ 6) {config : ValidConfig .f32Iq}
    {s : System F .f32Iq} (hs : System.Reachable config s) {stream : ℕ}
    (h : StartedFresh s stream) :
    ∃ receiver, s.streams[stream]? = some (.idle receiver) ∧ Receives k [] [] receiver := by
  obtain ⟨receiver, queue, bulkIn, hphase, hrunning, hqueue, hbulk, hnothing, hcancelled⟩ := h
  have hkept := reachable_reads keptByReads_unfed hs (List.mem_of_getElem? hphase) rfl queue hqueue
  obtain ⟨hprocessor, hcurrent⟩ := hkept.kept bulkIn hbulk hnothing
  have hordered := (hkept.stamped bulkIn hbulk).1
  have hexact : queue.discardRemaining = 0 := by
    cases htake : bulkIn.pending.take queue.discardRemaining with
    | nil =>
      rcases List.take_eq_nil_iff.mp htake with hzero | hpending
      · exact hzero
      · have hbounded := hordered.bounded
        rw [hpending] at hbounded
        exact Nat.le_zero.mp hbounded
    | cons buffer buffers =>
      have hstale := hordered.stale buffer (by rw [htake]; exact List.mem_cons_self)
      rw [hcancelled] at hstale
      exact absurd hstale (Nat.not_lt_zero _)
  refine ⟨receiver, hphase, hrunning, queue, hqueue, hexact, ⟨0, ?_, ?_⟩,
    .inr ⟨rfl, hprocessor, hcurrent⟩⟩
  · rw [show receiver.processor = (IqProcessor.default : IqProcessor F) from hprocessor]
    exact drove_start hk converterValid_default []
  · exact (unconverted_none hcurrent).symm

/-! ## How much a read returns -/

/-- A current buffer is no longer than a transfer, and a sample is carried over only from what a
group of it gave. -/
structure Retained (processor : IqProcessor F) (queue : Queue) : Prop where
  length : ∀ buffer, queue.current = some buffer → queue.currentLen ≤ DEFAULT_BUFFER_SIZE
  offset : ∀ buffer, queue.current = some buffer → processor.pending.isSome = true →
    8 * queue.settings.decimation ≤ processor.offset

theorem transferLength_le (packing : Bool) : transferLength packing ≤ DEFAULT_BUFFER_SIZE := by
  cases packing <;> decide

theorem keptByReads_retained : KeptByReads (Retained : IqProcessor F → Queue → Prop) where
  reset queue _ hcurrent :=
    ⟨fun _ hbuffer => (nomatch hcurrent.symm.trans hbuffer),
      fun _ hbuffer => (nomatch hcurrent.symm.trans hbuffer)⟩
  same processor queue queue' hsame h := by
    refine ⟨?_, ?_⟩
    · rw [hsame.current, hsame.currentLen]
      exact h.length
    · rw [hsame.current, hsame.decimation]
      exact h.offset
  turn processor queue bulkIn buffer pending arrival turn queue' _ _ hcurrent hcarried hcases _ _ _
      h := by
    have hnone : ¬processor.pending.isSome = true := by simp [hcarried]
    cases hcases with
    | discarded _ => exact ⟨h.length, fun _ _ hsome => absurd hsome hnone⟩
    | accepted _ hcheck =>
      refine ⟨fun _ _ => ?_, fun _ _ hsome => absurd hsome hnone⟩
      have hlength : arrival.actualLen = transferLength queue.settings.packing :=
        (checkCompletion_ok hcheck).2.1
      show arrival.actualLen ≤ DEFAULT_BUFFER_SIZE
      rw [hlength]
      exact transferLength_le _
    | rejected _ _ => exact ⟨fun _ hbuffer => (nomatch hbuffer), fun _ hbuffer => (nomatch hbuffer)⟩
  read room processor queue written processor' queue' haligned hread h := by
    cases hread with
    | carried _ => exact ⟨h.length, fun _ _ hsome => nomatch hsome⟩
    | released _ _ _ _ _ _ =>
      exact ⟨fun _ hbuffer => (nomatch (releaseCurrent_current queue).symm.trans hbuffer),
        fun _ hbuffer => (nomatch (releaseCurrent_current queue).symm.trans hbuffer)⟩
    | @filled buffer _ _ progress _ hcurrent hraw hroom hcall hconsumed hoffset _ =>
      refine ⟨h.length, fun _ _ _ => ?_⟩
      have hcalled := readCall_of_ok haligned hcurrent (Nat.sub_pos_of_lt hroom) hraw hcall
      have hbefore := (haligned.unread buffer hcurrent).2
      have hdvd : 8 * queue.settings.decimation ∣ progress.consumedBytes := by
        have hsplit : progress.consumedBytes = queue.currentLen - processor.offset -
            (queue.currentLen - (processor.offset + progress.consumedBytes)) := by omega
        rw [hsplit]
        exact Nat.dvd_sub hbefore hcalled.whole
      exact (Nat.le_of_dvd (Nat.pos_of_ne_zero hconsumed) hdvd).trans (Nat.le_add_left _ _)

/-- **A read returns at most what one transfer gives.** -/
theorem readOutcome_bounded {room : ℕ} {processor processor' : IqProcessor F}
    {queue queue' : Queue} {written : List (Complex F)} (haligned : Aligned processor queue)
    (h : Retained processor queue)
    (hread : ReadOutcome room processor queue written processor' queue') :
    written.length ≤ MAX_F32_IQ_SAMPLES_PER_TRANSFER / queue.settings.decimation := by
  obtain ⟨k, hk, hfactor⟩ := mem_decimationFactors.mp haligned.factor
  have hpower : 0 < 2 ^ k := Nat.two_pow_pos k
  have hsmall : 2 ^ k ≤ 2 ^ 6 := Nat.pow_le_pow_right (by decide) hk
  rw [hfactor, Nat.le_div_iff_mul_le hpower]
  unfold MAX_F32_IQ_SAMPLES_PER_TRANSFER
  have hcarried : processor.pending.toList.length ≤ 1 := by
    cases processor.pending <;> simp
  -- the call has room for what is left of the transfer, and a sample carried over used up a group
  have hcalled : ∀ {buffer : Buffer} {bytes : List UInt8} {converter : Float32IqConverter F}
      {progress : ConversionProgress F} {samples : List (Complex F)},
      queue.current = some buffer → processor.unread queue buffer = .ok bytes →
      processor.pending.toList.length < room →
      processor.converter.processU16leToF32iqSlice bytes queue.settings.decimation
        (room - processor.pending.toList.length) = .ok (converter, progress, samples) →
      (processor.pending.toList ++ samples).length * 2 ^ k ≤ DEFAULT_BUFFER_SIZE / 4 := by
    intro buffer bytes converter progress samples hcurrent hbytes hroom hcall
    have hinside :=
      (readCall_of_ok haligned hcurrent (Nat.sub_pos_of_lt hroom) hbytes hcall).inside
    rw [hfactor] at hcall
    obtain ⟨_, _, _, hcall', _, hconverts, _⟩ := sliceCall_ok hk haligned.converter bytes
      (room - processor.pending.toList.length)
    cases hcall.symm.trans hcall'
    have hproduced := hconverts.produced
    have hlength := h.length buffer hcurrent
    have hoffset := h.offset buffer hcurrent
    have hsamples : samples.length * (4 * 2 ^ k) ≤ progress.consumedBytes := by
      rw [← Nat.le_div_iff_mul_le (by omega)]
      omega
    have hgroups : samples.length * (4 * 2 ^ k) = 4 * (samples.length * 2 ^ k) := by ring
    have hwhole : DEFAULT_BUFFER_SIZE / 4 * 4 = DEFAULT_BUFFER_SIZE := by decide
    rw [List.length_append, Nat.add_mul]
    cases hpending : processor.pending with
    | none =>
      rw [Option.toList_none, List.length_nil, Nat.zero_mul]
      omega
    | some sample =>
      rw [hpending, hfactor] at hoffset
      have hgroup := hoffset rfl
      rw [Option.toList_some, List.length_singleton, Nat.one_mul]
      omega
  cases hread with
  | carried _ =>
    calc processor.pending.toList.length * 2 ^ k ≤ 1 * 2 ^ 6 := Nat.mul_le_mul hcarried hsmall
      _ ≤ DEFAULT_BUFFER_SIZE / 4 := by decide
  | released hcurrent hraw hroom hcall _ _ => exact hcalled hcurrent hraw hroom hcall
  | filled hcurrent hraw hroom hcall _ _ _ => exact hcalled hcurrent hraw hroom hcall

/-! ## Runs -/

/-- An action of a caller that reads the stream: it builds a read future, polls it, drops it, polls
one once and drops it, or reads and blocks. -/
inductive ReadsStream (stream : ℕ) : Action .f32Iq → Prop
  | builds (room : ℕ) : ReadsStream stream (.read stream room)
  | polls (replies : List AnyReply) (arrivals : List Arrival) :
      ReadsStream stream (.pollStream stream replies arrivals)
  | drops : ReadsStream stream (.cancelStream stream)
  | pollsOnce (room : ℕ) (arrivals : List Arrival) :
      ReadsStream stream (.pollRead stream room arrivals)
  | waits (room : ℕ) (arrivals : List Arrival) :
      ReadsStream stream (.readBlocking stream room arrivals)

/-- The samples that an event hands over for a stream. -/
def returnedOf (stream : ℕ) : CallEvent F .f32Iq → List (Complex F)
  | .samples other (.ok samples) _ => if other = stream then samples else []
  | _ => []

/-- The receiver of a stream that is idle or lent to a read future. -/
def readerOf : StreamPhase F .f32Iq → Option (Receiver F .f32Iq)
  | .idle receiver => some receiver
  | .awaiting receiver _ => some receiver
  | _ => none

/-- The receiver that the reads of a stream use. -/
def readerAt (s : System F .f32Iq) (stream : ℕ) : Option (Receiver F .f32Iq) :=
  s.streams[stream]?.bind readerOf

omit [SampleArithmetic F] in
theorem readerAt_phase {s : System F .f32Iq} {stream : ℕ} {receiver : Receiver F .f32Iq}
    (h : readerAt s stream = some receiver) :
    ∃ phase ∈ s.streams, phase.receiver? = some receiver := by
  obtain ⟨phase, hphase, hreader⟩ := Option.bind_eq_some_iff.mp h
  refine ⟨phase, List.mem_of_getElem? hphase, ?_⟩
  cases phase with
  | idle => exact hreader
  | awaiting => exact hreader
  | operating | cleaning | gone => exact nomatch hreader

/-- What an action of its caller does to a stream that is read: nothing to what is read, or one poll
of a read. -/
inductive ReadStep (stream : ℕ) (s : System F .f32Iq) (receiver : Receiver F .f32Iq)
    (action : Action .f32Iq) (s' : System F .f32Iq) : Prop
  | rests (hwork : (stepWork stream s action).1 = none)
      (hreader : readerAt s' stream = some receiver) (hevents : newEvents s s' = [])
  | reads {room : ℕ} {arrivals rest : List Arrival} {polled : Option (Result (List (Complex F)))}
      {w' : StreamWorld F .f32Iq} {events : List (CallEvent F .f32Iq)}
      (hread : Receiver.pollRead (s.streamWorld receiver) room arrivals = .ok (polled, w', rest))
      (hreport : ReadReport stream w' polled events)
      (hwork : (stepWork stream s action).1 =
        (readFill room (s.streamWorld receiver)).map (·, arrivals))
      (hreader : readerAt s' stream = some w'.receiver) (hevents : newEvents s s' = events)

/-- The fill of an action of a stream that goes on. -/
theorem stepWork_fill {s : System F .f32Iq} (hgoes : s.panic = none ∧ s.ended = false) {stream : ℕ}
    {action : Action .f32Iq} (hstream : actionStream action = some stream) :
    (stepWork stream s action).1 = actionFill s action := by
  unfold stepWork
  rw [hgoes.1, hgoes.2]
  show (streamWork stream s action).1 = actionFill s action
  unfold streamWork
  rw [if_pos hstream]
  rfl

/-- An action that does nothing rests. -/
theorem ReadStep.of_unchanged {s : System F .f32Iq} {stream : ℕ} {receiver : Receiver F .f32Iq}
    (hreader : readerAt s stream = some receiver) (hgoes : s.panic = none ∧ s.ended = false)
    {action : Action .f32Iq} (hstream : actionStream action = some stream)
    (hfill : actionFill s action = none) (hact : s.act action = s) {reply : ℕ → AnyReply} :
    ReadStep stream s receiver action (s.step action reply) := by
  obtain ⟨hstreams, hhistory, _⟩ := step_streams hgoes.1 hgoes.2 action reply
  rw [hact] at hstreams hhistory
  refine .rests ((stepWork_fill hgoes hstream).trans hfill) ?_ ?_
  · unfold readerAt
    rw [hstreams]
    exact hreader
  · exact newEvents_eq (hhistory.trans (List.append_nil _).symm)

/-- A step of the stream itself. -/
theorem step_putStream {s : System F .f32Iq} (hgoes : s.panic = none ∧ s.ended = false)
    {stream : ℕ} {phase : StreamPhase F .f32Iq} (hphase : s.streams[stream]? = some phase)
    {action : Action .f32Iq} {step : StreamStep F .f32Iq} (hact : s.act action = s.putStream stream step)
    (reply : ℕ → AnyReply) :
    readerAt (s.step action reply) stream = readerOf step.phase ∧
      newEvents s (s.step action reply) = step.events := by
  obtain ⟨hstreams, hhistory, _⟩ := step_streams hgoes.1 hgoes.2 action reply
  rw [hact] at hstreams hhistory
  refine ⟨?_, newEvents_eq hhistory⟩
  unfold readerAt
  rw [hstreams]
  have hlt : stream < s.streams.length := (List.getElem?_eq_some_iff.mp hphase).1
  show (s.streams.set stream step.phase)[stream]?.bind readerOf = _
  rw [List.getElem?_set_self hlt]
  rfl

/-- A step that neither reads nor returns anything rests. -/
theorem ReadStep.of_quiet {s : System F .f32Iq} {stream : ℕ} {receiver : Receiver F .f32Iq}
    (hgoes : s.panic = none ∧ s.ended = false) {phase : StreamPhase F .f32Iq}
    (hphase : s.streams[stream]? = some phase) {action : Action .f32Iq}
    (hstream : actionStream action = some stream) (hfill : actionFill s action = none)
    {step : StreamStep F .f32Iq} (hact : s.act action = s.putStream stream step)
    (hreader : readerOf step.phase = some receiver) (hevents : step.events = [])
    {reply : ℕ → AnyReply} : ReadStep stream s receiver action (s.step action reply) := by
  obtain ⟨hleft, hnew⟩ := step_putStream hgoes hphase hact reply
  exact .rests ((stepWork_fill hgoes hstream).trans hfill) (hleft.trans hreader)
    (hnew.trans hevents)

/-- A step that polls a read reads. -/
theorem ReadStep.of_poll {s : System F .f32Iq} {stream room : ℕ} {receiver : Receiver F .f32Iq}
    (hgoes : s.panic = none ∧ s.ended = false) {phase : StreamPhase F .f32Iq}
    (hphase : s.streams[stream]? = some phase) {action : Action .f32Iq}
    (hstream : actionStream action = some stream) {arrivals rest : List Arrival}
    {polled : Option (Result (List (Complex F)))} {w' : StreamWorld F .f32Iq}
    (hread : Receiver.pollRead (s.streamWorld receiver) room arrivals = .ok (polled, w', rest))
    (hfill : actionFill s action = (readFill room (s.streamWorld receiver)).map (·, arrivals))
    {step : StreamStep F .f32Iq} (hact : s.act action = s.putStream stream step)
    (hreader : readerOf step.phase = some w'.receiver)
    (hreport : ReadReport stream w' polled step.events) {reply : ℕ → AnyReply} :
    ReadStep stream s receiver action (s.step action reply) := by
  obtain ⟨hleft, hnew⟩ := step_putStream hgoes hphase hact reply
  exact .reads hread hreport ((stepWork_fill hgoes hstream).trans hfill) (hleft.trans hreader) hnew

/-- **A poll of a read** of a stream has no panic. -/
theorem reader_polls {config : ValidConfig .f32Iq} {s : System F .f32Iq}
    (h : System.Reachable config s) {phase : StreamPhase F .f32Iq} {receiver : Receiver F .f32Iq}
    (hmem : phase ∈ s.streams) (hreceiver : phase.receiver? = some receiver) (room : ℕ)
    (arrivals : List Arrival) : ∃ polled w' rest,
      Receiver.pollRead (s.streamWorld receiver) room arrivals = .ok (polled, w', rest) := by
  have hinv := (reachable_inv h).system.streamInv hmem hreceiver
  have hcan : ∀ queue, readFill room (s.streamWorld receiver) = some queue → CanFill queue := by
    intro queue hqueue
    exact (mayAsk_readFill (BufferPool.keptByQueue_pooled 0) (Nat.zero_le _) hinv
      (reachable_queue (BufferPool.keptByQueue_pooled 0) h hmem hreceiver) hqueue).canFill
  obtain ⟨polled, w', rest, hread, _⟩ := @read_acts F _ 0 room (s.streamWorld receiver) hinv
    (reachable_reads keptByReads_aligned h hmem hreceiver) arrivals hcan (.idle receiver) rfl rfl
  exact ⟨polled, w', rest, hread⟩

/-- **What a caller that reads does to a stream.** -/
theorem read_step {config : ValidConfig .f32Iq} {s : System F .f32Iq}
    (h : System.Reachable config s) {stream : ℕ} {receiver : Receiver F .f32Iq}
    (hreader : readerAt s stream = some receiver) {action : Action .f32Iq}
    (hreads : ReadsStream stream action) (hgoes : s.panic = none ∧ s.ended = false)
    (reply : ℕ → AnyReply) : ReadStep stream s receiver action (s.step action reply) := by
  obtain ⟨phase, hphase, hphaseReader⟩ := Option.bind_eq_some_iff.mp hreader
  have hmem := List.mem_of_getElem? hphase
  -- what an action of the stream asks for and does depends on its phase
  have hfillOf : ∀ fill : StreamPhase F .f32Iq → Option Queue,
      s.streams[stream]?.bind fill = fill phase := by
    intro fill
    rw [hphase]
    rfl
  cases phase with
  | operating | cleaning | gone => exact nomatch hphaseReader
  | idle idle =>
    obtain rfl := Option.some.inj hphaseReader
    cases hreads with
    | builds room =>
      have hact : s.act (.read stream room) = s.putStream stream (.of (s.streamWorld idle)
          (.awaiting idle (.read room)) []) := onStream_some hphase _
      exact .of_quiet hgoes hphase rfl rfl hact rfl rfl
    | polls replies arrivals =>
      refine .of_unchanged hreader hgoes rfl ?_ ?_
      · exact congrArg (Option.map (·, arrivals)) (hfillOf _)
      · exact onStream_some hphase _
    | drops =>
      refine .of_unchanged hreader hgoes rfl rfl ?_
      exact onStream_some hphase _
    | pollsOnce room arrivals =>
      obtain ⟨polled, w', rest, hread⟩ := reader_polls h hmem rfl room arrivals
      refine .of_poll hgoes hphase rfl hread ?_ (act_pollRead hphase hread) rfl ?_
      · exact congrArg (Option.map (·, arrivals)) (hfillOf _)
      · cases polled with
        | none => exact .pending
        | some result => exact .returned result
    | waits room arrivals =>
      obtain ⟨polled, w', rest, hread⟩ := reader_polls h hmem rfl room arrivals
      refine .of_poll hgoes hphase rfl hread ?_ (act_readBlocking hphase hread) rfl ?_
      · exact congrArg (Option.map (·, arrivals)) (hfillOf _)
      · cases polled with
        | none => exact .timeout
        | some result => exact .returned result
  | awaiting lent operation =>
    obtain rfl := Option.some.inj hphaseReader
    cases hreads with
    | builds room =>
      refine .of_unchanged hreader hgoes rfl rfl ?_
      exact onStream_some hphase _
    | drops =>
      have hact : s.act (.cancelStream stream) = s.putStream stream (.of (s.streamWorld lent)
          (.idle lent) []) := onStream_some hphase _
      exact .of_quiet hgoes hphase rfl rfl hact rfl rfl
    | pollsOnce room arrivals =>
      refine .of_unchanged hreader hgoes rfl ?_ ?_
      · exact congrArg (Option.map (·, arrivals)) (hfillOf _)
      · exact onStream_some hphase _
    | waits room arrivals =>
      refine .of_unchanged hreader hgoes rfl ?_ ?_
      · exact congrArg (Option.map (·, arrivals)) (hfillOf _)
      · exact onStream_some hphase _
    | polls replies arrivals =>
      have hact : s.act (.pollStream stream replies arrivals) = s.putStream stream
          (.ofChecked (s.streamWorld lent) (.awaiting lent operation)
            ((operation.poll (s.streamWorld lent) arrivals).map (StreamPhase.pollRead stream))) :=
        onStream_some hphase _
      have hfill : actionFill s (.pollStream stream replies arrivals) =
          (operationFill operation (s.streamWorld lent)).map (·, arrivals) :=
        congrArg (Option.map (·, arrivals)) (hfillOf _)
      obtain ⟨room, completed⟩ := operation
      cases completed with
      | true =>
        rw [readOperation_again rfl] at hact
        exact .of_quiet hgoes hphase rfl hfill hact rfl rfl
      | false =>
        obtain ⟨polled, w', rest, hread⟩ := reader_polls h hmem rfl room arrivals
        obtain ⟨events, hpolled, hreport⟩ :=
          pollRead_report stream ⟨room, polled.isSome⟩ w' polled rest
        have hput : s.act (.pollStream stream replies arrivals) = s.putStream stream
            (.of w' (.awaiting w'.receiver ⟨room, polled.isSome⟩) events) := by
          refine hact.trans ?_
          show s.putStream stream (StreamStep.ofChecked _ _ (Except.map _ _)) = _
          rw [readOperation_poll rfl, hread]
          exact congrArg (s.putStream stream) hpolled
        exact .of_poll hgoes hphase rfl hread hfill hput rfl hreport

omit [SampleArithmetic F] in
/-- What the events of a read hand over is what its poll has returned. -/
theorem returnedOf_report {stream : ℕ} {w' : StreamWorld F .f32Iq}
    {polled : Option (Result (List (Complex F)))} {events : List (CallEvent F .f32Iq)}
    (hreport : ReadReport stream w' polled events) :
    events.flatMap (returnedOf stream) = returnedBy polled := by
  cases hreport with
  | pending => rfl
  | timeout => simp [returnedOf, returnedBy]
  | returned result => cases result <;> simp [returnedOf, returnedBy]

/-- The reads of a stream at one factor, up to the first rejected completion, with the completions
that they take and the samples that they return.  Other streams and the device go on meanwhile. -/
inductive SampleRun (stream factor : ℕ) (s₀ : System F .f32Iq) :
    System F .f32Iq → List Taken → List (Complex F) → Prop
  | started : SampleRun stream factor s₀ s₀ [] []
  | apart {s : System F .f32Iq} {takes : List Taken} {out : List (Complex F)}
      (action : Action .f32Iq) (reply : ℕ → AnyReply) (hother : actionStream action ≠ some stream)
      (h : SampleRun stream factor s₀ s takes out) :
      SampleRun stream factor s₀ (s.step action reply) takes out
  | read {s : System F .f32Iq} {takes : List Taken} {out : List (Complex F)}
      (action : Action .f32Iq) (reply : ℕ → AnyReply) (hreads : ReadsStream stream action)
      (hfactor : s.session.receive.decimation = factor)
      (haccepts : ∀ taken ∈ takesOf (stepWork stream s action).1, taken.fate ≠ .rejected)
      (h : SampleRun stream factor s₀ s takes out) :
      SampleRun stream factor s₀ (s.step action reply)
        (takes ++ takesOf (stepWork stream s action).1)
        (out ++ (newEvents s (s.step action reply)).flatMap (returnedOf stream))

/-- Nothing happens after a panic or the end of the session. -/
theorem over_step {s : System F .f32Iq} (hover : ¬(s.panic = none ∧ s.ended = false)) (stream : ℕ)
    (action : Action .f32Iq) (reply : ℕ → AnyReply) :
    takesOf (stepWork stream s action).1 = [] ∧ newEvents s (s.step action reply) = [] := by
  rw [stepWork_over hover, step_of_over hover]
  exact ⟨rfl, newEvents_eq (List.append_nil _).symm⟩

/-- **Every run** goes on with the conversion of what it has received. -/
theorem run_receives {k : ℕ} (hk : k ≤ 6) {config : ValidConfig .f32Iq} {s₀ : System F .f32Iq}
    (h : System.Reachable config s₀) {stream : ℕ} (hfresh : StartedFresh s₀ stream)
    {s : System F .f32Iq} {takes : List Taken} {out : List (Complex F)}
    (hrun : SampleRun stream (2 ^ k) s₀ s takes out) :
    System.Reachable config s ∧ ∃ receiver, readerAt s stream = some receiver ∧
      Receives k (payload takes) out receiver := by
  induction hrun with
  | started =>
    obtain ⟨receiver, hphase, hreceives⟩ := startedFresh_receives hk h hfresh
    exact ⟨h, receiver, Option.bind_eq_some_iff.mpr ⟨_, hphase, rfl⟩, hreceives⟩
  | @apart s _ _ action reply hother _ ih =>
    obtain ⟨hreachable, receiver, hreader, hreceives⟩ := ih
    refine ⟨hreachable.step action reply, receiver, ?_, hreceives⟩
    by_cases hgoes : s.panic = none ∧ s.ended = false
    · obtain ⟨phase, hphase, hphaseReader⟩ := Option.bind_eq_some_iff.mp hreader
      refine Option.bind_eq_some_iff.mpr ⟨phase, ?_, hphaseReader⟩
      rw [(step_streams hgoes.1 hgoes.2 action reply).1]
      exact (reachable_acted hreachable action).others hother hphase
    · rw [step_of_over hgoes]
      exact hreader
  | @read s takes out action reply hreads hfactor haccepts _ ih =>
    obtain ⟨hreachable, receiver, hreader, hreceives⟩ := ih
    refine ⟨hreachable.step action reply, ?_⟩
    by_cases hgoes : s.panic = none ∧ s.ended = false
    · cases read_step hreachable hreader hreads hgoes reply with
      | rests hwork hreader' hsilent =>
        rw [hwork, hsilent]
        refine ⟨receiver, hreader', ?_⟩
        show Receives k (payload (takes ++ [])) (out ++ []) receiver
        rw [List.append_nil, List.append_nil]
        exact hreceives
      | @reads room arrivals _ _ w' events hread hreport hwork hreader' hevents =>
        obtain ⟨phase, hmem, hreceiver⟩ := readerAt_phase hreader
        have hinv := (reachable_inv hreachable).system.streamInv hmem hreceiver
        have haligned := reachable_reads keptByReads_aligned hreachable hmem hreceiver
        rw [hwork] at haccepts
        rw [hwork, hevents, returnedOf_report hreport, payload_append]
        rcases poll_converts hk hinv haligned hreceives hfactor hread with
          ⟨taken, htaken, hrejected⟩ | ⟨_, hreceives'⟩
        · exact absurd hrejected (haccepts taken htaken)
        · exact ⟨w'.receiver, hreader', hreceives'⟩
    · obtain ⟨hnothing, hsilent⟩ := over_step hgoes stream action reply
      rw [hnothing, hsilent, step_of_over hgoes, List.append_nil, List.flatMap_nil, List.append_nil]
      exact ⟨receiver, hreader, hreceives⟩

/-! ## The one conversion -/

/-- The stream holds neither a current buffer nor a sample that is carried over. -/
def HoldsNothing (s : System F .f32Iq) (stream : ℕ) : Prop :=
  ∃ receiver queue, readerAt s stream = some receiver ∧ receiver.queue = some queue ∧
    queue.current = none ∧ IqProcessor.pending receiver.processor = none

/-- What has been received is whole groups. -/
theorem payload_whole {k : ℕ} {raw : List UInt8} {out : List (Complex F)}
    {processor : IqProcessor F} {queue : Queue} (h : Converting k raw out processor queue)
    (haligned : Aligned processor queue) : 8 * 2 ^ k ∣ raw.length := by
  obtain ⟨consumed, hdrove, hrest⟩ := h.drove
  have hlength : raw.length = consumed + (unconverted processor queue).length := by
    have hinside := hdrove.inside
    dsimp only at hinside
    rw [← hrest, List.length_drop]
    omega
  rcases h.factor with hchosen | ⟨rfl, _⟩
  · rw [hlength]
    refine Nat.dvd_add hdrove.whole ?_
    cases hcurrent : queue.current with
    | none =>
      rw [unconverted_none hcurrent]
      exact Nat.dvd_zero _
    | some buffer =>
      have hunread := (haligned.unread buffer hcurrent).2
      rw [unconverted_some hcurrent, List.length_drop, List.length_take,
        Nat.min_eq_left (haligned.inside buffer hcurrent), ← hchosen]
      exact hunread
  · exact Nat.dvd_zero _

/-- What has been returned, next to one conversion of everything received. -/
theorem converting_once {k : ℕ} (hk : k ≤ 6) {raw : List UInt8} {out : List (Complex F)}
    {processor : IqProcessor F} {queue : Queue} (h : Converting k raw out processor queue)
    (haligned : Aligned processor queue) {large : ℕ} (hlarge : 2 * (raw.length / (8 * 2 ^ k)) ≤ large) :
    ∃ single progress all,
      (Float32IqConverter.default : Float32IqConverter F).processU16leToF32iqSlice raw (2 ^ k) large =
        .ok (single, progress, all) ∧ progress.consumedBytes = raw.length ∧ out <+: all ∧
      (queue.current = none → processor.pending = none → out = all) := by
  obtain ⟨single, progress, all, hcall, hsingle, hconsumed⟩ :=
    single_call hk (@converterValid_default F _) raw hlarge
  rw [Nat.div_mul_cancel (payload_whole h haligned)] at hconsumed
  obtain ⟨consumed, hdrove, hrest⟩ := h.drove
  refine ⟨single, progress, all, hcall, hconsumed, ?_, ?_⟩
  · have hall := hsingle.converted
    dsimp only at hall
    rw [hconsumed, Option.toList_none, List.append_nil, List.take_length,
      ← List.take_append_drop consumed raw] at hall
    have hbytes : (raw.take consumed).length = consumed := by
      rw [List.length_take]
      exact Nat.min_eq_left hdrove.inside
    have hwhole : 8 * 2 ^ k ∣ (raw.take consumed).length := by
      rw [hbytes]
      exact hdrove.whole
    have hprefix := (convert_streams k).isPrefix (filtersValid hk converterValid_default) hwhole
      hdrove.converted hall
    exact (List.prefix_append _ _).trans hprefix
  · intro hcurrent hpending
    rw [unconverted_none hcurrent] at hrest
    have hall : consumed = raw.length :=
      Nat.le_antisymm hdrove.inside (List.drop_eq_nil_iff.mp hrest)
    exact (drives_agree hdrove hsingle (hall.trans hconsumed.symm) hpending rfl).1

/-- **A poll of a read** takes at most one usable completion, returns at most what a transfer gives,
and fails only when it has rejected a completion. -/
theorem poll_bounded {k : ℕ} (hk : k ≤ 6) {config : ValidConfig .f32Iq} {s : System F .f32Iq}
    (h : System.Reachable config s) {stream : ℕ} {receiver : Receiver F .f32Iq}
    (hreader : readerAt s stream = some receiver) {raw : List UInt8} {out : List (Complex F)}
    (hreceives : Receives k raw out receiver) (hfactor : s.session.receive.decimation = 2 ^ k)
    {room : ℕ} {arrivals rest : List Arrival} {polled : Option (Result (List (Complex F)))}
    {w' : StreamWorld F .f32Iq}
    (hread : Receiver.pollRead (s.streamWorld receiver) room arrivals = .ok (polled, w', rest)) :
    let takes := takesOf ((readFill room (s.streamWorld receiver)).map (·, arrivals))
    (acceptedOf takes).length ≤ 1 ∧
    (returnedBy polled).length ≤ MAX_F32_IQ_SAMPLES_PER_TRANSFER / 2 ^ k ∧
    ((∀ taken ∈ takes, taken.fate ≠ .rejected) → ∀ e, polled ≠ some (.error e)) := by
  obtain ⟨phase, hmem, hreceiver⟩ := readerAt_phase hreader
  have hinv := (reachable_inv h).system.streamInv hmem hreceiver
  have haligned := reachable_reads keptByReads_aligned h hmem hreceiver
  refine ⟨?_, ?_, ?_⟩
  · cases hfill : readFill room (s.streamWorld receiver) with
    | none => exact Nat.zero_le 1
    | some queue =>
      obtain ⟨_, _, _, hfills⟩ := readFill_fills hinv hread hfill
      show (acceptedOf (loopTakes arrivals queue)).length ≤ 1
      rcases hfills.accepts with ⟨_, _, hone, _⟩ | ⟨_, hnone, _⟩
      · rw [hone]
        exact Nat.le_refl 1
      · rw [hnone]
        exact Nat.zero_le 1
  · match polled, hread with
    | none, _ => exact Nat.zero_le _
    | some (.error e), _ => exact Nat.zero_le _
    | some (.ok samples), hread =>
      by_cases hsome : samples = []
      · rw [hsome]
        exact Nat.zero_le _
      · obtain ⟨_, queue, queue', hfrom, houtcome, _⟩ :=
          (soundRead hinv haligned room arrivals).samples samples w' rest
            (pollRead_room hread hsome) hread
        have hretained := reachable_reads keptByReads_retained h hmem hreceiver
        have hkept := keptByReads_retained.converts hinv hretained hfrom
        obtain ⟨w₁, _, hbegin, _⟩ :=
          Receives.begin (w := s.streamWorld receiver) hreceives hfactor
        have hchosen := readsFrom_factor hbegin hfrom
        have hbound := readOutcome_bounded hkept.aligned hkept.kept houtcome
        rw [hchosen] at hbound
        exact hfactor ▸ hbound
  · intro haccepts
    rcases poll_converts hk hinv haligned hreceives hfactor hread with
      ⟨taken, htaken, hrejected⟩ | ⟨hgood, _⟩
    · exact absurd hrejected (haccepts taken htaken)
    · exact hgood

/-- **A read** takes at most one usable completion, returns at most what a transfer gives, and fails
only when it has rejected a completion. -/
theorem read_bounded {k : ℕ} (hk : k ≤ 6) {config : ValidConfig .f32Iq} {s : System F .f32Iq}
    (h : System.Reachable config s) {stream : ℕ} {receiver : Receiver F .f32Iq}
    (hreader : readerAt s stream = some receiver) {raw : List UInt8} {out : List (Complex F)}
    (hreceives : Receives k raw out receiver) {action : Action .f32Iq}
    (hreads : ReadsStream stream action) (hfactor : s.session.receive.decimation = 2 ^ k)
    (reply : ℕ → AnyReply) :
    (acceptedOf (takesOf (stepWork stream s action).1)).length ≤ 1 ∧
    ((newEvents s (s.step action reply)).flatMap (returnedOf stream)).length ≤
      MAX_F32_IQ_SAMPLES_PER_TRANSFER / 2 ^ k ∧
    ((∀ taken ∈ takesOf (stepWork stream s action).1, taken.fate ≠ .rejected) →
      ∀ event ∈ newEvents s (s.step action reply),
        ∃ samples queue, event = .samples stream (.ok samples) queue) := by
  by_cases hgoes : s.panic = none ∧ s.ended = false
  · cases read_step h hreader hreads hgoes reply with
    | rests hwork _ hsilent =>
      rw [hwork, hsilent]
      exact ⟨Nat.zero_le 1, Nat.zero_le _, fun _ _ hevent => absurd hevent List.not_mem_nil⟩
    | reads hread hreport hwork _ hevents =>
      rw [hwork, hevents, returnedOf_report hreport]
      obtain ⟨haccepts, hlength, hfails⟩ := poll_bounded hk h hreader hreceives hfactor hread
      refine ⟨haccepts, hlength, fun hspares event hevent => ?_⟩
      have hgood := hfails hspares
      cases hreport with
      | pending => exact absurd hevent List.not_mem_nil
      | timeout => exact ⟨[], _, List.mem_singleton.mp hevent⟩
      | returned result =>
        cases result with
        | ok samples => exact ⟨samples, _, List.mem_singleton.mp hevent⟩
        | error e => exact absurd rfl (hgood e)
  · obtain ⟨hnothing, hsilent⟩ := over_step hgoes stream action reply
    rw [hnothing, hsilent]
    exact ⟨Nat.zero_le 1, Nat.zero_le _, fun _ _ hevent => absurd hevent List.not_mem_nil⟩

/-- **IQ reading neither loses, duplicates, reorders nor filters a sample twice.**  At a constant
factor and from a fresh queue on, whatever reads of whatever lengths are made up to the first
rejected completion, what they have returned is a prefix of what one conversion of all the accepted
payloads gives, and all of it when nothing is held.  The next read accepts at most one completion,
returns at most what a transfer gives, and fails only by rejecting one. -/
theorem reads_convert_once {config : ValidConfig .f32Iq} {s₀ s : System F .f32Iq}
    (h : System.Reachable config s₀) {stream : ℕ} (hfresh : StartedFresh s₀ stream) {factor : ℕ}
    (hfactor : factor ∈ decimationFactors) {takes : List Taken} {out : List (Complex F)}
    (hrun : SampleRun stream factor s₀ s takes out) :
    (∀ large, 2 * ((payload takes).length / (8 * factor)) ≤ large → ∃ single progress all,
      (Float32IqConverter.default : Float32IqConverter F).processU16leToF32iqSlice (payload takes)
        factor large = .ok (single, progress, all) ∧
      progress.consumedBytes = (payload takes).length ∧ out <+: all ∧
      (HoldsNothing s stream → out = all)) ∧
    ∀ action reply, ReadsStream stream action →
      s.session.receive.decimation = factor →
      (acceptedOf (takesOf (stepWork stream s action).1)).length ≤ 1 ∧
      ((newEvents s (s.step action reply)).flatMap (returnedOf stream)).length ≤
        MAX_F32_IQ_SAMPLES_PER_TRANSFER / factor ∧
      ((∀ taken ∈ takesOf (stepWork stream s action).1, taken.fate ≠ .rejected) →
        ∀ event ∈ newEvents s (s.step action reply),
          ∃ samples queue, event = .samples stream (.ok samples) queue) := by
  obtain ⟨k, hk, rfl⟩ := mem_decimationFactors.mp hfactor
  obtain ⟨hreachable, receiver, hreader, hreceives⟩ := run_receives hk h hfresh hrun
  constructor
  · intro large hlarge
    obtain ⟨_, queue, hqueue, hconverting⟩ := hreceives
    obtain ⟨phase, hmem, hreceiver⟩ := readerAt_phase hreader
    have haligned := reachable_reads keptByReads_aligned hreachable hmem hreceiver
    obtain ⟨single, progress, all, hcall, hconsumed, hprefix, hall⟩ :=
      converting_once hk hconverting (haligned queue hqueue).aligned hlarge
    refine ⟨single, progress, all, hcall, hconsumed, hprefix, ?_⟩
    rintro ⟨other, left, hother, hleft, hcurrent, hpending⟩
    cases hreader.symm.trans hother
    obtain rfl := Option.some.inj (hqueue.symm.trans hleft)
    exact hall hcurrent hpending
  · intro action reply hreads hconstant
    exact read_bounded hk hreachable hreader hreceives hreads hconstant reply

/-- A poll of a stream whose endpoint delivers a whole transfer accepts it. -/
theorem pollsOnce_accepts {s : System F .f32Iq} (hgoes : s.panic = none ∧ s.ended = false)
    {stream : ℕ} {receiver : Receiver F .f32Iq} (hphase : s.streams[stream]? = some (.idle receiver))
    {room : ℕ} {found : Queue} (hfound : readFill room (s.streamWorld receiver) = some found)
    (hdelivers : Delivering found) :
    let takes := takesOf
      (stepWork stream s (.pollRead stream room [fullTransfer found.settings.packing])).1
    (∀ taken ∈ takes, taken.fate ≠ .rejected) ∧ acceptedOf takes ≠ [] := by
  have hwork : (stepWork stream s
      (.pollRead stream room [fullTransfer found.settings.packing])).1 =
        some (found, [fullTransfer found.settings.packing]) := by
    rw [stepWork_fill hgoes rfl]
    show (s.streams[stream]?.bind _).map _ = _
    rw [hphase]
    exact congrArg (Option.map _) hfound
  obtain ⟨left, _, hloop, _⟩ := fillLoop_fullTransfer hdelivers
  have hopen : found.bulkIn ≠ none := fun hnone => nomatch hnone ▸ hdelivers.oldest
  have hfilled := fillLoop_fills hopen hloop
  rw [hwork]
  refine ⟨hfilled.spares fun e he => (nomatch he), ?_⟩
  show acceptedOf (loopTakes _ found) ≠ []
  rcases hfilled.accepts with ⟨_, _, hone, _⟩ | ⟨hnot, _⟩
  · rw [hone]
    exact List.cons_ne_nil _ _
  · exact absurd rfl hnot

/-- An IQ stream that has been started on a fresh queue. -/
def startedFresh : System Rat .f32Iq :=
  System.after (ValidConfig.standard .f32Iq) (fun _ => obliging)
    [.pollDevice (List.replicate 16 obliging), .rxStream, .callStream 0 .start,
      .pollStream 0 (List.replicate 4 obliging) []]

/-- Whether a stream is running on a fresh queue. -/
def isFresh : StreamPhase Rat .f32Iq → Bool
  | .idle receiver => receiver.claim.receiver == .running && receiver.queue.any fun queue =>
      queue.bulkIn.any fun bulkIn => bulkIn.completed.isEmpty && bulkIn.cancelled == 0
  | _ => false

/-- Whether a read of a stream fills a queue that delivers. -/
def fillsFresh : StreamPhase Rat .f32Iq → Bool
  | .idle receiver => (readFill 3 (startedFresh.streamWorld receiver)).any fun queue =>
      Delivering queue
  | _ => false

theorem startedFresh_converts_once :
    ∃ packing takes out, SampleRun 0 1 startedFresh
        (startedFresh.step (.pollRead 0 3 [fullTransfer packing]) fun _ => obliging) takes out ∧
      acceptedOf takes ≠ [] ∧
      ∃ single progress all,
        (Float32IqConverter.default : Float32IqConverter Rat).processU16leToF32iqSlice
          (payload takes) 1 (payload takes).length = .ok (single, progress, all) ∧ out <+: all := by
  have hreachable : System.Reachable (ValidConfig.standard .f32Iq) startedFresh :=
    System.reachable_after _ _ _
  have hfactor : startedFresh.session.receive.decimation = 1 := by decide +kernel
  have hphases : (startedFresh.streams[0]?).any (fun phase => isFresh phase && fillsFresh phase) =
      true := by
    decide +kernel
  obtain ⟨phase, hphase, hboth⟩ := (Option.any_eq_true _ _).mp hphases
  rw [Bool.and_eq_true] at hboth
  obtain ⟨hisFresh, hfills⟩ := hboth
  unfold isFresh at hisFresh
  split at hisFresh
  · rename_i receiver
    rw [Bool.and_eq_true] at hisFresh
    obtain ⟨hrunning, hqueues⟩ := hisFresh
    obtain ⟨queue, hqueue, hbulks⟩ := (Option.any_eq_true _ _).mp hqueues
    obtain ⟨bulkIn, hbulk, hnothing⟩ := (Option.any_eq_true _ _).mp hbulks
    rw [Bool.and_eq_true] at hnothing
    have hfresh : StartedFresh startedFresh 0 :=
      ⟨receiver, queue, bulkIn, hphase, beq_iff_eq.mp hrunning, hqueue, hbulk,
        List.isEmpty_iff.mp hnothing.1, beq_iff_eq.mp hnothing.2⟩
    obtain ⟨found, hfound, hdelivering⟩ := (Option.any_eq_true _ _).mp hfills
    have hdelivers : Delivering found := of_decide_eq_true hdelivering
    have hgoes : startedFresh.panic = none ∧ startedFresh.ended = false :=
      ⟨Option.isNone_iff_eq_none.mp (by decide +kernel), by decide +kernel⟩
    obtain ⟨hspares, haccepts⟩ := pollsOnce_accepts hgoes hphase hfound hdelivers
    have hrun := SampleRun.started.read _ (fun _ => obliging) (.pollsOnce _ _) hfactor hspares
    refine ⟨_, _, _, hrun, haccepts, ?_⟩
    have hlarge : ∀ bytes : List UInt8, 2 * (bytes.length / (8 * 1)) ≤ bytes.length := by
      intro bytes
      omega
    obtain ⟨single, progress, all, hcall, _, hprefix, _⟩ :=
      (reads_convert_once hreachable hfresh (by decide) hrun).1 _ (hlarge _)
    exact ⟨single, progress, all, hcall, hprefix⟩
  · exact nomatch hisFresh

end HydraSdr.Analysis.SampleDelivery
