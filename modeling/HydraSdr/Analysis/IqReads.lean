import HydraSdr.Analysis.QueueSteps
import HydraSdr.Analysis.SliceCalls

/-!
# One read of an IQ stream

What `IqProcessor::process` does when the unread part of the current buffer is made of whole
conversion groups: it calls the converter once or not at all, and leaves whole groups unread.
-/

set_option autoImplicit false

namespace HydraSdr.Analysis

open HydraSdr.Program HydraSdr.Computation

variable {F : Type} [SampleArithmetic F]

/-! ## Whole groups -/

/-- The converter and the sample that is carried over, if any, come from a call on a part of this
buffer that ends at the processor's offset. -/
def StemsFrom (processor : IqProcessor F) (queue : Queue) (buffer : Buffer) : Prop :=
  ∃ (before : Float32IqConverter F) (offset room : ℕ) (progress : ConversionProgress F)
    (samples : List (Complex F)),
    before.processU16leToF32iqSlice ((buffer.bytes.take queue.currentLen).drop offset)
        queue.settings.decimation room = .ok (processor.converter, progress, samples) ∧
      offset + progress.consumedBytes = processor.offset ∧
      (processor.pending = none ∨ processor.pending = progress.pending)

/-- A converter and the sample it carries over, since it was reset last: every call of it was on
bytes and with a factor that are allowed. -/
inductive Fed (allowed : List UInt8 → ℕ → Prop) :
    Float32IqConverter F → Option (Complex F) → Prop
  | reset : Fed allowed .default none
  | call {before converter : Float32IqConverter F} {carried : Option (Complex F)}
      {raw : List UInt8} {factor room : ℕ} {progress : ConversionProgress F}
      {samples : List (Complex F)} (h : Fed allowed before carried) (hallowed : allowed raw factor)
      (hcall : before.processU16leToF32iqSlice raw factor room =
        .ok (converter, progress, samples)) : Fed allowed converter progress.pending
  | handOver {converter : Float32IqConverter F} {carried : Option (Complex F)}
      (h : Fed allowed converter carried) : Fed allowed converter none

theorem Fed.mono {allowed allowed' : List UInt8 → ℕ → Prop}
    (hmono : ∀ raw factor, allowed raw factor → allowed' raw factor)
    {converter : Float32IqConverter F} {carried : Option (Complex F)}
    (h : Fed allowed converter carried) : Fed allowed' converter carried := by
  induction h with
  | reset => exact .reset
  | call _ hallowed hcall ih => exact ih.call (hmono _ _ hallowed) hcall
  | handOver _ ih => exact ih.handOver

/-- A processor and a queue between two reads.  The unread part of a current buffer is made of
whole conversion groups.  Once a part of it has been converted, converter and carried sample stem
from that. -/
structure Aligned (processor : IqProcessor F) (queue : Queue) : Prop where
  factor : queue.settings.decimation ∈ decimationFactors
  converter : ConverterValid processor.converter
  unread : ∀ buffer, queue.current = some buffer → processor.offset < queue.currentLen ∧
    8 * queue.settings.decimation ∣ queue.currentLen - processor.offset
  inside : ∀ buffer, queue.current = some buffer → queue.currentLen ≤ buffer.bytes.length
  released : queue.current = none → processor.offset = 0
  carried : ∀ buffer, queue.current = some buffer →
    processor.offset ≠ 0 ∨ processor.pending.isSome = true → StemsFrom processor queue buffer

/-- What a read of an output slice of length `room` does.  It hands over what is carried over and
calls the converter at most once: the call uses up the current buffer or fills the output. -/
inductive ReadOutcome (room : ℕ) (processor : IqProcessor F) (queue : Queue) :
    List (Complex F) → IqProcessor F → Queue → Prop
  | carried (hidle : queue.current = none ∨ room = processor.pending.toList.length) :
      ReadOutcome room processor queue processor.pending.toList
        { processor with pending := none } queue
  | released {buffer : Buffer} {raw : List UInt8} {converter : Float32IqConverter F}
      {progress : ConversionProgress F} {samples : List (Complex F)}
      (hcurrent : queue.current = some buffer) (hraw : processor.unread queue buffer = .ok raw)
      (hroom : processor.pending.toList.length < room)
      (hcall : processor.converter.processU16leToF32iqSlice raw queue.settings.decimation
        (room - processor.pending.toList.length) = .ok (converter, progress, samples))
      (hconsumed : progress.consumedBytes ≠ 0)
      (hoffset : processor.offset + progress.consumedBytes = queue.currentLen) :
      ReadOutcome room processor queue (processor.pending.toList ++ samples)
        ⟨converter, 0, progress.pending⟩ queue.releaseCurrent
  | filled {buffer : Buffer} {raw : List UInt8} {converter : Float32IqConverter F}
      {progress : ConversionProgress F} {samples : List (Complex F)}
      (hcurrent : queue.current = some buffer) (hraw : processor.unread queue buffer = .ok raw)
      (hroom : processor.pending.toList.length < room)
      (hcall : processor.converter.processU16leToF32iqSlice raw queue.settings.decimation
        (room - processor.pending.toList.length) = .ok (converter, progress, samples))
      (hconsumed : progress.consumedBytes ≠ 0)
      (hoffset : processor.offset + progress.consumedBytes < queue.currentLen)
      (hfull : (processor.pending.toList ++ samples).length = room) :
      ReadOutcome room processor queue (processor.pending.toList ++ samples)
        ⟨converter, processor.offset + progress.consumedBytes, progress.pending⟩ queue

/-! ## One call -/

/-- What a call takes of the groups there are. -/
theorem groupsOf_whole {k groups room : ℕ} {raw : List UInt8}
    (hraw : raw.length = 8 * 2 ^ k * groups) :
    groupsOf k raw room = min groups ((room + 1) / 2) := by
  have hpower : 0 < 2 ^ k := Nat.two_pow_pos k
  unfold groupsOf
  rw [hraw, Nat.mul_div_cancel_left _ (by omega)]

/-- What the call of a read does: it consumes whole groups, and all of them or enough to fill the
output. -/
structure ReadCall (processor : IqProcessor F) (queue : Queue) (buffer : Buffer) (room : ℕ)
    (raw : List UInt8) (converter : Float32IqConverter F) (progress : ConversionProgress F)
    (samples : List (Complex F)) : Prop where
  raw : raw = (buffer.bytes.take queue.currentLen).drop processor.offset
  converter : ConverterValid converter
  consumed : progress.consumedBytes ≠ 0
  inside : processor.offset + progress.consumedBytes ≤ queue.currentLen
  whole : 8 * queue.settings.decimation ∣
    queue.currentLen - (processor.offset + progress.consumedBytes)
  positive : 0 < samples.length
  fits : samples.length ≤ room
  fills : processor.offset + progress.consumedBytes ≠ queue.currentLen → samples.length = room

theorem readCall_ok {processor : IqProcessor F} {queue : Queue} (h : Aligned processor queue)
    {buffer : Buffer} (hcurrent : queue.current = some buffer) {room : ℕ} (hroom : 0 < room) :
    ∃ raw converter progress samples, processor.unread queue buffer = .ok raw ∧
      processor.converter.processU16leToF32iqSlice raw queue.settings.decimation room =
        .ok (converter, progress, samples) ∧
      ReadCall processor queue buffer room raw converter progress samples := by
  obtain ⟨hoffset, groups, hgroups⟩ := h.unread buffer hcurrent
  have hinside := h.inside buffer hcurrent
  obtain ⟨k, hk, hfactor⟩ := mem_decimationFactors.mp h.factor
  have hpower : 0 < 2 ^ k := Nat.two_pow_pos k
  generalize hraw : (buffer.bytes.take queue.currentLen).drop processor.offset = raw
  rw [hfactor] at hgroups
  have hlength : raw.length = 8 * 2 ^ k * groups := by
    rw [← hraw, List.length_drop, List.length_take]
    omega
  obtain ⟨converter, progress, samples, hcall, hvalid, hconverts, hconsumed, _, _⟩ :=
    sliceCall_ok hk h.converter raw room
  rw [groupsOf_whole hlength] at hconsumed
  have hwritten := hconverts.written
  rw [hconsumed, groups_samples] at hwritten
  have hpositive : 0 < groups := by
    apply Nat.pos_of_ne_zero
    intro hzero
    rw [hzero] at hgroups
    omega
  have hsplit : 8 * 2 ^ k * groups = 8 * 2 ^ k * min groups ((room + 1) / 2) +
      8 * 2 ^ k * (groups - min groups ((room + 1) / 2)) := by
    rw [← Nat.mul_add]
    congr 1
    omega
  rw [← hfactor] at hcall
  refine ⟨raw, converter, progress, samples, ?_, hcall, hraw.symm, hvalid, ?_, ?_, ?_, ?_, ?_, ?_⟩
  · unfold IqProcessor.unread
    rw [if_pos ⟨by omega, hinside⟩, hraw]
  · rw [hconsumed]
    apply Nat.mul_ne_zero
    · omega
    · omega
  · omega
  · rw [hfactor]
    exact ⟨groups - min groups ((room + 1) / 2), by omega⟩
  · rw [hconverts.returned, hwritten]
    omega
  · rw [hconverts.returned, hwritten]
    exact Nat.min_le_left _ _
  · intro hnot
    rw [hconverts.returned, hwritten]
    have hless : min groups ((room + 1) / 2) ≠ groups := by
      intro heq
      rw [heq] at hconsumed
      omega
    omega

/-- The same of a call that has been made. -/
theorem readCall_of_ok {processor : IqProcessor F} {queue : Queue} (h : Aligned processor queue)
    {buffer : Buffer} (hcurrent : queue.current = some buffer) {room : ℕ} (hroom : 0 < room)
    {raw : List UInt8} {converter : Float32IqConverter F} {progress : ConversionProgress F}
    {samples : List (Complex F)} (hraw : processor.unread queue buffer = .ok raw)
    (hcall : processor.converter.processU16leToF32iqSlice raw queue.settings.decimation room =
      .ok (converter, progress, samples)) :
    ReadCall processor queue buffer room raw converter progress samples := by
  obtain ⟨raw', converter', progress', samples', hraw', hcall', hread⟩ :=
    readCall_ok h hcurrent hroom
  obtain rfl := Except.ok.inj (hraw.symm.trans hraw')
  obtain ⟨rfl, rfl, rfl⟩ : converter = converter' ∧ progress = progress' ∧ samples = samples' := by
    simpa using Except.ok.inj (hcall.symm.trans hcall')
  exact hread

/-! ## One read -/

/-- A loop whose output is full ends. -/
theorem processLoop_full {room turns : ℕ} {processor : IqProcessor F} {queue : Queue}
    {written : List (Complex F)} (h : written.length = room) :
    IqProcessor.processLoop room turns processor queue written =
      .ok (.ok written, processor, queue) := by
  cases turns with
  | zero => rfl
  | succ turns =>
    unfold IqProcessor.processLoop
    rw [if_neg (by omega)]

/-- The loop of a read, with nothing carried over: its second turn never comes to a call. -/
theorem processLoop_outcome {processor : IqProcessor F} {queue : Queue}
    (h : Aligned processor queue) {room : ℕ} (hfits : processor.pending.toList.length ≤ room)
    (turns : ℕ) :
    ∃ written processor' queue',
      IqProcessor.processLoop room (turns + 1) { processor with pending := none } queue
        processor.pending.toList = .ok (.ok written, processor', queue') ∧
      ReadOutcome room processor queue written processor' queue' := by
  by_cases hroom : processor.pending.toList.length < room
  · cases hcurrent : queue.current with
    | none =>
      refine ⟨_, _, _, ?_, .carried (.inl hcurrent)⟩
      unfold IqProcessor.processLoop
      rw [if_pos hroom, hcurrent]
    | some buffer =>
      obtain ⟨raw, converter, progress, samples, hraw, hcall, hread⟩ :=
        readCall_ok h hcurrent (Nat.sub_pos_of_lt hroom)
      have hloop : IqProcessor.processLoop room (turns + 1) { processor with pending := none } queue
          processor.pending.toList =
          (if processor.offset + progress.consumedBytes = queue.currentLen then
            .ok (.ok (processor.pending.toList ++ samples), ⟨converter, 0, progress.pending⟩,
              queue.releaseCurrent)
          else IqProcessor.processLoop room turns
            ⟨converter, processor.offset + progress.consumedBytes, progress.pending⟩ queue
            (processor.pending.toList ++ samples)) := by
        rw [IqProcessor.processLoop, if_pos hroom, hcurrent]
        dsimp only
        rw [show IqProcessor.unread { processor with pending := none } queue buffer = .ok raw from
          hraw]
        dsimp only [bind, Except.bind]
        rw [hcall]
        dsimp only
        rw [if_neg hread.consumed]
        rfl
      rw [hloop]
      by_cases hoffset : processor.offset + progress.consumedBytes = queue.currentLen
      · rw [if_pos hoffset]
        exact ⟨_, _, _, rfl, .released hcurrent hraw hroom hcall hread.consumed hoffset⟩
      · rw [if_neg hoffset]
        have hfull : (processor.pending.toList ++ samples).length = room := by
          rw [List.length_append, hread.fills hoffset]
          omega
        refine ⟨_, _, _, processLoop_full hfull, ?_⟩
        exact .filled hcurrent hraw hroom hcall hread.consumed
          (Nat.lt_of_le_of_ne hread.inside hoffset) hfull
  · refine ⟨_, _, _, processLoop_full (by omega), .carried (.inr (by omega))⟩

/-- **A read neither fails nor panics**, and calls the converter at most once. -/
theorem process_outcome {processor : IqProcessor F} {queue : Queue} (h : Aligned processor queue)
    {room : ℕ} (hroom : 0 < room) :
    ∃ written processor' queue',
      IqProcessor.process processor queue room = .ok (.ok written, processor', queue') ∧
      ReadOutcome room processor queue written processor' queue' := by
  obtain ⟨turns, rfl⟩ : ∃ turns, room = turns + 1 := ⟨room - 1, by omega⟩
  have hfits : processor.pending.toList.length ≤ turns + 1 := by
    cases processor.pending <;> simp
  obtain ⟨written, processor', queue', hloop, houtcome⟩ := processLoop_outcome h hfits turns
  refine ⟨written, processor', queue', ?_, houtcome⟩
  rw [← hloop]
  unfold IqProcessor.process
  rw [if_neg (by omega)]
  cases hpending : processor.pending with
  | none =>
    obtain ⟨converter, offset, pending⟩ := processor
    obtain rfl : pending = none := hpending
    rfl
  | some sample => rfl

/-- A read leaves whole groups. -/
theorem ReadOutcome.aligned {room : ℕ} {processor processor' : IqProcessor F}
    {queue queue' : Queue} {written : List (Complex F)} (h : Aligned processor queue)
    (hread : ReadOutcome room processor queue written processor' queue') :
    Aligned processor' queue' := by
  cases hread with
  | carried _ =>
    refine ⟨h.factor, h.converter, h.unread, h.inside, h.released, fun buffer hcurrent hpart => ?_⟩
    have hoffset : processor.offset ≠ 0 := hpart.resolve_right Bool.false_ne_true
    obtain ⟨before, offset, room, progress, samples, hcall, hend, _⟩ :=
      h.carried buffer hcurrent (.inl hoffset)
    exact ⟨before, offset, room, progress, samples, hcall, hend, .inl rfl⟩
  | released hcurrent hraw hroom hcall _ _ =>
    have hcalled := readCall_of_ok h hcurrent (Nat.sub_pos_of_lt hroom) hraw hcall
    refine ⟨?_, hcalled.converter, ?_, ?_, fun _ => rfl, ?_⟩
    · rw [releaseCurrent_settings]
      exact h.factor
    all_goals
      intro other hother
      rw [releaseCurrent_current] at hother
      exact nomatch hother
  | filled hcurrent hraw hroom hcall _ hoffset _ =>
    have hcalled := readCall_of_ok h hcurrent (Nat.sub_pos_of_lt hroom) hraw hcall
    refine ⟨h.factor, hcalled.converter, fun _ _ => ⟨hoffset, hcalled.whole⟩, h.inside,
      fun hnone => ?_, ?_⟩
    · exact nomatch hnone.symm.trans hcurrent
    · intro other hother _
      obtain rfl := Option.some.inj (hcurrent.symm.trans hother)
      rw [hcalled.raw] at hcall
      exact ⟨_, _, _, _, _, hcall, rfl, .inr rfl⟩

/-- A read feeds the converter with a part of the current buffer, or not at all. -/
theorem ReadOutcome.fed {allowed : List UInt8 → ℕ → Prop} {room : ℕ}
    {processor processor' : IqProcessor F} {queue queue' : Queue} {written : List (Complex F)}
    (hread : ReadOutcome room processor queue written processor' queue')
    (hallowed : ∀ buffer raw, queue.current = some buffer → processor.unread queue buffer = .ok raw →
      allowed raw queue.settings.decimation)
    (h : Fed allowed processor.converter processor.pending) :
    Fed allowed processor'.converter processor'.pending := by
  cases hread with
  | carried _ => exact h.handOver
  | released hcurrent hraw _ hcall _ _ => exact h.call (hallowed _ _ hcurrent hraw) hcall
  | filled hcurrent hraw _ hcall _ _ _ => exact h.call (hallowed _ _ hcurrent hraw) hcall

/-- **A read makes progress**: whenever something is held, it returns a sample. -/
theorem ReadOutcome.nonempty {room : ℕ} {processor processor' : IqProcessor F}
    {queue queue' : Queue} {written : List (Complex F)} (h : Aligned processor queue)
    (hread : ReadOutcome room processor queue written processor' queue') (hroom : 0 < room)
    (hheld : queue.current.isSome = true ∨ processor.pending.isSome = true) : written ≠ [] := by
  intro hnil
  cases hread with
  | carried hidle =>
    rw [hnil] at hidle
    have hnone : processor.pending = none := Option.toList_eq_nil_iff.mp hnil
    rcases hheld with hsome | hsome
    · rcases hidle with hcurrent | hzero
      · rw [hcurrent] at hsome
        exact nomatch hsome
      · rw [List.length_nil] at hzero
        omega
    · rw [hnone] at hsome
      exact nomatch hsome
  | released hcurrent hraw hroom hcall _ _ =>
    have hcalled := readCall_of_ok h hcurrent (Nat.sub_pos_of_lt hroom) hraw hcall
    have hpositive := hcalled.positive
    rw [(List.append_eq_nil_iff.mp hnil).2] at hpositive
    exact Nat.lt_irrefl 0 hpositive
  | filled _ _ _ _ _ _ hfull =>
    rw [hnil, List.length_nil] at hfull
    omega

/-- A read writes no more than fits. -/
theorem ReadOutcome.fits {room : ℕ} {processor processor' : IqProcessor F}
    {queue queue' : Queue} {written : List (Complex F)} (h : Aligned processor queue)
    (hread : ReadOutcome room processor queue written processor' queue') (hroom : 0 < room) :
    written.length ≤ room := by
  cases hread with
  | carried _ =>
    cases processor.pending with
    | none => simp
    | some sample =>
      simp
      omega
  | released hcurrent hraw hroom hcall _ _ =>
    have hcalled := readCall_of_ok h hcurrent (Nat.sub_pos_of_lt hroom) hraw hcall
    have hfits := hcalled.fits
    rw [List.length_append]
    omega
  | filled _ _ _ _ _ _ hfull => exact hfull.le

end HydraSdr.Analysis
