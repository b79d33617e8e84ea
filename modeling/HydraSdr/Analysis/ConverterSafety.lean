import HydraSdr.Analysis.SliceCalls

/-!
# The converter does not panic

Whatever calls were made on a new converter, its ring indices are in range and the next call ends:
every array access is in bounds, every assertion holds, no size underflows, and the output is the
samples that fit and at most one that does not.
-/

set_option autoImplicit false

namespace HydraSdr.Analysis.ConverterSafety

open HydraSdr.Program

/-- One call of `process_u16le_to_f32iq_slice`: its input, its decimation factor and the length of
its output slice. -/
structure Call where
  raw : List UInt8
  factor : ℕ
  room : ℕ

variable {F : Type}

/-- The ring indices are in range. -/
structure RingsInRange (converter : Float32IqConverter F) : Prop where
  fir : converter.firIndex < FIR_HISTORY_SIZE
  delay : converter.delayIndex < Q_DELAY_LEN
  stages : ∀ stage ∈ converter.decimationStages, stage.firIndex < stage.filter.bufSize

theorem ringsInRange {converter : Float32IqConverter F} (h : ConverterValid converter) :
    RingsInRange converter where
  fir := h.front.index
  delay := h.front.delay
  stages stage hstage := (h.stages.valid stage hstage).inside

variable [SampleArithmetic F]

/-- The converter after a sequence of calls. -/
def afterCalls (converter : Float32IqConverter F) : List Call → Checked (Float32IqConverter F)
  | [] => .ok converter
  | call :: calls => do
    let (converter, _, _) ← converter.processU16leToF32iqSlice call.raw call.factor call.room
    afterCalls converter calls

theorem afterCalls_ok {converter : Float32IqConverter F} (h : ConverterValid converter)
    {calls : List Call} (hcalls : ∀ call ∈ calls, call.factor ∈ decimationFactors) :
    ∃ converter', afterCalls converter calls = .ok converter' ∧ ConverterValid converter' := by
  induction calls generalizing converter with
  | nil => exact ⟨converter, rfl, h⟩
  | cons call calls ih =>
    obtain ⟨k, hk, hfactor⟩ := mem_decimationFactors.mp (hcalls call List.mem_cons_self)
    obtain ⟨converter₁, progress, samples, hcall, hvalid, _⟩ :=
      sliceCall_ok hk h call.raw call.room
    obtain ⟨converter', hrest, hvalid'⟩ :=
      ih hvalid fun other hother => hcalls other (List.mem_cons_of_mem call hother)
    refine ⟨converter', ?_, hvalid'⟩
    unfold afterCalls
    rw [hfactor, hcall]
    exact hrest

/-- **The converter cannot panic.**  After any calls its ring indices are in range, and any next
call ends: its stages take whole groups of four pairs, and it writes the samples that fit and
carries over at most one. -/
theorem calls_do_not_panic (calls : List Call)
    (hcalls : ∀ call ∈ calls, call.factor ∈ decimationFactors) :
    ∃ converter, afterCalls (Float32IqConverter.default : Float32IqConverter F) calls =
        .ok converter ∧ RingsInRange converter ∧
      ∀ raw room, ∀ factor ∈ decimationFactors, ∃ converter' progress samples,
        converter.processU16leToF32iqSlice raw factor room = .ok (converter', progress, samples) ∧
        RingsInRange converter' ∧ Converts raw factor room progress samples ∧
        ∀ stage, 2 ^ stage < factor → ∃ values,
          stageInput converter (raw.take progress.consumedBytes) stage = .ok values ∧
            8 ∣ values.length := by
  obtain ⟨converter, hrun, hvalid⟩ := afterCalls_ok (@converterValid_default F _) hcalls
  refine ⟨converter, hrun, ringsInRange hvalid, ?_⟩
  intro raw room factor hfactor
  obtain ⟨k, hk, rfl⟩ := mem_decimationFactors.mp hfactor
  obtain ⟨converter', progress, samples, hcall, hvalid', hconverts, _⟩ :=
    sliceCall_ok hk hvalid raw room
  refine ⟨converter', progress, samples, hcall, ringsInRange hvalid', hconverts, ?_⟩
  intro stage hstage
  apply stageInput_groups hk hvalid
  · rw [List.length_take, Nat.min_eq_left hconverts.inside]
    exact hconverts.whole
  · exact (Nat.pow_lt_pow_iff_right (by omega)).mp hstage

/-- Two calls, with an odd output and with decimation. -/
theorem two_calls_do_not_panic : ∃ converter : Float32IqConverter Rat,
    afterCalls Float32IqConverter.default
      [⟨List.replicate 21 1, 1, 3⟩, ⟨List.replicate 70 2, 4, 1⟩] = .ok converter ∧
    RingsInRange converter := by
  have h := @calls_do_not_panic Rat _ [⟨List.replicate 21 1, 1, 3⟩, ⟨List.replicate 70 2, 4, 1⟩]
    (by simp [decimationFactors])
  obtain ⟨converter, hrun, hrings, _⟩ := h
  exact ⟨converter, hrun, hrings⟩

end HydraSdr.Analysis.ConverterSafety
