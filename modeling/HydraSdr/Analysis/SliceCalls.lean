import HydraSdr.Analysis.Conversion
import HydraSdr.Analysis.Configurations
import Mathlib.Tactic.IntervalCases

/-!
# Calls of the converter

What one call of `process_u16le_to_f32iq_slice` consumes, writes and carries over, for each of the
decimation factors.  Every decimation stage of a call takes whole groups of four pairs.
-/

set_option autoImplicit false

namespace HydraSdr.Analysis

open HydraSdr.Program HydraSdr.Computation

variable {F : Type}

/-- What a call reports: it consumes whole groups, two samples each, writes what fits, and carries
over a sample that does not. -/
structure Converts (raw : List UInt8) (factor room : ℕ) (progress : ConversionProgress F)
    (samples : List (Complex F)) : Prop where
  inside : progress.consumedBytes ≤ raw.length
  whole : 8 * factor ∣ progress.consumedBytes
  written : progress.written = min room (progress.consumedBytes / (4 * factor))
  returned : samples.length = progress.written
  produced : samples.length + progress.pending.toList.length = progress.consumedBytes / (4 * factor)

/-- A sample is carried over exactly when one sample did not fit. -/
theorem Converts.pending_iff {raw : List UInt8} {factor room : ℕ} {progress : ConversionProgress F}
    {samples : List (Complex F)} (h : Converts raw factor room progress samples) :
    progress.pending.isSome = true ↔
      progress.consumedBytes / (4 * factor) = progress.written + 1 := by
  have hproduced := h.produced
  rw [h.returned] at hproduced
  cases hpending : progress.pending with
  | none =>
    rw [hpending] at hproduced
    simp at hproduced ⊢
    omega
  | some sample =>
    rw [hpending] at hproduced
    simp at hproduced ⊢
    omega

theorem groups_samples (k groups : ℕ) : 8 * 2 ^ k * groups / (4 * 2 ^ k) = 2 * groups := by
  have hpower : 0 < 2 ^ k := Nat.two_pow_pos k
  rw [show 8 * 2 ^ k * groups = 4 * 2 ^ k * (2 * groups) by ring]
  apply Nat.mul_div_cancel_left
  omega

theorem groups_le (k : ℕ) (raw : List UInt8) (room : ℕ) :
    8 * 2 ^ k * groupsOf k raw room ≤ raw.length :=
  (Nat.mul_le_mul_left _ (Nat.min_le_left _ _)).trans (Nat.mul_div_le _ _)

variable [SampleArithmetic F]

/-- Each group of bytes gives two samples. -/
theorem convert_length {k groups : ℕ} {filters filtered : Filters F} {raw : List UInt8}
    {samples : List (Complex F)} (hvalid : FiltersValid k filters)
    (hraw : raw.length = 8 * 2 ^ k * groups)
    (h : convert filters raw = .ok (filtered, samples)) : samples.length = 2 * groups := by
  have hpower : 0 < 2 ^ k := Nat.two_pow_pos k
  have hlength := ((convert_streams k).valid_of_ok hvalid ⟨groups, hraw⟩ h).2
  rw [hraw] at hlength
  apply Nat.eq_of_mul_eq_mul_left (by omega : 0 < 8 * 2 ^ k)
  rw [hlength]
  ring

/-- What a call gives, and how that comes from its filters. -/
theorem sliceCall_ok {k : ℕ} (hk : k ≤ 6) {converter : Float32IqConverter F}
    (h : ConverterValid converter) (raw : List UInt8) (room : ℕ) :
    ∃ converter' progress samples,
      converter.processU16leToF32iqSlice raw (2 ^ k) room = .ok (converter', progress, samples) ∧
      ConverterValid converter' ∧ Converts raw (2 ^ k) room progress samples ∧
      progress.consumedBytes = 8 * 2 ^ k * groupsOf k raw room ∧
      converter'.decimationStages.drop k = converter.decimationStages.drop k ∧
      convert (filters k converter) (raw.take progress.consumedBytes) =
        .ok (filters k converter', samples ++ progress.pending.toList) := by
  obtain ⟨converter', samples, hconvert, hvalid, hunused, hcall⟩ :=
    processU16leToF32iqSlice_eq hk h raw room
  have hlength : samples.length = 2 * groupsOf k raw room := by
    refine convert_length (filtersValid hk h) ?_ hconvert
    rw [List.length_take]
    exact Nat.min_eq_left (groups_le k raw room)
  have hroom : 2 * groupsOf k raw room ≤ room + 1 := by
    have hle := Nat.min_le_right (raw.length / (8 * 2 ^ k)) ((room + 1) / 2)
    unfold groupsOf
    omega
  have hcut : samples.take room ++ samples[room]?.toList = samples := take_room (by omega)
  refine ⟨converter', _, _, hcall, hvalid, ?_, rfl, hunused, ?_⟩
  · refine ⟨groups_le k raw room, Nat.dvd_mul_right _ _, ?_, ?_, ?_⟩
    · dsimp only
      rw [groups_samples]
    · rw [List.length_take, hlength]
    · rw [← List.length_append]
      dsimp only
      rw [hcut, hlength, groups_samples]
  · rw [hconvert]
    dsimp only
    rw [hcut]

/-! ## The stages of a call -/

/-- The source buffer of the stage after `stages` intermediate stages. -/
def stageInput (converter : Float32IqConverter F) (raw : List UInt8) (stages : ℕ) :
    Checked (List F) := do
  let converter ← converter.processBasebandToScratch raw
  let (converter, sourceIsA) ← converter.processIntermediateDecimationStages stages
  pure (if sourceIsA then converter.scratchA else converter.scratchB)

/-- **No sample is lost between the stages**: each takes whole groups of four pairs. -/
theorem stageInput_groups {k : ℕ} (hk : k ≤ 6) {converter : Float32IqConverter F}
    (h : ConverterValid converter) {raw : List UInt8} (hraw : 8 * 2 ^ k ∣ raw.length) {j : ℕ}
    (hj : j < k) : ∃ values, stageInput converter raw j = .ok values ∧ 8 ∣ values.length := by
  obtain ⟨groups, hgroups⟩ := hraw
  obtain ⟨rest, rfl⟩ := Nat.exists_eq_add_of_lt hj
  have hsplit : (2 : ℕ) ^ (j + rest + 1) = 2 ^ j * (2 * 2 ^ rest) := by
    rw [pow_succ, pow_add]
    ring
  have hpower : 0 < 2 ^ j := Nat.two_pow_pos j
  obtain ⟨filtered, baseband, hfront, _, hbaseband⟩ :=
    (@frontEnd_streams F _).total (front converter) raw h.front
      ⟨2 ^ (j + rest + 1) * groups, by rw [hgroups]; ring⟩
  have hbaseband' : baseband.length = 4 * 2 ^ j * (2 * (2 ^ rest * groups)) := by
    rw [hgroups, hsplit] at hbaseband
    apply Nat.eq_of_mul_eq_mul_left (by omega : 0 < 8)
    rw [hbaseband]
    ring
  have hstages : StagesValid j (converter.decimationStages.take j) := by
    refine ⟨?_, fun stage hstage => h.stages.valid stage (List.mem_of_mem_take hstage)⟩
    rw [List.length_take, h.stages.length]
    omega
  obtain ⟨done, values, hcascade, _, hvalues⟩ :=
    (cascade_streams j).total _ baseband hstages ⟨_, hbaseband'⟩
  obtain ⟨converter', sourceIsA, hrun, _, _, hsource⟩ :=
    processIntermediate_eq (equip converter.decimationStages baseband converter.scratchB filtered)
      (by show j ≤ converter.decimationStages.length; rw [h.stages.length]; omega) hcascade
  refine ⟨values, ?_, ⟨2 ^ rest * groups, ?_⟩⟩
  · unfold stageInput
    rw [processBasebandToScratch_eq, hfront]
    dsimp only [bind, Except.bind, Except.map]
    rw [hrun]
    exact congrArg Except.ok hsource
  · rw [hbaseband'] at hvalues
    apply Nat.eq_of_mul_eq_mul_left (by omega : 0 < 4 * 2 ^ j)
    rw [hvalues]
    ring

end HydraSdr.Analysis
