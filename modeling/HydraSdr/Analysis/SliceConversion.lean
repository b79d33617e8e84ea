import HydraSdr.Analysis.SliceCalls

/-!
# Conversion into output slices of any lengths

An input is converted slice by slice: the sample carried over comes first, the rest of the slice is
filled by one call on the bytes not yet consumed.  When a call finds nothing left to convert, the
samples delivered and the filters are those of a single call with room for everything.
-/

set_option autoImplicit false

namespace HydraSdr.Analysis.SliceConversion

open HydraSdr.Program HydraSdr.Computation

/-- A conversion in progress. -/
structure Drive (F : Type) where
  converter : Float32IqConverter F
  consumed : ℕ
  pending : Option (Complex F)
  delivered : List (Complex F)

variable {F : Type}

/-- Nothing is converted yet. -/
def Drive.start (converter : Float32IqConverter F) : Drive F := ⟨converter, 0, none, []⟩

/-- The part of an output slice that the sample carried over leaves free. -/
def Drive.rest (drive : Drive F) (room : ℕ) : ℕ := room - drive.pending.toList.length

variable [SampleArithmetic F]

/-- Fill one output slice: with the sample carried over, then by one call.  An empty slice takes
nothing. -/
def Drive.fill (raw : List UInt8) (factor : ℕ) (drive : Drive F) (room : ℕ) :
    Checked (Drive F) :=
  if room = 0 then .ok drive
  else do
    let (converter, progress, samples) ←
      drive.converter.processU16leToF32iqSlice (raw.drop drive.consumed) factor (drive.rest room)
    pure
      { converter := converter
        consumed := drive.consumed + progress.consumedBytes
        pending := progress.pending
        delivered := drive.delivered ++ drive.pending.toList ++ samples }

/-- Fill output slices one after the other. -/
def Drive.fillAll (raw : List UInt8) (factor : ℕ) (drive : Drive F) (rooms : List ℕ) :
    Checked (Drive F) :=
  rooms.foldlM (Drive.fill raw factor) drive

/-- What a drive has done: its filters have converted the bytes consumed, and the samples are
delivered up to the one carried over. -/
structure Drove (k : ℕ) (raw : List UInt8) (converter : Float32IqConverter F) (drive : Drive F) :
    Prop where
  valid : ConverterValid drive.converter
  inside : drive.consumed ≤ raw.length
  whole : 8 * 2 ^ k ∣ drive.consumed
  unused : drive.converter.decimationStages.drop k = converter.decimationStages.drop k
  converted : convert (filters k converter) (raw.take drive.consumed) =
    .ok (filters k drive.converter, drive.delivered ++ drive.pending.toList)

theorem drove_start {k : ℕ} (hk : k ≤ 6) {converter : Float32IqConverter F}
    (h : ConverterValid converter) (raw : List UInt8) :
    Drove k raw converter (Drive.start converter) where
  valid := h
  inside := Nat.zero_le _
  whole := Nat.dvd_zero _
  unused := rfl
  converted := (convert_streams k).nil _ (filtersValid hk h)

/-- A fill does not panic, and continues the conversion. -/
theorem drove_fill {k : ℕ} (hk : k ≤ 6) {raw : List UInt8} {converter : Float32IqConverter F}
    (h : ConverterValid converter) {drive : Drive F} (hdrive : Drove k raw converter drive)
    (room : ℕ) :
    ∃ drive', drive.fill raw (2 ^ k) room = .ok drive' ∧ Drove k raw converter drive' ∧
      (0 < room → drive'.consumed = drive.consumed →
        drive'.pending = none ∧ groupsOf k (raw.drop drive.consumed) (drive.rest room) = 0) := by
  have hpower : 0 < 2 ^ k := Nat.two_pow_pos k
  by_cases hroom : room = 0
  · exact ⟨drive, if_pos hroom, hdrive, fun h => absurd hroom (by omega)⟩
  obtain ⟨converter', progress, samples, hcall, hvalid, hconverts, hconsumed, hunused, hconvert⟩ :=
    sliceCall_ok hk hdrive.valid (raw.drop drive.consumed) (drive.rest room)
  have hinside := hconverts.inside
  rw [List.length_drop] at hinside
  have hlength : (raw.take drive.consumed).length = drive.consumed := by
    rw [List.length_take]
    exact Nat.min_eq_left hdrive.inside
  refine ⟨_, by unfold Drive.fill; rw [if_neg hroom, hcall]; rfl, ?_, ?_⟩
  · refine ⟨hvalid, ?_, Nat.dvd_add hdrive.whole hconverts.whole, hunused.trans hdrive.unused, ?_⟩
    · have hbefore := hdrive.inside
      dsimp only
      omega
    · dsimp only
      rw [List.take_add, (convert_streams k).cut (filtersValid hk h)
        (by rw [hlength]; exact hdrive.whole) hdrive.converted hconvert]
      simp only [List.append_assoc]
  · intro _ hnothing
    have hzero : progress.consumedBytes = 0 := by
      dsimp only at hnothing
      omega
    constructor
    · apply Option.eq_none_iff_forall_ne_some.mpr
      intro sample hsome
      have hproduced := hconverts.produced
      rw [hzero, Nat.zero_div] at hproduced
      have hlen : progress.pending.toList.length = 1 := by
        rw [show progress.pending = some sample from hsome]
        rfl
      omega
    · rw [hzero] at hconsumed
      rcases Nat.mul_eq_zero.mp hconsumed.symm with hfactor | hgroups
      · omega
      · exact hgroups

theorem drove_fillAll {k : ℕ} (hk : k ≤ 6) {raw : List UInt8} {converter : Float32IqConverter F}
    (h : ConverterValid converter) {drive : Drive F} (hdrive : Drove k raw converter drive)
    (rooms : List ℕ) :
    ∃ drive', drive.fillAll raw (2 ^ k) rooms = .ok drive' ∧ Drove k raw converter drive' := by
  unfold Drive.fillAll
  induction rooms generalizing drive with
  | nil => exact ⟨drive, rfl, hdrive⟩
  | cons room rooms ih =>
    obtain ⟨drive₁, hfill, hdrive₁, _⟩ := drove_fill hk h hdrive room
    obtain ⟨drive', hrest, hdrive'⟩ := ih hdrive₁
    refine ⟨drive', ?_, hdrive'⟩
    rw [List.foldlM_cons, hfill]
    exact hrest

/-- When a call on a non-empty slice consumes nothing, there are no whole groups left. -/
theorem drained {k consumed room : ℕ} {raw : List UInt8} (hwhole : 8 * 2 ^ k ∣ consumed)
    (hinside : consumed ≤ raw.length) (hroom : 0 < room)
    (h : groupsOf k (raw.drop consumed) room = 0) :
    consumed = raw.length / (8 * 2 ^ k) * (8 * 2 ^ k) := by
  have hpower : 0 < 2 ^ k := Nat.two_pow_pos k
  have hgroups : (raw.drop consumed).length / (8 * 2 ^ k) = 0 := by
    unfold groupsOf at h
    omega
  obtain ⟨groups, rfl⟩ := hwhole
  have hlt : raw.length - 8 * 2 ^ k * groups < 8 * 2 ^ k := by
    rw [List.length_drop] at hgroups
    exact (Nat.div_eq_zero_iff_lt (by omega)).mp hgroups
  have hquotient : raw.length / (8 * 2 ^ k) = groups := by
    apply Nat.div_eq_of_lt_le
    · rw [Nat.mul_comm]
      exact hinside
    · rw [Nat.mul_comm, Nat.mul_succ]
      omega
  rw [hquotient, Nat.mul_comm]

/-- A single call with room for everything. -/
theorem single_call {k : ℕ} (hk : k ≤ 6) {converter : Float32IqConverter F}
    (h : ConverterValid converter) (raw : List UInt8) {room : ℕ}
    (hroom : 2 * (raw.length / (8 * 2 ^ k)) ≤ room) :
    ∃ converter' progress samples,
      converter.processU16leToF32iqSlice raw (2 ^ k) room = .ok (converter', progress, samples) ∧
      Drove k raw converter ⟨converter', progress.consumedBytes, none, samples⟩ ∧
      progress.consumedBytes = raw.length / (8 * 2 ^ k) * (8 * 2 ^ k) := by
  have hpower : 0 < 2 ^ k := Nat.two_pow_pos k
  obtain ⟨converter', progress, samples, hcall, hvalid, hconverts, hconsumed, hunused, hconvert⟩ :=
    sliceCall_ok hk h raw room
  have hgroups : groupsOf k raw room = raw.length / (8 * 2 ^ k) := by
    unfold groupsOf
    omega
  have hcount : progress.consumedBytes / (4 * 2 ^ k) = 2 * groupsOf k raw room := by
    rw [hconsumed, groups_samples]
  have hpending : progress.pending = none := by
    have hproduced := hconverts.produced
    rw [hconverts.returned, hconverts.written, hcount] at hproduced
    apply Option.eq_none_iff_forall_ne_some.mpr
    intro sample hsome
    rw [hsome, Option.toList_some, List.length_singleton] at hproduced
    omega
  refine ⟨converter', progress, samples, hcall, ?_, by rw [hconsumed, hgroups, Nat.mul_comm]⟩
  refine ⟨hvalid, hconverts.inside, hconverts.whole, hunused, ?_⟩
  rw [hconvert, hpending]

omit [SampleArithmetic F] in
/-- The filters of a converter and its stages that a factor does not use are all its filters. -/
theorem filters_all {k : ℕ} {converter converter' : Float32IqConverter F}
    (hfilters : filters k converter = filters k converter')
    (hunused : converter.decimationStages.drop k = converter'.decimationStages.drop k) :
    front converter = front converter' ∧
      converter.decimationStages = converter'.decimationStages := by
  obtain ⟨hfront, hstages⟩ := Prod.mk.inj hfilters
  refine ⟨hfront, ?_⟩
  rw [← List.take_append_drop k converter.decimationStages, hstages, hunused,
    List.take_append_drop]

/-- Two conversions of the same bytes deliver the same samples and leave the same filters. -/
theorem drives_agree {k : ℕ} {raw : List UInt8} {converter : Float32IqConverter F}
    {drive other : Drive F} (hdrive : Drove k raw converter drive)
    (hother : Drove k raw converter other) (hconsumed : drive.consumed = other.consumed)
    (hpending : drive.pending = none) (hpending' : other.pending = none) :
    drive.delivered = other.delivered ∧ front drive.converter = front other.converter ∧
      drive.converter.decimationStages = other.converter.decimationStages := by
  have hconverted := hdrive.converted
  rw [hconsumed, hother.converted, hpending, hpending'] at hconverted
  obtain ⟨hfilters, hsamples⟩ := Prod.mk.inj (Except.ok.inj hconverted)
  simp only [Option.toList_none, List.append_nil] at hsamples
  obtain ⟨hfront, hstages⟩ := filters_all hfilters (hother.unused.trans hdrive.unused.symm)
  exact ⟨hsamples.symm, hfront.symm, hstages.symm⟩

/-- What was delivered when no sample is carried over. -/
theorem delivered_length {k : ℕ} (hk : k ≤ 6) {raw : List UInt8} {converter : Float32IqConverter F}
    (h : ConverterValid converter) {drive : Drive F} (hdrive : Drove k raw converter drive)
    (hpending : drive.pending = none) :
    drive.delivered.length = drive.consumed / (4 * 2 ^ k) := by
  obtain ⟨groups, hgroups⟩ := hdrive.whole
  have hlength := convert_length (filtersValid hk h)
    (by rw [List.length_take, Nat.min_eq_left hdrive.inside, hgroups]) hdrive.converted
  rw [hpending, Option.toList_none, List.append_nil] at hlength
  rw [hlength, hgroups, groups_samples]

/-- **Slice conversion is independent of slicing.**  No call panics, and each is as `Converts` says.
Once a call on what is left of a slice consumes nothing, the slices hold what a single call with
room for everything writes, and the converter differs from that call's in its scratch buffers
only. -/
theorem slicing_independent {converter : Float32IqConverter F} (h : ConverterValid converter)
    (raw : List UInt8) {factor : ℕ} (hfactor : factor ∈ decimationFactors) (rooms : List ℕ) :
    ∃ drive, (Drive.start converter).fillAll raw factor rooms = .ok drive ∧ ∀ room,
      (∃ converter' progress samples,
        drive.converter.processU16leToF32iqSlice (raw.drop drive.consumed) factor
          (drive.rest room) = .ok (converter', progress, samples) ∧
        Converts (raw.drop drive.consumed) factor (drive.rest room) progress samples ∧
        (progress.pending.isSome = true ↔
          progress.consumedBytes / (4 * factor) = progress.written + 1)) ∧
      ∃ last, drive.fill raw factor room = .ok last ∧
        (0 < drive.rest room → last.consumed = drive.consumed →
          last.pending = none ∧
          last.consumed = raw.length / (8 * factor) * (8 * factor) ∧
          last.delivered.length = last.consumed / (4 * factor) ∧
          ∀ large, 2 * (raw.length / (8 * factor)) ≤ large → ∃ single progress,
            converter.processU16leToF32iqSlice raw factor large =
              .ok (single, progress, last.delivered) ∧
            progress.consumedBytes = last.consumed ∧
            front last.converter = front single ∧
            last.converter.decimationStages = single.decimationStages) := by
  obtain ⟨k, hk, rfl⟩ := mem_decimationFactors.mp hfactor
  obtain ⟨drive, hrun, hdrive⟩ := drove_fillAll hk h (drove_start hk h raw) rooms
  refine ⟨drive, hrun, fun room => ⟨?_, ?_⟩⟩
  · obtain ⟨converter', progress, samples, hcall, _, hconverts, _⟩ :=
      sliceCall_ok hk hdrive.valid (raw.drop drive.consumed) (drive.rest room)
    exact ⟨converter', progress, samples, hcall, hconverts, hconverts.pending_iff⟩
  · obtain ⟨last, hfill, hlast, hended⟩ := drove_fill hk h hdrive room
    refine ⟨last, hfill, ?_⟩
    intro hroom hnothing
    have hroom' : 0 < room := Nat.lt_of_lt_of_le hroom (Nat.sub_le _ _)
    obtain ⟨hpending, hgroups⟩ := hended hroom' hnothing
    have hconsumed := drained hdrive.whole hdrive.inside hroom hgroups
    rw [← hnothing] at hconsumed
    refine ⟨hpending, hconsumed, delivered_length hk h hlast hpending, ?_⟩
    intro large hlarge
    obtain ⟨single, progress, samples, hcall, hsingle, hall⟩ := single_call hk h raw hlarge
    obtain ⟨hsamples, hfront, hstages⟩ :=
      drives_agree hlast hsingle (hconsumed.trans hall.symm) hpending rfl
    exact ⟨single, progress, by rw [hcall, hsamples], hall.trans hconsumed.symm, hfront, hstages⟩

/-- Three slices, the second of them filled by the sample carried over from the first. -/
theorem threeSlices_independent : ∃ drive : Drive Rat,
    (Drive.start Float32IqConverter.default).fillAll (List.replicate 35 7) 2 [1, 1] =
      .ok drive := by
  have h := slicing_independent (@converterValid_default Rat _) (List.replicate 35 7)
    (show 2 ∈ decimationFactors by simp [decimationFactors]) [1, 1]
  obtain ⟨drive, hrun, _⟩ := h
  exact ⟨drive, hrun⟩

end HydraSdr.Analysis.SliceConversion
