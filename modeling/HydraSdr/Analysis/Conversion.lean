import HydraSdr.Analysis.Decimation
import HydraSdr.Program.Converter

/-!
# Conversion is a streaming function

The front end of the converter and its stages, as one function of the bytes they are fed with, and
what a call of `process_u16le_to_f32iq_slice` does in terms of that function.
-/

set_option autoImplicit false

namespace HydraSdr.Analysis

open HydraSdr.Program HydraSdr.Computation

variable {F : Type}

/-! ## The front end -/

/-- The converter without its stages and scratch buffers. -/
def front (converter : Float32IqConverter F) : Float32IqConverter F :=
  { converter with decimationStages := [], scratchA := [], scratchB := [] }

/-- The converter with other stages and scratch buffers. -/
def equip (stages : List (DecimationStage F)) (a b : List F) (converter : Float32IqConverter F) :
    Float32IqConverter F :=
  { converter with decimationStages := stages, scratchA := a, scratchB := b }

/-- The rings of the front end have their sizes, its indices are inside, and there is nothing
else. -/
structure FrontValid (converter : Float32IqConverter F) : Prop where
  bare : front converter = converter
  kernel : converter.firKernel.length = 24
  queue : converter.firQueue.length = 1024
  index : converter.firIndex < 512
  line : converter.delayLine.length = 16
  delay : converter.delayIndex < 12

theorem bare_of_same {converter converter' : Float32IqConverter F}
    (h : front converter = converter)
    (hstages : converter'.decimationStages = converter.decimationStages)
    (ha : converter'.scratchA = converter.scratchA) (hb : converter'.scratchB = converter.scratchB) :
    front converter' = converter' := by
  have hstages' : converter'.decimationStages = [] := by rw [hstages, ← h]; rfl
  have ha' : converter'.scratchA = [] := by rw [ha, ← h]; rfl
  have hb' : converter'.scratchB = [] := by rw [hb, ← h]; rfl
  cases converter'
  cases hstages'
  cases ha'
  cases hb'
  rfl

theorem foldlM_ok {σ ι : Type} {f : σ → ι → Checked σ} {items : List ι}
    (h : ∀ s, ∀ item ∈ items, ∃ s', f s item = .ok s') (s : σ) :
    ∃ s', items.foldlM f s = .ok s' := by
  induction items generalizing s with
  | nil => exact ⟨s, rfl⟩
  | cons item items ih =>
    obtain ⟨s₁, hs₁⟩ := h s item List.mem_cons_self
    obtain ⟨s₂, hs₂⟩ := ih (fun s other hother => h s other (List.mem_cons_of_mem item hother)) s₁
    refine ⟨s₂, ?_⟩
    rw [List.foldlM_cons, hs₁]
    exact hs₂

variable [SampleArithmetic F]

theorem frontValid_default : FrontValid (front (Float32IqConverter.default : Float32IqConverter F))
    where
  bare := rfl
  kernel := rfl
  queue := List.length_replicate
  index := show 0 < 512 by decide
  line := List.length_replicate
  delay := show 0 < 12 by decide

theorem pushFir_ok {converter : Float32IqConverter F} (h : FrontValid converter) (value : F) :
    ∃ converter' acc, converter.pushFir value = .ok (converter', acc) ∧ FrontValid converter' := by
  have hindex := h.index
  have hmask : (converter.firIndex + 1) &&& FIR_MASK < 512 :=
    lt_of_le_of_lt Nat.and_le_right (by decide)
  have hsize : FIR_HISTORY_SIZE = 512 := rfl
  have hfirst : converter.firIndex < converter.firQueue.length := by
    rw [h.queue]
    omega
  generalize hqueue : (converter.firQueue.set converter.firIndex value).set
    (converter.firIndex + FIR_HISTORY_SIZE) value = queue
  have hlength : queue.length = 1024 := by
    rw [← hqueue, List.length_set, List.length_set, h.queue]
  obtain ⟨acc, hacc⟩ := @foldlM_ok F ℕ (fun acc i => do
      let coefficient ← fetch converter.firKernel i
      let a ← fetch queue (converter.firIndex + 512 - 24 + 1 + i)
      let b ← fetch queue (← checkedSub (converter.firIndex + 512 - 24 + 1 + 24) (1 + i))
      pure (acc + coefficient * (a + b))) (List.range 12) (fun acc i hi => by
    have hlt := List.mem_range.mp hi
    obtain ⟨coefficient, hcoefficient⟩ := @fetch_ok _ converter.firKernel i (by rw [h.kernel]; omega)
    obtain ⟨a, ha⟩ := @fetch_ok _ queue (converter.firIndex + 512 - 24 + 1 + i)
      (by rw [hlength]; omega)
    obtain ⟨b, hb⟩ := @fetch_ok _ queue (converter.firIndex + 512 - 24 + 1 + 24 - (1 + i))
      (by rw [hlength]; omega)
    have hsub := @checkedSub_ok (converter.firIndex + 512 - 24 + 1 + 24) (1 + i) (by omega)
    refine ⟨acc + coefficient * (a + b), ?_⟩
    simp only [hcoefficient, ha, hsub, hb, bind, Except.bind, pure, Except.pure])
    (SampleArithmetic.constant 0 0)
  refine ⟨{ converter with
      firQueue := queue
      firIndex := (converter.firIndex + 1) &&& FIR_MASK }, acc, ?_,
    ⟨bare_of_same h.bare rfl rfl rfl, h.kernel, hlength, hmask, h.line, h.delay⟩⟩
  unfold Float32IqConverter.pushFir
  dsimp only
  rw [store_ok hfirst]
  dsimp only [bind, Except.bind]
  rw [store_ok (by rw [List.length_set, h.queue]; omega)]
  dsimp only
  rw [hqueue, h.kernel, hsize, checkedSub_ok (by omega)]
  dsimp only [bind, Except.bind] at hacc ⊢
  rw [hacc]
  rfl

omit [SampleArithmetic F] in
theorem pushDelay_ok {converter : Float32IqConverter F} (h : FrontValid converter) (value : F) :
    ∃ converter' out, converter.pushDelay value = .ok (converter', out) ∧ FrontValid converter' := by
  have hdelay := h.delay
  have hline := h.line
  obtain ⟨out, hout⟩ := @fetch_ok _ converter.delayLine converter.delayIndex (by omega)
  refine ⟨{ converter with
      delayLine := converter.delayLine.set converter.delayIndex value
      delayIndex := if Q_DELAY_LEN ≤ converter.delayIndex + 1 then 0 else converter.delayIndex + 1 },
    out, ?_, ⟨bare_of_same h.bare rfl rfl rfl, h.kernel, h.queue, h.index,
      (List.length_set ..).trans h.line, ?_⟩⟩
  · unfold Float32IqConverter.pushDelay
    rw [hout]
    dsimp only [bind, Except.bind]
    rw [store_ok (by omega)]
    rfl
  · have hlength : Q_DELAY_LEN = 12 := rfl
    dsimp only
    split
    · decide
    · omega

theorem removeDc_valid {converter : Float32IqConverter F} (h : FrontValid converter)
    (sample : UInt16) : FrontValid (converter.removeDc sample).1 :=
  ⟨bare_of_same h.bare rfl rfl rfl, h.kernel, h.queue, h.index, h.line, h.delay⟩

theorem u16FromLeBytes_ok {bytes : List UInt8} {index : ℕ} (h : index + 1 < bytes.length) :
    ∃ sample, u16FromLeBytes bytes index = .ok sample := by
  obtain ⟨low, hlow⟩ := @fetch_ok _ bytes index (by omega)
  obtain ⟨high, hhigh⟩ := @fetch_ok _ bytes (index + 1) h
  refine ⟨low.toUInt16 + 256 * high.toUInt16, ?_⟩
  unfold u16FromLeBytes
  simp only [hlow, hhigh, bind, Except.bind, pure, Except.pure]

/-- **A group of four samples is converted inside the rings.** -/
theorem convertAdcChunk_ok {converter : Float32IqConverter F} (h : FrontValid converter)
    {chunk : List UInt8} (hchunk : chunk.length = 8) :
    ∃ converter' quad, converter.convertAdcChunk chunk = .ok (converter', quad) ∧
      FrontValid converter' := by
  obtain ⟨s0, h0⟩ := @u16FromLeBytes_ok chunk 0 (by omega)
  obtain ⟨s1, h1⟩ := @u16FromLeBytes_ok chunk 2 (by omega)
  obtain ⟨s2, h2⟩ := @u16FromLeBytes_ok chunk 4 (by omega)
  obtain ⟨s3, h3⟩ := @u16FromLeBytes_ok chunk 6 (by omega)
  have hdc := removeDc_valid (removeDc_valid (removeDc_valid (removeDc_valid h s0) s1) s2) s3
  obtain ⟨c1, acc0, hfir0, hc1⟩ := pushFir_ok hdc (-(converter.removeDc s0).2)
  obtain ⟨c2, acc1, hfir1, hc2⟩ := pushFir_ok hc1
    (((converter.removeDc s0).1.removeDc s1).1.removeDc s2).2
  obtain ⟨c3, q0, hdelay0, hc3⟩ := pushDelay_ok hc2
    (-((converter.removeDc s0).1.removeDc s1).2 * SampleArithmetic.constant 5 1)
  obtain ⟨c4, q1, hdelay1, hc4⟩ := pushDelay_ok hc3
    (((((converter.removeDc s0).1.removeDc s1).1.removeDc s2).1.removeDc s3).2 *
      SampleArithmetic.constant 5 1)
  refine ⟨c4, ⟨acc0, q0, acc1, q1⟩, ?_, hc4⟩
  unfold Float32IqConverter.convertAdcChunk
  simp only [h0, h1, h2, h3, bind, Except.bind, pure, Except.pure, hfir0, hfir1, hdelay0, hdelay1]

/-! ## The front end does not depend on the rest -/

theorem pushFir_equip (stages : List (DecimationStage F)) (a b : List F)
    (converter : Float32IqConverter F) (value : F) :
    (equip stages a b converter).pushFir value =
      (fun outcome => (equip stages a b outcome.1, outcome.2)) <$> converter.pushFir value := by
  simp only [Float32IqConverter.pushFir, equip, map_bind, map_pure]

omit [SampleArithmetic F] in
theorem pushDelay_equip (stages : List (DecimationStage F)) (a b : List F)
    (converter : Float32IqConverter F) (value : F) :
    (equip stages a b converter).pushDelay value =
      (fun outcome => (equip stages a b outcome.1, outcome.2)) <$> converter.pushDelay value := by
  simp only [Float32IqConverter.pushDelay, equip, map_bind, map_pure]
  rfl

theorem removeDc_equip (stages : List (DecimationStage F)) (a b : List F)
    (converter : Float32IqConverter F) (sample : UInt16) :
    (equip stages a b converter).removeDc sample =
      (equip stages a b (converter.removeDc sample).1, (converter.removeDc sample).2) := rfl

theorem convertAdcChunk_equip (stages : List (DecimationStage F)) (a b : List F)
    (converter : Float32IqConverter F) (chunk : List UInt8) :
    (equip stages a b converter).convertAdcChunk chunk =
      (fun outcome => (equip stages a b outcome.1, outcome.2)) <$>
        converter.convertAdcChunk chunk := by
  simp only [Float32IqConverter.convertAdcChunk, removeDc_equip, pushFir_equip, pushDelay_equip,
    map_bind, bind_map_left, map_pure]

/-! ## Streaming -/

/-- One group of the front end. -/
def frontStep (converter : Float32IqConverter F) (chunk : List UInt8) :
    Checked (Float32IqConverter F × List (Quad F)) :=
  (converter.convertAdcChunk chunk).map fun (converter, quad) => (converter, [quad])

/-- The front end: four values for each four samples. -/
def frontEnd (converter : Float32IqConverter F) (raw : List UInt8) :
    Checked (Float32IqConverter F × List F) :=
  (feed frontStep converter (asChunks 8 raw)).map fun (converter, quads) =>
    (converter, quads.flatMap Quad.toList)

theorem frontEnd_streams : Streams (@FrontValid F) 8 4 (@frontEnd F _) := by
  have hquads : Streams (@FrontValid F) 8 1 fun converter raw =>
      feed frontStep converter (asChunks 8 raw) :=
    streams_feed (splits_asChunks (by decide)) fun converter chunk hconverter hchunk => by
      obtain ⟨converter', quad, hok, hvalid⟩ := convertAdcChunk_ok hconverter hchunk
      refine ⟨converter', [quad], ?_, hvalid, rfl⟩
      unfold frontStep
      rw [hok]
      rfl
  exact @Streams.regroup _ _ _ _ _ _ 8 1 4 _ hquads (by decide) (by decide)
    (fun quads => quads.flatMap Quad.toList) rfl
    (fun quads _ => by rw [Nat.one_mul]; exact length_flatMap_toList quads)
    (fun quads _ more => List.flatMap_append)

/-- What is converted so far: the front end, and the stages in use. -/
abbrev Filters (F : Type) := Float32IqConverter F × List (DecimationStage F)

/-- The conversion of bytes into IQ samples. -/
def convert (filters : Filters F) (raw : List UInt8) : Checked (Filters F × List (Complex F)) :=
  (andThen frontEnd cascade filters raw).map fun (filters, values) => (filters, complexes values)

/-- The filters that decimate by `2 ^ k` are valid. -/
def FiltersValid (k : ℕ) (filters : Filters F) : Prop :=
  FrontValid filters.1 ∧ StagesValid k filters.2

/-- **Conversion streams**: with a decimation of `2 ^ k`, `8 * 2 ^ k` bytes give two samples. -/
theorem convert_streams (k : ℕ) : Streams (@FiltersValid F k) (8 * 2 ^ k) 2 convert := by
  have hpower : 0 < 2 ^ k := Nat.two_pow_pos k
  have hvalues := (frontEnd_streams.scale (2 ^ k)).andThen (@cascade_streams F _ k) (by omega)
    (by omega)
  refine hvalues.regroup (by omega) (by decide) rfl (fun values hvalues => ?_)
    fun values hvalues more => complexes_append values (dvd_trans (by decide) hvalues) more
  rw [length_complexes]
  omega

/-! ## The steps of a call -/

/-- A loop over groups converts with whatever stages and scratch buffers there are. -/
theorem frontStep_equip (stages : List (DecimationStage F)) (a b : List F)
    (converter : Float32IqConverter F) (chunk : List UInt8) :
    (equip stages a b converter).convertAdcChunk chunk =
      (converter.convertAdcChunk chunk).map fun (converter, quad) =>
        (equip stages a b converter, quad) :=
  convertAdcChunk_equip stages a b converter chunk

/-- The baseband goes to the first scratch buffer. -/
theorem processBasebandToScratch_eq (converter : Float32IqConverter F) (raw : List UInt8) :
    converter.processBasebandToScratch raw =
      (frontEnd (front converter) raw).map fun (filtered, values) =>
        equip converter.decimationStages values converter.scratchB filtered := by
  refine (foldlM_feed frontStep (fun filtered quads =>
    equip converter.decimationStages (quads.flatMap Quad.toList) converter.scratchB filtered)
    (fun filtered quads chunk => ?_) (asChunks 8 raw) (front converter) []).trans ?_
  · rw [frontStep_equip]
    unfold frontStep
    cases filtered.convertAdcChunk chunk with
    | error panic => rfl
    | ok outcome =>
      show Except.ok _ = Except.ok (equip _ ((quads ++ [outcome.2]).flatMap Quad.toList) _ _)
      rw [List.flatMap_append, List.flatMap_singleton]
      rfl
  · unfold frontEnd
    cases feed frontStep (front converter) (asChunks 8 raw) <;> rfl

/-- A group of the front end gives two samples. -/
def samplesOf (quad : Quad F) : List (Complex F) := [⟨quad.i0, quad.q0⟩, ⟨quad.i1, quad.q1⟩]

omit [SampleArithmetic F] in
theorem complexes_flatMap (quads : List (Quad F)) :
    complexes (quads.flatMap Quad.toList) = quads.flatMap samplesOf := by
  induction quads with
  | nil => rfl
  | cons quad quads ih =>
    rw [List.flatMap_cons, List.flatMap_cons, ← ih]
    rfl

omit [SampleArithmetic F] in
theorem length_flatMap_samplesOf (quads : List (Quad F)) :
    (quads.flatMap samplesOf).length = 2 * quads.length := by
  rw [← complexes_flatMap, length_complexes, length_flatMap_toList]
  omega

theorem frontStep_length (converter : Float32IqConverter F) (chunk : List UInt8)
    (converter' : Float32IqConverter F) (quads : List (Quad F))
    (h : frontStep converter chunk = .ok (converter', quads)) : quads.length = 1 := by
  obtain ⟨outcome, _, hboth⟩ := map_ok h
  obtain ⟨_, rfl⟩ := Prod.mk.inj hboth
  rfl

/-- **The baseband goes to the output**: what fits, and the sample that does not. -/
theorem processBasebandToComplex_eq {converter filtered : Float32IqConverter F} {raw : List UInt8}
    {values : List F} (h : frontEnd (front converter) raw = .ok (filtered, values)) {room : ℕ}
    (hroom : (complexes values).length = room + room % 2) :
    converter.processBasebandToComplex raw room =
      .ok (equip converter.decimationStages converter.scratchA converter.scratchB filtered,
        (complexes values).take room, (complexes values)[room]?) := by
  obtain ⟨⟨last, quads⟩, hquads, hboth⟩ := map_ok h
  obtain ⟨rfl, rfl⟩ := Prod.mk.inj hboth
  have hcount := feed_length frontStep_length hquads
  rw [complexes_flatMap] at hroom ⊢
  rw [length_flatMap_samplesOf] at hroom
  -- the loop over whole pairs of slots
  have hloop : ∀ chunks filtered' quads', feed frontStep (front converter) chunks =
      .ok (filtered', quads') →
      chunks.foldlM (fun (acc : Float32IqConverter F × List (Complex F)) chunk => (do
        let (converter, quad) ← acc.1.convertAdcChunk chunk
        pure (converter, acc.2 ++ [⟨quad.i0, quad.q0⟩, ⟨quad.i1, quad.q1⟩]) :
          Checked (Float32IqConverter F × List (Complex F)))) (converter, []) =
      .ok (equip converter.decimationStages converter.scratchA converter.scratchB filtered',
        quads'.flatMap samplesOf) := by
    intro chunks filtered' quads' hfeed
    refine (foldlM_feed frontStep (fun filtered quads =>
      (equip converter.decimationStages converter.scratchA converter.scratchB filtered,
        quads.flatMap samplesOf)) (fun filtered quads chunk => ?_) chunks (front converter)
      []).trans ?_
    · dsimp only
      rw [frontStep_equip]
      unfold frontStep
      cases filtered.convertAdcChunk chunk with
      | error panic => rfl
      | ok outcome =>
        show Except.ok _ = Except.ok (_, (quads ++ [outcome.2]).flatMap samplesOf)
        rw [List.flatMap_append, List.flatMap_singleton]
        rfl
    · rw [hfeed]
      rfl
  have hchunks : (asChunks 8 raw).length = room / 2 + room % 2 := by omega
  have hassert : debugAssert ((asChunks 8 raw).length = room / 2 + room % 2) = .ok () := by
    rw [hchunks]
    exact if_pos (decide_eq_true rfl)
  unfold Float32IqConverter.processBasebandToComplex
  dsimp only [bind, Except.bind] at hloop ⊢
  rw [hassert]
  dsimp only
  by_cases heven : room % 2 = 0
  · have hwhole : (asChunks 8 raw).take (room / 2) = asChunks 8 raw :=
      List.take_of_length_le (by omega)
    have hfits : (quads.flatMap samplesOf).length ≤ room := by
      rw [length_flatMap_samplesOf]
      omega
    rw [hwhole, hloop _ _ _ hquads]
    dsimp only
    rw [if_pos heven, List.take_of_length_le hfits, List.getElem?_eq_none hfits]
    rfl
  · -- the last group goes to the odd slot
    obtain ⟨chunk, hchunk⟩ : ∃ chunk, (asChunks 8 raw).drop (room / 2) = [chunk] :=
      List.length_eq_one_iff.mp (by rw [List.length_drop]; omega)
    have hsplit : asChunks 8 raw = (asChunks 8 raw).take (room / 2) ++ [chunk] := by
      rw [← hchunk, List.take_append_drop]
    have hlast : fetch (asChunks 8 raw) ((asChunks 8 raw).length - 1) = .ok chunk := by
      have hget : (asChunks 8 raw)[(asChunks 8 raw).length - 1]? = some chunk := by
        have hindex : (asChunks 8 raw).length - 1 = room / 2 + 0 := by omega
        rw [hindex, ← List.getElem?_drop, hchunk]
        rfl
      unfold fetch
      rw [hget]
    rw [hsplit] at hquads
    obtain ⟨filtered, first, rest, hfirst, hrest, rfl⟩ := feed_append_inv hquads
    obtain ⟨filtered', quad, none, hquad, hnone, rfl⟩ := feed_cons_inv hrest
    obtain ⟨rfl, rfl⟩ := Prod.mk.inj (Except.ok.inj hnone)
    obtain ⟨⟨filtered'', quad'⟩, hconvert, hpair⟩ := map_ok hquad
    obtain ⟨rfl, rfl⟩ := Prod.mk.inj hpair
    have hfit : (first.flatMap samplesOf).length + 1 = room := by
      rw [length_flatMap_samplesOf]
      rw [List.length_append, List.length_append, List.length_singleton, List.length_nil] at hroom
      omega
    rw [hloop _ _ _ hfirst]
    dsimp only
    rw [if_neg heven, checkedSub_ok (by omega)]
    dsimp only
    rw [hlast]
    dsimp only
    rw [frontStep_equip, hconvert]
    have hsamples : (first ++ ([quad'] ++ [])).flatMap samplesOf =
        first.flatMap samplesOf ++ [⟨quad'.i0, quad'.q0⟩] ++ [⟨quad'.i1, quad'.q1⟩] := by
      rw [List.append_nil, List.flatMap_append, List.flatMap_singleton, List.append_assoc]
      rfl
    have hroom' : (first.flatMap samplesOf ++ [(⟨quad'.i0, quad'.q0⟩ : Complex F)]).length = room := by
      rw [List.length_append, List.length_singleton, hfit]
    rw [hsamples, List.take_left' hroom', List.getElem?_append_right (by omega), hroom', Nat.sub_self]
    rfl

theorem fetch_middle {α : Type} {before : List α} {index : ℕ} (h : before.length = index) (x : α)
    (behind : List α) : fetch (before ++ x :: behind) index = .ok x := by
  subst h
  unfold fetch
  rw [List.getElem?_append_right (Nat.le_refl _), Nat.sub_self]
  rfl

theorem store_middle {α : Type} {before : List α} {index : ℕ} (h : before.length = index) (x y : α)
    (behind : List α) :
    store (before ++ x :: behind) index y = .ok (before ++ y :: behind) := by
  subst h
  rw [store_ok (by rw [List.length_append, List.length_cons]; omega),
    List.set_append_right _ _ (Nat.le_refl _), Nat.sub_self]
  rfl

/-- The intermediate stages take turns with the scratch buffers. -/
theorem processIntermediate_eq (converter : Float32IqConverter F) {numStages : ℕ}
    (hstages : numStages ≤ converter.decimationStages.length) {done : List (DecimationStage F)}
    {values : List F}
    (h : cascade (converter.decimationStages.take numStages) converter.scratchA =
      .ok (done, values)) :
    ∃ converter' sourceIsA,
      converter.processIntermediateDecimationStages numStages = .ok (converter', sourceIsA) ∧
      front converter' = front converter ∧
      converter'.decimationStages = done ++ converter.decimationStages.drop numStages ∧
      (if sourceIsA then converter'.scratchA else converter'.scratchB) = values := by
  induction numStages generalizing done values with
  | zero =>
    obtain ⟨rfl, rfl⟩ := Prod.mk.inj (Except.ok.inj h)
    exact ⟨converter, true, rfl, rfl, rfl, rfl⟩
  | succ numStages ih =>
    rw [List.take_succ_eq_append_getElem hstages] at h
    obtain ⟨stages', last', mid, hbefore, hlast, rfl⟩ := cascade_append h
    obtain ⟨converter', sourceIsA, hrun, hfront, hdone, hsource⟩ := ih (by omega) hbefore
    have hlength : stages'.length = numStages := by
      rw [cascade_length hbefore, List.length_take]
      omega
    rw [List.drop_eq_getElem_cons hstages] at hdone
    have hfetch : fetch converter'.decimationStages numStages =
        .ok converter.decimationStages[numStages] := by
      rw [hdone]
      exact fetch_middle hlength _ _
    have hstore : store converter'.decimationStages numStages last' =
        .ok (stages' ++ last' :: converter.decimationStages.drop (numStages + 1)) := by
      rw [hdone]
      exact store_middle hlength _ _ _
    have hturn : ∃ converter'' sourceIsA', converter'.processIntermediateStage sourceIsA numStages =
        .ok (converter'', sourceIsA') ∧ front converter'' = front converter' ∧
        converter''.decimationStages =
          stages' ++ last' :: converter.decimationStages.drop (numStages + 1) ∧
        (if sourceIsA' then converter''.scratchA else converter''.scratchB) = values := by
      unfold Float32IqConverter.processIntermediateStage
      rw [hfetch]
      dsimp only [bind, Except.bind]
      rw [hsource, hlast]
      dsimp only
      rw [hstore]
      cases sourceIsA with
      | true => exact ⟨_, _, rfl, rfl, rfl, rfl⟩
      | false => exact ⟨_, _, rfl, rfl, rfl, rfl⟩
    obtain ⟨converter'', sourceIsA', hstep, hfront', hdone', hsource'⟩ := hturn
    refine ⟨converter'', sourceIsA', ?_, hfront'.trans hfront, ?_, hsource'⟩
    · unfold Float32IqConverter.processIntermediateDecimationStages at hrun ⊢
      rw [List.range_succ, List.foldlM_append, hrun]
      show (converter'.processIntermediateStage sourceIsA numStages >>= pure) = _
      rw [hstep]
      rfl
    · rw [hdone', List.append_assoc]
      rfl

/-- **The decimated baseband goes to the output**: what fits, and the sample that does not. -/
theorem processDecimated_eq {converter filtered : Float32IqConverter F} {raw : List UInt8}
    {baseband values : List F} {k : ℕ} (hk : k + 1 ≤ 6)
    (hstages : k + 1 ≤ converter.decimationStages.length)
    (hfront : frontEnd (front converter) raw = .ok (filtered, baseband))
    {done : List (DecimationStage F)}
    (hcascade : cascade (converter.decimationStages.take (k + 1)) baseband = .ok (done, values))
    {room : ℕ} (hroom : (complexes values).length = room + room % 2) :
    ∃ converter', converter.processDecimated raw (2 ^ (k + 1)) room =
        .ok (converter', (complexes values).take room, (complexes values)[room]?) ∧
      front converter' = front filtered ∧
      converter'.decimationStages = done ++ converter.decimationStages.drop (k + 1) := by
  have hzeros : trailingZeros (2 ^ (k + 1)) = k + 1 := by
    have hall : ∀ j ≤ 6, trailingZeros (2 ^ j) = j := by decide
    exact hall (k + 1) hk
  rw [List.take_succ_eq_append_getElem hstages] at hcascade
  obtain ⟨stages', last', mid, hbefore, hlast, rfl⟩ := cascade_append hcascade
  have hlength : stages'.length = k := by
    rw [cascade_length hbefore, List.length_take]
    omega
  obtain ⟨converter', sourceIsA, hrun, hfront', hdone, hsource⟩ :=
    processIntermediate_eq (equip converter.decimationStages baseband converter.scratchB filtered)
      (Nat.le_of_succ_le hstages) hbefore
  have hdone' : converter'.decimationStages =
      stages' ++ converter.decimationStages[k] :: converter.decimationStages.drop (k + 1) := by
    rw [hdone, ← List.drop_eq_getElem_cons hstages]
    rfl
  have hfetch : fetch converter'.decimationStages k = .ok converter.decimationStages[k] := by
    rw [hdone']
    exact fetch_middle hlength _ _
  have hstore : store converter'.decimationStages k last' =
      .ok (stages' ++ last' :: converter.decimationStages.drop (k + 1)) := by
    rw [hdone']
    exact store_middle hlength _ _ _
  have hfinal : checkedSub (k + 1) 1 = .ok k := checkedSub_ok (Nat.succ_pos k)
  refine ⟨{ converter' with
    decimationStages := stages' ++ last' :: converter.decimationStages.drop (k + 1) }, ?_, hfront', ?_⟩
  · unfold Float32IqConverter.processDecimated
    rw [processBasebandToScratch_eq, hfront, hzeros]
    dsimp only [bind, Except.bind, Except.map]
    rw [hfinal]
    dsimp only
    rw [hrun]
    dsimp only
    rw [hfetch]
    dsimp only
    rw [hsource, processToComplex_eq hlast hroom]
    dsimp only
    rw [hstore]
    rfl
  · rw [List.append_assoc]
    rfl

/-! ## One call -/

/-- The front end of the converter is valid, and so are its stages. -/
structure ConverterValid (converter : Float32IqConverter F) : Prop where
  front : FrontValid (front converter)
  stages : StagesValid 6 converter.decimationStages

theorem converterValid_default : ConverterValid (Float32IqConverter.default : Float32IqConverter F)
    where
  front := frontValid_default
  stages := ⟨rfl, fun stage hstage => by
    obtain ⟨stageNum, _, rfl⟩ := List.mem_map.mp hstage
    exact stageValid_new stageNum⟩

/-- The filters that a decimation by `2 ^ k` uses. -/
def filters (k : ℕ) (converter : Float32IqConverter F) : Filters F :=
  (front converter, converter.decimationStages.take k)

omit [SampleArithmetic F] in
theorem filtersValid {k : ℕ} (hk : k ≤ 6) {converter : Float32IqConverter F}
    (h : ConverterValid converter) : FiltersValid k (filters k converter) := by
  refine ⟨h.front, ?_, fun stage hstage => h.stages.valid stage (List.mem_of_mem_take hstage)⟩
  show (converter.decimationStages.take k).length = k
  rw [List.length_take, h.stages.length]
  omega

omit [SampleArithmetic F] in
/-- A converter is valid again when its filters and the other stages are. -/
theorem converterValid_of_filters {k : ℕ} {converter converter' : Float32IqConverter F}
    {filtered : Filters F} (hfiltered : FiltersValid k filtered) (h : ConverterValid converter)
    (hk : k ≤ 6) (hfront : front converter' = filtered.1)
    (hstages : converter'.decimationStages = filtered.2 ++ converter.decimationStages.drop k) :
    ConverterValid converter' ∧ filters k converter' = filtered ∧
      converter'.decimationStages.drop k = converter.decimationStages.drop k := by
  obtain ⟨hfrontValid, hlength, hvalid⟩ := hfiltered
  refine ⟨⟨by rw [hfront]; exact hfrontValid, ?_, fun stage hstage => ?_⟩, ?_, ?_⟩
  · rw [hstages, List.length_append, List.length_drop, hlength, h.stages.length]
    omega
  · rw [hstages] at hstage
    rcases List.mem_append.mp hstage with hstage | hstage
    · exact hvalid stage hstage
    · exact h.stages.valid stage (List.mem_of_mem_drop hstage)
  · unfold filters
    rw [hfront, hstages, List.take_left' hlength]
  · rw [hstages, List.drop_left' hlength]

/-- The groups of two output samples that a call converts. -/
def groupsOf (k : ℕ) (raw : List UInt8) (room : ℕ) : ℕ :=
  min (raw.length / (8 * 2 ^ k)) ((room + 1) / 2)

/-- The pairs of a call, as it computes them. -/
theorem pairs_eq (k : ℕ) (raw : List UInt8) (room : ℕ) :
    min (raw.length / 2 / (4 * 2 ^ k) * (4 * 2 ^ k) / (2 * 2 ^ k)) ((room + 1) / 2 * 2) =
      2 * groupsOf k raw room := by
  have hpower : 0 < 2 ^ k := Nat.two_pow_pos k
  have havailable : raw.length / 2 / (4 * 2 ^ k) * (4 * 2 ^ k) / (2 * 2 ^ k) =
      2 * (raw.length / (8 * 2 ^ k)) := by
    have hregroup : raw.length / 2 / (4 * 2 ^ k) * (4 * 2 ^ k) =
        2 * (raw.length / (8 * 2 ^ k)) * (2 * 2 ^ k) := by
      rw [Nat.div_div_eq_div_mul, show 2 * (4 * 2 ^ k) = 8 * 2 ^ k by ring]
      ring
    rw [hregroup, Nat.mul_div_cancel _ (by omega)]
  unfold groupsOf
  rw [havailable]
  omega

/-- What goes through the filters of a converter at once. -/
theorem convert_total {k : ℕ} (hk : k ≤ 6) {converter : Float32IqConverter F}
    (h : ConverterValid converter) {raw : List UInt8} (hraw : 8 * 2 ^ k ∣ raw.length) :
    ∃ filtered values done out, frontEnd (front converter) raw = .ok (filtered, values) ∧
      cascade (converter.decimationStages.take k) values = .ok (done, out) ∧
      convert (filters k converter) raw = .ok ((filtered, done), complexes out) ∧
      FiltersValid k (filtered, done) ∧
      8 * 2 ^ k * (complexes out).length = 2 * raw.length := by
  obtain ⟨filtered, samples, hok, hvalid, hlength⟩ :=
    (convert_streams k).total (filters k converter) raw (filtersValid hk h) hraw
  obtain ⟨⟨filtered', out⟩, hboth, hpair⟩ := map_ok (id hok)
  obtain ⟨rfl, rfl⟩ := Prod.mk.inj hpair
  unfold andThen at hboth
  split at hboth
  · exact nomatch hboth
  · rename_i front' values hfront
    obtain ⟨⟨done, out'⟩, hcascade, hpair⟩ := map_ok hboth
    obtain ⟨rfl, rfl⟩ := Prod.mk.inj hpair
    exact ⟨front', values, done, out', hfront, hcascade, hok, hvalid, hlength⟩

omit [SampleArithmetic F] in
/-- The samples of the last group may not all fit. -/
theorem written_eq {samples : List (Complex F)} {groups room : ℕ}
    (hcount : samples.length = 2 * groups) (hgroups : groups ≤ (room + 1) / 2) :
    samples.length = min room (2 * groups) + min room (2 * groups) % 2 ∧
      samples.take (min room (2 * groups)) = samples.take room ∧
      samples[min room (2 * groups)]? = samples[room]? ∧
      (samples[room]?.isSome = true ↔ min room (2 * groups) ≠ 2 * groups) := by
  refine ⟨by omega, ?_, ?_, ?_⟩
  · rw [← hcount]
    exact (List.take_eq_take_min ..).symm
  · rcases Nat.le_total room (2 * groups) with hle | hle
    · rw [Nat.min_eq_left hle]
    · rw [Nat.min_eq_right hle, List.getElem?_eq_none hcount.le,
        List.getElem?_eq_none (hcount.trans_le hle)]
  · rw [isSome_getElem?]
    omega

/-- **One call**: it feeds its filters with a prefix of whole groups of its input, and writes what
fits; one sample may be left over. -/
theorem processU16leToF32iqSlice_eq {k : ℕ} (hk : k ≤ 6) {converter : Float32IqConverter F}
    (h : ConverterValid converter) (raw : List UInt8) (room : ℕ) :
    ∃ converter' samples,
      convert (filters k converter) (raw.take (8 * 2 ^ k * groupsOf k raw room)) =
        .ok (filters k converter', samples) ∧
      ConverterValid converter' ∧
      converter'.decimationStages.drop k = converter.decimationStages.drop k ∧
      converter.processU16leToF32iqSlice raw (2 ^ k) room =
        .ok (converter', ⟨8 * 2 ^ k * groupsOf k raw room, min room (2 * groupsOf k raw room),
          samples[room]?⟩, samples.take room) := by
  have hpower : 0 < 2 ^ k := Nat.two_pow_pos k
  have hmax : max (2 ^ k) 1 = 2 ^ k := Nat.max_eq_left hpower
  have hpairs := pairs_eq k raw room
  have hmin : groupsOf k raw room ≤ raw.length / (8 * 2 ^ k) ∧
      groupsOf k raw room ≤ (room + 1) / 2 := ⟨Nat.min_le_left _ _, Nat.min_le_right _ _⟩
  generalize groupsOf k raw room = groups at hpairs hmin ⊢
  unfold Float32IqConverter.processU16leToF32iqSlice
  by_cases hnone : groups = 0
  · subst hnone
    refine ⟨converter, [], (convert_streams k).nil _ (filtersValid hk h), h, rfl, ?_⟩
    rw [Nat.mul_zero, Nat.mul_zero, Nat.min_zero, List.take_nil, List.getElem?_nil]
    split
    · rfl
    · dsimp only
      rw [hmax, hpairs, if_pos rfl]
  · have hbytes : 8 * 2 ^ k * groups ≤ raw.length :=
      (Nat.mul_le_mul_left _ hmin.1).trans (Nat.mul_div_le _ _)
    have hlength : (raw.take (8 * 2 ^ k * groups)).length = 8 * 2 ^ k * groups := by
      rw [List.length_take]
      omega
    obtain ⟨filtered, values, done, out, hfront, hcascade, hconvert, hvalid, hout⟩ :=
      convert_total hk h (by rw [hlength]; exact Nat.dvd_mul_right _ _)
    have hcount : (complexes out).length = 2 * groups := by
      rw [hlength] at hout
      exact Nat.eq_of_mul_eq_mul_left (by omega : 0 < 8 * 2 ^ k) (by rw [hout]; ring)
    obtain ⟨hwritten, htake, hget, hleft⟩ := written_eq hcount hmin.2
    have hsize : 2 * groups * 2 * 2 ^ k * 2 = 8 * 2 ^ k * groups := by ring
    have hassert : debugAssert (((complexes out)[room]?.isSome = true) =
        (min room (2 * groups) ≠ 2 * groups)) = .ok () :=
      if_pos (decide_eq_true (propext hleft))
    rw [if_neg (by omega)]
    dsimp only
    rw [hmax, hpairs, if_neg (by omega), hsize, if_neg (Nat.not_lt.mpr hbytes)]
    dsimp only [bind, Except.bind]
    cases k with
    | zero =>
      obtain ⟨rfl, rfl⟩ := Prod.mk.inj (Except.ok.inj hcascade)
      obtain ⟨hvalid', hfilters, hunused⟩ := @converterValid_of_filters _ _ converter
        (equip converter.decimationStages converter.scratchA converter.scratchB filtered) _ hvalid h
        hk hvalid.1.bare rfl
      refine ⟨_, complexes values, by rw [hfilters]; exact hconvert, hvalid', hunused, ?_⟩
      rw [if_pos (pow_zero 2), processBasebandToComplex_eq hfront hwritten, htake, hget]
      dsimp only
      rw [hassert]
      rfl
    | succ k =>
      have hfactor : 2 ^ (k + 1) ≠ 1 := by
        have hpos := Nat.two_pow_pos k
        rw [Nat.pow_succ]
        omega
      obtain ⟨converter', hprocess, hfront', hstages'⟩ := processDecimated_eq hk
        (by rw [h.stages.length]; exact hk) hfront hcascade hwritten
      obtain ⟨hvalid', hfilters, hunused⟩ := converterValid_of_filters hvalid h hk
        (hfront'.trans hvalid.1.bare) hstages'
      refine ⟨converter', complexes out, by rw [hfilters]; exact hconvert, hvalid', hunused, ?_⟩
      rw [if_neg hfactor, hprocess, htake, hget]
      dsimp only
      rw [hassert]
      rfl

end HydraSdr.Analysis
