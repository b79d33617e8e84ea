import Mathlib.Tactic.Ring
import HydraSdr.Computation.Streaming
import HydraSdr.Program.Decimator

/-!
# Decimation stages are streaming functions

A stage in a valid state never reads or writes outside its ring, and it does not matter into which
pieces of whole groups its input is cut.  The same is true of stages one after the other.
-/

set_option autoImplicit false

namespace HydraSdr.Analysis

open HydraSdr.Program HydraSdr.Computation

variable {α β ι F : Type}

/-! ## Arrays -/

theorem fetch_ok {xs : List α} {index : ℕ} (h : index < xs.length) :
    ∃ x, fetch xs index = .ok x := by
  unfold fetch
  rw [List.getElem?_eq_getElem h]
  exact ⟨_, rfl⟩

theorem store_ok {xs : List α} {index : ℕ} (h : index < xs.length) (x : α) :
    store xs index x = .ok (xs.set index x) :=
  if_pos h

theorem checkedSub_ok {a b : ℕ} (h : b ≤ a) : checkedSub a b = .ok (a - b) :=
  if_pos h

theorem mapM_ok {f : ι → Checked β} {items : List ι} (h : ∀ item ∈ items, ∃ y, f item = .ok y) :
    ∃ ys, items.mapM f = .ok ys := by
  induction items with
  | nil => exact ⟨[], rfl⟩
  | cons item items ih =>
    obtain ⟨y, hy⟩ := h item List.mem_cons_self
    obtain ⟨ys, hys⟩ := ih fun other hother => h other (List.mem_cons_of_mem item hother)
    refine ⟨y :: ys, ?_⟩
    rw [List.mapM_cons, hy, hys]
    rfl

/-- What fits into a slice, and the element that does not. -/
theorem take_room {xs : List α} {room : ℕ} (h : xs.length ≤ room + 1) :
    xs.take room ++ xs[room]?.toList = xs := by
  rcases Nat.lt_or_ge room xs.length with hlt | hge
  · rw [List.getElem?_eq_getElem hlt, Option.toList_some, List.take_append_getElem]
    exact List.take_of_length_le h
  · rw [List.getElem?_eq_none hge, List.take_of_length_le hge]
    exact List.append_nil _

/-! ## Groups -/

theorem getElem?_chunk (n k : ℕ) (xs : List α) {j : ℕ} (h : j < n) :
    ((xs.drop (k * n)).take n)[j]? = xs[k * n + j]? := by
  rw [List.getElem?_take_of_lt h, List.getElem?_drop]

/-- Groups of `n` are a way to split a list. -/
theorem splits_asChunks {n : ℕ} (hn : 0 < n) :
    Splits n (fun chunk : List α => chunk.length = n) (asChunks n) where
  nil := by
    unfold asChunks
    rw [List.length_nil, Nat.zero_div]
    rfl
  append xs hxs more := by
    obtain ⟨groups, hgroups⟩ := hxs
    have hlength : (xs ++ more).length / n = groups + more.length / n := by
      rw [List.length_append, hgroups, Nat.mul_add_div hn]
    have hfirst : xs.length / n = groups := by rw [hgroups, Nat.mul_div_cancel_left _ hn]
    unfold asChunks
    rw [hlength, hfirst, List.range_add, List.map_append, List.map_map]
    congr 1
    · refine List.map_congr_left fun k hk => ?_
      have hle : k * n + n ≤ xs.length := by
        rw [hgroups, mul_comm n groups, ← Nat.succ_mul]
        exact Nat.mul_le_mul_right n (List.mem_range.mp hk)
      rw [List.drop_append_of_le_length (by omega),
        List.take_append_of_le_length (by rw [List.length_drop]; omega)]
    · refine List.map_congr_left fun k _ => ?_
      have hskip : (groups + k) * n = xs.length + k * n := by rw [hgroups]; ring
      show ((xs ++ more).drop ((groups + k) * n)).take n = _
      rw [hskip, List.drop_append, List.drop_eq_nil_of_le (Nat.le_add_right _ _),
        List.nil_append, Nat.add_sub_cancel_left]
  whole xs chunk hchunk := by
    obtain ⟨k, hk, rfl⟩ := List.mem_map.mp hchunk
    have hle : k * n + n ≤ xs.length :=
      calc k * n + n = (k + 1) * n := by ring
        _ ≤ xs.length / n * n := Nat.mul_le_mul_right n (List.mem_range.mp hk)
        _ ≤ xs.length := Nat.div_mul_le_self _ _
    rw [List.length_take, List.length_drop]
    omega
  count xs hxs := by
    unfold asChunks
    rw [List.length_map, List.length_range]
    exact Nat.mul_div_cancel' hxs

theorem asChunks_length (n : ℕ) (xs : List α) : (asChunks n xs).length = xs.length / n := by
  unfold asChunks
  rw [List.length_map, List.length_range]

/-! ## Valid stages -/

/-- The mask of a filter's ring. -/
def ringMask : DecimationFilter → ℕ
  | .hb33 => 31
  | .hb17 => 15

/-- Ring indices are taken modulo the size of the ring. -/
theorem and_ringMask (filter : DecimationFilter) (index : ℕ) :
    index &&& ringMask filter = index % filter.bufSize := by
  cases filter with
  | hb33 => exact Nat.and_two_pow_sub_one_eq_mod index 5
  | hb17 => exact Nat.and_two_pow_sub_one_eq_mod index 4

theorem bufSize_cases (filter : DecimationFilter) :
    filter.bufSize = 32 ∨ filter.bufSize = 16 := by
  cases filter with
  | hb33 => exact .inl rfl
  | hb17 => exact .inr rfl

/-- The ring is stored twice, as pairs, and a group begins at a multiple of four. -/
structure StageValid (stage : DecimationStage F) : Prop where
  length : stage.queueIq.length = stage.filter.bufSize * 4
  aligned : 4 ∣ stage.firIndex
  inside : stage.firIndex < stage.filter.bufSize

/-- The stage with a pair stored in both copies of a slot. -/
def stored (stage : DecimationStage F) (idx : ℕ) (i q : F) : DecimationStage F :=
  { stage with
    queueIq := (((stage.queueIq.set (idx * 2) i).set (idx * 2 + 1) q).set
      ((idx + stage.filter.bufSize) * 2) i).set ((idx + stage.filter.bufSize) * 2 + 1) q }

@[simp] theorem stored_filter (stage : DecimationStage F) (idx : ℕ) (i q : F) :
    (stored stage idx i q).filter = stage.filter := rfl

@[simp] theorem stored_firIndex (stage : DecimationStage F) (idx : ℕ) (i q : F) :
    (stored stage idx i q).firIndex = stage.firIndex := rfl

@[simp] theorem stored_length (stage : DecimationStage F) (idx : ℕ) (i q : F) :
    (stored stage idx i q).queueIq.length = stage.queueIq.length := by
  simp [stored]

theorem storeIq_eq {stage : DecimationStage F}
    (hlength : stage.queueIq.length = stage.filter.bufSize * 4) {idx : ℕ}
    (hidx : idx < stage.filter.bufSize) (i q : F) :
    stage.storeIq idx i q = .ok (stored stage idx i q) := by
  unfold DecimationStage.storeIq
  dsimp only
  rw [store_ok (by omega)]
  dsimp only [bind, Except.bind]
  rw [store_ok (by rw [List.length_set]; omega)]
  dsimp only
  rw [store_ok (by rw [List.length_set, List.length_set]; omega)]
  dsimp only
  rw [store_ok (by rw [List.length_set, List.length_set, List.length_set]; omega)]
  rfl

variable [SampleArithmetic F]

theorem stageValid_new (stageNum : ℕ) : StageValid (DecimationStage.new stageNum : DecimationStage F)
    where
  length := by
    unfold DecimationStage.new
    rw [List.length_replicate]
    exact Nat.mul_assoc _ 2 2
  aligned := Nat.dvd_zero 4
  inside := by
    rcases bufSize_cases (DecimationStage.new stageNum : DecimationStage F).filter with h | h <;>
      rw [h] <;> exact Nat.succ_pos _

/-! ## Accumulation -/

/-- The window holds every tap. -/
theorem accTaps_ok {kernel s : List F} {taps : Taps} {lane : ℕ} (hlane : lane ≤ 1)
    (hpairs : ∀ tap ∈ taps.pairs, tap.1 < kernel.length ∧ tap.2.1 + 1 < s.length ∧
      tap.2.2 + 1 < s.length)
    (hcentre : taps.centre.1 < kernel.length ∧ taps.centre.2 + 1 < s.length) :
    ∃ sum, accTaps kernel taps s lane = .ok sum := by
  obtain ⟨coefficient, hcoefficient⟩ := fetch_ok hcentre.1
  obtain ⟨centre, hfetch⟩ := @fetch_ok _ s (taps.centre.2 + lane) (by omega)
  have hsum : ∀ body : ℕ × ℕ × ℕ → Checked F,
      (∀ tap ∈ taps.pairs, ∃ term, body tap = .ok term) → ∃ sum, (do
        let terms ← taps.pairs.mapM body
        let coefficient ← fetch kernel taps.centre.1
        let centre ← fetch s (taps.centre.2 + lane)
        pure (sumLeft (terms ++ [coefficient * centre])) : Checked F) = .ok sum := by
    intro body hbody
    obtain ⟨terms, hterms⟩ := mapM_ok hbody
    refine ⟨sumLeft (terms ++ [coefficient * centre]), ?_⟩
    simp only [hterms, hcoefficient, hfetch, bind, Except.bind, pure, Except.pure]
  unfold accTaps
  refine hsum _ fun tap htap => ?_
  obtain ⟨htap, hleft, hright⟩ := hpairs tap htap
  obtain ⟨coefficient, hcoefficient⟩ := fetch_ok htap
  obtain ⟨a, ha⟩ := @fetch_ok _ s (tap.2.1 + lane) (by omega)
  obtain ⟨b, hb⟩ := @fetch_ok _ s (tap.2.2 + lane) (by omega)
  refine ⟨coefficient * (a + b), ?_⟩
  simp only [hcoefficient, ha, hb, bind, Except.bind, pure, Except.pure]

/-- The accumulation of a filter. -/
def accumulate : DecimationFilter → DecimationStage F → ℕ → Checked (F × F)
  | .hb33 => DecimationStage.accHb33
  | .hb17 => DecimationStage.accHb17

omit [SampleArithmetic F] in
theorem window_ok {stage : DecimationStage F} {size : ℕ} (hlength : stage.queueIq.length = size * 4)
    {idx : ℕ} (hpositive : 0 < idx) (hidx : idx < size) :
    ∃ s, stage.window idx size (size + 1) = .ok s ∧ size * 2 + 2 ≤ s.length := by
  unfold DecimationStage.window
  rw [checkedSub_ok (by omega)]
  have hinside : ¬stage.queueIq.length < (idx + size - (size + 1) + 1) * 2 := by omega
  dsimp only [bind, Except.bind]
  rw [if_neg hinside]
  exact ⟨_, rfl, by rw [List.length_drop]; omega⟩

/-- An accumulation is made at an odd index, and stays inside the ring. -/
theorem accumulate_ok {filter : DecimationFilter} {stage : DecimationStage F}
    (hlength : stage.queueIq.length = filter.bufSize * 4) {idx : ℕ} (hpositive : 0 < idx)
    (hidx : idx < filter.bufSize) : ∃ iq, accumulate filter stage idx = .ok iq := by
  obtain ⟨s, hs, hroom⟩ := window_ok hlength hpositive hidx
  have hsums : ∀ (kernel : List F) (taps : Taps),
      (∀ tap ∈ taps.pairs, tap.1 < kernel.length ∧ tap.2.1 + 1 < filter.bufSize * 2 + 2 ∧
        tap.2.2 + 1 < filter.bufSize * 2 + 2) →
      (taps.centre.1 < kernel.length ∧ taps.centre.2 + 1 < filter.bufSize * 2 + 2) →
      ∃ i q, accTaps kernel taps s 0 = .ok i ∧ accTaps kernel taps s 1 = .ok q := by
    intro kernel taps hpairs hcentre
    have hpairs' : ∀ tap ∈ taps.pairs, tap.1 < kernel.length ∧ tap.2.1 + 1 < s.length ∧
        tap.2.2 + 1 < s.length := fun tap htap =>
      ⟨(hpairs tap htap).1, (hpairs tap htap).2.1.trans_le hroom,
        (hpairs tap htap).2.2.trans_le hroom⟩
    have hcentre' := And.intro hcentre.1 (hcentre.2.trans_le hroom)
    obtain ⟨i, hi⟩ := accTaps_ok (Nat.zero_le 1) hpairs' hcentre'
    obtain ⟨q, hq⟩ := accTaps_ok (Nat.le_refl 1) hpairs' hcentre'
    exact ⟨i, q, hi, hq⟩
  cases filter with
  | hb33 =>
    have hwindow : stage.window idx 32 33 = .ok s := hs
    obtain ⟨i, q, hi, hq⟩ := hsums (HB_KERNEL_FLOAT_33_FAST F) hb33Taps
      (show ∀ tap ∈ hb33Taps.pairs, tap.1 < 33 ∧ tap.2.1 + 1 < 66 ∧ tap.2.2 + 1 < 66 by decide)
      (show hb33Taps.centre.1 < 33 ∧ hb33Taps.centre.2 + 1 < 66 by decide)
    refine ⟨(i, q), ?_⟩
    unfold accumulate DecimationStage.accHb33
    simp only [hwindow, hi, hq, bind, Except.bind, pure, Except.pure]
  | hb17 =>
    have hwindow : stage.window idx 16 17 = .ok s := hs
    obtain ⟨i, q, hi, hq⟩ := hsums (HB_KERNEL_FLOAT_17_FAST F) hb17Taps
      (show ∀ tap ∈ hb17Taps.pairs, tap.1 < 17 ∧ tap.2.1 + 1 < 34 ∧ tap.2.2 + 1 < 34 by decide)
      (show hb17Taps.centre.1 < 17 ∧ hb17Taps.centre.2 + 1 < 34 by decide)
    refine ⟨(i, q), ?_⟩
    unfold accumulate DecimationStage.accHb17
    simp only [hwindow, hi, hq, bind, Except.bind, pure, Except.pure]

/-! ## Groups of four pairs -/

/-- The body of the loop of a stage, on the eight values of one group. -/
def decimateGroup (filter : DecimationFilter) (stage : DecimationStage F) (group : List F) :
    Checked (DecimationStage F × List (Quad F)) :=
  (DecimationStage.processGroup (ringMask filter) (accumulate filter) group stage 0).map
    fun (stage, quad) => (stage, [quad])

omit [SampleArithmetic F] in
/-- A group in the middle of the input is a group of its own. -/
theorem processGroup_chunk (mask : ℕ) (acc : DecimationStage F → ℕ → Checked (F × F))
    (src : List F) (stage : DecimationStage F) (k : ℕ) :
    DecimationStage.processGroup mask acc src stage (4 * k) =
      DecimationStage.processGroup mask acc ((src.drop (k * 8)).take 8) stage 0 := by
  have hfetch : ∀ j < 8, fetch src (k * 8 + j) = fetch ((src.drop (k * 8)).take 8) j := by
    intro j hj
    unfold fetch
    rw [getElem?_chunk 8 k src hj]
  have hindex : ∀ j, 4 * k * 2 + j = k * 8 + j := fun j => by ring
  have hstart : 4 * k * 2 = k * 8 + 0 := by ring
  unfold DecimationStage.processGroup
  rw [hindex 1, hindex 2, hindex 3, hindex 4, hindex 5, hindex 6, hindex 7, hstart,
    hfetch 0 (by decide), hfetch 1 (by decide), hfetch 2 (by decide), hfetch 3 (by decide),
    hfetch 4 (by decide), hfetch 5 (by decide), hfetch 6 (by decide), hfetch 7 (by decide)]

/-- The loop of a stage takes one group after the other. -/
theorem processOutputs_eq (stage : DecimationStage F) (src : List F) :
    stage.processOutputs src = feed (decimateGroup stage.filter) stage (asChunks 8 src) := by
  have hcases : stage.processOutputs src =
      DecimationStage.processGroups (ringMask stage.filter) (accumulate stage.filter) src stage := by
    unfold DecimationStage.processOutputs
    cases stage.filter <;> rfl
  have hpairs : src.length / 2 / 4 * 4 / 4 = src.length / 8 := by omega
  rw [hcases]
  unfold DecimationStage.processGroups asChunks
  dsimp only
  rw [hpairs, feed_map]
  refine (foldlM_feed (fun stage' k => decimateGroup stage.filter stage'
    ((src.drop (k * 8)).take 8)) Prod.mk (fun stage' quads k => ?_) _ stage []).trans ?_
  · dsimp only
    rw [processGroup_chunk]
    unfold decimateGroup
    cases DecimationStage.processGroup (ringMask stage.filter) (accumulate stage.filter)
      ((src.drop (k * 8)).take 8) stage' 0 <;> rfl
  · cases feed (fun stage' k => decimateGroup stage.filter stage' ((src.drop (k * 8)).take 8)) stage
      (List.range (src.length / 8)) <;> rfl

/-- The stage with the four pairs of a group stored. -/
def storedGroup (stage : DecimationStage F) (p₀ p₁ p₂ p₃ : F × F) : DecimationStage F :=
  stored (stored (stored (stored stage stage.firIndex p₀.1 p₀.2) (stage.firIndex + 1) p₁.1 p₁.2)
    (stage.firIndex + 2) p₂.1 p₂.2) (stage.firIndex + 3) p₃.1 p₃.2

omit [SampleArithmetic F] in
/-- A group does not wrap around. -/
theorem group_inside {stage : DecimationStage F} (h : StageValid stage) :
    stage.firIndex + 3 < stage.filter.bufSize := by
  obtain ⟨_, haligned, hinside⟩ := h
  rcases bufSize_cases stage.filter with h | h
  · rw [h] at hinside ⊢
    omega
  · rw [h] at hinside ⊢
    omega

omit [SampleArithmetic F] in
@[simp] theorem storedGroup_filter (stage : DecimationStage F) (p₀ p₁ p₂ p₃ : F × F) :
    (storedGroup stage p₀ p₁ p₂ p₃).filter = stage.filter := by
  simp [storedGroup]

omit [SampleArithmetic F] in
@[simp] theorem storedGroup_length (stage : DecimationStage F) (p₀ p₁ p₂ p₃ : F × F) :
    (storedGroup stage p₀ p₁ p₂ p₃).queueIq.length = stage.queueIq.length := by
  simp [storedGroup]

/-- The stage after a group. -/
def afterGroup (stage : DecimationStage F) (p₀ p₁ p₂ p₃ : F × F) : DecimationStage F where
  filter := stage.filter
  queueIq := (storedGroup stage p₀ p₁ p₂ p₃).queueIq
  firIndex := (stage.firIndex + 4) % stage.filter.bufSize

omit [SampleArithmetic F] in
@[simp] theorem afterGroup_filter (stage : DecimationStage F) (p₀ p₁ p₂ p₃ : F × F) :
    (afterGroup stage p₀ p₁ p₂ p₃).filter = stage.filter := by
  simp [afterGroup]

/-- **A group**: four pairs are stored, and then two sums are taken. -/
theorem decimateGroup_eq {stage : DecimationStage F} (h : StageValid stage) {p₀ p₁ p₂ p₃ : F × F}
    {iq₀ iq₁ : F × F}
    (hsum₀ : accumulate stage.filter (storedGroup stage p₀ p₁ p₂ p₃) (stage.firIndex + 1) =
      .ok iq₀)
    (hsum₁ : accumulate stage.filter (storedGroup stage p₀ p₁ p₂ p₃) (stage.firIndex + 3) =
      .ok iq₁) :
    decimateGroup stage.filter stage [p₀.1, p₀.2, p₁.1, p₁.2, p₂.1, p₂.2, p₃.1, p₃.2] =
      .ok (afterGroup stage p₀ p₁ p₂ p₃, [⟨iq₀.1, iq₀.2, iq₁.1, iq₁.2⟩]) := by
  have hinside := group_inside h
  have hmask₁ : (stage.firIndex + 1) &&& ringMask stage.filter = stage.firIndex + 1 := by
    rw [and_ringMask, Nat.mod_eq_of_lt (by omega)]
  have hmask₂ : (stage.firIndex + 1 + 1) &&& ringMask stage.filter = stage.firIndex + 2 := by
    rw [and_ringMask, Nat.mod_eq_of_lt (by omega)]
  have hmask₃ : (stage.firIndex + 2 + 1) &&& ringMask stage.filter = stage.firIndex + 3 := by
    rw [and_ringMask, Nat.mod_eq_of_lt (by omega)]
  have hstore : ∀ (other : DecimationStage F) (idx : ℕ) (pair : F × F),
      other.queueIq.length = stage.queueIq.length → other.filter = stage.filter →
      idx < stage.filter.bufSize →
        other.storeIq idx pair.1 pair.2 = .ok (stored other idx pair.1 pair.2) := by
    intro other idx pair hlength hfilter hidx
    refine storeIq_eq ?_ ?_ pair.1 pair.2
    · rw [hlength, hfilter, h.length]
    · rw [hfilter]
      exact hidx
  have hfetch : ∀ j (value : F),
      [p₀.1, p₀.2, p₁.1, p₁.2, p₂.1, p₂.2, p₃.1, p₃.2][j]? = some value →
        fetch [p₀.1, p₀.2, p₁.1, p₁.2, p₂.1, p₂.2, p₃.1, p₃.2] j = .ok value := by
    intro j value hvalue
    unfold fetch
    rw [hvalue]
  unfold decimateGroup DecimationStage.processGroup
  simp only [Nat.zero_mul, Nat.zero_add, hfetch 0 p₀.1 rfl, hfetch 1 p₀.2 rfl, hfetch 2 p₁.1 rfl,
    hfetch 3 p₁.2 rfl, hfetch 4 p₂.1 rfl, hfetch 5 p₂.2 rfl, hfetch 6 p₃.1 rfl, hfetch 7 p₃.2 rfl,
    bind, Except.bind, pure, Except.pure, hmask₁, hmask₂, hmask₃]
  rw [hstore stage stage.firIndex p₀ (by simp) (by simp) (by omega)]
  dsimp only
  rw [hstore _ (stage.firIndex + 1) p₁ (by simp) (by simp) (by omega)]
  dsimp only
  rw [hstore _ (stage.firIndex + 2) p₂ (by simp) (by simp) (by omega)]
  dsimp only
  rw [hstore _ (stage.firIndex + 3) p₃ (by simp) (by simp) (by omega)]
  dsimp only
  unfold storedGroup at hsum₀ hsum₁
  rw [hsum₀]
  dsimp only
  rw [hsum₁, and_ringMask]
  unfold afterGroup storedGroup
  simp only [Except.map, stored_filter]

omit [SampleArithmetic F] in
theorem stageValid_group {stage : DecimationStage F} (h : StageValid stage)
    (p₀ p₁ p₂ p₃ : F × F) : StageValid (afterGroup stage p₀ p₁ p₂ p₃) := by
  obtain ⟨hlength, haligned, _⟩ := h
  unfold afterGroup
  refine ⟨?_, ?_, ?_⟩
  · dsimp only
    rw [storedGroup_length, hlength]
  · dsimp only
    rcases bufSize_cases stage.filter with h | h <;> rw [h] <;> omega
  · dsimp only
    rcases bufSize_cases stage.filter with h | h <;> rw [h] <;> omega

/-- Eight values are four pairs. -/
theorem eq_pairs {α : Type} {group : List α} (h : group.length = 8) :
    ∃ p₀ p₁ p₂ p₃ : α × α, group = [p₀.1, p₀.2, p₁.1, p₁.2, p₂.1, p₂.2, p₃.1, p₃.2] := by
  match group, h with
  | [v₀, v₁, v₂, v₃, v₄, v₅, v₆, v₇], _ =>
    exact ⟨(v₀, v₁), (v₂, v₃), (v₄, v₅), (v₆, v₇), rfl⟩

/-- **A group is processed inside the ring**, and the next one begins at a multiple of four. -/
theorem decimateGroup_ok {stage : DecimationStage F} (h : StageValid stage) {group : List F}
    (hgroup : group.length = 8) :
    ∃ stage' quads, decimateGroup stage.filter stage group = .ok (stage', quads) ∧
      (StageValid stage' ∧ stage'.filter = stage.filter) ∧ quads.length = 1 := by
  obtain ⟨p₀, p₁, p₂, p₃, rfl⟩ := eq_pairs hgroup
  have hinside := group_inside h
  have hlength : (storedGroup stage p₀ p₁ p₂ p₃).queueIq.length = stage.filter.bufSize * 4 := by
    rw [storedGroup_length, h.length]
  obtain ⟨iq₀, hsum₀⟩ := @accumulate_ok _ _ stage.filter _ hlength (stage.firIndex + 1)
    (Nat.succ_pos _) (by omega)
  obtain ⟨iq₁, hsum₁⟩ := @accumulate_ok _ _ stage.filter _ hlength (stage.firIndex + 3)
    (Nat.succ_pos _) hinside
  refine ⟨afterGroup stage p₀ p₁ p₂ p₃, [⟨iq₀.1, iq₀.2, iq₁.1, iq₁.2⟩], ?_,
    ⟨stageValid_group h p₀ p₁ p₂ p₃, by simp⟩, by simp⟩
  exact decimateGroup_eq h hsum₀ hsum₁

/-- **A stage streams**: eight values in, one quad out. -/
theorem processOutputs_streams :
    Streams (@StageValid F) 8 1 fun stage src => stage.processOutputs src := by
  have hfilter : ∀ filter, Streams (fun stage : DecimationStage F => StageValid stage ∧
      stage.filter = filter) 8 1 fun stage src => feed (decimateGroup filter) stage (asChunks 8 src) :=
    fun filter => streams_feed (splits_asChunks (by decide)) fun stage group hstage hgroup => by
      obtain ⟨hvalid, rfl⟩ := hstage
      exact decimateGroup_ok hvalid hgroup
  refine ⟨fun stage hstage => ?_, fun stage src hstage hsrc => ?_,
    fun stage src stage' quads hstage hsrc h more => ?_⟩
  · rw [processOutputs_eq]
    exact (hfilter stage.filter).nil stage ⟨hstage, rfl⟩
  · obtain ⟨stage', quads, hok, hvalid, hlength⟩ :=
      (hfilter stage.filter).total stage src ⟨hstage, rfl⟩ hsrc
    exact ⟨stage', quads, (processOutputs_eq stage src).trans hok, hvalid.1, hlength⟩
  · have hok := (processOutputs_eq stage src).symm.trans h
    obtain ⟨⟨_, hsame⟩, _⟩ := (hfilter stage.filter).valid_of_ok ⟨hstage, rfl⟩ hsrc hok
    rw [processOutputs_eq, processOutputs_eq, hsame]
    exact (hfilter stage.filter).append stage src stage' quads ⟨hstage, rfl⟩ hsrc hok more

/-! ## Stages one after the other -/

theorem process_eq (stage : DecimationStage F) (src : List F) :
    stage.process src [] =
      (stage.processOutputs src).map fun (stage, quads) => (stage, quads.flatMap Quad.toList) := by
  unfold DecimationStage.process
  cases stage.processOutputs src <;> rfl

omit [SampleArithmetic F] in
theorem length_flatMap_toList (quads : List (Quad F)) :
    (quads.flatMap Quad.toList).length = 4 * quads.length := by
  induction quads with
  | nil => rfl
  | cons quad quads ih =>
    rw [List.flatMap_cons, List.length_append, ih, List.length_cons]
    show 4 + 4 * quads.length = _
    ring

/-- A stage halves its input. -/
theorem process_streams : Streams (@StageValid F) 8 4 fun stage src => stage.process src [] := by
  have hquads := @processOutputs_streams F _
  have hfloats := @Streams.regroup _ _ _ _ _ _ 8 1 4 _ hquads (by decide) (by decide)
    (fun quads => quads.flatMap Quad.toList) rfl
    (fun quads _ => by rw [Nat.one_mul]; exact length_flatMap_toList quads)
    (fun quads _ more => List.flatMap_append)
  simpa only [process_eq] using hfloats

/-- The stages of a decimation, one after the other. -/
def cascade : List (DecimationStage F) → List F → Checked (List (DecimationStage F) × List F)
  | [], src => .ok ([], src)
  | stage :: stages, src =>
    match stage.process src [] with
    | .error panic => .error panic
    | .ok (stage, src) => (cascade stages src).map fun (stages, out) => (stage :: stages, out)

/-- There are `k` stages, all in a valid state. -/
structure StagesValid (k : ℕ) (stages : List (DecimationStage F)) : Prop where
  length : stages.length = k
  valid : ∀ stage ∈ stages, StageValid stage

/-- **`k` stages stream**: they take `2 ^ k` pairs to one. -/
theorem cascade_streams (k : ℕ) : Streams (StagesValid k) (4 * 2 ^ k) 4 (@cascade F _) := by
  induction k with
  | zero =>
    refine ⟨fun stages hstages => ?_, fun stages src hstages _ => ?_,
      fun stages src stages' out hstages _ h more => ?_⟩ <;>
      obtain rfl := List.eq_nil_of_length_eq_zero hstages.length
    · rfl
    · exact ⟨[], src, rfl, hstages, rfl⟩
    · obtain ⟨rfl, rfl⟩ := Prod.mk.inj (Except.ok.inj h)
      rfl
  | succ k ih =>
    have hpower : 0 < 2 ^ k := Nat.two_pow_pos k
    have hboth := (process_streams.scale (2 ^ k)).andThen ih (by omega) (by omega)
    have hsize : 8 * 2 ^ k = 4 * 2 ^ (k + 1) := by ring
    rw [hsize] at hboth
    refine hboth.encode (fun stages => stages.1 :: stages.2) (fun stages hstages => ?_)
      (fun stages hstages => ?_) fun stages src => ?_
    · obtain ⟨stage, rest, rfl⟩ := List.exists_cons_of_length_eq_add_one hstages.length
      exact ⟨(stage, rest), ⟨hstages.valid stage List.mem_cons_self,
        Nat.succ.inj hstages.length, fun other hother =>
          hstages.valid other (List.mem_cons_of_mem stage hother)⟩, rfl⟩
    · exact ⟨congrArg (· + 1) hstages.2.length, fun other hother => by
        rcases List.mem_cons.mp hother with rfl | hother
        · exact hstages.1
        · exact hstages.2.valid other hother⟩
    · unfold cascade andThen
      dsimp only
      cases stages.1.process src [] with
      | error panic => rfl
      | ok outcome =>
        dsimp only
        cases cascade stages.2 outcome.2 <;> rfl

/-- The last of several stages takes what the others leave. -/
theorem cascade_append {stages : List (DecimationStage F)} {last : DecimationStage F}
    {src out : List F} {all : List (DecimationStage F)}
    (h : cascade (stages ++ [last]) src = .ok (all, out)) :
    ∃ stages' last' mid, cascade stages src = .ok (stages', mid) ∧
      last.process mid [] = .ok (last', out) ∧ all = stages' ++ [last'] := by
  induction stages generalizing src all with
  | nil =>
    rw [List.nil_append, cascade] at h
    cases hlast : last.process src [] with
    | error panic =>
      rw [hlast] at h
      exact nomatch h
    | ok outcome =>
      rw [hlast] at h
      obtain ⟨rfl, rfl⟩ := Prod.mk.inj (Except.ok.inj h)
      exact ⟨[], outcome.1, src, rfl, hlast, rfl⟩
  | cons stage stages ih =>
    rw [List.cons_append, cascade] at h
    cases hstage : stage.process src [] with
    | error panic =>
      rw [hstage] at h
      exact nomatch h
    | ok outcome =>
      rw [hstage] at h
      obtain ⟨⟨rest, out'⟩, hrest, hboth⟩ := map_ok h
      obtain ⟨rfl, rfl⟩ := Prod.mk.inj hboth
      obtain ⟨stages', last', mid, hstages, hlast, rfl⟩ := ih hrest
      refine ⟨outcome.1 :: stages', last', mid, ?_, hlast, rfl⟩
      rw [cascade, hstage]
      dsimp only
      rw [hstages]
      rfl

theorem cascade_length {stages stages' : List (DecimationStage F)} {src out : List F}
    (h : cascade stages src = .ok (stages', out)) : stages'.length = stages.length := by
  induction stages generalizing src stages' with
  | nil =>
    obtain ⟨rfl, rfl⟩ := Prod.mk.inj (Except.ok.inj h)
    rfl
  | cons stage stages ih =>
    rw [cascade] at h
    cases hstage : stage.process src [] with
    | error panic =>
      rw [hstage] at h
      exact nomatch h
    | ok outcome =>
      rw [hstage] at h
      obtain ⟨⟨rest, out'⟩, hrest, hboth⟩ := map_ok h
      obtain ⟨rfl, rfl⟩ := Prod.mk.inj hboth
      rw [List.length_cons, List.length_cons, ih hrest]

/-! ## Complex samples -/

/-- IQ pairs. -/
def complexes : List F → List (Complex F)
  | i :: q :: values => ⟨i, q⟩ :: complexes values
  | _ => []

omit [SampleArithmetic F] in
theorem length_complexes : ∀ values : List F, (complexes values).length = values.length / 2
  | [] => (Nat.zero_div 2).symm
  | [_] => (Nat.div_eq_of_lt (show 1 < 2 by decide)).symm
  | _ :: _ :: values => by
    rw [complexes, List.length_cons, length_complexes values, List.length_cons, List.length_cons]
    omega

omit [SampleArithmetic F] in
theorem complexes_append : ∀ values : List F, 2 ∣ values.length → ∀ more,
    complexes (values ++ more) = complexes values ++ complexes more
  | [], _, _ => rfl
  | [_], h, _ => absurd h (show ¬2 ∣ 1 by decide)
  | i :: q :: values, h, more => by
    have hrest : 2 ∣ values.length := by
      rw [List.length_cons, List.length_cons] at h
      omega
    rw [List.cons_append, List.cons_append, complexes, complexes, complexes_append values hrest more,
      List.cons_append]

omit [SampleArithmetic F] in
/-- What is emitted into an output of the right length: what fits, and the sample that does not. -/
theorem foldlM_emit (quads : List (Quad F)) {room : ℕ} (hroom : quads.length = room / 2 + room % 2)
    (samples : List (Complex F)) :
    quads.foldlM DecimationStage.emit ⟨room / 2, room % 2 = 1, samples, none⟩ =
      .ok ⟨0, false, samples ++ (complexes (quads.flatMap Quad.toList)).take room,
        (complexes (quads.flatMap Quad.toList))[room]?⟩ := by
  induction quads generalizing room samples with
  | nil =>
    obtain rfl : room = 0 := by
      rw [List.length_nil] at hroom
      omega
    rw [List.take_zero, List.append_nil]
    rfl
  | cons quad quads ih =>
    rw [List.length_cons] at hroom
    have hall : complexes ((quad :: quads).flatMap Quad.toList) =
        ⟨quad.i0, quad.q0⟩ :: ⟨quad.i1, quad.q1⟩ :: complexes (quads.flatMap Quad.toList) := rfl
    rw [List.foldlM_cons, hall]
    by_cases hone : room = 1
    · subst hone
      obtain rfl : quads = [] := List.eq_nil_of_length_eq_zero (by omega)
      rfl
    · obtain ⟨rest, rfl⟩ : ∃ rest, room = rest + 2 := ⟨room - 2, by omega⟩
      have hchunks : (rest + 2) / 2 = rest / 2 + 1 := by omega
      have hodd : (rest + 2) % 2 = rest % 2 := by omega
      have hemit : DecimationStage.emit
          (⟨(rest + 2) / 2, decide ((rest + 2) % 2 = 1), samples, none⟩ :
            DecimationStage.Emitted F) quad =
          .ok ⟨rest / 2, decide (rest % 2 = 1),
            samples ++ [⟨quad.i0, quad.q0⟩, ⟨quad.i1, quad.q1⟩], none⟩ := by
        unfold DecimationStage.emit
        rw [hchunks, hodd]
        rfl
      rw [hemit]
      refine (ih (by omega) _).trans ?_
      rw [List.append_assoc]
      rfl

/-- **The last stage** writes what fits, and keeps the sample that does not. -/
theorem processToComplex_eq {stage stage' : DecimationStage F} {src out : List F}
    (h : stage.process src [] = .ok (stage', out)) {room : ℕ}
    (hroom : (complexes out).length = room + room % 2) :
    stage.processToComplex src room =
      .ok (stage', (complexes out).take room, (complexes out)[room]?) := by
  rw [process_eq] at h
  obtain ⟨⟨last, quads⟩, hquads, hboth⟩ := map_ok h
  obtain ⟨rfl, rfl⟩ := Prod.mk.inj hboth
  have hcount : quads.length = room / 2 + room % 2 := by
    rw [length_complexes, length_flatMap_toList] at hroom
    omega
  unfold DecimationStage.processToComplex
  rw [hquads]
  dsimp only [bind, Except.bind]
  rw [foldlM_emit quads hcount]
  rfl

end HydraSdr.Analysis
