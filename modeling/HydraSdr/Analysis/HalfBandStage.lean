import HydraSdr.Analysis.ExactArithmetic

/-!
# Decimation stages as half-band filters

Over exact arithmetic, the second output of every group of four pairs is the response of the
half-band filter.  The first one is taken when the whole group is stored, and the third pair of the
group has then overwritten the oldest pair of its window: it is the response plus an error, which is
zero exactly when the third pairs are.
-/

set_option autoImplicit false

namespace HydraSdr.Analysis.HalfBandStage

open HydraSdr.Program HydraSdr.Computation HydraSdr.Analysis

variable {F : Type}

/-! ## The ring of a stage -/

/-- A component of a pair: `lane` is 0 for `i` and 1 for `q`. -/
def component (lane : ℕ) (pair : F × F) : F := if lane = 0 then pair.1 else pair.2

/-- The cells of the ring for one component. -/
def cell (stage : DecimationStage F) (lane p : ℕ) : Option F := stage.queueIq[p * 2 + lane]?

/-- Storing a pair writes the two cells of a slot. -/
theorem cell_stored {stage : DecimationStage F}
    (hlength : stage.queueIq.length = stage.filter.bufSize * 4) {idx : ℕ}
    (hidx : idx < stage.filter.bufSize) (pair : F × F) {lane : ℕ} (hlane : lane ≤ 1) {p : ℕ}
    (hp : p < 2 * stage.filter.bufSize) :
    cell (stored stage idx pair.1 pair.2) lane p =
      if p % stage.filter.bufSize = idx then some (component lane pair) else cell stage lane p := by
  have hslot : p % stage.filter.bufSize = idx ↔ p = idx ∨ p = idx + stage.filter.bufSize := by
    rcases bufSize_cases stage.filter with h | h
    · rw [h] at hp hidx ⊢
      omega
    · rw [h] at hp hidx ⊢
      omega
  unfold cell stored
  simp only [List.getElem?_set, List.length_set]
  have hcase : lane = 0 ∨ lane = 1 := by omega
  by_cases hwritten : p % stage.filter.bufSize = idx
  · rw [if_pos hwritten]
    rcases hslot.mp hwritten with rfl | rfl
    · rcases hcase with rfl | rfl
      · rw [if_neg (by omega), if_neg (by omega), if_neg (by omega), if_pos (by omega),
          if_pos (by omega)]
        rfl
      · rw [if_neg (by omega), if_neg (by omega), if_pos rfl, if_pos (by omega)]
        rfl
    · rcases hcase with rfl | rfl
      · rw [if_neg (by omega), if_pos (by omega), if_pos (by omega)]
        rfl
      · rw [if_pos rfl, if_pos (by omega)]
        rfl
  · rw [if_neg hwritten]
    have hfirst : p ≠ idx := fun h => hwritten (hslot.mpr (.inl h))
    have hsecond : p ≠ idx + stage.filter.bufSize := fun h => hwritten (hslot.mpr (.inr h))
    rw [if_neg (by omega), if_neg (by omega), if_neg (by omega), if_neg (by omega)]

variable [ExactArithmetic F]

/-- The ring keeps the past of the pairs pushed, in both components. -/
def RingKeeps (stage : DecimationStage F) (pushed : List (F × F)) : Prop :=
  ∀ lane ≤ 1, KeepsPast stage.filter.bufSize (2 * stage.filter.bufSize) (cell stage lane) 0
    (pushed.map (component lane))

theorem ringKeeps_new (stageNum : ℕ) :
    RingKeeps (DecimationStage.new stageNum : DecimationStage F) [] := by
  intro lane hlane
  apply keepsPast_nil
  intro p hp
  unfold cell DecimationStage.new at *
  rw [List.getElem?_replicate, if_pos (by dsimp only at hp; omega), literal_zero]

theorem ringKeeps_stored {stage : DecimationStage F} {pushed : List (F × F)}
    (h : RingKeeps stage pushed) (hlength : stage.queueIq.length = stage.filter.bufSize * 4)
    {idx : ℕ} (hidx : idx = pushed.length % stage.filter.bufSize) (pair : F × F) :
    RingKeeps (stored stage idx pair.1 pair.2) (pushed ++ [pair]) := by
  have hpositive : 0 < stage.filter.bufSize := by
    rcases bufSize_cases stage.filter with h | h <;> omega
  intro lane hlane
  rw [List.map_append, List.map_singleton]
  apply (h lane hlane).push
  intro p hp
  rw [List.length_map, ← hidx]
  exact cell_stored hlength (hidx ▸ Nat.mod_lt _ hpositive) pair hlane hp

/-- The ring after the four pairs of a group. -/
theorem ringKeeps_group {stage : DecimationStage F} (hvalid : StageValid stage)
    {pushed : List (F × F)} (h : RingKeeps stage pushed)
    (hindex : stage.firIndex = pushed.length % stage.filter.bufSize) (p₀ p₁ p₂ p₃ : F × F) :
    RingKeeps (storedGroup stage p₀ p₁ p₂ p₃) (pushed ++ [p₀] ++ [p₁] ++ [p₂] ++ [p₃]) := by
  have hinside := group_inside hvalid
  have hlength := hvalid.length
  have hnext : ∀ j ≤ 3, stage.firIndex + j = (pushed.length + j) % stage.filter.bufSize := by
    intro j hj
    rcases bufSize_cases stage.filter with h | h
    · rw [h] at hindex hinside ⊢
      omega
    · rw [h] at hindex hinside ⊢
      omega
  unfold storedGroup
  have h₁ := ringKeeps_stored h hlength hindex p₀
  have h₂ : RingKeeps (stored _ (stage.firIndex + 1) p₁.1 p₁.2) (pushed ++ [p₀] ++ [p₁]) :=
    ringKeeps_stored h₁ (by simpa using hlength) (by simpa using hnext 1 (by omega)) p₁
  have h₃ : RingKeeps (stored _ (stage.firIndex + 2) p₂.1 p₂.2)
      (pushed ++ [p₀] ++ [p₁] ++ [p₂]) :=
    ringKeeps_stored h₂ (by simpa using hlength)
      (by simpa [Nat.add_assoc] using hnext 2 (by omega)) p₂
  exact ringKeeps_stored h₃ (by simpa using hlength)
    (by simpa [Nat.add_assoc] using hnext 3 (by omega)) p₃

/-! ## The sums of a group -/

/-- The taps lie in the window, at pairs. -/
theorem taps_inside (filter : DecimationFilter) :
    (∀ tap ∈ (halfBandTaps filter).pairs, tap.1 < filter.bufSize + 1 ∧
      (tap.2.1 % 2 = 0 ∧ 2 ≤ tap.2.1 ∧ tap.2.1 < 2 * filter.bufSize) ∧
      tap.2.2 % 2 = 0 ∧ 2 ≤ tap.2.2 ∧ tap.2.2 < 2 * filter.bufSize) ∧
    (halfBandTaps filter).centre.1 < filter.bufSize + 1 ∧
      (halfBandTaps filter).centre.2 % 2 = 0 ∧ 2 ≤ (halfBandTaps filter).centre.2 ∧
      (halfBandTaps filter).centre.2 < 2 * filter.bufSize := by
  cases filter with
  | hb33 => decide
  | hb17 => decide

theorem halfBandKernel_length (filter : DecimationFilter) :
    (halfBandKernel filter : List F).length = filter.bufSize + 1 := by
  cases filter <;> rfl

/-- An accumulation is the folded sum over its window. -/
theorem accumulate_eq {stage : DecimationStage F}
    (hlength : stage.queueIq.length = stage.filter.bufSize * 4) {idx : ℕ} (hpositive : 0 < idx)
    (hidx : idx < stage.filter.bufSize) {window : ℕ → ℕ → F}
    (hwindow : ∀ lane ≤ 1, ∀ j, 1 ≤ j → j < stage.filter.bufSize →
      cell stage lane (idx + j) = some (window lane j)) :
    accumulate stage.filter stage idx =
      .ok (tapSum stage.filter (window 0), tapSum stage.filter (window 1)) := by
  obtain ⟨hpairs, hcentre⟩ := taps_inside stage.filter
  have hkernel : ∀ k < stage.filter.bufSize + 1, fetch (halfBandKernel stage.filter : List F) k =
      .ok ((halfBandKernel stage.filter).getD k 0) := by
    intro k hk
    rw [← halfBandKernel_length (F := F)] at hk
    apply fetch_some
    rw [List.getD_eq_getElem _ _ hk, List.getElem?_eq_getElem hk]
  have hvalue : ∀ lane ≤ 1, ∀ position, position % 2 = 0 ∧ 2 ≤ position ∧
      position < 2 * stage.filter.bufSize → fetch (stage.queueIq.drop (idx * 2)) (position + lane) =
        .ok (window lane (position / 2)) := by
    intro lane hlane position hposition
    apply fetch_some
    rw [List.getElem?_drop, ← hwindow lane hlane (position / 2) (by omega) (by omega)]
    unfold cell
    congr 1
    omega
  have hsums : ∀ lane ≤ 1, accTaps (halfBandKernel stage.filter) (halfBandTaps stage.filter)
      (stage.queueIq.drop (idx * 2)) lane = .ok (tapSum stage.filter (window lane)) := by
    intro lane hlane
    unfold accTaps
    rw [mapM_eq (g := fun tap => (halfBandKernel stage.filter).getD tap.1 0 *
      (window lane (tap.2.1 / 2) + window lane (tap.2.2 / 2)))]
    · simp only [hkernel _ hcentre.1, hvalue lane hlane _ hcentre.2, bind, Except.bind, pure,
        Except.pure]
      rfl
    · intro tap htap
      obtain ⟨htap, hleft, hright⟩ := hpairs tap htap
      simp only [hkernel _ htap, hvalue lane hlane _ hleft, hvalue lane hlane _ hright, bind,
        Except.bind, pure, Except.pure]
  have hstart : stage.window idx stage.filter.bufSize (stage.filter.bufSize + 1) =
      .ok (stage.queueIq.drop (idx * 2)) := by
    unfold DecimationStage.window
    rw [checkedSub_ok (by omega),
      show idx + stage.filter.bufSize - (stage.filter.bufSize + 1) = idx - 1 by omega]
    dsimp only [bind, Except.bind]
    rw [if_neg (by omega), Nat.sub_add_cancel hpositive]
    rfl
  generalize hfilter : stage.filter = filter at hsums hstart ⊢
  cases filter with
  | hb33 =>
    have hstart' : stage.window idx 32 33 = .ok (stage.queueIq.drop (idx * 2)) := hstart
    have hfirst : accTaps (HB_KERNEL_FLOAT_33_FAST F) hb33Taps (stage.queueIq.drop (idx * 2)) 0 =
        .ok (tapSum .hb33 (window 0)) := hsums 0 (by omega)
    have hsecond : accTaps (HB_KERNEL_FLOAT_33_FAST F) hb33Taps (stage.queueIq.drop (idx * 2)) 1 =
        .ok (tapSum .hb33 (window 1)) := hsums 1 (by omega)
    unfold accumulate DecimationStage.accHb33
    simp only [hstart', hfirst, hsecond, bind, Except.bind, pure, Except.pure]
  | hb17 =>
    have hstart' : stage.window idx 16 17 = .ok (stage.queueIq.drop (idx * 2)) := hstart
    have hfirst : accTaps (HB_KERNEL_FLOAT_17_FAST F) hb17Taps (stage.queueIq.drop (idx * 2)) 0 =
        .ok (tapSum .hb17 (window 0)) := hsums 0 (by omega)
    have hsecond : accTaps (HB_KERNEL_FLOAT_17_FAST F) hb17Taps (stage.queueIq.drop (idx * 2)) 1 =
        .ok (tapSum .hb17 (window 1)) := hsums 1 (by omega)
    unfold accumulate DecimationStage.accHb17
    simp only [hstart', hfirst, hsecond, bind, Except.bind, pure, Except.pure]

/-- The response of a filter to what was pushed, at the last push. -/
def recentResponse (filter : DecimationFilter) (pushed : List F) : F :=
  ∑ k ∈ Finset.range (halfBandKernel filter : List F).length,
    (halfBandKernel filter).getD k 0 * past 0 pushed k

/-- The second output of a group is the response at its last pair. -/
theorem group_second {stage : DecimationStage F} (hvalid : StageValid stage)
    {pushed : List (F × F)} (h : RingKeeps stage pushed)
    (hindex : stage.firIndex = pushed.length % stage.filter.bufSize) (p₀ p₁ p₂ p₃ : F × F) :
    accumulate stage.filter (storedGroup stage p₀ p₁ p₂ p₃) (stage.firIndex + 3) =
      .ok (recentResponse stage.filter ((pushed ++ [p₀] ++ [p₁] ++ [p₂] ++ [p₃]).map (component 0)),
        recentResponse stage.filter
          ((pushed ++ [p₀] ++ [p₁] ++ [p₂] ++ [p₃]).map (component 1))) := by
  have hinside := group_inside hvalid
  have hkeeps := ringKeeps_group hvalid h hindex p₀ p₁ p₂ p₃
  generalize hall : pushed ++ [p₀] ++ [p₁] ++ [p₂] ++ [p₃] = all at hkeeps ⊢
  have hcount : (stage.firIndex + 3 + 1) % stage.filter.bufSize =
      all.length % stage.filter.bufSize := by
    rw [hindex, Nat.add_assoc, Nat.mod_add_mod, ← hall]
    simp
  have hsum := @accumulate_eq F _ (storedGroup stage p₀ p₁ p₂ p₃)
    (by simpa using hvalid.length) (stage.firIndex + 3) (Nat.succ_pos _) (by simpa using hinside)
    (fun lane j => past 0 (all.map (component lane)) (stage.filter.bufSize - j))
    (fun lane hlane j hj hj' => by
      have hlook := hkeeps lane hlane
      rw [storedGroup_filter] at hlook hj'
      refine hlook.window (show (stage.firIndex + 3 + 1) % stage.filter.bufSize = _ from ?_) ?_ ?_ ?_
      · rw [List.length_map]
        exact hcount
      · omega
      · omega
      · omega)
  rw [storedGroup_filter] at hsum
  rw [hsum, tapSum_eq, tapSum_eq]
  rfl

/-- **The first output of a group** is the response at its second pair, but for the third pair in
the place of the oldest one. -/
theorem group_first {stage : DecimationStage F} (hvalid : StageValid stage)
    {pushed : List (F × F)} (h : RingKeeps stage pushed)
    (hindex : stage.firIndex = pushed.length % stage.filter.bufSize) (p₀ p₁ p₂ p₃ : F × F) :
    let output := fun lane => recentResponse stage.filter
        ((pushed ++ [p₀] ++ [p₁]).map (component lane)) +
      (halfBandKernel stage.filter).getD 1 0 * (component lane p₂ -
        past 0 ((pushed ++ [p₀] ++ [p₁]).map (component lane)) (stage.filter.bufSize - 1))
    accumulate stage.filter (storedGroup stage p₀ p₁ p₂ p₃) (stage.firIndex + 1) =
      .ok (output 0, output 1) := by
  have hinside := group_inside hvalid
  have hkeeps := ringKeeps_group hvalid h hindex p₀ p₁ p₂ p₃
  have hcount : (pushed ++ [p₀] ++ [p₁]).length = pushed.length + 2 := by simp
  generalize pushed ++ [p₀] ++ [p₁] = before at hkeeps hcount ⊢
  have hnewest : (stage.firIndex + 3 + 1) % stage.filter.bufSize =
      (before ++ [p₂] ++ [p₃]).length % stage.filter.bufSize := by
    rw [hindex, Nat.add_assoc, Nat.mod_add_mod]
    simp [hcount]
  -- the window holds the third and the fourth pair where the two oldest were
  have hsum := @accumulate_eq F _ (storedGroup stage p₀ p₁ p₂ p₃)
    (by simpa using hvalid.length) (stage.firIndex + 1) (Nat.succ_pos _)
    (by rw [storedGroup_filter]; omega)
    (fun lane j =>
      if j = 1 then component lane p₂
      else if j = 2 then component lane p₃
      else past 0 (before.map (component lane)) (stage.filter.bufSize - j))
    (fun lane hlane j hj hj' => by
      have hlook := hkeeps lane hlane
      rw [storedGroup_filter] at hlook hj'
      rw [List.map_append, List.map_append, List.map_singleton, List.map_singleton] at hlook
      by_cases hone : j = 1
      · rw [if_pos hone, hlook (stage.firIndex + 1 + j) (by omega) 1 (by omega) ?_,
          past_concat_succ, past_concat_zero]
        rw [hone]
        simpa using hnewest
      · rw [if_neg hone]
        by_cases htwo : j = 2
        · rw [if_pos htwo, hlook (stage.firIndex + 1 + j) (by omega) 0 (by omega) ?_,
            past_concat_zero]
          rw [htwo]
          simpa using hnewest
        · rw [if_neg htwo]
          rw [hlook.window (show (stage.firIndex + 3 + 1) % stage.filter.bufSize = _ by
              simpa using hnewest)
            (show stage.firIndex + 1 + j + (stage.filter.bufSize - j + 2) =
              stage.firIndex + 3 + stage.filter.bufSize by omega) (by omega) (by omega),
            past_concat_succ, past_concat_succ])
  rw [storedGroup_filter] at hsum
  have hreplaced : ∀ lane, tapSum stage.filter (fun j =>
      if j = 1 then component lane p₂
      else if j = 2 then component lane p₃
      else past 0 (before.map (component lane)) (stage.filter.bufSize - j)) =
      recentResponse stage.filter (before.map (component lane)) +
        (halfBandKernel stage.filter).getD 1 0 * (component lane p₂ -
          past 0 (before.map (component lane)) (stage.filter.bufSize - 1)) := by
    intro lane
    rw [tapSum_replaced stage.filter
      (fun j => past 0 (before.map (component lane)) (stage.filter.bufSize - j)), tapSum_eq]
    · rfl
    · intro j hj
      rw [if_neg (by omega), if_neg (by omega)]
  rw [hsum, hreplaced, hreplaced]

/-! ## Runs -/

/-- The pairs of a signal. -/
def pairsOf (signal : List (Complex F)) : List (F × F) := signal.map fun z => (z.re, z.im)

/-- One component of a signal. -/
def channel (lane : ℕ) (signal : List (Complex F)) : List F :=
  (pairsOf signal).map (component lane)

/-- What a stage emits for one component: the response, and for the first output of a group the
third value in place of the oldest one. -/
def emittedValue (filter : DecimationFilter) (signal : List F) (m : ℕ) : F :=
  response (halfBandKernel filter) signal (2 * m + 1) +
    if m % 2 = 0 then (halfBandKernel filter).getD 1 0 *
      (signalAt signal (2 * m + 2) - signalAt signal (2 * m + 2 - filter.bufSize))
    else 0

/-- What a stage emits. -/
def emittedPair (filter : DecimationFilter) (signal : List (Complex F)) (m : ℕ) : Complex F :=
  ⟨emittedValue filter (channel 0 signal) m, emittedValue filter (channel 1 signal) m⟩

theorem recentResponse_take (filter : DecimationFilter) {signal : List F} {position : ℕ}
    (h : position < signal.length) : recentResponse filter (signal.take (position + 1)) =
      response (halfBandKernel filter) signal position := by
  unfold recentResponse response
  apply Finset.sum_congr rfl
  intro k _
  rw [past_take h]

omit [ExactArithmetic F] in
/-- The pairs in front of a group, and those of the group. -/
theorem take_group {src group : List F} {g : ℕ} (hgroup : (src.drop (8 * g)).take 8 = group)
    (hlength : 8 * g + 8 ≤ src.length) :
    (complexes src).take (4 * g + 4) = (complexes src).take (4 * g) ++ complexes group := by
  have hcut : ∀ j, 8 * j ≤ src.length →
      (complexes src).take (4 * j) = complexes (src.take (8 * j)) := by
    intro j hj
    have htake : (src.take (8 * j)).length = 8 * j := by
      rw [List.length_take]
      omega
    have hlength' : (complexes (src.take (8 * j))).length = 4 * j := by
      rw [length_complexes, htake]
      omega
    have happend := complexes_append (src.take (8 * j)) ⟨4 * j, by omega⟩ (src.drop (8 * j))
    rw [List.take_append_drop] at happend
    rw [happend, List.take_left' hlength']
  have hnext : src.take (8 * (g + 1)) = src.take (8 * g) ++ group := by
    rw [← hgroup, ← List.take_add]
    congr 1
  have htake : (src.take (8 * g)).length = 8 * g := by
    rw [List.length_take]
    omega
  rw [hcut g (by omega), show 4 * g + 4 = 4 * (g + 1) by ring, hcut (g + 1) (by omega), hnext]
  exact complexes_append _ ⟨4 * g, by omega⟩ group

theorem ringKeeps_after {stage : DecimationStage F} {p₀ p₁ p₂ p₃ : F × F} {pushed : List (F × F)}
    (h : RingKeeps (storedGroup stage p₀ p₁ p₂ p₃) pushed) :
    RingKeeps (afterGroup stage p₀ p₁ p₂ p₃) pushed := by
  intro lane hlane
  have hlook := h lane hlane
  rw [storedGroup_filter] at hlook
  rw [afterGroup_filter]
  exact hlook

omit [ExactArithmetic F] in
theorem take_channel (lane n : ℕ) (signal : List (Complex F)) :
    (pairsOf (signal.take n)).map (component lane) = (channel lane signal).take n := by
  simp [channel, pairsOf, List.map_take]

omit [ExactArithmetic F] in
theorem channel_length (lane : ℕ) (signal : List (Complex F)) :
    (channel lane signal).length = signal.length := by
  simp [channel, pairsOf]

/-- The second output of a group as an emitted value. -/
theorem second_emitted {filter : DecimationFilter} {signal : List (Complex F)} {g : ℕ}
    (h : 4 * g + 4 ≤ signal.length) (lane : ℕ) :
    recentResponse filter ((pairsOf (signal.take (4 * g + 4))).map (component lane)) =
      emittedValue filter (channel lane signal) (2 * g + 1) := by
  unfold emittedValue
  rw [take_channel, recentResponse_take filter (by rw [channel_length]; omega), if_neg (by omega),
    add_zero]
  congr 1
  push_cast
  ring

/-- The first output of a group as an emitted value. -/
theorem first_emitted {filter : DecimationFilter} {signal : List (Complex F)} {g : ℕ}
    (h : 4 * g + 4 ≤ signal.length) (lane : ℕ) {third : F × F}
    (hthird : (pairsOf signal)[4 * g + 2]? = some third) :
    recentResponse filter ((pairsOf (signal.take (4 * g + 2))).map (component lane)) +
        (halfBandKernel filter).getD 1 0 * (component lane third -
          past 0 ((pairsOf (signal.take (4 * g + 2))).map (component lane)) (filter.bufSize - 1)) =
      emittedValue filter (channel lane signal) (2 * g) := by
  have hinside : 4 * g + 1 < (channel lane signal).length := by
    rw [channel_length]
    omega
  have hvalue : signalAt (channel lane signal) (2 * (2 * g : ℕ) + 2) = component lane third := by
    unfold signalAt channel
    rw [if_neg (by omega), List.getD_eq_getElem?_getD,
      show (2 * ((2 * g : ℕ) : ℤ) + 2).toNat = 4 * g + 2 by omega, List.getElem?_map, hthird]
    rfl
  have hpositive : 1 ≤ filter.bufSize := by
    rcases bufSize_cases filter with h | h <;> omega
  unfold emittedValue
  rw [take_channel, recentResponse_take filter hinside, past_take hinside, if_pos (by omega), hvalue]
  congr 3
  · push_cast
    ring
  · congr 1
    push_cast [hpositive]
    ring

/-- **One group of a signal**: the stage keeps the past up to its end, and emits two pairs. -/
theorem group_step {src : List F} {g : ℕ} (hg : 8 * g + 8 ≤ src.length) {stage : DecimationStage F}
    (hvalid : StageValid stage)
    (hkeeps : RingKeeps stage (pairsOf ((complexes src).take (4 * g))))
    (hindex : stage.firIndex = 4 * g % stage.filter.bufSize) :
    ∃ stage' quad, decimateGroup stage.filter stage ((src.drop (8 * g)).take 8) =
        .ok (stage', [quad]) ∧
      StageValid stage' ∧ stage'.filter = stage.filter ∧
      RingKeeps stage' (pairsOf ((complexes src).take (4 * (g + 1)))) ∧
      stage'.firIndex = 4 * (g + 1) % stage.filter.bufSize ∧
      samplesOf quad = [emittedPair stage.filter (complexes src) (2 * g),
        emittedPair stage.filter (complexes src) (2 * g + 1)] := by
  obtain ⟨p₀, p₁, p₂, p₃, hgroup⟩ := eq_pairs (show ((src.drop (8 * g)).take 8).length = 8 by
    rw [List.length_take, List.length_drop]
    omega)
  have hlength : 4 * g + 4 ≤ (complexes src).length := by
    rw [length_complexes]
    omega
  have hbefore : (pairsOf ((complexes src).take (4 * g))).length = 4 * g := by
    simp [pairsOf]
    omega
  have htaken : pairsOf ((complexes src).take (4 * g + 4)) =
      pairsOf ((complexes src).take (4 * g)) ++ [p₀] ++ [p₁] ++ [p₂] ++ [p₃] := by
    rw [take_group hgroup hg]
    simp [pairsOf, complexes]
  have htaken₂ : pairsOf ((complexes src).take (4 * g + 2)) =
      pairsOf ((complexes src).take (4 * g)) ++ [p₀] ++ [p₁] := by
    have hcut : pairsOf ((complexes src).take (4 * g + 2)) =
        (pairsOf ((complexes src).take (4 * g + 4))).take (4 * g + 2) := by
      simp [pairsOf, List.map_take, List.take_take]
    rw [hcut, htaken, List.append_assoc _ [p₂] [p₃], List.take_left' (by simp [hbefore])]
  have hthird : (pairsOf (complexes src))[4 * g + 2]? = some p₂ := by
    have htake : pairsOf ((complexes src).take (4 * g + 4)) =
        (pairsOf (complexes src)).take (4 * g + 4) := by
      simp [pairsOf, List.map_take]
    rw [← List.getElem?_take_of_lt (show 4 * g + 2 < 4 * g + 4 by omega), ← htake, htaken]
    simp [hbefore]
  have hindex' : stage.firIndex =
      (pairsOf ((complexes src).take (4 * g))).length % stage.filter.bufSize := by
    rw [hbefore, hindex]
  have hfirst := group_first hvalid hkeeps hindex' p₀ p₁ p₂ p₃
  have hsecond := group_second hvalid hkeeps hindex' p₀ p₁ p₂ p₃
  dsimp only at hfirst
  rw [← htaken₂, first_emitted hlength 0 hthird, first_emitted hlength 1 hthird] at hfirst
  rw [← htaken, second_emitted hlength 0, second_emitted hlength 1] at hsecond
  have hrun := decimateGroup_eq hvalid hfirst hsecond
  rw [← hgroup] at hrun
  refine ⟨afterGroup stage p₀ p₁ p₂ p₃, _, hrun, stageValid_group hvalid p₀ p₁ p₂ p₃, by simp, ?_,
    ?_, rfl⟩
  · rw [show 4 * (g + 1) = 4 * g + 4 by ring, htaken]
    exact ringKeeps_after (ringKeeps_group hvalid hkeeps hindex' p₀ p₁ p₂ p₃)
  · unfold afterGroup
    dsimp only
    rw [hindex, Nat.mod_add_mod]
    congr 1

/-- **A run over a signal**: the stage emits the values of the signal, group by group. -/
theorem run_groups (stageNum : ℕ) {src : List F} {groups : ℕ} (hgroups : 8 * groups ≤ src.length) :
    ∃ (stage : DecimationStage F) (quads : List (Quad F)),
      feed (decimateGroup (DecimationStage.new stageNum : DecimationStage F).filter)
        (DecimationStage.new stageNum) ((asChunks 8 src).take groups) = .ok (stage, quads) ∧
      StageValid stage ∧
      stage.filter = (DecimationStage.new stageNum : DecimationStage F).filter ∧
      RingKeeps stage (pairsOf ((complexes src).take (4 * groups))) ∧
      stage.firIndex = 4 * groups % stage.filter.bufSize ∧
      quads.flatMap samplesOf =
        (List.range (2 * groups)).map (emittedPair stage.filter (complexes src)) := by
  induction groups with
  | zero =>
    exact ⟨DecimationStage.new stageNum, [], rfl, stageValid_new stageNum, rfl,
      ringKeeps_new stageNum, (Nat.zero_mod _).symm, rfl⟩
  | succ g ih =>
    obtain ⟨stage, quads, hrun, hvalid, hfilter, hkeeps, hindex, hquads⟩ := ih (by omega)
    obtain ⟨stage', quad, hstep, hvalid', hfilter', hkeeps', hindex', hquad⟩ :=
      group_step (by omega) hvalid hkeeps hindex
    have hchunk : (asChunks 8 src)[g]? = some ((src.drop (8 * g)).take 8) := by
      unfold asChunks
      rw [List.getElem?_map, List.getElem?_range (by omega), Nat.mul_comm 8 g]
      rfl
    refine ⟨stage', quads ++ [quad], ?_, hvalid', hfilter'.trans hfilter, hkeeps', ?_, ?_⟩
    · rw [List.take_add_one, hchunk, feed_append hrun, ← hfilter, Option.toList_some,
        feed_cons_ok hstep]
      rfl
    · rw [hfilter']
      exact hindex'
    · rw [List.flatMap_append, hquads, List.flatMap_singleton, hquad, hfilter',
        show 2 * (g + 1) = 2 * g + 1 + 1 by ring, List.range_succ, List.range_succ]
      simp

/-- What a new stage emits for a whole signal. -/
theorem process_emits (stageNum : ℕ) {src : List F} (hsrc : 8 ∣ src.length) :
    ∃ (stage : DecimationStage F) (out : List F),
      (DecimationStage.new stageNum).process src [] = .ok (stage, out) ∧
      complexes out = (List.range ((complexes src).length / 2)).map
        (emittedPair (DecimationStage.new stageNum : DecimationStage F).filter (complexes src)) := by
  obtain ⟨groups, hgroups⟩ := hsrc
  obtain ⟨stage, quads, hrun, _, hfilter, _, _, hquads⟩ :=
    @run_groups F _ stageNum src groups hgroups.symm.le
  have hchunks : (asChunks 8 src).take groups = asChunks 8 src := by
    apply List.take_of_length_le
    rw [asChunks_length]
    omega
  rw [hchunks] at hrun
  refine ⟨stage, quads.flatMap Quad.toList, ?_, ?_⟩
  · rw [process_eq, processOutputs_eq, hrun]
    rfl
  · rw [complexes_flatMap, hquads, hfilter, length_complexes, hgroups]
    congr 2
    omega

/-! ## Calls -/

/-- A call of a stage, with the length of the output slice where there is one. -/
inductive StageCall (F : Type) where
  | process (src : List F)
  | processToComplex (src : List F) (room : ℕ)

/-- The input of a call. -/
def StageCall.src : StageCall F → List F
  | .process src => src
  | .processToComplex src _ => src

/-- What a call emits. -/
def StageCall.run (stage : DecimationStage F) :
    StageCall F → Checked (DecimationStage F × List (Complex F))
  | .process src => (stage.process src []).map fun (stage, out) => (stage, complexes out)
  | .processToComplex src room => (stage.processToComplex src room).map
      fun (stage, samples, pending) => (stage, samples ++ pending.toList)

/-- The input is whole groups of four pairs, and the output slice has room for all but at most one
of the samples, as the callers see to. -/
def StageCall.Fits : StageCall F → Prop
  | .process src => 8 ∣ src.length
  | .processToComplex src room => 8 ∣ src.length ∧ src.length / 4 = room + room % 2

theorem stageCall_run {stage : DecimationStage F} (hvalid : StageValid stage) {call : StageCall F}
    (hfits : call.Fits) : ∃ stage' out, stage.process call.src [] = .ok (stage', out) ∧
      call.run stage = .ok (stage', complexes out) ∧ StageValid stage' ∧ 8 ∣ call.src.length ∧
      2 ∣ out.length := by
  have hsrc : 8 ∣ call.src.length := by
    cases call with
    | process src => exact hfits
    | processToComplex src room => exact hfits.1
  obtain ⟨stage', out, hok, hvalid', hlength⟩ := process_streams.total stage call.src hvalid hsrc
  refine ⟨stage', out, hok, ?_, hvalid', hsrc, by omega⟩
  cases call with
  | process src =>
    have hprocess : stage.process src [] = .ok (stage', out) := hok
    show (stage.process src []).map _ = _
    rw [hprocess]
    rfl
  | processToComplex src room =>
    have hroom : (complexes out).length = room + room % 2 := by
      have hsize : 8 * out.length = 4 * src.length := hlength
      rw [length_complexes, ← hfits.2]
      omega
    have hprocess : stage.process src [] = .ok (stage', out) := hok
    show (stage.processToComplex src room).map _ = _
    rw [processToComplex_eq hprocess hroom]
    exact congrArg (fun samples => Except.ok (stage', samples)) (take_room (by omega))

/-- A sequence of calls emits what one call on the whole input does. -/
theorem calls_run {stage : DecimationStage F} (hvalid : StageValid stage)
    {calls : List (StageCall F)} (hfits : ∀ call ∈ calls, call.Fits) :
    ∃ stage' out, stage.process (calls.flatMap StageCall.src) [] = .ok (stage', out) ∧
      feed StageCall.run stage calls = .ok (stage', complexes out) := by
  induction calls generalizing stage with
  | nil => exact ⟨stage, [], process_streams.nil stage hvalid, rfl⟩
  | cons call calls ih =>
    obtain ⟨stage₁, first, hfirst, hcall, hvalid₁, hsrc, heven⟩ :=
      stageCall_run hvalid (hfits call List.mem_cons_self)
    obtain ⟨stage', rest, hrest, hcalls⟩ :=
      ih hvalid₁ fun other hother => hfits other (List.mem_cons_of_mem call hother)
    refine ⟨stage', first ++ rest, ?_, ?_⟩
    · rw [List.flatMap_cons]
      exact process_streams.cut hvalid hsrc hfirst hrest
    · rw [feed_cons_ok hcall, hcalls, complexes_append first heven]
      rfl

theorem calls_whole {calls : List (StageCall F)} (hfits : ∀ call ∈ calls, call.Fits) :
    8 ∣ (calls.flatMap StageCall.src).length := by
  induction calls with
  | nil => exact Nat.dvd_zero 8
  | cons call calls ih =>
    obtain ⟨_, _, _, _, _, hsrc, _⟩ :=
      stageCall_run (stageValid_new 0) (hfits call List.mem_cons_self)
    rw [List.flatMap_cons, List.length_append]
    exact Nat.dvd_add hsrc (ih fun other hother => hfits other (List.mem_cons_of_mem call hother))

/-! ## The half-band filter -/

/-- The output of the half-band filter, decimated by two. -/
def halfBandOutput (filter : DecimationFilter) (signal : List (Complex F)) (m : ℕ) : Complex F :=
  ⟨response (halfBandKernel filter) (channel 0 signal) (2 * m + 1),
    response (halfBandKernel filter) (channel 1 signal) (2 * m + 1)⟩

/-- The second coefficient does not see the third pair of any group. -/
def ThirdPairsVanish (filter : DecimationFilter) (signal : List (Complex F)) : Prop :=
  ∀ g : ℕ, ∀ lane ≤ 1,
    (halfBandKernel filter).getD 1 0 * signalAt (channel lane signal) (4 * g + 2) = 0

/-- An output is the filter's unless it is the first of its group and its error is not zero. -/
theorem emittedValue_iff (filter : DecimationFilter) (signal : List F) (m : ℕ) :
    emittedValue filter signal m = response (halfBandKernel filter) signal (2 * m + 1) ↔
      (m % 2 = 0 → (halfBandKernel filter).getD 1 0 *
        (signalAt signal (2 * m + 2) - signalAt signal (2 * m + 2 - filter.bufSize)) = 0) := by
  unfold emittedValue
  rw [add_eq_left]
  by_cases heven : m % 2 = 0
  · rw [if_pos heven]
    exact ⟨fun h _ => h, fun h => h heven⟩
  · rw [if_neg heven]
    exact ⟨fun _ h => absurd h heven, fun _ => rfl⟩

/-- The errors vanish exactly when the third values do: the value that each of them is compared with
is the third value of an earlier group, or from before the start. -/
theorem errors_vanish_iff (filter : DecimationFilter) (signal : List F) {groups : ℕ}
    (hgroups : signal.length = 4 * groups) :
    (∀ g < groups, (halfBandKernel filter).getD 1 0 *
        (signalAt signal (4 * g + 2) - signalAt signal (4 * g + 2 - filter.bufSize)) = 0) ↔
      ∀ g : ℕ, (halfBandKernel filter).getD 1 0 * signalAt signal (4 * g + 2) = 0 := by
  have hbefore : ∀ g : ℕ, (∀ g' < g,
      (halfBandKernel filter).getD 1 0 * signalAt signal (4 * g' + 2) = 0) →
        (halfBandKernel filter).getD 1 0 * signalAt signal (4 * g + 2 - filter.bufSize) = 0 := by
    intro g hearlier
    have hsize : ∃ back, filter.bufSize = 4 * back := by
      rcases bufSize_cases filter with h | h
      · exact ⟨8, h⟩
      · exact ⟨4, h⟩
    obtain ⟨back, hback⟩ := hsize
    have hpositive : 0 < back := by
      rcases bufSize_cases filter with h | h <;> omega
    rcases Nat.lt_or_ge g back with hlt | hge
    · rw [signalAt_before signal (by omega), mul_zero]
    · have hposition : (4 * g + 2 - filter.bufSize : ℤ) = 4 * (g - back : ℕ) + 2 := by omega
      rw [hposition]
      exact hearlier (g - back) (by omega)
  constructor
  · intro h g
    induction g using Nat.strong_induction_on with
    | _ g ih =>
      rcases Nat.lt_or_ge g groups with hlt | hge
      · have herror := h g hlt
        rw [mul_sub, hbefore g ih, sub_zero] at herror
        exact herror
      · rw [signalAt_beyond (by omega), mul_zero]
  · intro h g _
    rw [mul_sub, h g, hbefore g fun g' _ => h g', sub_zero]

/-- **A stage is the half-band filter, but for the third pairs.**  Calls that fit do not panic; what
they emit is the half-band filter decimated by two exactly when the third pairs of the groups are not
seen by the second coefficient. -/
theorem halfBand_iff (stageNum : ℕ) (calls : List (StageCall F))
    (hfits : ∀ call ∈ calls, call.Fits) :
    ∃ (stage : DecimationStage F) (emitted : List (Complex F)),
      feed StageCall.run (DecimationStage.new stageNum) calls = .ok (stage, emitted) ∧
      ((∀ m < (complexes (calls.flatMap StageCall.src)).length / 2, emitted[m]? = some
          (halfBandOutput (DecimationStage.new stageNum : DecimationStage F).filter
            (complexes (calls.flatMap StageCall.src)) m)) ↔
        ThirdPairsVanish (DecimationStage.new stageNum : DecimationStage F).filter
          (complexes (calls.flatMap StageCall.src))) := by
  obtain ⟨stage, out, hprocess, hrun⟩ := calls_run (stageValid_new stageNum) hfits
  have hwhole := calls_whole hfits
  generalize calls.flatMap StageCall.src = src at hprocess hwhole ⊢
  obtain ⟨stage', out', hprocess', hout⟩ := process_emits stageNum hwhole
  obtain ⟨rfl, rfl⟩ := Prod.mk.inj (Except.ok.inj (hprocess.symm.trans hprocess'))
  obtain ⟨groups, hgroups⟩ := hwhole
  have hcount : (complexes src).length = 4 * groups := by
    rw [length_complexes]
    omega
  refine ⟨stage, complexes out, hrun, ?_⟩
  generalize (DecimationStage.new stageNum : DecimationStage F).filter = filter at hout ⊢
  generalize complexes src = signal at hout hcount ⊢
  have hemitted : ∀ m < signal.length / 2,
      ((complexes out)[m]? = some (halfBandOutput filter signal m) ↔ ∀ lane ≤ 1,
        emittedValue filter (channel lane signal) m =
          response (halfBandKernel filter) (channel lane signal) (2 * m + 1)) := by
    intro m hm
    rw [hout, List.getElem?_map, List.getElem?_range hm, Option.map_some, Option.some_inj]
    unfold emittedPair halfBandOutput
    rw [Program.Complex.mk.injEq]
    constructor
    · rintro ⟨hre, him⟩ lane hlane
      rcases (by omega : lane = 0 ∨ lane = 1) with rfl | rfl
      · exact hre
      · exact him
    · intro h
      exact ⟨h 0 (by omega), h 1 (by omega)⟩
  have hvanish : ∀ lane, _ := fun lane =>
    errors_vanish_iff filter (channel lane signal) ((channel_length lane signal).trans hcount)
  have hposition : ∀ g : ℕ, 2 * ((2 * g : ℕ) : ℤ) + 2 = 4 * g + 2 := by
    intro g
    omega
  constructor
  · intro h g lane hlane
    refine (hvanish lane).mp (fun g hg => ?_) g
    have hvalue := (emittedValue_iff filter _ _).mp
      ((hemitted (2 * g) (by omega)).mp (h (2 * g) (by omega)) lane hlane) (by omega)
    rw [hposition] at hvalue
    exact hvalue
  · intro h m hm
    apply (hemitted m hm).mpr
    intro lane hlane
    apply (emittedValue_iff filter _ _).mpr
    intro heven
    obtain ⟨g, rfl⟩ : ∃ g, m = 2 * g := ⟨m / 2, by omega⟩
    rw [hposition]
    exact (hvanish lane).mpr (fun g => h g lane hlane) g (by omega)

/-- One group, whose third pair is not zero. -/
def thirdPairCall : StageCall Rat := .process [0, 0, 0, 0, 1, 0, 0, 0]

theorem thirdPair_iff : ∃ (stage : DecimationStage Rat) (emitted : List (Complex Rat)),
    feed StageCall.run (DecimationStage.new 0) [thirdPairCall] = .ok (stage, emitted) ∧
    ((∀ m < (complexes ([thirdPairCall].flatMap StageCall.src)).length / 2, emitted[m]? = some
        (halfBandOutput (DecimationStage.new 0 : DecimationStage Rat).filter
          (complexes ([thirdPairCall].flatMap StageCall.src)) m)) ↔
      ThirdPairsVanish (DecimationStage.new 0 : DecimationStage Rat).filter
        (complexes ([thirdPairCall].flatMap StageCall.src))) := by
  apply halfBand_iff 0 [thirdPairCall]
  intro call hcall
  rw [List.mem_singleton.mp hcall]
  exact ⟨1, rfl⟩

/-- **The third pair leaks into the first output**, which the half-band filter takes from the first
two pairs. -/
theorem third_pair_leaks : ∃ (stage : DecimationStage Rat) (emitted : List (Complex Rat)),
    feed StageCall.run (DecimationStage.new 0) [thirdPairCall] = .ok (stage, emitted) ∧
      emitted[0]? ≠ some (halfBandOutput (DecimationStage.new 0 : DecimationStage Rat).filter
        (complexes thirdPairCall.src) 0) := by
  have hleaks : (feed StageCall.run (DecimationStage.new 0) [thirdPairCall]).toOption.any
      (fun outcome => decide (outcome.2[0]? ≠ some (halfBandOutput
        (DecimationStage.new 0 : DecimationStage Rat).filter (complexes thirdPairCall.src) 0))) =
      true := by
    decide +kernel
  cases hrun : feed StageCall.run (DecimationStage.new 0) [thirdPairCall] with
  | error panic =>
    rw [hrun] at hleaks
    exact nomatch hleaks
  | ok outcome =>
    rw [hrun] at hleaks
    exact ⟨outcome.1, outcome.2, rfl, of_decide_eq_true hleaks⟩

end HydraSdr.Analysis.HalfBandStage
