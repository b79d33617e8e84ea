import Mathlib.Algebra.Order.Ring.Nat
import HydraSdr.Analysis.SettingsAgreement

/-!
# Rate selection and rate validation agree

The rates for which the protocol finds a firmware rate and a decimation factor are the rates that
validation accepts, in the builder and in the device's setter.  The firmware rate found is the
smallest or the largest from which the requested rate is reached.
-/

set_option autoImplicit false

namespace HydraSdr.Analysis.RateSelection

open HydraSdr.Program HydraSdr.Computation HydraSdr.Analysis
open HydraSdr.Analysis.SettingsAgreement

variable {mode : SampleFormat}

/-! ## Candidates -/

/-- A decimation factor is a power of two, up to 64. -/
theorem mem_decimation {factor : UInt32} :
    factor ∈ DECIMATION_FACTORS_DESC ↔ ∃ k ≤ 6, factor.toNat = 2 ^ k := by
  constructor
  · intro h
    have hlist : DECIMATION_FACTORS_DESC.all
        (fun factor => (List.range 7).any fun k => factor.toNat = 2 ^ k) = true := by
      decide
    obtain ⟨k, hk, hfactor⟩ := List.any_eq_true.mp (List.all_eq_true.mp hlist factor h)
    exact ⟨k, by have := List.mem_range.mp hk; omega, of_decide_eq_true hfactor⟩
  · rintro ⟨k, hk, hfactor⟩
    have hall : ∀ k ≤ 6, UInt32.ofNat (2 ^ k) ∈ DECIMATION_FACTORS_DESC := by decide
    rw [← UInt32.ofNat_toNat (x := factor), hfactor]
    exact hall k hk

/-- A candidate is a firmware rate and the factor by which it is a multiple of the requested
rate. -/
theorem rateCandidate_iff {samplerate rate : UInt32} (hrate : rate ≠ 0)
    {candidate : UInt32 × UInt32} :
    rateCandidate samplerate rate = some candidate ↔
      candidate.1 = rate ∧ rate.toNat = samplerate.toNat * candidate.2.toNat ∧
        ∃ k ≤ 6, candidate.2.toNat = 2 ^ k := by
  obtain ⟨found, factor⟩ := candidate
  have hrate' : rate.toNat ≠ 0 := fun h => hrate (UInt32.toNat_inj.mp h)
  unfold rateCandidate
  constructor
  · intro h
    split at h
    · exact nomatch h
    · split at h
      · rename_i hdivides
        obtain ⟨hmod, hfactor⟩ := hdivides
        obtain ⟨rfl, rfl⟩ := Prod.mk.inj (Option.some.inj h)
        have hmod' : rate.toNat % samplerate.toNat = 0 := by
          rw [← UInt32.toNat_mod, hmod]
          rfl
        refine ⟨rfl, ?_, mem_decimation.mp hfactor⟩
        rw [UInt32.toNat_div]
        exact (Nat.mul_div_cancel' (Nat.dvd_of_mod_eq_zero hmod')).symm
      · exact nomatch h
  · rintro ⟨hfound, hproduct, hpower⟩
    obtain rfl : found = rate := hfound
    dsimp only at hproduct hpower
    have hpositive : 0 < samplerate.toNat := by
      apply Nat.pos_of_ne_zero
      intro hzero
      rw [hzero, Nat.zero_mul] at hproduct
      exact hrate' hproduct
    have hquotient : found / samplerate = factor := by
      apply UInt32.toNat_inj.mp
      rw [UInt32.toNat_div, hproduct]
      exact Nat.mul_div_cancel_left _ hpositive
    have hmod : found % samplerate = 0 := by
      apply UInt32.toNat_inj.mp
      rw [UInt32.toNat_mod, hproduct]
      exact Nat.mul_mod_right _ _
    rw [if_neg fun hzero => hpositive.ne' (by rw [hzero]; rfl), hquotient, if_pos ⟨hmod, mem_decimation.mpr hpower⟩]

/-! ## The best candidate -/

/-- A fold that keeps one of two rates ends at one of them all, and at the best. -/
theorem foldl_best {better : UInt32 → UInt32 → Prop} (hrefl : ∀ a, better a a)
    (htrans : ∀ {a b c}, better a b → better b c → better a c)
    {keep : UInt32 × UInt32 → UInt32 × UInt32 → UInt32 × UInt32}
    (hkeep : ∀ best other, (keep best other = best ∨ keep best other = other) ∧
      better (keep best other).1 best.1 ∧ better (keep best other).1 other.1)
    (candidates : List (UInt32 × UInt32)) (candidate : UInt32 × UInt32) :
    candidates.foldl keep candidate ∈ candidate :: candidates ∧
      ∀ other ∈ candidate :: candidates, better (candidates.foldl keep candidate).1 other.1 := by
  induction candidates generalizing candidate with
  | nil =>
    refine ⟨List.mem_cons_self, fun other hother => ?_⟩
    rw [List.mem_singleton.mp hother]
    exact hrefl _
  | cons next candidates ih =>
    obtain ⟨hchoice, hbest, hother⟩ := hkeep candidate next
    obtain ⟨hmem, hall⟩ := ih (keep candidate next)
    have hkept := hall _ List.mem_cons_self
    constructor
    · rw [List.foldl_cons]
      rcases List.mem_cons.mp hmem with heq | hmem
      · rw [heq]
        rcases hchoice with hchoice | hchoice
        · rw [hchoice]
          exact List.mem_cons_self
        · rw [hchoice]
          exact List.mem_cons_of_mem _ List.mem_cons_self
      · exact List.mem_cons_of_mem _ (List.mem_cons_of_mem _ hmem)
    · intro other hmem'
      rw [List.foldl_cons]
      rcases List.mem_cons.mp hmem' with rfl | hmem'
      · exact htrans hkept hbest
      · rcases List.mem_cons.mp hmem' with rfl | hmem'
        · exact htrans hkept hother
        · exact hall other (List.mem_cons_of_mem _ hmem')

/-- Of two firmware rates, which one a policy prefers. -/
def Prefers : DecimationPolicy → UInt32 → UInt32 → Prop
  | .lowBandwidth, rate, other => rate ≤ other
  | .highDefinition, rate, other => other ≤ rate

/-- The hardware configuration is the best candidate for the policy. -/
theorem hardwareConfig_best {policy : DecimationPolicy} {samplerate : UInt32}
    {best : UInt32 × UInt32} (h : sampleRateHardwareConfig policy samplerate = some best) :
    best ∈ RFONE_FIRMWARE_IQ_SAMPLE_RATES.filterMap (rateCandidate samplerate) ∧
      ∀ other ∈ RFONE_FIRMWARE_IQ_SAMPLE_RATES.filterMap (rateCandidate samplerate),
        Prefers policy best.1 other.1 := by
  unfold sampleRateHardwareConfig at h
  generalize RFONE_FIRMWARE_IQ_SAMPLE_RATES.filterMap (rateCandidate samplerate) = candidates at h ⊢
  cases candidates with
  | nil => cases policy <;> exact nomatch h
  | cons candidate candidates =>
    cases policy with
    | lowBandwidth =>
      obtain rfl := Option.some.inj h
      refine foldl_best (fun a => UInt32.le_refl a) UInt32.le_trans (fun best other => ?_) _ _
      split
      · rename_i hlt
        exact ⟨.inr rfl, UInt32.le_of_lt hlt, UInt32.le_refl _⟩
      · rename_i hge
        exact ⟨.inl rfl, UInt32.le_refl _, UInt32.not_lt.mp hge⟩
    | highDefinition =>
      obtain rfl := Option.some.inj h
      refine @foldl_best (fun a b => b ≤ a) (fun a => UInt32.le_refl a)
        (fun hab hbc => UInt32.le_trans hbc hab) _ (fun best other => ?_) _ _
      split
      · rename_i hlt
        exact ⟨.inl rfl, UInt32.le_refl _, UInt32.le_of_lt hlt⟩
      · rename_i hge
        exact ⟨.inr rfl, UInt32.not_lt.mp hge, UInt32.le_refl _⟩

/-- The rate of a hardware configuration is in the firmware table, where `position` finds it. -/
theorem hardwareRate_found {policy : DecimationPolicy} {samplerate : UInt32}
    {best : UInt32 × UInt32} (h : sampleRateHardwareConfig policy samplerate = some best) :
    RFONE_FIRMWARE_IQ_SAMPLE_RATES.findIdx? (fun rate => rate = best.1) =
      some (RFONE_FIRMWARE_IQ_SAMPLE_RATES.idxOf best.1) := by
  obtain ⟨rate, hlisted, hcandidate⟩ := List.mem_filterMap.mp (hardwareConfig_best h).1
  have hrate : best.1 = rate := by
    unfold rateCandidate at hcandidate
    split at hcandidate
    · exact nomatch hcandidate
    · split at hcandidate
      · exact (congrArg Prod.fst (Option.some.inj hcandidate)).symm
      · exact nomatch hcandidate
  rw [hrate]
  exact List.findIdx?_eq_some_of_exists ⟨rate, hlisted, by simp⟩

/-! ## What is selected -/

/-- What a selected rate stands for. -/
def Selects : SampleFormat → DecimationPolicy → UInt32 → SelectedSampleRate → Prop
  | .rawAdc, _, rate, selected =>
    ∃ firmware, RFONE_FIRMWARE_IQ_SAMPLE_RATES[selected.param.toNat]? = some firmware ∧
      selected.decimation = 1 ∧ rate.toNat = 2 * firmware.toNat
  | .f32Iq, policy, rate, selected =>
    ∃ firmware, RFONE_FIRMWARE_IQ_SAMPLE_RATES[selected.param.toNat]? = some firmware ∧
      firmware.toNat = rate.toNat * selected.decimation.toNat ∧
      (∃ k ≤ 6, selected.decimation.toNat = 2 ^ k) ∧
      ∀ other ∈ RFONE_FIRMWARE_IQ_SAMPLE_RATES, (∃ k ≤ 6, other.toNat = rate.toNat * 2 ^ k) →
        Prefers policy firmware other

theorem checkedVendorParam_inv {index : ℕ} {param : UInt16}
    (h : checkedVendorParam index = .ok param) : param.toNat = index := by
  unfold checkedVendorParam at h
  split at h
  · rename_i hsize
    rw [← Except.ok.inj h]
    exact UInt16.toNat_ofNat_of_lt' hsize
  · exact nomatch h

/-- The two tables go together: an ADC rate is twice the complex rate at its index. -/
theorem rawRate_double {index : ℕ} {rate : UInt32}
    (h : RFONE_RAW_ADC_SAMPLE_RATES[index]? = some rate) :
    ∃ firmware, RFONE_FIRMWARE_IQ_SAMPLE_RATES[index]? = some firmware ∧
      rate.toNat = 2 * firmware.toNat := by
  match index with
  | 0 => exact ⟨10000000, rfl, by rw [← Option.some.inj h]; rfl⟩
  | 1 => exact ⟨5000000, rfl, by rw [← Option.some.inj h]; rfl⟩
  | 2 => exact ⟨2500000, rfl, by rw [← Option.some.inj h]; rfl⟩
  | index + 3 => exact nomatch h

theorem firmwareRate_ne_zero {rate : UInt32} (h : rate ∈ RFONE_FIRMWARE_IQ_SAMPLE_RATES) :
    rate ≠ 0 := by
  have hlist : RFONE_FIRMWARE_IQ_SAMPLE_RATES.all (fun rate => rate ≠ 0) = true := by decide
  exact of_decide_eq_true (List.all_eq_true.mp hlist rate h)

/-- **What is selected** is a firmware rate from the table, the best of those that reach the
requested rate. -/
theorem selects {policy : DecimationPolicy} {rate : UInt32} {selected : SelectedSampleRate}
    (h : sampleRateConfig mode policy rate = .ok selected) : Selects mode policy rate selected := by
  unfold sampleRateConfig at h
  cases mode with
  | rawAdc =>
    dsimp only at h
    split at h
    · exact nomatch h
    · rename_i index hindex
      obtain ⟨param, hparam, h⟩ := bind_ok h
      obtain rfl := Except.ok.inj h
      obtain ⟨hlt, hfound, _⟩ := List.findIdx?_eq_some_iff_getElem.mp hindex
      have hrate : RFONE_RAW_ADC_SAMPLE_RATES[index]? = some rate := by
        rw [List.getElem?_eq_getElem hlt, of_decide_eq_true hfound]
      obtain ⟨firmware, hfirmware, hdouble⟩ := rawRate_double hrate
      refine ⟨firmware, ?_, rfl, hdouble⟩
      rw [checkedVendorParam_inv hparam]
      exact hfirmware
  | f32Iq =>
    dsimp only at h
    split at h
    · exact nomatch h
    · rename_i firmware decimation hhardware
      obtain ⟨param, hparam, h⟩ := bind_ok h
      obtain rfl := Except.ok.inj h
      obtain ⟨hcandidate, hbest⟩ := hardwareConfig_best hhardware
      obtain ⟨listed, hlisted, hcandidate⟩ := List.mem_filterMap.mp hcandidate
      obtain ⟨rfl, hproduct, hpower⟩ :=
        (rateCandidate_iff (firmwareRate_ne_zero hlisted)).mp hcandidate
      refine ⟨firmware, ?_, hproduct, hpower, ?_⟩
      · obtain ⟨hlt, hfound, _⟩ :=
          List.findIdx?_eq_some_iff_getElem.mp (hardwareRate_found hhardware)
        rw [checkedVendorParam_inv hparam, List.getElem?_eq_getElem hlt, of_decide_eq_true hfound]
      · intro other hother hreached
        obtain ⟨k, hk, hreached⟩ := hreached
        have hfactor : (UInt32.ofNat (2 ^ k)).toNat = 2 ^ k := by
          apply UInt32.toNat_ofNat_of_lt'
          exact (Nat.pow_le_pow_right (by omega) hk).trans_lt (by decide)
        refine hbest (other, UInt32.ofNat (2 ^ k)) (List.mem_filterMap.mpr ⟨other, hother, ?_⟩)
        apply (rateCandidate_iff (firmwareRate_ne_zero hother)).mpr
        exact ⟨rfl, by rw [hfactor]; exact hreached, k, hk, hfactor⟩

/-! ## The setter -/

/-- The operation passes its checks: its first segment issues a transfer. -/
def Accepted (operation : Operation (DeviceWorld mode) (Result Unit)) (w : DeviceWorld mode) :
    Prop :=
  ∃ ticket request next w', operation.denote.advance DeviceWorld.port w =
    (.waiting ticket request next, w')

/-- On an open device, the setter accepts the rates that pass validation. -/
theorem setter_accepts_iff (rate : UInt32) (called : DeviceWorld mode) {w : DeviceWorld mode}
    (hopen : w.session.state.device = .opened) :
    Accepted (Device.setSampleRateHz rate called) w ↔ validateSampleRate rate mode = .ok () := by
  constructor
  · rintro ⟨ticket, request, next, w', hwaiting⟩
    by_contra hinvalid
    obtain ⟨e, hends⟩ := updateRate_endsAtOnce { called.config with sampleRateHz := rate }
      (w := w) (.inl hinvalid)
    exact nomatch hwaiting.symm.trans hends
  · intro hvalid
    obtain ⟨selected, hselected⟩ :=
      (rate_selected_iff called.config.decimationPolicy rate).mpr hvalid
    have hensure : w.session.ensureOpen = .ok () := if_pos hopen
    unfold Accepted Device.setSampleRateHz
    simp only [Device.updateRate, Device.update, Session.apply, MaybeFuture.denote_map,
      MaybeFuture.denote_andThen, MaybeFuture.denote_continueWith, MaybeFuture.denote_ready,
      Resumption.bind_done, Resumption.bind_act, Resumption.advance, hselected, hensure]
    exact ⟨_, _, _, _, rfl⟩

/-- A builder whose other settings are valid builds with the rates that pass validation. -/
theorem build_iff {builder : ConfigBuilder mode} (h : builder.config.validate = .ok ())
    (rate : UInt32) : (∃ config, (builder.sampleRateHz rate).build = .ok config) ↔
      validateSampleRate rate mode = .ok () := by
  obtain ⟨hfrequency, _, hgain⟩ := (validate_iff builder.config).mp h
  unfold ConfigBuilder.build
  constructor
  · rintro ⟨config, hbuild⟩
    split at hbuild
    · rename_i hvalid
      exact ((validate_iff _).mp hvalid).2.1
    · exact nomatch hbuild
  · intro hrate
    have hvalid : (builder.sampleRateHz rate).config.validate = .ok () :=
      (validate_iff _).mpr ⟨hfrequency, hrate, hgain⟩
    split
    · exact ⟨_, rfl⟩
    · rename_i e herror
      exact nomatch herror.symm.trans hvalid

variable {F : Type} [SampleArithmetic F]

/-- **Rate selection and rate validation agree**, for every rate, format and policy.  What is
selected is the best firmware rate for the policy.  No configuration from a builder, and none that
a device reports, has a rate for which no command can be found; and on an open device the setter
accepts the rates that the builder accepts. -/
theorem selection_agrees (policy : DecimationPolicy) (rate : UInt32) :
    ((∃ selected, sampleRateConfig mode policy rate = .ok selected) ↔
      validateSampleRate rate mode = .ok ()) ∧
    (∀ selected, sampleRateConfig mode policy rate = .ok selected →
      Selects mode policy rate selected) ∧
    (∀ (builder : ConfigBuilder mode) config, builder.build = .ok config →
      ∃ commands receive, configuration config.1 = .ok (commands, receive)) ∧
    (∀ (initial : ValidConfig mode) (s : System F mode) active, System.Reachable initial s →
      snapshot s.device = some active →
        ∃ commands receive, configuration active = .ok (commands, receive)) ∧
    (∀ builder : ConfigBuilder mode, builder.config.validate = .ok () →
      ∀ called w : DeviceWorld mode, w.session.state.device = .opened →
        (Accepted (Device.setSampleRateHz rate called) w ↔
          ∃ config, (builder.sampleRateHz rate).build = .ok config)) := by
  refine ⟨rate_selected_iff policy rate, fun selected => selects, ?_, ?_, ?_⟩
  · intro builder config _
    obtain ⟨commands, receive, hcommands, _⟩ := inStep_of_valid config.2
    exact ⟨commands, receive, hcommands⟩
  · intro initial s active hreachable hsnapshot
    obtain ⟨commands, hcommands⟩ := (snapshot_inStep hreachable hsnapshot).settings
    exact ⟨commands, s.session.receive, hcommands⟩
  · intro builder hbuilder called w hopen
    rw [setter_accepts_iff rate called hopen, build_iff hbuilder rate]

end HydraSdr.Analysis.RateSelection
