import Mathlib.Algebra.Order.Ring.Nat
import HydraSdr.Analysis.WireHistory

/-!
# Configurations and the rates they select

A sample rate passes validation exactly when the protocol can select a firmware rate and a
decimation factor for it, so a valid configuration always has its commands and receive settings.
-/

set_option autoImplicit false

namespace HydraSdr.Analysis

open HydraSdr.Program

variable {mode : SampleFormat}

/-! ## Decimation factors -/

/-- The factors by which the stages can decimate. -/
def decimationFactors : List ℕ := [1, 2, 4, 8, 16, 32, 64]

theorem mem_decimationFactors {factor : ℕ} :
    factor ∈ decimationFactors ↔ ∃ k ≤ 6, factor = 2 ^ k := by
  constructor
  · intro h
    have hall : ∀ factor ∈ decimationFactors, ∃ k ≤ 6, factor = 2 ^ k := by decide
    exact hall factor h
  · rintro ⟨k, hk, rfl⟩
    have hall : ∀ k ≤ 6, 2 ^ k ∈ decimationFactors := by decide
    exact hall k hk

/-- The decimation factor of receive settings is one that the stages can decimate by. -/
def ValidReceive (settings : ReceiveSettings) : Prop :=
  settings.decimation ∈ decimationFactors

/-! ## Rates that are listed are selected -/

theorem iqRate_selected (policy : DecimationPolicy) : ∀ rate ∈ RFONE_F32_IQ_SAMPLE_RATES,
    ∃ selected, sampleRateConfig .f32Iq policy rate = .ok selected := by
  have hlist : RFONE_F32_IQ_SAMPLE_RATES.all
      (fun rate => (sampleRateConfig .f32Iq policy rate).isOk) = true := by
    cases policy <;> decide
  intro rate hrate
  have h := List.all_eq_true.mp hlist rate hrate
  cases hselected : sampleRateConfig .f32Iq policy rate with
  | ok selected => exact ⟨selected, rfl⟩
  | error e => rw [hselected] at h; exact nomatch h

theorem rawRate_selected (policy : DecimationPolicy) : ∀ rate ∈ RFONE_RAW_ADC_SAMPLE_RATES,
    ∃ selected, sampleRateConfig .rawAdc policy rate = .ok selected := by
  have hlist : RFONE_RAW_ADC_SAMPLE_RATES.all
      (fun rate => (sampleRateConfig .rawAdc policy rate).isOk) = true := by
    cases policy <;> decide
  intro rate hrate
  have h := List.all_eq_true.mp hlist rate hrate
  cases hselected : sampleRateConfig .rawAdc policy rate with
  | ok selected => exact ⟨selected, rfl⟩
  | error e => rw [hselected] at h; exact nomatch h

/-! ## Rates that are selected are listed -/

/-- Every quotient of a firmware rate by a decimation factor is a listed rate. -/
theorem quotient_listed : ∀ rate ∈ RFONE_FIRMWARE_IQ_SAMPLE_RATES,
    ∀ factor ∈ DECIMATION_FACTORS_DESC, rate % factor = 0 →
      rate / factor ∈ RFONE_F32_IQ_SAMPLE_RATES := by
  have hlist : RFONE_FIRMWARE_IQ_SAMPLE_RATES.all (fun rate =>
      DECIMATION_FACTORS_DESC.all fun factor => decide (rate % factor = 0 →
        rate / factor ∈ RFONE_F32_IQ_SAMPLE_RATES)) = true := by
    decide
  intro rate hrate factor hfactor
  have h := List.all_eq_true.mp hlist rate hrate
  exact of_decide_eq_true (List.all_eq_true.mp h factor hfactor)

/-- A divisor of a number is its quotient by the quotient. -/
theorem eq_div_of_dividing {rate samplerate : UInt32} (hmod : rate % samplerate = 0)
    (hfactor : rate / samplerate ≠ 0) :
    rate % (rate / samplerate) = 0 ∧ samplerate = rate / (rate / samplerate) := by
  have hmod' : rate.toNat % samplerate.toNat = 0 := by
    rw [← UInt32.toNat_mod, hmod]
    rfl
  have hpos : 0 < rate.toNat / samplerate.toNat := by
    rw [← UInt32.toNat_div]
    exact Nat.pos_of_ne_zero fun h => hfactor (UInt32.toNat_inj.mp h)
  have hproduct : samplerate.toNat * (rate.toNat / samplerate.toNat) = rate.toNat :=
    Nat.mul_div_cancel' (Nat.dvd_of_mod_eq_zero hmod')
  constructor
  · apply UInt32.toNat_inj.mp
    rw [UInt32.toNat_mod, UInt32.toNat_div]
    exact Nat.mod_eq_zero_of_dvd ⟨samplerate.toNat, by rw [Nat.mul_comm]; exact hproduct.symm⟩
  · apply UInt32.toNat_inj.mp
    rw [UInt32.toNat_div, UInt32.toNat_div]
    exact (Nat.div_eq_of_eq_mul_left hpos hproduct.symm).symm

theorem rateCandidate_listed {samplerate rate : UInt32} {candidate : UInt32 × UInt32}
    (hrate : rate ∈ RFONE_FIRMWARE_IQ_SAMPLE_RATES)
    (h : rateCandidate samplerate rate = some candidate) :
    samplerate ∈ RFONE_F32_IQ_SAMPLE_RATES := by
  unfold rateCandidate at h
  split at h
  · exact nomatch h
  · split at h
    · rename_i hdivides
      obtain ⟨hmod, hfactor⟩ := hdivides
      have hnonzero : rate / samplerate ≠ 0 := by
        intro hzero
        rw [hzero] at hfactor
        exact absurd hfactor (by decide)
      obtain ⟨hmod', hquotient⟩ := eq_div_of_dividing hmod hnonzero
      rw [hquotient]
      exact quotient_listed rate hrate _ hfactor hmod'
    · exact nomatch h

/-- **A rate can be selected exactly when it passes validation.** -/
theorem rate_selected_iff (policy : DecimationPolicy) (rate : UInt32) :
    (∃ selected, sampleRateConfig mode policy rate = .ok selected) ↔
      validateSampleRate rate mode = .ok () := by
  cases mode with
  | rawAdc =>
    constructor
    · rintro ⟨selected, hselected⟩
      have hlisted : rate ∈ RFONE_RAW_ADC_SAMPLE_RATES := by
        unfold sampleRateConfig at hselected
        dsimp only at hselected
        split at hselected
        · exact nomatch hselected
        · rename_i index hindex
          obtain ⟨hlt, hfound, _⟩ := List.findIdx?_eq_some_iff_getElem.mp hindex
          exact of_decide_eq_true hfound ▸ List.getElem_mem hlt
      exact if_pos hlisted
    · intro hvalid
      refine rawRate_selected policy rate ?_
      by_contra hnot
      exact nomatch (if_neg hnot).symm.trans hvalid
  | f32Iq =>
    constructor
    · rintro ⟨selected, hselected⟩
      have hlisted : rate ∈ RFONE_F32_IQ_SAMPLE_RATES := by
        by_contra hnot
        have hnone : RFONE_FIRMWARE_IQ_SAMPLE_RATES.filterMap (rateCandidate rate) = [] := by
          refine List.filterMap_eq_nil_iff.mpr fun fw hfw => ?_
          cases hcandidate : rateCandidate rate fw with
          | none => rfl
          | some candidate => exact absurd (rateCandidate_listed hfw hcandidate) hnot
        unfold sampleRateConfig sampleRateHardwareConfig at hselected
        simp only [hnone] at hselected
        cases policy <;> exact nomatch hselected
      exact if_pos hlisted
    · intro hvalid
      refine iqRate_selected policy rate ?_
      by_contra hnot
      exact nomatch (if_neg hnot).symm.trans hvalid

/-- The factor selected with a rate. -/
theorem selected_factor {policy : DecimationPolicy} {rate : UInt32} {selected : SelectedSampleRate}
    (h : sampleRateConfig mode policy rate = .ok selected) :
    selected.decimation.toNat ∈ decimationFactors := by
  have hvalid := (rate_selected_iff policy rate).mp ⟨selected, h⟩
  cases mode with
  | rawAdc =>
    have hlist : RFONE_RAW_ADC_SAMPLE_RATES.all (fun rate =>
        (sampleRateConfig .rawAdc policy rate).toOption.all fun selected =>
          decide (selected.decimation.toNat ∈ decimationFactors)) = true := by
      cases policy <;> decide
    have hlisted : rate ∈ RFONE_RAW_ADC_SAMPLE_RATES := by
      by_contra hnot
      exact nomatch (if_neg hnot).symm.trans hvalid
    have hrate := List.all_eq_true.mp hlist rate hlisted
    rw [h] at hrate
    exact of_decide_eq_true hrate
  | f32Iq =>
    have hlist : RFONE_F32_IQ_SAMPLE_RATES.all (fun rate =>
        (sampleRateConfig .f32Iq policy rate).toOption.all fun selected =>
          decide (selected.decimation.toNat ∈ decimationFactors)) = true := by
      cases policy <;> decide
    have hlisted : rate ∈ RFONE_F32_IQ_SAMPLE_RATES := by
      by_contra hnot
      exact nomatch (if_neg hnot).symm.trans hvalid
    have hrate := List.all_eq_true.mp hlist rate hlisted
    rw [h] at hrate
    exact of_decide_eq_true hrate

/-! ## Whole configurations -/

theorem validate_iff (config : Config mode) :
    config.validate = .ok () ↔ validateFrequency config.frequencyHz = .ok () ∧
      validateSampleRate config.sampleRateHz mode = .ok () ∧ validateGain config.gain = .ok () := by
  unfold Config.validate
  constructor
  · intro h
    obtain ⟨_, hfrequency, h⟩ := bind_ok h
    obtain ⟨_, hrate, hgain⟩ := bind_ok h
    exact ⟨hfrequency, hrate, hgain⟩
  · rintro ⟨hfrequency, hrate, hgain⟩
    rw [hfrequency, hrate, hgain]
    rfl

/-- The receive settings that a selected rate and a configuration stand for. -/
def receiveSettings (config : Config mode) (rate : SelectedSampleRate) : ReceiveSettings where
  packing := config.packing
  decimation := rate.decimation.toNat

/-- `configuration` succeeds with the receive settings of the selected rate. -/
theorem configuration_ok_iff (config : Config mode) (receive : ReceiveSettings) :
    (∃ commands, configuration config = .ok (commands, receive)) ↔
      ∃ rate, sampleRateConfig mode config.decimationPolicy config.sampleRateHz = .ok rate ∧
        receive = receiveSettings config rate := by
  constructor
  · rintro ⟨commands, h⟩
    obtain ⟨rate, hrate, h⟩ := bind_ok h
    cases hselected : sampleRateConfig mode config.decimationPolicy config.sampleRateHz with
    | error e => rw [hselected] at hrate; exact nomatch hrate
    | ok selected =>
      rw [hselected] at hrate
      obtain rfl := Except.ok.inj hrate
      exact ⟨selected, rfl, (congrArg Prod.snd (Except.ok.inj h)).symm⟩
  · rintro ⟨rate, hrate, rfl⟩
    apply Exists.intro
    unfold configuration
    rw [hrate]
    rfl

/-- The snapshot is valid, and the session's receive settings are the ones it stands for. -/
structure InStep (config : Config mode) (receive : ReceiveSettings) : Prop where
  valid : config.validate = .ok ()
  settings : ∃ commands, configuration config = .ok (commands, receive)

/-- Receive settings that are in step are valid. -/
theorem InStep.factor {config : Config mode} {receive : ReceiveSettings}
    (h : InStep config receive) : ValidReceive receive := by
  obtain ⟨rate, hrate, rfl⟩ := (configuration_ok_iff config receive).mp h.settings
  exact selected_factor hrate

/-- A valid configuration has its commands and settings. -/
theorem inStep_of_valid {config : Config mode} (h : config.validate = .ok ()) :
    ∃ commands receive, configuration config = .ok (commands, receive) ∧
      InStep config receive := by
  obtain ⟨rate, hrate⟩ := (rate_selected_iff config.decimationPolicy config.sampleRateHz).mpr
    ((validate_iff config).mp h).2.1
  obtain ⟨commands, hcommands⟩ := (configuration_ok_iff config _).mpr ⟨rate, hrate, rfl⟩
  exact ⟨commands, _, hcommands, h, commands, hcommands⟩

/-- The commands of a configuration leave the receiver mode alone. -/
theorem configuration_quiet {config : Config mode} {commands : List Command}
    {receive : ReceiveSettings} (h : configuration config = .ok (commands, receive)) :
    Quiet (commands.map Transfer.ofCommand) := by
  obtain ⟨rate, _, h⟩ := bind_ok h
  obtain rfl := congrArg Prod.fst (Except.ok.inj h)
  intro transfer htransfer
  simp only [List.map_append, List.map_cons, List.map_nil, List.map_map, List.mem_append,
    List.mem_cons, List.mem_map, List.not_mem_nil, or_false] at htransfer
  rcases htransfer with ((rfl | rfl | rfl) | ⟨request, _, rfl⟩) | rfl | rfl <;> rfl

end HydraSdr.Analysis
