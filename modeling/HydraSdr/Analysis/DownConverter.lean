import HydraSdr.Analysis.ExactArithmetic

/-!
# The front end as a plain down-converter

Over exact arithmetic, the front end of the converter removes the running average, mixes by a
quarter of the sample rate, filters with the 47 coefficients of the half-band kernel and keeps every
second sample.
-/

set_option autoImplicit false

namespace HydraSdr.Analysis.DownConverter

open HydraSdr.Program HydraSdr.Computation HydraSdr.Analysis
open SampleArithmetic (constant)

variable {F : Type} [ExactArithmetic F]

/-! ## The plain down-converter -/

/-- The running average before a sample. -/
def average (samples : List F) : ℕ → F
  | 0 => 0
  | n + 1 => average samples n + DC_REMOVAL_ALPHA F * (signalAt samples n - average samples n)

/-- A sample without the running average. -/
def centred (samples : List F) (n : ℕ) : F := signalAt samples n - average samples n

/-- The factors of the mixer: `-1`, `-i`, `1`, `i`. -/
def rotation (n : ℕ) : Complex F :=
  if n % 4 = 0 then ⟨-1, 0⟩
  else if n % 4 = 1 then ⟨0, -1⟩
  else if n % 4 = 2 then ⟨1, 0⟩
  else ⟨0, 1⟩

/-- The mixed signal, zero before the start. -/
def mixed (samples : List F) (n : ℤ) : Complex F :=
  if n < 0 then ⟨0, 0⟩
  else ⟨(rotation n.toNat).re * centred samples n.toNat,
    (rotation n.toNat).im * centred samples n.toNat⟩

/-- The filtered signal, decimated by two. -/
def downConverted (samples : List F) (m : ℕ) : Complex F where
  re := ∑ k ∈ Finset.range 47, (HB_KERNEL_FLOAT F).getD k 0 * (mixed samples (2 * m - k)).re
  im := ∑ k ∈ Finset.range 47, (HB_KERNEL_FLOAT F).getD k 0 * (mixed samples (2 * m - k)).im

/-! ## The two branches -/

/-- The first values of a branch. -/
def pushes (branch : ℕ → F) (count : ℕ) : List F := (List.range count).map branch

omit [ExactArithmetic F] in
@[simp] theorem pushes_length (branch : ℕ → F) (count : ℕ) : (pushes branch count).length = count := by
  simp [pushes]

/-- The ring of the in-phase branch. -/
structure FirKeeps (converter : Float32IqConverter F) (pushed : List F) : Prop where
  kernel : converter.firKernel = everySecond (HB_KERNEL_FLOAT F)
  length : converter.firQueue.length = 1024
  index : converter.firIndex = pushed.length % 512
  keeps : KeepsPast 512 1024 (fun p => converter.firQueue[p]?) 0 pushed

/-- The ring of the quadrature branch. -/
structure DelayKeeps (converter : Float32IqConverter F) (pushed : List F) : Prop where
  length : converter.delayLine.length = 16
  index : converter.delayIndex = pushed.length % 12
  keeps : KeepsPast 12 12 (fun p => converter.delayLine[p]?) 0 pushed

/-- The in-phase branch is left alone. -/
def SameFir (converter converter' : Float32IqConverter F) : Prop :=
  converter'.firKernel = converter.firKernel ∧ converter'.firQueue = converter.firQueue ∧
    converter'.firIndex = converter.firIndex

/-- The quadrature branch is left alone. -/
def SameDelay (converter converter' : Float32IqConverter F) : Prop :=
  converter'.delayLine = converter.delayLine ∧ converter'.delayIndex = converter.delayIndex

theorem FirKeeps.same {converter converter' : Float32IqConverter F} {pushed : List F}
    (h : FirKeeps converter pushed) (hsame : SameFir converter converter') :
    FirKeeps converter' pushed := by
  obtain ⟨hkernel, hqueue, hindex⟩ := hsame
  refine ⟨hkernel.trans h.kernel, ?_, hindex.trans h.index, ?_⟩
  · rw [hqueue, h.length]
  · rw [hqueue]
    exact h.keeps

theorem DelayKeeps.same {converter converter' : Float32IqConverter F} {pushed : List F}
    (h : DelayKeeps converter pushed) (hsame : SameDelay converter converter') :
    DelayKeeps converter' pushed := by
  obtain ⟨hline, hindex⟩ := hsame
  refine ⟨?_, hindex.trans h.index, ?_⟩
  · rw [hline, h.length]
  · rw [hline]
    exact h.keeps

/-- `u16::from_le_bytes`. -/
def word (low high : UInt8) : UInt16 := low.toUInt16 + 256 * high.toUInt16

end HydraSdr.Analysis.DownConverter
