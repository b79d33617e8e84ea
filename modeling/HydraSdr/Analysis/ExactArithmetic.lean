import HydraSdr.Analysis.Conversion
import HydraSdr.Computation.HistoryRing
import Mathlib.Algebra.Ring.Rat

/-!
# Exact sample arithmetic

The filters of the converter are compared with their mathematical description over any commutative
ring, in which the literals of the source are any elements; only the literal zero must be zero.
-/

set_option autoImplicit false

namespace HydraSdr.Analysis

open HydraSdr.Program HydraSdr.Computation

/-- A commutative ring with a value for every literal. -/
class ExactArithmetic (F : Type) extends CommRing F, Div F where
  constant : ℤ → ℕ → F
  constant_zero : constant 0 0 = 0

/-- The operations of the converter are those of the ring. -/
instance (priority := low) exactSamples {F : Type} [ExactArithmetic F] : SampleArithmetic F where
  constant := ExactArithmetic.constant

instance : ExactArithmetic Rat where
  constant m k := m / 10 ^ k
  constant_zero := by simp

variable {F : Type} [ExactArithmetic F]

@[simp] theorem literal_zero : (SampleArithmetic.constant 0 0 : F) = 0 :=
  ExactArithmetic.constant_zero

/-- A value read from an array. -/
theorem fetch_some {α : Type} {xs : List α} {index : ℕ} {x : α} (h : xs[index]? = some x) :
    fetch xs index = .ok x := by
  unfold fetch
  rw [h]

theorem mapM_eq {ι β : Type} {f : ι → Checked β} {g : ι → β} {items : List ι}
    (h : ∀ item ∈ items, f item = .ok (g item)) : items.mapM f = .ok (items.map g) := by
  induction items with
  | nil => rfl
  | cons item items ih =>
    rw [List.mapM_cons, h item List.mem_cons_self,
      ih fun other hother => h other (List.mem_cons_of_mem item hother)]
    rfl

/-! ## Half-band sums -/

/-- The coefficients of a decimation filter. -/
def halfBandKernel : DecimationFilter → List F
  | .hb33 => HB_KERNEL_FLOAT_33_FAST F
  | .hb17 => HB_KERNEL_FLOAT_17_FAST F

/-- The taps of a decimation filter. -/
def halfBandTaps : DecimationFilter → Taps
  | .hb33 => hb33Taps
  | .hb17 => hb17Taps

/-- The sum of an accumulation whose window holds `window j` at distance `j` from its start. -/
def tapSum (filter : DecimationFilter) (window : ℕ → F) : F :=
  sumLeft ((halfBandTaps filter).pairs.map (fun tap => (halfBandKernel filter).getD tap.1 0 *
      (window (tap.2.1 / 2) + window (tap.2.2 / 2))) ++
    [(halfBandKernel filter).getD (halfBandTaps filter).centre.1 0 *
      window ((halfBandTaps filter).centre.2 / 2)])

/-- The folded sum of a window that goes back in time is the sum over all coefficients. -/
theorem tapSum_eq (filter : DecimationFilter) (recent : ℕ → F) :
    tapSum filter (fun j => recent (filter.bufSize - j)) =
      ∑ k ∈ Finset.range (halfBandKernel filter : List F).length,
        (halfBandKernel filter).getD k 0 * recent k := by
  cases filter with
  | hb33 =>
    simp [tapSum, halfBandKernel, halfBandTaps, hb33Taps, HB_KERNEL_FLOAT_33_FAST, sumLeft,
      DecimationFilter.bufSize, Finset.sum_range_succ]
    ring
  | hb17 =>
    simp [tapSum, halfBandKernel, halfBandTaps, hb17Taps, HB_KERNEL_FLOAT_17_FAST, sumLeft,
      DecimationFilter.bufSize, Finset.sum_range_succ]
    ring

/-- Another value at distance one is weighed by the second coefficient. -/
theorem tapSum_replaced (filter : DecimationFilter) (window other : ℕ → F)
    (h : ∀ j, 3 ≤ j → other j = window j) :
    tapSum filter other = tapSum filter window +
      (halfBandKernel filter).getD 1 0 * (other 1 - window 1) := by
  cases filter with
  | hb33 =>
    simp [tapSum, halfBandKernel, halfBandTaps, hb33Taps, HB_KERNEL_FLOAT_33_FAST, sumLeft, h]
    ring
  | hb17 =>
    simp [tapSum, halfBandKernel, halfBandTaps, hb17Taps, HB_KERNEL_FLOAT_17_FAST, sumLeft, h]
    ring

end HydraSdr.Analysis
