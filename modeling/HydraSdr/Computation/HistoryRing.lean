import Mathlib.Data.List.GetD
import Mathlib.Data.Nat.ModEq
import Mathlib.Algebra.BigOperators.Group.Finset.Basic
import Mathlib.Algebra.BigOperators.Ring.Finset

/-!
# Rings that keep the recent past

A filter keeps the last elements of a stream in a ring: an array whose cell `p` belongs to the slot
`p % size`.  The ring keeps the past when every cell holds the last element that was pushed into its
slot (`KeepsPast`); this is so at the start and after every push, and a window of cells in front of
the newest element holds the elements in the order in which they were pushed.
-/

set_option autoImplicit false

namespace HydraSdr.Computation

variable {α : Type}

/-- The element pushed `age` pushes before the last one, or `zero` before the first push. -/
def past (zero : α) (pushed : List α) (age : ℕ) : α := pushed.reverse.getD age zero

@[simp] theorem past_nil (zero : α) (age : ℕ) : past zero [] age = zero := by
  simp [past]

@[simp] theorem past_concat_zero (zero : α) (pushed : List α) (x : α) :
    past zero (pushed ++ [x]) 0 = x := by
  simp [past]

@[simp] theorem past_concat_succ (zero : α) (pushed : List α) (x : α) (age : ℕ) :
    past zero (pushed ++ [x]) (age + 1) = past zero pushed age := by
  simp [past]

/-- Every cell holds the last element pushed into its slot. -/
def KeepsPast (size cells : ℕ) (look : ℕ → Option α) (zero : α) (pushed : List α) : Prop :=
  ∀ p < cells, ∀ age < size, (p + age + 1) % size = pushed.length % size →
    look p = some (past zero pushed age)

variable {size cells : ℕ} {look look' : ℕ → Option α} {zero : α} {pushed : List α}

/-- A new ring holds zeros. -/
theorem keepsPast_nil (h : ∀ p < cells, look p = some zero) :
    KeepsPast size cells look zero [] := by
  intro p hp age _ _
  rw [h p hp, past_nil]

/-- **A push** writes the cells of one slot. -/
theorem KeepsPast.push (h : KeepsPast size cells look zero pushed) {x : α}
    (hlook : ∀ p < cells,
      look' p = if p % size = pushed.length % size then some x else look p) :
    KeepsPast size cells look' zero (pushed ++ [x]) := by
  intro p hp age hage hslot
  rw [hlook p hp]
  rw [List.length_append, List.length_singleton] at hslot
  have hslot' : (p + age) % size = pushed.length % size :=
    Nat.ModEq.add_right_cancel' 1 hslot
  cases age with
  | zero => rw [if_pos (show p % size = pushed.length % size from hslot'), past_concat_zero]
  | succ age =>
    have hother : ¬p % size = pushed.length % size := by
      intro hsame
      have hzero : (p + (age + 1)) % size = (p + 0) % size := hslot'.trans hsame.symm
      have hage' : (age + 1) % size = 0 % size := Nat.ModEq.add_left_cancel' p hzero
      rw [Nat.mod_eq_of_lt hage, Nat.zero_mod] at hage'
      omega
    rw [if_neg hother, past_concat_succ]
    exact h p hp age (by omega) hslot'

/-- **A window** that ends at the upper copy of the newest element goes back in time from there. -/
theorem KeepsPast.window (h : KeepsPast size cells look zero pushed) {newest position age : ℕ}
    (hnewest : (newest + 1) % size = pushed.length % size)
    (hposition : position + age = newest + size) (hage : age < size) (hcell : position < cells) :
    look position = some (past zero pushed age) := by
  apply h position hcell age hage
  rw [hposition, Nat.add_right_comm, Nat.add_mod_right]
  exact hnewest

/-! ## Finite impulse responses -/

section Response

variable {R : Type} [CommSemiring R]

/-- The element of a signal at a position, zero outside of it. -/
def signalAt (signal : List R) (position : ℤ) : R :=
  if position < 0 then 0 else signal.getD position.toNat 0

theorem signalAt_before (signal : List R) {position : ℤ} (h : position < 0) :
    signalAt signal position = 0 :=
  if_pos h

theorem signalAt_beyond {signal : List R} {position : ℤ} (h : signal.length ≤ position) :
    signalAt signal position = 0 := by
  unfold signalAt
  rw [if_neg (by omega)]
  exact List.getD_eq_default _ _ (by omega)

/-- The response of a filter at a position of a signal. -/
def response (kernel signal : List R) (position : ℤ) : R :=
  ∑ k ∈ Finset.range kernel.length, kernel.getD k 0 * signalAt signal (position - k)

/-- The past of a signal, seen from one of its positions. -/
theorem past_take {signal : List R} {position : ℕ} (h : position < signal.length) (age : ℕ) :
    past 0 (signal.take (position + 1)) age = signalAt signal (position - age) := by
  unfold past signalAt
  have hlength : (signal.take (position + 1)).length = position + 1 := by
    rw [List.length_take]
    omega
  rcases Nat.lt_or_ge position age with hlt | hge
  · rw [if_pos (by omega), List.getD_eq_default]
    rw [List.length_reverse, hlength]
    omega
  · rw [if_neg (by omega), List.getD_eq_getElem?_getD, List.getElem?_reverse (by omega), hlength,
      List.getElem?_take_of_lt (by omega), List.getD_eq_getElem?_getD]
    congr 2
    omega

end Response

end HydraSdr.Computation
