import Mathlib.Data.Int.Notation
import HydraSdr.Program.Errors

/-!
# Decimation stages

The filter kernels of `converter.rs` and its decimate-by-two stages, over any arithmetic of
samples.  Arrays are lists and every access to them is checked.  An output slice is given by its
length; what is written to it, always from its front without gaps, is returned.
-/

set_option autoImplicit false

namespace HydraSdr.Program

/-- The operations the converter uses of `f32`; `constant m k` is the literal `m / 10 ^ k`. -/
class SampleArithmetic (F : Type) extends Add F, Sub F, Mul F, Div F, Neg F where
  constant : ℤ → ℕ → F

/-- Exact arithmetic, in which the model can be evaluated. -/
instance : SampleArithmetic Rat where
  constant m k := m / 10 ^ k

open SampleArithmetic (constant)

/-- `Complex32`. -/
structure Complex (F : Type) where
  re : F
  im : F
  deriving DecidableEq

/-- The values passed to `emit`: two IQ pairs. -/
structure Quad (F : Type) where
  i0 : F
  q0 : F
  i1 : F
  q1 : F
  deriving DecidableEq

def Quad.toList {F : Type} (quad : Quad F) : List F := [quad.i0, quad.q0, quad.i1, quad.q1]

/-- `as_chunks`: the complete groups of `n`, without the remainder. -/
def asChunks {α : Type} (n : ℕ) (xs : List α) : List (List α) :=
  (List.range (xs.length / n)).map fun k => (xs.drop (k * n)).take n

def FIR_HISTORY_SIZE : ℕ := 512
def FIR_MASK : ℕ := FIR_HISTORY_SIZE - 1
def Q_DELAY_LEN : ℕ := 12
def DEC_MAX_STAGES : ℕ := 6
def DEC_STAGE_17_TAP_THRESHOLD : ℕ := 3

section Kernels

variable (F : Type) [SampleArithmetic F]

/-- `(1_u32 << (ADC_BITS - 1)) as f32` with `ADC_BITS = 12`. -/
def ADC_MIDPOINT : F := constant 2048 0

def DC_REMOVAL_ALPHA : F := constant 1 2

def HB_KERNEL_FLOAT_33_FAST : List F :=
  [ constant 0 0, constant (-14766307) 10, constant 0 0, constant 37777218 10, constant 0 0,
    constant (-8223217) 9, constant 0 0, constant 15783133 9, constant 0 0,
    constant (-28321939) 9, constant 0 0, constant 50251268 9, constant 0 0,
    constant (-9755104) 8, constant 0 0, constant 31537038 8, constant 5 1,
    constant 31537038 8, constant 0 0, constant (-9755104) 8, constant 0 0,
    constant 50251268 9, constant 0 0, constant (-28321939) 9, constant 0 0,
    constant 15783133 9, constant 0 0, constant (-8223217) 9, constant 0 0,
    constant 37777218 10, constant 0 0, constant (-14766307) 10, constant 0 0 ]

def HB_KERNEL_FLOAT_17_FAST : List F :=
  [ constant 0 0, constant (-6009383) 9, constant 0 0, constant 25370203 9, constant 0 0,
    constant (-7765221) 8, constant 0 0, constant 30773035 8, constant 5 1,
    constant 30773035 8, constant 0 0, constant (-7765221) 8, constant 0 0,
    constant 25370203 9, constant 0 0, constant (-6009383) 9, constant 0 0 ]

def HB_KERNEL_FLOAT : List F :=
  [ constant (-9986063) 10, constant 0 0, constant 16956373 10, constant 0 0,
    constant (-30544302) 10, constant 0 0, constant 50555044 10, constant 0 0,
    constant (-7901319) 9, constant 0 0, constant 11873357 9, constant 0 0,
    constant (-1741116) 8, constant 0 0, constant 25304817 9, constant 0 0,
    constant (-37225224) 9, constant 0 0, constant 57533287 9, constant 0 0,
    constant (-10232746) 8, constant 0 0, constant 31703448 8, constant 5 1,
    constant 31703448 8, constant 0 0, constant (-10232746) 8, constant 0 0,
    constant 57533287 9, constant 0 0, constant (-37225224) 9, constant 0 0,
    constant 25304817 9, constant 0 0, constant (-1741116) 8, constant 0 0,
    constant 11873357 9, constant 0 0, constant (-7901319) 9, constant 0 0,
    constant 50555044 10, constant 0 0, constant (-30544302) 10, constant 0 0,
    constant 16956373 10, constant 0 0, constant (-9986063) 10 ]

end Kernels

/-- SRCLINE: converter.rs:500-503 -/
inductive DecimationFilter where
  | hb33
  | hb17
  deriving DecidableEq, Repr

/-- SRCLINE: converter.rs:506-511 -/
def DecimationFilter.bufSize : DecimationFilter → ℕ
  | .hb33 => 32
  | .hb17 => 16

/-- SRCLINE: converter.rs:352-356 -/
structure DecimationStage (F : Type) where
  filter : DecimationFilter
  queueIq : List F
  firIndex : ℕ
  deriving DecidableEq

/-- The taps of one accumulation: each pair of positions in the window shares a coefficient,
and the centre has its own. -/
structure Taps where
  pairs : List (ℕ × ℕ × ℕ)
  centre : ℕ × ℕ

/-- SRCLINE: converter.rs:462-470 -/
def hb33Taps : Taps where
  pairs := [(1, 2, 62), (3, 6, 58), (5, 10, 54), (7, 14, 50), (9, 18, 46), (11, 22, 42),
    (13, 26, 38), (15, 30, 34)]
  centre := (16, 32)

/-- SRCLINE: converter.rs:485-489 -/
def hb17Taps : Taps where
  pairs := [(1, 2, 30), (3, 6, 26), (5, 10, 22), (7, 14, 18)]
  centre := (8, 16)

section

variable {F : Type} [SampleArithmetic F]

/-- `a + b + c + …`, from the left. -/
def sumLeft : List F → F
  | [] => constant 0 0
  | x :: xs => xs.foldl (· + ·) x

/-- One of the two sums of an accumulation: `lane` is 0 for `i` and 1 for `q`. -/
def accTaps (kernel : List F) (taps : Taps) (s : List F) (lane : ℕ) : Checked F := do
  let terms ← taps.pairs.mapM fun (tap, left, right) => do
    let coefficient ← fetch kernel tap
    let a ← fetch s (left + lane)
    let b ← fetch s (right + lane)
    pure (coefficient * (a + b))
  let coefficient ← fetch kernel taps.centre.1
  let centre ← fetch s (taps.centre.2 + lane)
  pure (sumLeft (terms ++ [coefficient * centre]))

namespace DecimationStage

/-- SRCLINE: converter.rs:359-370 -/
def new (stageNum : ℕ) : DecimationStage F :=
  let filter : DecimationFilter := if stageNum < DEC_STAGE_17_TAP_THRESHOLD then .hb33 else .hb17
  { filter := filter
    queueIq := List.replicate (filter.bufSize * 2 * 2) (constant 0 0)
    firIndex := 0 }

/-- SRCLINE: converter.rs:452-458 -/
def storeIq (stage : DecimationStage F) (idx : ℕ) (i q : F) : Checked (DecimationStage F) := do
  let bufSize := stage.filter.bufSize
  let queueIq ← store stage.queueIq (idx * 2) i
  let queueIq ← store queueIq (idx * 2 + 1) q
  let queueIq ← store queueIq ((idx + bufSize) * 2) i
  let queueIq ← store queueIq ((idx + bufSize) * 2 + 1) q
  pure { stage with queueIq := queueIq }

/-- The window that an accumulation at `idx` reads: `(idx + size - taps + 1) * 2` and on. -/
def window (stage : DecimationStage F) (idx size taps : ℕ) : Checked (List F) := do
  let start ← checkedSub (idx + size) taps
  let start := (start + 1) * 2
  if stage.queueIq.length < start then .error .outOfBounds
  else pure (stage.queueIq.drop start)

/-- SRCLINE: converter.rs:460-481 -/
def accHb33 (stage : DecimationStage F) (idx : ℕ) : Checked (F × F) := do
  let s ← stage.window idx 32 33
  let i ← accTaps (HB_KERNEL_FLOAT_33_FAST F) hb33Taps s 0
  let q ← accTaps (HB_KERNEL_FLOAT_33_FAST F) hb33Taps s 1
  pure (i, q)

/-- SRCLINE: converter.rs:483-496 -/
def accHb17 (stage : DecimationStage F) (idx : ℕ) : Checked (F × F) := do
  let s ← stage.window idx 16 17
  let i ← accTaps (HB_KERNEL_FLOAT_17_FAST F) hb17Taps s 0
  let q ← accTaps (HB_KERNEL_FLOAT_17_FAST F) hb17Taps s 1
  pure (i, q)

/-- The body of the loops of `process_hb33` and `process_hb17`: four input pairs, two output
pairs.  The loop variable `idx` is the stage's `firIndex` here. -/
def processGroup (mask : ℕ) (acc : DecimationStage F → ℕ → Checked (F × F)) (src : List F)
    (stage : DecimationStage F) (i : ℕ) : Checked (DecimationStage F × Quad F) := do
  let idx := stage.firIndex
  let stage ← stage.storeIq idx (← fetch src (i * 2)) (← fetch src (i * 2 + 1))
  let idx := (idx + 1) &&& mask
  let stage ← stage.storeIq idx (← fetch src (i * 2 + 2)) (← fetch src (i * 2 + 3))
  let idx0 := idx
  let idx := (idx + 1) &&& mask
  let stage ← stage.storeIq idx (← fetch src (i * 2 + 4)) (← fetch src (i * 2 + 5))
  let idx := (idx + 1) &&& mask
  let stage ← stage.storeIq idx (← fetch src (i * 2 + 6)) (← fetch src (i * 2 + 7))
  let idx1 := idx
  let idx := (idx + 1) &&& mask
  let (i0, q0) ← acc stage idx0
  let (i1, q1) ← acc stage idx1
  pure ({ stage with firIndex := idx }, ⟨i0, q0, i1, q1⟩)

/-- The loop over the groups of four pairs, with what it emits. -/
def processGroups (mask : ℕ) (acc : DecimationStage F → ℕ → Checked (F × F)) (src : List F)
    (stage : DecimationStage F) : Checked (DecimationStage F × List (Quad F)) :=
  let pairs := src.length / 2 / 4 * 4
  (List.range (pairs / 4)).foldlM (fun (stage, quads) k => do
    let (stage, quad) ← processGroup mask acc src stage (4 * k)
    pure (stage, quads ++ [quad])) (stage, [])

/-- SRCLINE: converter.rs:402-425 -/
def processHb33 (stage : DecimationStage F) (src : List F) :
    Checked (DecimationStage F × List (Quad F)) :=
  processGroups 31 accHb33 src stage

/-- SRCLINE: converter.rs:427-450 -/
def processHb17 (stage : DecimationStage F) (src : List F) :
    Checked (DecimationStage F × List (Quad F)) :=
  processGroups 15 accHb17 src stage

/-- SRCLINE: converter.rs:395-400 -/
def processOutputs (stage : DecimationStage F) (src : List F) :
    Checked (DecimationStage F × List (Quad F)) :=
  match stage.filter with
  | .hb33 => stage.processHb33 src
  | .hb17 => stage.processHb17 src

/-- SRCLINE: converter.rs:372-374 -/
def process (stage : DecimationStage F) (src dest : List F) :
    Checked (DecimationStage F × List F) := do
  let (stage, quads) ← stage.processOutputs src
  pure (stage, dest ++ quads.flatMap Quad.toList)

/-- What `emit` has done to the output slice: pairs of slots and the odd last slot still free,
the samples written, and the one that did not fit. -/
structure Emitted (F : Type) where
  chunks : ℕ
  tail : Bool
  samples : List (Complex F)
  pending : Option (Complex F)

/-- SRCLINE: converter.rs:381-389 -/
def emit (out : Emitted F) (quad : Quad F) : Checked (Emitted F) :=
  if out.chunks ≠ 0 then
    .ok { out with
      chunks := out.chunks - 1
      samples := out.samples ++ [⟨quad.i0, quad.q0⟩, ⟨quad.i1, quad.q1⟩] }
  else if out.tail then
    .ok { out with
      tail := false
      samples := out.samples ++ [⟨quad.i0, quad.q0⟩]
      pending := some ⟨quad.i1, quad.q1⟩ }
  else .error (.expectFailed "decimator produced excess output")

/-- The result is what is written to an output slice of length `room`, and the sample that did
not fit.
SRCLINE: converter.rs:376-393 -/
def processToComplex (stage : DecimationStage F) (src : List F) (room : ℕ) :
    Checked (DecimationStage F × List (Complex F) × Option (Complex F)) := do
  let (stage, quads) ← stage.processOutputs src
  let out ← quads.foldlM emit ⟨room / 2, room % 2 = 1, [], none⟩
  debugAssert (out.chunks = 0)
  debugAssert (out.tail = false)
  pure (stage, out.samples, out.pending)

end DecimationStage

end

end HydraSdr.Program
