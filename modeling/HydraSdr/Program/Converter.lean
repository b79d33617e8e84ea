import HydraSdr.Program.Decimator

/-!
# ADC to IQ conversion

`Float32IqConverter` of `converter.rs`: scaling, DC removal, the down-converter and the cascade
of decimation stages.
-/

set_option autoImplicit false

namespace HydraSdr.Program

open SampleArithmetic (constant)

/-- SRCLINE: converter.rs:126-136 -/
structure Float32IqConverter (F : Type) where
  firKernel : List F
  firQueue : List F
  delayLine : List F
  decimationStages : List (DecimationStage F)
  scratchA : List F
  scratchB : List F
  avg : F
  firIndex : ℕ
  delayIndex : ℕ
  deriving DecidableEq

/-- SRCLINE: converter.rs:138-142 -/
structure ConversionProgress (F : Type) where
  consumedBytes : ℕ
  written : ℕ
  pending : Option (Complex F)
  deriving DecidableEq

/-- Every second element, from the first one on (`step_by(2)`). -/
def everySecond {α : Type} : List α → List α
  | [] => []
  | [x] => [x]
  | x :: _ :: xs => x :: everySecond xs

/-- `u16::from_le_bytes` of the bytes at `index` and after it. -/
def u16FromLeBytes (bytes : List UInt8) (index : ℕ) : Checked UInt16 := do
  let low ← fetch bytes index
  let high ← fetch bytes (index + 1)
  pure (low.toUInt16 + 256 * high.toUInt16)

/-- `usize::trailing_zeros`. -/
def trailingZeros (n : ℕ) : ℕ := (List.range 64).findIdx fun i => n.testBit i

variable {F : Type} [SampleArithmetic F]

/-- SRCLINE: converter.rs:514-516 -/
def adcToFloat12 (sample : UInt16) : F :=
  constant (sample &&& 0x0fff).toNat 0 / ADC_MIDPOINT F - constant 1 0

namespace Float32IqConverter

/-- `Float32IqConverter::default()`.
SRCLINE: converter.rs:145-161 -/
def default : Float32IqConverter F where
  firKernel := everySecond (HB_KERNEL_FLOAT F)
  firQueue := List.replicate (FIR_HISTORY_SIZE * 2) (constant 0 0)
  delayLine := List.replicate 16 (constant 0 0)
  decimationStages := (List.range DEC_MAX_STAGES).map DecimationStage.new
  scratchA := []
  scratchB := []
  avg := constant 0 0
  firIndex := 0
  delayIndex := 0

/-- SRCLINE: converter.rs:307-321 -/
def pushFir (converter : Float32IqConverter F) (value : F) :
    Checked (Float32IqConverter F × F) := do
  let idx := converter.firIndex
  let firQueue ← store converter.firQueue idx value
  let firQueue ← store firQueue (idx + FIR_HISTORY_SIZE) value
  let length := converter.firKernel.length
  let src := (← checkedSub (idx + FIR_HISTORY_SIZE) length) + 1
  let acc ← (List.range 12).foldlM (fun acc i => do
    let coefficient ← fetch converter.firKernel i
    let a ← fetch firQueue (src + i)
    let b ← fetch firQueue (← checkedSub (src + length) (1 + i))
    pure (acc + coefficient * (a + b))) (constant 0 0)
  pure ({ converter with firQueue := firQueue, firIndex := (idx + 1) &&& FIR_MASK }, acc)

/-- SRCLINE: converter.rs:323-331 -/
def pushDelay (converter : Float32IqConverter F) (value : F) :
    Checked (Float32IqConverter F × F) := do
  let out ← fetch converter.delayLine converter.delayIndex
  let delayLine ← store converter.delayLine converter.delayIndex value
  let delayIndex := converter.delayIndex + 1
  pure ({ converter with
    delayLine := delayLine
    delayIndex := if Q_DELAY_LEN ≤ delayIndex then 0 else delayIndex }, out)

/-- Remove the running average from one sample and update it. -/
def removeDc (converter : Float32IqConverter F) (sample : UInt16) : Float32IqConverter F × F :=
  let x := adcToFloat12 sample - converter.avg
  ({ converter with avg := converter.avg + DC_REMOVAL_ALPHA F * x }, x)

/-- SRCLINE: converter.rs:284-305 -/
def convertAdcChunk (converter : Float32IqConverter F) (chunk : List UInt8) :
    Checked (Float32IqConverter F × Quad F) := do
  let s0 ← u16FromLeBytes chunk 0
  let s1 ← u16FromLeBytes chunk 2
  let s2 ← u16FromLeBytes chunk 4
  let s3 ← u16FromLeBytes chunk 6
  let (converter, x0) := converter.removeDc s0
  let (converter, x1) := converter.removeDc s1
  let (converter, x2) := converter.removeDc s2
  let (converter, x3) := converter.removeDc s3
  let (converter, acc0) ← converter.pushFir (-x0)
  let (converter, acc1) ← converter.pushFir x2
  let (converter, q0) ← converter.pushDelay (-x1 * constant 5 1)
  let (converter, q1) ← converter.pushDelay (x3 * constant 5 1)
  pure (converter, ⟨acc0, q0, acc1, q1⟩)

/-- SRCLINE: converter.rs:250-258 -/
def processBasebandToScratch (converter : Float32IqConverter F) (raw : List UInt8) :
    Checked (Float32IqConverter F) :=
  (asChunks 8 raw).foldlM (fun converter chunk => do
    let (converter, output) ← converter.convertAdcChunk chunk
    pure { converter with scratchA := converter.scratchA ++ output.toList })
    { converter with scratchA := [] }

/-- The result is what is written to an output slice of length `room`, and the sample that did
not fit.
SRCLINE: converter.rs:260-282 -/
def processBasebandToComplex (converter : Float32IqConverter F) (raw : List UInt8) (room : ℕ) :
    Checked (Float32IqConverter F × List (Complex F) × Option (Complex F)) := do
  let rawChunks := asChunks 8 raw
  let outChunks := room / 2
  let outTail := room % 2
  debugAssert (rawChunks.length = outChunks + outTail)
  let (converter, samples) ← (rawChunks.take outChunks).foldlM (fun (converter, samples) chunk => do
    let (converter, quad) ← convertAdcChunk converter chunk
    pure (converter, samples ++ [⟨quad.i0, quad.q0⟩, ⟨quad.i1, quad.q1⟩])) (converter, [])
  if outTail = 0 then pure (converter, samples, none)
  else
    let last ← fetch rawChunks (← checkedSub rawChunks.length 1)
    let (converter, quad) ← convertAdcChunk converter last
    pure (converter, samples ++ [⟨quad.i0, quad.q0⟩], some ⟨quad.i1, quad.q1⟩)

/-- One turn of the loop over the intermediate stages: from one scratch buffer to the other.
SRCLINE: converter.rs:336-345 -/
def processIntermediateStage (converter : Float32IqConverter F) (sourceIsA : Bool)
    (stageIdx : ℕ) : Checked (Float32IqConverter F × Bool) := do
  let stage ← fetch converter.decimationStages stageIdx
  let source := if sourceIsA then converter.scratchA else converter.scratchB
  let (stage, output) ← stage.process source []
  let stages ← store converter.decimationStages stageIdx stage
  let converter := { converter with decimationStages := stages }
  if sourceIsA then pure ({ converter with scratchB := output }, false)
  else pure ({ converter with scratchA := output }, true)

/-- SRCLINE: converter.rs:333-348 -/
def processIntermediateDecimationStages (converter : Float32IqConverter F) (numStages : ℕ) :
    Checked (Float32IqConverter F × Bool) :=
  (List.range numStages).foldlM
    (fun (converter, sourceIsA) stageIdx => converter.processIntermediateStage sourceIsA stageIdx)
    (converter, true)

/-- The branch of `process_u16le_to_f32iq_slice` that decimates.
SRCLINE: converter.rs:227-238 -/
def processDecimated (converter : Float32IqConverter F) (raw : List UInt8) (decimationFactor : ℕ)
    (room : ℕ) : Checked (Float32IqConverter F × List (Complex F) × Option (Complex F)) := do
  let converter ← converter.processBasebandToScratch raw
  let finalStage ← checkedSub (trailingZeros decimationFactor) 1
  let (converter, sourceIsA) ← converter.processIntermediateDecimationStages finalStage
  let stage ← fetch converter.decimationStages finalStage
  let (stage, samples, pending) ←
    stage.processToComplex (if sourceIsA then converter.scratchA else converter.scratchB) room
  let stages ← store converter.decimationStages finalStage stage
  pure ({ converter with decimationStages := stages }, samples, pending)

/-- Convert a prefix of `raw` into an output slice of length `room`.  With the progress come the
samples written.
SRCLINE: converter.rs:194-248 -/
def processU16leToF32iqSlice (converter : Float32IqConverter F) (raw : List UInt8)
    (decimationFactor room : ℕ) :
    Checked (Float32IqConverter F × ConversionProgress F × List (Complex F)) :=
  if room = 0 then .ok (converter, ⟨0, 0, none⟩, [])
  else
    let decimationFactor := max decimationFactor 1
    let rawAlignment := 4 * decimationFactor
    let availableRawSamples := raw.length / 2 / rawAlignment * rawAlignment
    let availablePairs := availableRawSamples / (2 * decimationFactor)
    let requestedPairs := (room + 1) / 2 * 2
    let pairs := min availablePairs requestedPairs
    if pairs = 0 then .ok (converter, ⟨0, 0, none⟩, [])
    else do
      let rawBytes := pairs * 2 * decimationFactor * 2
      let written := min room pairs
      if raw.length < rawBytes then .error .outOfBounds
      let raw := raw.take rawBytes
      let (converter, samples, pending) ←
        if decimationFactor = 1 then converter.processBasebandToComplex raw written
        else converter.processDecimated raw decimationFactor written
      debugAssert (pending.isSome = (written ≠ pairs))
      pure (converter, ⟨rawBytes, written, pending⟩, samples)

end Float32IqConverter

end HydraSdr.Program
