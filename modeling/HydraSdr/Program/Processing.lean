import HydraSdr.Program.Converter
import HydraSdr.Program.Queue

/-!
# Sample processing

`rx/processing.rs`: the state a stream keeps for its sample mode.
-/

set_option autoImplicit false

namespace HydraSdr.Program

variable {F : Type} [SampleArithmetic F]

/-- SRCLINE: rx/processing.rs:23-27 -/
structure IqProcessor (F : Type) where
  converter : Float32IqConverter F
  offset : ℕ
  pending : Option (Complex F)

namespace IqProcessor

/-- `IqProcessor::default()`, and what `reset` leaves. -/
def default : IqProcessor F where
  converter := .default
  offset := 0
  pending := none

/-- `&buffer[self.offset..queue.current_len]`. -/
def unread (processor : IqProcessor F) (queue : Queue) (buffer : Buffer) : Checked (List UInt8) :=
  if processor.offset ≤ queue.currentLen ∧ queue.currentLen ≤ buffer.bytes.length then
    .ok ((buffer.bytes.take queue.currentLen).drop processor.offset)
  else .error .outOfBounds

/-- The loop of `process`, with the samples written so far into an output slice of length
`room`.  A turn that goes on has written a sample, so `room` turns are enough.
SRCLINE: rx/processing.rs:50-73 -/
def processLoop (room : ℕ) : ℕ → IqProcessor F → Queue → List (Complex F) →
    Checked (Result (List (Complex F)) × IqProcessor F × Queue)
  | 0, processor, queue, written => .ok (.ok written, processor, queue)
  | turns + 1, processor, queue, written =>
    if written.length < room then
      match queue.current with
      | none => .ok (.ok written, processor, queue)
      | some buffer => do
        let raw ← processor.unread queue buffer
        let (converter, progress, samples) ← processor.converter.processU16leToF32iqSlice raw
          queue.settings.decimation (room - written.length)
        let offset := processor.offset + progress.consumedBytes
        let written := written ++ samples
        let processor : IqProcessor F := ⟨converter, offset, progress.pending⟩
        if offset = queue.currentLen then
          pure (.ok written, { processor with offset := 0 }, queue.releaseCurrent)
        else if progress.consumedBytes = 0 then
          pure (.error (.protocol "convert F32 IQ samples"
            "USB buffer ended with an incomplete conversion group"), processor, queue)
        else processLoop room turns processor queue written
    else .ok (.ok written, processor, queue)

/-- The result is what is written to an output slice of length `room`.
SRCLINE: rx/processing.rs:37-75 -/
def process (processor : IqProcessor F) (queue : Queue) (room : ℕ) :
    Checked (Result (List (Complex F)) × IqProcessor F × Queue) :=
  if room = 0 then .ok (.ok [], processor, queue)
  else match processor.pending with
    | some sample => processLoop room room { processor with pending := none } queue [sample]
    | none => processLoop room room processor queue []

end IqProcessor

/-- The processor of a sample mode; `RawProcessor` has no state. -/
def Processor (F : Type) : SampleFormat → Type
  | .rawAdc => Unit
  | .f32Iq => IqProcessor F

/-- `Default::default()` of a mode's processor; `reset` replaces a processor by it. -/
def Processor.default : (mode : SampleFormat) → Processor F mode
  | .rawAdc => ()
  | .f32Iq => IqProcessor.default

end HydraSdr.Program
