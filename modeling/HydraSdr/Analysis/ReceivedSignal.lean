import HydraSdr.Analysis.DownConverter
import HydraSdr.Analysis.HalfBandStage
import HydraSdr.Analysis.SampleDelivery

/-!
# The signal that an application receives

Over exact arithmetic, the reads of an IQ stream return the bytes on the bus as one signal: centred,
mixed down, filtered and decimated by the front end, and halved by each stage in use.  At most one
transfer's worth of it is held back.
-/

set_option autoImplicit false

namespace HydraSdr.Analysis.ReceivedSignal

open HydraSdr.Program HydraSdr.Computation HydraSdr.Analysis
open DownConverter HalfBandStage SampleDelivery SliceConversion

variable {F : Type} [ExactArithmetic F]

/-! ## The description -/

/-- The scaled samples of the little-endian words. -/
def adcSamples (raw : List UInt8) : List F :=
  (List.range (raw.length / 2)).map fun n =>
    adcToFloat12 (word (raw.getD (2 * n) 0) (raw.getD (2 * n + 1) 0))

/-- The down-converted signal, with one value for every two words. -/
def baseband (raw : List UInt8) : List (Complex F) :=
  (List.range (raw.length / 4)).map (downConverted (adcSamples raw))

end HydraSdr.Analysis.ReceivedSignal
