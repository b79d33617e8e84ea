import Mathlib.Data.Nat.Notation

/-!
# RFOne constants

The tables and limits of `rfone.rs`.
-/

set_option autoImplicit false

namespace HydraSdr.Program

/-- Default number of queued RFOne receive transfers. -/
def RFONE_TRANSFER_COUNT : ℕ := 16

/-- Bulk-IN endpoint used for RX samples. -/
def RFONE_RX_ENDPOINT : UInt8 := 0x81

/-- Complex firmware sample rates, in firmware table order. -/
def RFONE_FIRMWARE_IQ_SAMPLE_RATES : List UInt32 := [10000000, 5000000, 2500000]

/-- Raw real-ADC rates corresponding to the firmware sample-rate table. -/
def RFONE_RAW_ADC_SAMPLE_RATES : List UInt32 := [20000000, 10000000, 5000000]

/-- Effective complex rates supported by the firmware table and host decimator. -/
def RFONE_F32_IQ_SAMPLE_RATES : List UInt32 :=
  [10000000, 5000000, 2500000, 1250000, 625000, 312500, 156250, 78125]

def RFONE_GAIN_TABLE_SIZE : ℕ := 22
def RFONE_LNA_MAX_GAIN : UInt8 := 14
def RFONE_MIXER_MAX_GAIN : UInt8 := 15
def RFONE_VGA_MAX_GAIN : UInt8 := 15
def RFONE_MIN_FREQ_HZ : UInt64 := 24000000
def RFONE_MAX_FREQ_HZ : UInt64 := 1800000000

def RFONE_LINEARITY_VGA_GAINS : Vector UInt8 RFONE_GAIN_TABLE_SIZE :=
  #v[13, 12, 11, 11, 11, 11, 11, 10, 10, 10, 10, 10, 10, 10, 10, 10, 9, 8, 7, 6, 5, 4]
def RFONE_LINEARITY_MIXER_GAINS : Vector UInt8 RFONE_GAIN_TABLE_SIZE :=
  #v[12, 12, 11, 9, 8, 7, 6, 6, 5, 0, 0, 1, 0, 0, 2, 2, 1, 1, 1, 1, 0, 0]
def RFONE_LINEARITY_LNA_GAINS : Vector UInt8 RFONE_GAIN_TABLE_SIZE :=
  #v[14, 14, 14, 13, 12, 10, 9, 9, 8, 9, 8, 6, 5, 3, 1, 0, 0, 0, 0, 0, 0, 0]
def RFONE_SENSITIVITY_VGA_GAINS : Vector UInt8 RFONE_GAIN_TABLE_SIZE :=
  #v[13, 12, 11, 10, 9, 8, 7, 6, 5, 5, 5, 5, 5, 4, 4, 4, 4, 4, 4, 4, 4, 4]
def RFONE_SENSITIVITY_MIXER_GAINS : Vector UInt8 RFONE_GAIN_TABLE_SIZE :=
  #v[12, 12, 12, 12, 11, 10, 10, 9, 9, 8, 7, 4, 4, 4, 3, 2, 2, 1, 0, 0, 0, 0]
def RFONE_SENSITIVITY_LNA_GAINS : Vector UInt8 RFONE_GAIN_TABLE_SIZE :=
  #v[14, 14, 14, 14, 14, 14, 14, 14, 14, 13, 12, 12, 9, 9, 8, 7, 6, 5, 3, 2, 1, 0]

end HydraSdr.Program
