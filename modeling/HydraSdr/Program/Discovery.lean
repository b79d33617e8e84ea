import Mathlib.Data.List.DropRight
import Mathlib.Data.Nat.Digits.Defs

/-!
# Device discovery

The serial numbers of `discovery.rs`: the parser of the USB serial string and the string that a
WebUSB selector asks for.  A `str` is its list of characters, and its bytes are their UTF-8
encodings.
-/

set_option autoImplicit false

namespace HydraSdr.Program

/-- `char::is_whitespace`: the characters with the Unicode property `White_Space`. -/
def isWhitespace (c : Char) : Bool :=
  (0x09 ≤ c.toNat && c.toNat ≤ 0x0d) || c.toNat == 0x20 || c.toNat == 0x85 || c.toNat == 0xa0 ||
    c.toNat == 0x1680 || (0x2000 ≤ c.toNat && c.toNat ≤ 0x200a) || c.toNat == 0x2028 ||
    c.toNat == 0x2029 || c.toNat == 0x202f || c.toNat == 0x205f || c.toNat == 0x3000

/-- `str::trim`. -/
def trim (text : List Char) : List Char := (text.dropWhile isWhitespace).rdropWhile isWhitespace

/-- `str::as_bytes`. -/
def strBytes (text : List Char) : List UInt8 := text.flatMap String.utf8EncodeChar

/-- `u8::is_ascii_hexdigit`. -/
def isAsciiHexdigit (b : UInt8) : Bool :=
  (0x30 ≤ b && b ≤ 0x39) || (0x41 ≤ b && b ≤ 0x46) || (0x61 ≤ b && b ≤ 0x66)

/-- `to_digit(16)` of a byte taken as a character. -/
def toDigit16 (b : UInt8) : Option ℕ :=
  if 0x30 ≤ b ∧ b ≤ 0x39 then some (b.toNat - 0x30)
  else if 0x41 ≤ b ∧ b ≤ 0x46 then some (b.toNat - 0x41 + 10)
  else if 0x61 ≤ b ∧ b ≤ 0x66 then some (b.toNat - 0x61 + 10)
  else none

/-- The kinds of `ParseIntError` of an unsigned integer. -/
inductive ParseIntError where
  | empty
  | invalidDigit
  | posOverflow
  deriving DecidableEq, Repr

/-- The loop of `u64::from_str_radix` over the digits. -/
def accumulateDigits : UInt64 → List UInt8 → Except ParseIntError UInt64
  | result, [] => .ok result
  | result, b :: digits =>
    match toDigit16 b with
    | none => .error .invalidDigit
    | some digit =>
      if result.toNat * 16 + digit < UInt64.size then
        accumulateDigits (UInt64.ofNat (result.toNat * 16 + digit)) digits
      else .error .posOverflow

/-- `u64::from_str_radix(_, 16)`: a sign may come first, but not alone. -/
def fromStrRadix16 : List UInt8 → Except ParseIntError UInt64
  | [] => .error .empty
  | [0x2b] => .error .invalidDigit
  | 0x2b :: digits => accumulateDigits 0 digits
  | digits => accumulateDigits 0 digits

/-- The text in front of the digits. -/
def SERIAL_PREFIX : String := "HYDRASDR SN:"

/-- SRCLINE: discovery.rs:134-140 -/
def parseHydrasdrSerial (serial : String) : Option UInt64 :=
  match List.isPrefixOf? SERIAL_PREFIX.toList serial.toList with
  | none => none
  | some rest =>
    let hex := strBytes (trim rest)
    if hex.length ≠ 16 ∨ ¬hex.all isAsciiHexdigit then none
    else (fromStrRadix16 hex).toOption

/-- SRCLINE: discovery.rs:129-131 -/
def normalizedSerial (serial : Option String) : UInt64 :=
  (serial.bind parseHydrasdrSerial).getD 0

/-- A digit as `{:X}` writes it. -/
def upperHexDigit (digit : ℕ) : Char :=
  if digit < 10 then Char.ofNat (0x30 + digit) else Char.ofNat (0x41 + (digit - 10))

/-- `{:X}`. -/
def upperHex (n : ℕ) : List Char :=
  if n = 0 then ['0'] else (Nat.digits 16 n).reverse.map upperHexDigit

/-- `format!("HYDRASDR SN:{serial:016X}")`, the serial string that a selector asks for.
SRCLINE: discovery.rs:97-98 -/
def selectorSerial (serial : UInt64) : String :=
  String.ofList (SERIAL_PREFIX.toList ++ (upperHex serial.toNat).leftpad 16 '0')

end HydraSdr.Program
