import HydraSdr.Program.Discovery
import Mathlib.Data.Nat.Digits.Lemmas

/-!
# The serial parser and the selector's encoder

`parse_hydrasdr_serial` accepts the prefix, whitespace, sixteen hexadecimal digits and whitespace,
and nothing else, and it inverts the encoder of the WebUSB selector.
-/

set_option autoImplicit false

namespace HydraSdr.Analysis.SerialParsing

open HydraSdr.Program

/-! ## Trimming -/

/-- `trim` removes whitespace from both ends. -/
theorem trim_decompose (text : List Char) :
    ∃ before after, text = before ++ trim text ++ after ∧ (∀ c ∈ before, isWhitespace c = true) ∧
      ∀ c ∈ after, isWhitespace c = true := by
  refine ⟨text.takeWhile isWhitespace, (text.dropWhile isWhitespace).rtakeWhile isWhitespace, ?_,
    ?_, ?_⟩
  · unfold trim
    rw [List.append_assoc, List.rdropWhile_append_rtakeWhile, List.takeWhile_append_dropWhile]
  · intro c hc
    exact List.mem_takeWhile_imp hc
  · intro c hc
    exact List.mem_rtakeWhile_imp hc

/-- `trim` removes all of it. -/
theorem trim_between {before text after : List Char}
    (hbefore : ∀ c ∈ before, isWhitespace c = true) (hafter : ∀ c ∈ after, isWhitespace c = true)
    (htext : ∀ c ∈ text, isWhitespace c = false) (hne : text ≠ []) :
    trim (before ++ text ++ after) = text := by
  have hfront : (before ++ text ++ after).dropWhile isWhitespace = text ++ after := by
    rw [List.append_assoc, List.dropWhile_append_of_pos hbefore]
    obtain ⟨c, rest, rfl⟩ := List.exists_cons_of_ne_nil hne
    rw [List.cons_append, List.dropWhile_cons_of_neg]
    simp [htext c List.mem_cons_self]
  have hback : (text ++ after).rdropWhile isWhitespace = text.rdropWhile isWhitespace := by
    clear hfront
    induction after using List.reverseRecOn with
    | nil => rw [List.append_nil]
    | append_singleton after c ih =>
      rw [← List.append_assoc, List.rdropWhile_concat_pos _ _ _ (hafter c (by simp))]
      exact ih fun other hother => hafter other (List.mem_append_left _ hother)
  unfold trim
  rw [hfront, hback]
  apply (List.rdropWhile_eq_self_iff).mpr
  intro hl
  simp [htext _ (List.getLast_mem hl)]

/-! ## Digits -/

/-- The hexadecimal digits, of either case. -/
def hexCharacters : List Char := "0123456789ABCDEFabcdef".toList

/-- What a hexadecimal digit stands for. -/
def hexValue (c : Char) : ℕ :=
  if c.toNat < 0x41 then c.toNat - 0x30
  else if c.toNat < 0x61 then c.toNat - 0x41 + 10
  else c.toNat - 0x61 + 10

/-- The number that a sequence of hexadecimal digits denotes. -/
def hexNumber (digits : List Char) : ℕ := Nat.ofDigits 16 (digits.reverse.map hexValue)

/-- A hexadecimal digit is one byte, which the parser knows as that digit; it is not
whitespace. -/
theorem hexCharacter_facts {c : Char} (h : c ∈ hexCharacters) :
    String.utf8EncodeChar c = [c.toNat.toUInt8] ∧ isAsciiHexdigit c.toNat.toUInt8 = true ∧
      toDigit16 c.toNat.toUInt8 = some (hexValue c) ∧ hexValue c < 16 ∧
      isWhitespace c = false := by
  have hall : hexCharacters.all (fun c => decide (
      String.utf8EncodeChar c = [c.toNat.toUInt8] ∧ isAsciiHexdigit c.toNat.toUInt8 = true ∧
        toDigit16 c.toNat.toUInt8 = some (hexValue c) ∧ hexValue c < 16 ∧
        isWhitespace c = false)) = true := by
    decide
  exact of_decide_eq_true (List.all_eq_true.mp hall c h)

/-- A character whose bytes are all hexadecimal digits is one. -/
theorem hexCharacter_of_bytes {c : Char}
    (h : (String.utf8EncodeChar c).all isAsciiHexdigit = true) : c ∈ hexCharacters := by
  have hascii : ∀ {b : UInt8} {bytes : List UInt8}, (b :: bytes).all isAsciiHexdigit = true →
      b.toNat < 0x80 ∧ isAsciiHexdigit b = true := by
    intro b bytes hbytes
    have hb := List.all_eq_true.mp hbytes b List.mem_cons_self
    refine ⟨?_, hb⟩
    simp [isAsciiHexdigit, UInt8.le_iff_toNat_le] at hb
    omega
  unfold String.utf8EncodeChar at h
  dsimp only at h
  split at h
  · -- one byte: the character is that byte
    rename_i hsmall
    obtain ⟨_, hb⟩ := hascii h
    have hall : ∀ v ≤ 0x7f, isAsciiHexdigit (UInt8.ofNat v) = true →
        Char.ofNat v ∈ hexCharacters := by
      decide
    have hmem := hall c.val.toNat hsmall hb
    rwa [show Char.ofNat c.val.toNat = c from Char.ofNat_toNat c] at hmem
  · -- more bytes: the first of them is above the digits
    split at h
    · have hb := (hascii h).1
      rw [UInt8.toNat_ofNat'] at hb
      omega
    · split at h
      · have hb := (hascii h).1
        rw [UInt8.toNat_ofNat'] at hb
        omega
      · have hb := (hascii h).1
        rw [UInt8.toNat_ofNat'] at hb
        omega

theorem strBytes_hex {digits : List Char} (h : ∀ c ∈ digits, c ∈ hexCharacters) :
    strBytes digits = digits.map fun c => c.toNat.toUInt8 := by
  unfold strBytes
  induction digits with
  | nil => rfl
  | cons c digits ih =>
    rw [List.flatMap_cons, (hexCharacter_facts (h c List.mem_cons_self)).1,
      ih fun other hother => h other (List.mem_cons_of_mem c hother)]
    rfl

theorem hexNumber_cons (c : Char) (digits : List Char) :
    hexNumber (c :: digits) = hexValue c * 16 ^ digits.length + hexNumber digits := by
  unfold hexNumber
  rw [List.reverse_cons, List.map_append, Nat.ofDigits_append]
  simp
  ring

/-- The conversion does not overflow when the digits left fit. -/
theorem accumulateDigits_ok {digits : List Char} (h : ∀ c ∈ digits, c ∈ hexCharacters)
    {result : UInt64} (hfits : (result.toNat + 1) * 16 ^ digits.length ≤ UInt64.size) :
    ∃ n, accumulateDigits result (strBytes digits) = .ok n ∧
      n.toNat = result.toNat * 16 ^ digits.length + hexNumber digits := by
  rw [strBytes_hex h]
  induction digits generalizing result with
  | nil => exact ⟨result, rfl, by simp [hexNumber]⟩
  | cons c digits ih =>
    obtain ⟨_, _, hdigit, hvalue, _⟩ := hexCharacter_facts (h c List.mem_cons_self)
    have hpower : 0 < 16 ^ digits.length := Nat.pow_pos (by omega)
    have hstep : (result.toNat * 16 + hexValue c + 1) * 16 ^ digits.length ≤ UInt64.size := by
      refine le_trans ?_ hfits
      rw [List.length_cons, pow_succ, Nat.mul_comm (16 ^ digits.length) 16, ← Nat.mul_assoc]
      apply Nat.mul_le_mul_right
      omega
    have hlt : result.toNat * 16 + hexValue c < UInt64.size :=
      lt_of_lt_of_le (Nat.lt_succ_self _) (le_trans (Nat.le_mul_of_pos_right _ hpower) hstep)
    have hnext : (UInt64.ofNat (result.toNat * 16 + hexValue c)).toNat =
        result.toNat * 16 + hexValue c := UInt64.toNat_ofNat_of_lt' hlt
    obtain ⟨n, hrest, hn⟩ :=
      ih (fun other hother => h other (List.mem_cons_of_mem c hother)) (hnext ▸ hstep)
    refine ⟨n, ?_, ?_⟩
    · rw [List.map_cons, accumulateDigits, hdigit]
      dsimp only
      rw [if_pos hlt]
      exact hrest
    · rw [hn, hnext, hexNumber_cons, List.length_cons, pow_succ]
      ring

/-- **The radix conversion of sixteen digits** gives the number they denote. -/
theorem fromStrRadix16_ok {digits : List Char} (h : ∀ c ∈ digits, c ∈ hexCharacters)
    (hlength : digits.length = 16) :
    ∃ n, fromStrRadix16 (strBytes digits) = .ok n ∧ n.toNat = hexNumber digits := by
  obtain ⟨n, hok, hn⟩ := @accumulateDigits_ok digits h 0 (by rw [hlength]; decide)
  refine ⟨n, ?_, by simpa using hn⟩
  obtain ⟨c, rest, rfl⟩ := List.exists_cons_of_length_eq_add_one hlength
  have hplus : c.toNat.toUInt8 ≠ 0x2b := by
    have hall : hexCharacters.all (fun c => decide (c.toNat.toUInt8 ≠ 0x2b)) = true := by decide
    exact of_decide_eq_true (List.all_eq_true.mp hall c (h c List.mem_cons_self))
  rw [strBytes_hex h, List.map_cons] at hok ⊢
  generalize c.toNat.toUInt8 = b at hplus hok ⊢
  rw [← hok]
  unfold fromStrRadix16
  split
  · rename_i heq
    exact nomatch heq
  · rename_i heq
    exact absurd (List.cons.inj heq).1 hplus
  · rename_i heq
    exact absurd (List.cons.inj heq).1 hplus
  · rfl

/-! ## The grammar -/

/-- The grammar of serial strings: the prefix, whitespace, sixteen digits that denote the serial
number, whitespace. -/
def IsSerial (text : String) (serial : UInt64) : Prop :=
  ∃ before digits after, text.toList = SERIAL_PREFIX.toList ++ (before ++ digits ++ after) ∧
    (∀ c ∈ before, isWhitespace c = true) ∧ (∀ c ∈ after, isWhitespace c = true) ∧
    digits.length = 16 ∧ (∀ c ∈ digits, c ∈ hexCharacters) ∧ serial.toNat = hexNumber digits

/-- The parser's checks on the bytes are checks on the characters. -/
theorem checks_iff (hex : List Char) :
    ((strBytes hex).length = 16 ∧ (strBytes hex).all isAsciiHexdigit = true) ↔
      hex.length = 16 ∧ ∀ c ∈ hex, c ∈ hexCharacters := by
  constructor
  · rintro ⟨hlength, hall⟩
    have hmem : ∀ c ∈ hex, c ∈ hexCharacters := by
      intro c hc
      apply hexCharacter_of_bytes
      apply List.all_eq_true.mpr
      intro b hb
      exact List.all_eq_true.mp hall b (List.mem_flatMap.mpr ⟨c, hc, hb⟩)
    rw [strBytes_hex hmem, List.length_map] at hlength
    exact ⟨hlength, hmem⟩
  · rintro ⟨hlength, hmem⟩
    rw [strBytes_hex hmem]
    refine ⟨by rw [List.length_map, hlength], List.all_eq_true.mpr ?_⟩
    intro b hb
    obtain ⟨c, hc, rfl⟩ := List.mem_map.mp hb
    exact (hexCharacter_facts (hmem c hc)).2.1

/-- What the parser accepts after the prefix. -/
theorem parse_prefixed {text : String} {rest : List Char}
    (hrest : text.toList = SERIAL_PREFIX.toList ++ rest) (serial : UInt64) :
    parseHydrasdrSerial text = some serial ↔
      ((trim rest).length = 16 ∧ ∀ c ∈ trim rest, c ∈ hexCharacters) ∧
        (fromStrRadix16 (strBytes (trim rest))).toOption = some serial := by
  have hfront : List.isPrefixOf? SERIAL_PREFIX.toList text.toList = some rest :=
    List.isPrefixOf?_eq_some_iff_append_eq.mpr hrest.symm
  unfold parseHydrasdrSerial
  rw [hfront]
  dsimp only
  by_cases hchecks : (trim rest).length = 16 ∧ ∀ c ∈ trim rest, c ∈ hexCharacters
  · obtain ⟨hlength, hall⟩ := (checks_iff _).mpr hchecks
    rw [if_neg (not_or.mpr ⟨not_not.mpr hlength, not_not.mpr hall⟩)]
    exact ⟨fun h => ⟨hchecks, h⟩, fun h => h.2⟩
  · rw [if_pos]
    · exact ⟨(nomatch ·), fun h => absurd h.1 hchecks⟩
    · by_contra hnot
      obtain ⟨hlength, hall⟩ := not_or.mp hnot
      exact hchecks ((checks_iff _).mp ⟨not_not.mp hlength, not_not.mp hall⟩)

/-- **The parser accepts exactly the grammar.** -/
theorem parse_iff (text : String) (serial : UInt64) :
    parseHydrasdrSerial text = some serial ↔ IsSerial text serial := by
  constructor
  · intro h
    cases hfront : List.isPrefixOf? SERIAL_PREFIX.toList text.toList with
    | none =>
      unfold parseHydrasdrSerial at h
      rw [hfront] at h
      exact nomatch h
    | some rest =>
      have hrest := (List.isPrefixOf?_eq_some_iff_append_eq.mp hfront).symm
      obtain ⟨⟨hlength, hmem⟩, hserial⟩ := (parse_prefixed hrest serial).mp h
      obtain ⟨n, hradix, hn⟩ := fromStrRadix16_ok hmem hlength
      rw [hradix] at hserial
      obtain rfl := Option.some.inj hserial
      obtain ⟨before, after, htext, hbefore, hafter⟩ := trim_decompose rest
      exact ⟨before, trim rest, after, by rw [hrest, ← htext], hbefore, hafter, hlength, hmem, hn⟩
  · rintro ⟨before, digits, after, htext, hbefore, hafter, hlength, hmem, hserial⟩
    have hne : digits ≠ [] := by
      intro hnil
      rw [hnil] at hlength
      exact nomatch hlength
    have htrim : trim (before ++ digits ++ after) = digits :=
      trim_between hbefore hafter (fun c hc => (hexCharacter_facts (hmem c hc)).2.2.2.2) hne
    obtain ⟨n, hradix, hn⟩ := fromStrRadix16_ok hmem hlength
    refine (parse_prefixed htext serial).mpr ⟨?_, ?_⟩
    · rw [htrim]
      exact ⟨hlength, hmem⟩
    · rw [htrim, hradix]
      exact congrArg some (UInt64.toNat_inj.mp (hn.trans hserial.symm))

/-! ## The encoder -/

/-- An upper-case digit is a digit and stands for its value. -/
theorem upperHexDigit_facts {digit : ℕ} (h : digit < 16) :
    upperHexDigit digit ∈ hexCharacters ∧ hexValue (upperHexDigit digit) = digit := by
  have hall : ∀ digit < 16, upperHexDigit digit ∈ hexCharacters ∧
      hexValue (upperHexDigit digit) = digit := by
    decide
  exact hall digit h

theorem upperHex_facts (n : ℕ) :
    (∀ c ∈ upperHex n, c ∈ hexCharacters) ∧ hexNumber (upperHex n) = n := by
  unfold upperHex
  split
  · rename_i hzero
    subst hzero
    refine ⟨?_, by decide⟩
    intro c hc
    rw [List.mem_singleton.mp hc]
    decide
  · have hdigit : ∀ digit ∈ Nat.digits 16 n, digit < 16 := fun digit hdigit =>
      Nat.digits_lt_base (by omega) hdigit
    constructor
    · intro c hc
      obtain ⟨digit, hmem, rfl⟩ := List.mem_map.mp hc
      exact (upperHexDigit_facts (hdigit digit (List.mem_reverse.mp hmem))).1
    · have hvalues : (Nat.digits 16 n).map (hexValue ∘ upperHexDigit) = Nat.digits 16 n := by
        refine List.map_congr_left (fun digit hmem => ?_) |>.trans (List.map_id _)
        exact (upperHexDigit_facts (hdigit digit hmem)).2
      unfold hexNumber
      rw [← List.map_reverse, List.map_map, List.reverse_reverse, hvalues, Nat.ofDigits_digits]

theorem upperHex_length (serial : UInt64) : (upperHex serial.toNat).length ≤ 16 := by
  unfold upperHex
  split
  · decide
  · rw [List.length_map, List.length_reverse]
    exact (Nat.digits_length_le_iff (by omega) _).mpr serial.toNat_lt

/-- Zeros in front change nothing. -/
theorem hexNumber_zeros (count : ℕ) (digits : List Char) :
    hexNumber (List.replicate count '0' ++ digits) = hexNumber digits := by
  unfold hexNumber
  rw [List.reverse_append, List.reverse_replicate, List.map_append, List.map_replicate]
  exact Nat.ofDigits_append_replicate_zero _

/-- The selector's string is in the grammar. -/
theorem selectorSerial_isSerial (serial : UInt64) : IsSerial (selectorSerial serial) serial := by
  obtain ⟨hmem, hnumber⟩ := upperHex_facts serial.toNat
  have hlength := upperHex_length serial
  refine ⟨[], (upperHex serial.toNat).leftpad 16 '0', [], ?_, by simp, by simp, ?_, ?_, ?_⟩
  · unfold selectorSerial
    rw [String.toList_ofList, List.nil_append, List.append_nil]
  · unfold List.leftpad
    rw [List.length_append, List.length_replicate]
    omega
  · intro c hc
    unfold List.leftpad at hc
    rcases List.mem_append.mp hc with hzero | hdigit
    · rw [List.eq_of_mem_replicate hzero]
      decide
    · exact hmem c hdigit
  · unfold List.leftpad
    rw [hexNumber_zeros, hnumber]

/-- **The serial parser accepts exactly its grammar and inverts the selector's encoder.**  The
radix conversion of a string that passes its checks does not fail. -/
theorem serial_round_trip :
    (∀ text serial, parseHydrasdrSerial text = some serial ↔ IsSerial text serial) ∧
    (∀ hex : List Char, (strBytes hex).length = 16 → (strBytes hex).all isAsciiHexdigit = true →
      ∃ serial, fromStrRadix16 (strBytes hex) = .ok serial) ∧
    (∀ serial, parseHydrasdrSerial (selectorSerial serial) = some serial) ∧
    (∀ serial, normalizedSerial (some (selectorSerial serial)) = serial) ∧
    ∀ serial other, selectorSerial serial = selectorSerial other → serial = other := by
  have hparse : ∀ serial, parseHydrasdrSerial (selectorSerial serial) = some serial :=
    fun serial => (parse_iff _ _).mpr (selectorSerial_isSerial serial)
  refine ⟨parse_iff, ?_, hparse, ?_, ?_⟩
  · intro hex hlength hall
    obtain ⟨hlength', hmem⟩ := (checks_iff hex).mp ⟨hlength, hall⟩
    obtain ⟨serial, hok, _⟩ := fromStrRadix16_ok hmem hlength'
    exact ⟨serial, hok⟩
  · intro serial
    show ((some (selectorSerial serial)).bind parseHydrasdrSerial).getD 0 = serial
    rw [Option.bind_some, hparse]
    rfl
  · intro serial other h
    have hsame := hparse serial
    rw [h, hparse other] at hsame
    exact (Option.some.inj hsame).symm

end HydraSdr.Analysis.SerialParsing
