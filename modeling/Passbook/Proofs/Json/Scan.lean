import Passbook.Json.Number
import Passbook.Json.Scan
import Passbook.Json.Value
import Passbook.Proofs.Text.Decimal
import Passbook.Proofs.Text.Utf8

/-!
# Strings and numbers there and back

A string in quotes is scanned as itself, whatever its characters: an escape is scanned as the character
it was written for, and the bytes of all other characters are neither quotes nor backslashes nor control
characters. An integer in decimal digits is scanned as itself if it has 64 bits and nothing behind it goes
on with a number.
-/
namespace Passbook

namespace Utf8

@[simp] theorem decode?_encode (text : List Char) : decode? (encode text) = some text := by
  induction text with
  | nil => rw [encode_nil, decode?]
  | cons c text ih =>
      obtain ⟨b, tail, hbytes, hfront⟩ := front_encodeChar c (encode text)
      rw [encode_cons, hbytes, List.cons_append, decode?, hfront]
      simp only [List.drop_left, ih, Option.map_some]

end Utf8

namespace Json

/-- Adds what a string begins with to the rest of its bytes. -/
def begun (bytes : List UInt8) :
    Except Malformed (List UInt8 × List UInt8) → Except Malformed (List UInt8 × List UInt8)
  | .ok (more, rest) => .ok (bytes ++ more, rest)
  | .error fault => .error fault

theorem stringBytes_quote (rest : List UInt8) : stringBytes (0x22 :: rest) = .ok ([], rest) := by
  rw [stringBytes, if_pos rfl]

theorem stringBytes_plain {b : UInt8} (hquote : b ≠ 0x22) (hslash : b ≠ 0x5C) (hcontrol : ¬b < 0x20)
    (rest : List UInt8) : stringBytes (b :: rest) = begun [b] (stringBytes rest) := by
  rw [stringBytes, if_neg hquote, if_neg hslash, if_neg hcontrol]
  cases stringBytes rest <;> rfl

theorem stringBytes_append {bytes : List UInt8} (h : ∀ b ∈ bytes, b ≠ 0x22 ∧ b ≠ 0x5C ∧ ¬b < 0x20)
    (rest : List UInt8) : stringBytes (bytes ++ rest) = begun bytes (stringBytes rest) := by
  induction bytes with
  | nil =>
      rw [List.nil_append]
      cases stringBytes rest <;> rfl
  | cons b bytes ih =>
      obtain ⟨⟨hquote, hslash, hcontrol⟩, hbytes⟩ := List.forall_mem_cons.mp h
      rw [List.cons_append, stringBytes_plain hquote hslash hcontrol, ih hbytes]
      cases stringBytes rest <;> rfl

theorem stringBytes_escaped {s rest : List UInt8} {c : Char} (h : escaped s = .ok (c, rest)) :
    stringBytes (0x5C :: s) = begun (String.utf8EncodeChar c) (stringBytes rest) := by
  rw [stringBytes, if_neg (by decide), if_pos rfl]
  split
  · next hfault => cases hfault.symm.trans h
  · next hescaped =>
      cases hescaped.symm.trans h
      cases stringBytes rest <;> rfl

theorem digit_byte : ∀ n < 16, (Hex.digit n).toNat < 128 ∧
    Percent.digitValue? (UInt8.ofNat (Hex.digit n).toNat) = some n := by
  decide

theorem escaped_control {c : Char} (h : c.toNat < 32) (rest : List UInt8) :
    escaped (Utf8.encode ['u', '0', '0', Hex.digit (c.toNat / 16), Hex.digit (c.toNat % 16)] ++ rest) =
      .ok (c, rest) := by
  obtain ⟨hhigh, hhighValue⟩ := digit_byte (c.toNat / 16) (by omega)
  obtain ⟨hlow, hlowValue⟩ := digit_byte (c.toNat % 16) (by omega)
  have hbytes : Utf8.encode ['u', '0', '0', Hex.digit (c.toNat / 16), Hex.digit (c.toNat % 16)] =
      [0x75, 0x30, 0x30, UInt8.ofNat (Hex.digit (c.toNat / 16)).toNat,
        UInt8.ofNat (Hex.digit (c.toNat % 16)).toNat] := by
    refine Utf8.encode_of_ascii fun d hd => ?_
    simp only [List.mem_cons, List.not_mem_nil, or_false] at hd
    rcases hd with rfl | rfl | rfl | rfl | rfl
    · decide
    · decide
    · decide
    · exact hhigh
    · exact hlow
  have hzero : Percent.digitValue? 0x30 = some 0 := by decide
  have hcode : ((0 * 16 + 0) * 16 + c.toNat / 16) * 16 + c.toNat % 16 = c.toNat := by omega
  have hfour : hexFour ([0x30, 0x30, UInt8.ofNat (Hex.digit (c.toNat / 16)).toNat,
      UInt8.ofNat (Hex.digit (c.toNat % 16)).toNat] ++ rest) = .ok (c.toNat, rest) := by
    simp only [List.cons_append, List.nil_append, hexFour, hzero, hhighValue, hlowValue, hcode]
  rw [hbytes, List.cons_append, escaped, show shortEscape? 0x75 = none from rfl]
  simp only [if_true, escapedCodePoint, hfour]
  rw [if_neg (by omega), if_neg (by omega), Char.ofNat_toNat]

theorem stringBytes_shortEscape {c d : Char} (hd : d.toNat < 128)
    (h : shortEscape? (UInt8.ofNat d.toNat) = some c) (rest : List UInt8) :
    stringBytes (Utf8.encode ['\\', d] ++ rest) =
      begun (String.utf8EncodeChar c) (stringBytes rest) := by
  have hbytes : Utf8.encode ['\\', d] = [0x5C, UInt8.ofNat d.toNat] := by
    refine Utf8.encode_of_ascii fun e he => ?_
    simp only [List.mem_cons, List.not_mem_nil, or_false] at he
    rcases he with rfl | rfl
    · decide
    · exact hd
  rw [hbytes, List.cons_append]
  exact stringBytes_escaped (by rw [List.singleton_append, escaped, h])

theorem stringBytes_unescaped {c : Char} (hquote : c ≠ '"') (hslash : c ≠ '\\') (hcontrol : ¬c.toNat < 32)
    (rest : List UInt8) : stringBytes (Utf8.encode [c] ++ rest) =
      begun (String.utf8EncodeChar c) (stringBytes rest) := by
  rw [Utf8.encode_cons, Utf8.encode_nil, List.append_nil]
  refine stringBytes_append (fun b hb => ?_) rest
  by_cases hascii : c.toNat < 128
  case pos =>
    rw [Utf8.encodeChar_of_lt hascii, List.mem_singleton] at hb
    have hvalue : b.toNat = c.toNat := by rw [hb, Utf8.toNat_ofNat_of_lt (by omega)]
    refine ⟨fun h => hquote ?_, fun h => hslash ?_, fun h => hcontrol ?_⟩
    · exact Char.toNat_inj.mp (hvalue.symm.trans (congrArg UInt8.toNat h))
    · exact Char.toNat_inj.mp (hvalue.symm.trans (congrArg UInt8.toNat h))
    · rw [← hvalue]
      exact UInt8.lt_iff_toNat_lt.mp h
  case neg =>
    have hge := Utf8.le_of_mem_encodeChar (Nat.le_of_not_lt hascii) hb
    refine ⟨fun h => ?_, fun h => ?_, fun h => ?_⟩
    · rw [h] at hge
      exact absurd hge (by decide)
    · rw [h] at hge
      exact absurd hge (by decide)
    · have hlt : b.toNat < 32 := UInt8.lt_iff_toNat_lt.mp h
      omega

theorem stringBytes_escape (c : Char) (rest : List UInt8) :
    stringBytes (Utf8.encode (Value.escape c) ++ rest) =
      begun (String.utf8EncodeChar c) (stringBytes rest) := by
  unfold Value.escape
  split
  · next h => subst h; exact stringBytes_shortEscape (by decide) rfl rest
  split
  · next h => subst h; exact stringBytes_shortEscape (by decide) rfl rest
  split
  · next hcontrol =>
      split
      · next h => subst h; exact stringBytes_shortEscape (by decide) rfl rest
      split
      · next h => subst h; exact stringBytes_shortEscape (by decide) rfl rest
      split
      · next h => subst h; exact stringBytes_shortEscape (by decide) rfl rest
      split
      · next h =>
          have hc : c = '\x08' := Char.toNat_inj.mp h
          subst hc
          exact stringBytes_shortEscape (by decide) rfl rest
      split
      · next h =>
          have hc : c = '\x0c' := Char.toNat_inj.mp h
          subst hc
          exact stringBytes_shortEscape (by decide) rfl rest
      · rw [Utf8.encode_cons, Utf8.encodeChar_of_lt (by decide)]
        exact stringBytes_escaped (escaped_control hcontrol rest)
  · next hquote hslash hcontrol => exact stringBytes_unescaped hquote hslash hcontrol rest

theorem stringBytes_escapes (text : List Char) (rest : List UInt8) :
    stringBytes (Utf8.encode (text.flatMap Value.escape) ++ 0x22 :: rest) =
      .ok (Utf8.encode text, rest) := by
  induction text with
  | nil => exact stringBytes_quote rest
  | cons c text ih =>
      rw [List.flatMap_cons, Utf8.encode_append, List.append_assoc, stringBytes_escape, ih]
      rfl

/-- A string is scanned as it was before it was quoted. -/
theorem string_quote (text : List Char) (rest : List UInt8) :
    string (Utf8.encode (text.flatMap Value.escape) ++ 0x22 :: rest) = .ok (text, rest) := by
  rw [string, stringBytes_escapes]
  simp only [Utf8.decode?_encode]

/-- Whether a number is not gone on with. -/
def EndsNumber (s : List UInt8) : Prop :=
  ∀ b, s.head? = some b → isDigitByte b = false ∧ b ≠ 0x2E ∧ b ≠ 0x65 ∧ b ≠ 0x45

/-- The digits of a natural number as bytes. -/
def digitBytes (n : Nat) : List UInt8 := (Decimal.ofNat n).map fun c => UInt8.ofNat c.toNat

theorem encode_ofNat (n : Nat) : Utf8.encode (Decimal.ofNat n) = digitBytes n := by
  refine Utf8.encode_of_ascii fun c hc => ?_
  have hdigit := Decimal.isDigit_ofNat n c hc
  simp only [Char.isDigit, Bool.and_eq_true, decide_eq_true_eq] at hdigit
  have hle : c.toNat ≤ 57 := hdigit.2
  omega

theorem digit_toNat {c : Char} (h : c.isDigit = true) :
    isDigitByte (UInt8.ofNat c.toNat) = true ∧ (UInt8.ofNat c.toNat).toNat = c.toNat := by
  simp only [Char.isDigit, Bool.and_eq_true, decide_eq_true_eq] at h
  have hlow : 48 ≤ c.toNat := h.1
  have hhigh : c.toNat ≤ 57 := h.2
  have hvalue : (UInt8.ofNat c.toNat).toNat = c.toNat := Utf8.toNat_ofNat_of_lt (by omega)
  refine ⟨?_, hvalue⟩
  simp only [isDigitByte, Bool.and_eq_true, decide_eq_true_eq, UInt8.le_iff_toNat_le, hvalue]
  exact ⟨hlow, hhigh⟩

theorem isDigitByte_digitBytes (n : Nat) : ∀ b ∈ digitBytes n, isDigitByte b = true := by
  intro b hb
  obtain ⟨c, hc, rfl⟩ := List.mem_map.mp hb
  exact (digit_toNat (Decimal.isDigit_ofNat n c hc)).1

theorem absorb_digits {digits : List Char} (hdigits : ∀ c ∈ digits, c.isDigit = true) {value : Nat}
    (hlimit : Nat.ofDigitChars 10 digits value ≤ Numeral.limit) :
    Numeral.absorb value (digits.map fun c => UInt8.ofNat c.toNat) =
      (Nat.ofDigitChars 10 digits value, digits.length) := by
  induction digits generalizing value with
  | nil => rfl
  | cons c digits ih =>
      obtain ⟨hc, hrest⟩ := List.forall_mem_cons.mp hdigits
      rw [Nat.ofDigitChars_cons] at hlimit ⊢
      have hnext : value * 10 + ((UInt8.ofNat c.toNat).toNat - 48) = 10 * value + (c.toNat - '0'.toNat) := by
        rw [(digit_toNat hc).2, Nat.mul_comm]
        rfl
      have hle : 10 * value + (c.toNat - '0'.toNat) ≤ Numeral.limit :=
        Nat.le_trans (Decimal.le_ofDigitChars digits _) hlimit
      rw [List.map_cons, Numeral.absorb]
      simp only [hnext]
      rw [if_pos hle, ih hrest hlimit]
      rfl

theorem takeWhile_digits (n : Nat) {rest : List UInt8} (hrest : EndsNumber rest) :
    (digitBytes n ++ rest).takeWhile isDigitByte = digitBytes n ∧
      (digitBytes n ++ rest).dropWhile isDigitByte = rest := by
  have hdigits := isDigitByte_digitBytes n
  rw [List.takeWhile_append_of_pos hdigits, List.dropWhile_append_of_pos hdigits]
  cases rest with
  | nil => exact ⟨List.append_nil _, rfl⟩
  | cons b rest =>
      have hb := (hrest b rfl).1
      rw [List.takeWhile_cons_of_neg (by simp [hb]), List.dropWhile_cons_of_neg (by simp [hb]),
        List.append_nil]
      exact ⟨rfl, rfl⟩

theorem scanWhole_digits (atEnd : Malformed) (n : Nat) {rest : List UInt8} (hrest : EndsNumber rest) :
    Numeral.scanWhole atEnd (digitBytes n ++ rest) = .ok (digitBytes n, rest) := by
  obtain ⟨htake, hdrop⟩ := takeWhile_digits n hrest
  obtain ⟨c, digits, hdigits, hc⟩ := Decimal.ofNat_eq_cons n
  have hbytes : digitBytes n = UInt8.ofNat c.toNat :: digits.map fun c => UInt8.ofNat c.toNat := by
    rw [digitBytes, hdigits, List.map_cons]
  have hfirst := (digit_toNat hc).1
  rw [hbytes, List.cons_append, List.takeWhile_cons_of_pos hfirst] at htake
  rw [hbytes, List.cons_append, List.dropWhile_cons_of_pos hfirst] at hdrop
  -- Only the number zero begins with a zero, and it has one digit.
  have hzero : ¬(UInt8.ofNat c.toNat = 0x30 ∧
      ((digits.map fun c => UInt8.ofNat c.toNat) ++ rest).head?.any isDigitByte = true) := by
    rintro ⟨hbyte, hnext⟩
    have hc0 : c = '0' := by
      refine Char.toNat_inj.mp ?_
      rw [← (digit_toNat hc).2, hbyte]
      rfl
    rcases Nat.eq_zero_or_pos n with rfl | hpos
    · have hnil : digits = [] := (List.cons.inj (hdigits.symm.trans (Nat.toDigits_zero 10))).2
      subst hnil
      cases rest with
      | nil => cases hnext
      | cons b rest => exact nomatch (hrest b rfl).1.symm.trans hnext
    · obtain ⟨c', digits', hdigits', hc'⟩ := Decimal.ofNat_eq_cons_of_pos hpos
      exact hc' ((List.cons.inj (hdigits'.symm.trans hdigits)).1.trans hc0)
  rw [hbytes, List.cons_append, Numeral.scanWhole]
  simp only [hfirst, Bool.not_true, Bool.false_eq_true, if_false]
  rw [if_neg hzero, htake, hdrop]

theorem EndsNumber.scanFraction_eq (atEnd : Malformed) {rest : List UInt8} (h : EndsNumber rest) :
    Numeral.scanFraction atEnd rest = .ok ([], rest) := by
  unfold Numeral.scanFraction
  split
  · exact absurd rfl (h _ rfl).2.1
  · rfl

theorem EndsNumber.scanExponent_eq (atEnd : Malformed) {rest : List UInt8} (h : EndsNumber rest) :
    Numeral.scanExponent atEnd rest = .ok (none, rest) := by
  cases rest with
  | nil => rfl
  | cons b rest =>
      obtain ⟨-, -, he, hE⟩ := h b rfl
      rw [Numeral.scanExponent, if_neg (not_or.mpr ⟨he, hE⟩)]

/-- The digits of a number are scanned as a numeral without a fraction and without an exponent. -/
theorem scan_digits (atEnd : Malformed) (n : Nat) {rest : List UInt8} (hrest : EndsNumber rest) :
    Numeral.scan atEnd (digitBytes n ++ rest) = .ok (⟨digitBytes n, [], none⟩, rest) := by
  rw [Numeral.scan, scanWhole_digits atEnd n hrest]
  simp only [hrest.scanFraction_eq atEnd, hrest.scanExponent_eq atEnd]

theorem absorb_digitBytes {n : Nat} (h : n ≤ Numeral.limit) :
    Numeral.absorb 0 (digitBytes n) = (n, (digitBytes n).length) := by
  have hvalue := Decimal.value_ofNat n
  rw [digitBytes, absorb_digits (Decimal.isDigit_ofNat n) (by rwa [hvalue]), hvalue, List.length_map]

theorem number_digits {n : Nat} (h : n ≤ Numeral.limit) {rest : List UInt8} (hrest : EndsNumber rest) :
    number false (digitBytes n ++ rest) = .ok (.int n, rest) := by
  rw [number, scan_digits _ n hrest]
  simp only [Numeral.value?, absorb_digitBytes h]
  simp

theorem number_negative {n : Nat} (hpos : 0 < n) (h : n ≤ 0x8000000000000000) {rest : List UInt8}
    (hrest : EndsNumber rest) : number true (digitBytes n ++ rest) = .ok (.int (-(n : Int)), rest) := by
  have hlimit : n ≤ Numeral.limit := Nat.le_trans h (by decide)
  rw [number, scan_digits _ n hrest]
  simp only [Numeral.value?, absorb_digitBytes hlimit]
  simp [hpos, h]

end Json
end Passbook
