import Passbook.Json.Malformed
import Passbook.Text.Binary64

/-!
# Numbers

A numeral is a run of digits without a leading zero, perhaps a point and more digits, perhaps an
exponent. It is an integer if it has neither and fits 64 bits; minus zero is no integer. Any other
numeral is a binary fraction, of whose digits only as many count as 64 bits can hold.
-/
namespace Passbook.Json

inductive Number where
  | int (n : Int)
  | fraction (negative : Bool) (magnitude : Binary64)
deriving DecidableEq, Repr

def isDigitByte (b : UInt8) : Bool := 0x30 ≤ b && b ≤ 0x39

structure Numeral where
  whole : List UInt8
  fraction : List UInt8 := []
  exponent : Option Int := none
deriving DecidableEq, Repr

namespace Numeral

/-- The largest integer of 64 bits. -/
def limit : Nat := 0xffffffffffffffff

/-- Continues `value` by digits as long as it fits, and counts the digits that were used. -/
def absorb (value : Nat) : List UInt8 → Nat × Nat
  | [] => (value, 0)
  | d :: ds =>
      let next := value * 10 + (d.toNat - 48)
      if next ≤ limit then
        let (result, used) := absorb next ds
        (result, used + 1)
      else (value, 0)

def ofDigits (ds : List UInt8) : Nat :=
  ds.foldl (fun value d => value * 10 + (d.toNat - 48)) 0

/-- The number that is written, unless it is too large. -/
def value? (negative : Bool) (numeral : Numeral) : Option Number :=
  let (whole, used) := absorb 0 numeral.whole
  let dropped := numeral.whole.length - used
  if numeral.fraction.isEmpty ∧ numeral.exponent.isNone ∧ dropped = 0 then
    if !negative then some (.int whole)
    else if 0 < whole ∧ whole ≤ 0x8000000000000000 then some (.int (-(whole : Int)))
    else (Binary64.ofDecimal whole 0).map (.fraction negative)
  else
    let (all, usedBehind) := absorb whole numeral.fraction
    let places : Int := dropped - usedBehind + numeral.exponent.getD 0
    (Binary64.ofDecimal all places).map (.fraction negative)

/-- The digits of an exponent behind its sign. An end of the text is reported as `atEnd`. -/
def exponentDigits (atEnd : Malformed) (s : List UInt8) :
    Except Malformed (Nat × List UInt8) :=
  let ds := s.takeWhile isDigitByte
  if ds.isEmpty then .error (if s.isEmpty then atEnd else .badNumber)
  else .ok (ofDigits ds, s.dropWhile isDigitByte)

def signed (s : List UInt8) : Bool := s.head? == some 0x2B || s.head? == some 0x2D

/-- An exponent, if there is one. -/
def scanExponent (atEnd : Malformed) :
    List UInt8 → Except Malformed (Option Int × List UInt8)
  | [] => .ok (none, [])
  | e :: s =>
      if e = 0x65 ∨ e = 0x45 then
        match exponentDigits atEnd (if signed s then s.drop 1 else s) with
        | .error fault => .error fault
        | .ok (n, rest) => .ok (some (if s.head? = some 0x2D then -(n : Int) else n), rest)
      else .ok (none, e :: s)

/-- The digits behind a point, if there is one. -/
def scanFraction (atEnd : Malformed) :
    List UInt8 → Except Malformed (List UInt8 × List UInt8)
  | 0x2E :: s =>
      let ds := s.takeWhile isDigitByte
      if ds.isEmpty then .error (if s.isEmpty then atEnd else .badNumber)
      else .ok (ds, s.dropWhile isDigitByte)
  | s => .ok ([], s)

/-- The digits in front of a point. -/
def scanWhole (atEnd : Malformed) : List UInt8 → Except Malformed (List UInt8 × List UInt8)
  | [] => .error atEnd
  | b :: s =>
      if !isDigitByte b then .error .badNumber
      else if b = 0x30 ∧ (s.head?.any isDigitByte) then .error .badNumber
      else .ok (b :: s.takeWhile isDigitByte, s.dropWhile isDigitByte)

def scan (atEnd : Malformed) (s : List UInt8) : Except Malformed (Numeral × List UInt8) :=
  match scanWhole atEnd s with
  | .error fault => .error fault
  | .ok (whole, s) =>
      match scanFraction atEnd s with
      | .error fault => .error fault
      | .ok (fraction, s) =>
          match scanExponent atEnd s with
          | .error fault => .error fault
          | .ok (exponent, s) => .ok (⟨whole, fraction, exponent⟩, s)

theorem exponentDigits_length {atEnd : Malformed} {s rest : List UInt8} {n : Nat}
    (h : exponentDigits atEnd s = .ok (n, rest)) : rest.length ≤ s.length := by
  simp only [exponentDigits] at h
  split at h
  · simp at h
  · injection h with h
    injection h with _ h
    subst h
    exact (List.dropWhile_sublist isDigitByte).length_le

theorem scanExponent_length {atEnd : Malformed} {s rest : List UInt8} {e : Option Int}
    (h : scanExponent atEnd s = .ok (e, rest)) : rest.length ≤ s.length := by
  unfold scanExponent at h
  split at h
  · injection h with h
    injection h with _ h
    subst h
    simp
  · split at h
    · split at h
      · simp at h
      · rename_i hd
        injection h with h
        injection h with _ h
        subst h
        have := exponentDigits_length hd
        split at this <;> simp_all <;> omega
    · injection h with h
      injection h with _ h
      subst h
      simp

theorem scanFraction_length {atEnd : Malformed} {s ds rest : List UInt8}
    (h : scanFraction atEnd s = .ok (ds, rest)) : rest.length ≤ s.length := by
  unfold scanFraction at h
  split at h
  · rename_i t
    simp only at h
    split at h
    · simp at h
    · injection h with h
      injection h with _ h
      subst h
      have := (List.dropWhile_sublist isDigitByte (l := t)).length_le
      simp only [List.length_cons]
      omega
  · injection h with h
    injection h with _ h
    subst h
    simp

theorem scanWhole_length {atEnd : Malformed} {s ds rest : List UInt8}
    (h : scanWhole atEnd s = .ok (ds, rest)) : rest.length < s.length := by
  unfold scanWhole at h
  split at h
  · simp at h
  · rename_i t
    split at h
    · simp at h
    · split at h
      · simp at h
      · injection h with h
        injection h with _ h
        subst h
        have := (List.dropWhile_sublist isDigitByte (l := t)).length_le
        simp only [List.length_cons]
        omega

theorem scan_length {atEnd : Malformed} {s rest : List UInt8} {numeral : Numeral}
    (h : scan atEnd s = .ok (numeral, rest)) : rest.length < s.length := by
  unfold scan at h
  split at h
  · simp at h
  · rename_i hw
    split at h
    · simp at h
    · rename_i hf
      split at h
      · simp at h
      · rename_i he
        injection h with h
        injection h with _ h
        subst h
        have := scanWhole_length hw
        have := scanFraction_length hf
        have := scanExponent_length he
        omega

end Numeral

/-- A number behind its sign. -/
def number (negative : Bool) (s : List UInt8) : Except Malformed (Number × List UInt8) :=
  match Numeral.scan .endInValue s with
  | .error fault => .error fault
  | .ok (numeral, rest) =>
      match numeral.value? negative with
      | some n => .ok (n, rest)
      | none => .error .hugeNumber

theorem number_length {negative : Bool} {s rest : List UInt8} {n : Number}
    (h : number negative s = .ok (n, rest)) : rest.length < s.length := by
  unfold number at h
  split at h
  · simp at h
  · rename_i hs
    split at h
    · injection h with h
      injection h with _ h
      subst h
      exact Numeral.scan_length hs
    · simp at h

end Passbook.Json
