/-!
# Hexadecimal digits

Digests are shown in lower-case digits, percent-encoded bytes in upper-case ones. Reading takes
both cases.
-/
namespace Passbook.Hex

def digit (n : Nat) : Char :=
  Char.ofNat (if n < 10 then 48 + n else 87 + n)

def upperDigit (n : Nat) : Char :=
  Char.ofNat (if n < 10 then 48 + n else 55 + n)

def value? (c : Char) : Option Nat :=
  if '0' ≤ c ∧ c ≤ '9' then some (c.toNat - 48)
  else if 'a' ≤ c ∧ c ≤ 'f' then some (c.toNat - 87)
  else if 'A' ≤ c ∧ c ≤ 'F' then some (c.toNat - 55)
  else none

def encode (bytes : List UInt8) : List Char :=
  bytes.flatMap fun b => [digit (b.toNat / 16), digit (b.toNat % 16)]

/-- The digits of a number, lower case, without leading zeros. -/
def ofNat (n : Nat) : List Char := Nat.toDigits 16 n

def decode? : List Char → Option (List UInt8)
  | [] => some []
  | [_] => none
  | high :: low :: rest => do
      let h ← value? high
      let l ← value? low
      let tail ← decode? rest
      pure (UInt8.ofNat (h * 16 + l) :: tail)

end Passbook.Hex
