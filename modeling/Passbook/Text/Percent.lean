import Passbook.Text.Hex

/-!
# Percent-encoding

A byte is written as a percent sign and two upper-case digits. Which ASCII bytes are written so is
up to the place in a URL; bytes outside ASCII always are. Reading turns each percent sign with two
digits into its byte and leaves every other byte alone, a percent sign without digits included.
-/
namespace Passbook.Percent

/-- The three characters that stand for byte `b`. -/
def escape (b : UInt8) : List Char :=
  ['%', Hex.upperDigit (b.toNat / 16), Hex.upperDigit (b.toNat % 16)]

/-- Escapes the bytes outside ASCII and those that `special` names. -/
def encode (special : UInt8 → Bool) (bytes : List UInt8) : List Char :=
  bytes.flatMap fun b =>
    if b.toNat < 128 && !special b then [Char.ofNat b.toNat] else escape b

/-- The value of a hexadecimal digit given as a byte. -/
def digitValue? (b : UInt8) : Option Nat :=
  Hex.value? (Char.ofNat b.toNat)

def decode : List UInt8 → List UInt8
  | b :: high :: low :: rest =>
      if b = 0x25 then
        match digitValue? high, digitValue? low with
        | some h, some l => UInt8.ofNat (h * 16 + l) :: decode rest
        | _, _ => b :: decode (high :: low :: rest)
      else b :: decode (high :: low :: rest)
  | short => short

end Passbook.Percent
