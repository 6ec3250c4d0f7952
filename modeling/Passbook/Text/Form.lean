import Passbook.Text.Percent
import Passbook.Text.Split
import Passbook.Text.Utf8

/-!
# Form-encoded pairs

The query of a link lists pairs of a name and a value. Letters, digits and `*-._` stand for
themselves, a space becomes a plus sign, and every other byte is percent-encoded. Pairs are
separated by `&`, a name from its value by the first `=`; empty pieces are no pairs, and a piece
without `=` is a name with an empty value.
-/
namespace Passbook.Form

/-- Whether a byte stands for itself. -/
def plain (b : UInt8) : Bool :=
  let v := b.toNat
  (48 ≤ v && v ≤ 57) || (65 ≤ v && v ≤ 90) || (97 ≤ v && v ≤ 122) ||
    v == 42 || v == 45 || v == 46 || v == 95

/-- The written form of one byte. -/
def encodeByte (b : UInt8) : List Char :=
  if plain b then [Char.ofNat b.toNat]
  else if b = 0x20 then ['+']
  else Percent.escape b

def encode (text : List Char) : List Char :=
  (Utf8.encode text).flatMap encodeByte

/-- The name or value that was written, with U+FFFD for damaged UTF-8. -/
def decode (bytes : List UInt8) : List Char :=
  Utf8.lossy (Percent.decode (bytes.map fun b => if b = 0x2B then 0x20 else b))

def encodePair (pair : List Char × List Char) : List Char :=
  encode pair.1 ++ '=' :: encode pair.2

def pairs (query : List UInt8) : List (List Char × List Char) :=
  ((Split.all 0x26 query).filter fun piece => !piece.isEmpty).map fun piece =>
    let (name, value) := Split.first 0x3D piece
    (decode name, decode value)

end Passbook.Form
