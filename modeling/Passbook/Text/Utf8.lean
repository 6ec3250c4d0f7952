/-!
# UTF-8

A scalar value is written as one to four bytes. Reading goes front by front: `front` says whether
the bytes begin with a whole scalar value, or else how many of them can be skipped as one damaged
piece. A damaged piece is the longest beginning of a scalar value that is there, and at least one
byte; `decode?` refuses it and `lossy` replaces it by U+FFFD.
-/
namespace Passbook.Utf8

/-- The bytes of a text, scalar value by scalar value. -/
def encode (text : List Char) : List UInt8 :=
  text.flatMap String.utf8EncodeChar

/-- Reads `count` continuation bytes behind a leading byte. Only the first of them is held to
`low` and `high`; the later ones range over 80 to BF. The answer carries the scalar value, if it is
complete, and how many bytes were read. -/
def continuation : Nat → UInt8 → UInt8 → Nat → Nat → List UInt8 → Option Char × Nat
  | 0, _, _, value, taken, _ => (some (Char.ofNat value), taken)
  | _ + 1, _, _, _, taken, [] => (none, taken)
  | count + 1, low, high, value, taken, b :: rest =>
      if low ≤ b ∧ b ≤ high then
        continuation count 0x80 0xBF (value * 64 + (b.toNat - 0x80)) (taken + 1) rest
      else (none, taken)

/-- The scalar value that starts with byte `b`, if there is one, and the number of bytes behind `b`
that belong to it or to the damaged piece. The narrower ranges after E0, ED, F0 and F4 exclude
overlong forms, surrogates and values above 10FFFF. -/
def front (b : UInt8) (rest : List UInt8) : Option Char × Nat :=
  let v := b.toNat
  if v < 0x80 then (some (Char.ofNat v), 0)
  else if v < 0xC2 then (none, 0)
  else if v < 0xE0 then continuation 1 0x80 0xBF (v - 0xC0) 0 rest
  else if v = 0xE0 then continuation 2 0xA0 0xBF 0 0 rest
  else if v = 0xED then continuation 2 0x80 0x9F 0xD 0 rest
  else if v < 0xF0 then continuation 2 0x80 0xBF (v - 0xE0) 0 rest
  else if v = 0xF0 then continuation 3 0x90 0xBF 0 0 rest
  else if v < 0xF4 then continuation 3 0x80 0xBF (v - 0xF0) 0 rest
  else if v = 0xF4 then continuation 3 0x80 0x8F 4 0 rest
  else (none, 0)

def decode? : List UInt8 → Option (List Char)
  | [] => some []
  | b :: rest =>
      match front b rest with
      | (some c, taken) => (decode? (rest.drop taken)).map (c :: ·)
      | (none, _) => none
termination_by bytes => bytes.length
decreasing_by simp only [List.length_drop, List.length_cons]; omega

/-- The text of any bytes, with U+FFFD for each damaged piece. -/
def lossy : List UInt8 → List Char
  | [] => []
  | b :: rest =>
      match front b rest with
      | (some c, taken) => c :: lossy (rest.drop taken)
      | (none, taken) => Char.ofNat 0xFFFD :: lossy (rest.drop taken)
termination_by bytes => bytes.length
decreasing_by all_goals (simp only [List.length_drop, List.length_cons]; omega)

@[simp] theorem encode_nil : encode [] = [] := rfl

@[simp] theorem encode_cons (c : Char) (text : List Char) :
    encode (c :: text) = String.utf8EncodeChar c ++ encode text := rfl

@[simp] theorem encode_append (left right : List Char) :
    encode (left ++ right) = encode left ++ encode right :=
  List.flatMap_append

end Passbook.Utf8
