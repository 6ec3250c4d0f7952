/-!
# BLAKE2b

Unkeyed digests of 1 to 64 bytes. The state of eight words takes the message in blocks of 128 bytes;
the last block, which may be empty only for the empty message, is marked.
-/
namespace Passbook.Blake2b

structure Quad where
  a : UInt64
  b : UInt64
  c : UInt64
  d : UInt64

@[inline] def rotateRight (x : UInt64) (n : UInt64) : UInt64 :=
  (x >>> n) ||| (x <<< (64 - n))

@[inline] def mix (a b c d x y : UInt64) : Quad :=
  let a := a + b + x
  let d := rotateRight (d ^^^ a) 32
  let c := c + d
  let b := rotateRight (b ^^^ c) 24
  let a := a + b + y
  let d := rotateRight (d ^^^ a) 16
  let c := c + d
  let b := rotateRight (b ^^^ c) 63
  ⟨a, b, c, d⟩

def initial : List UInt64 := [
  0x6a09e667f3bcc908, 0xbb67ae8584caa73b, 0x3c6ef372fe94f82b, 0xa54ff53a5f1d36f1,
  0x510e527fade682d1, 0x9b05688c2b3e6c1f, 0x1f83d9abfb41bd6b, 0x5be0cd19137e2179]

/-- The order in which each round takes the sixteen words of a block. -/
def orders : List (List Nat) := [
  [0, 1, 2, 3, 4, 5, 6, 7, 8, 9, 10, 11, 12, 13, 14, 15],
  [14, 10, 4, 8, 9, 15, 13, 6, 1, 12, 0, 2, 11, 7, 5, 3],
  [11, 8, 12, 0, 5, 2, 15, 13, 10, 14, 3, 6, 7, 1, 9, 4],
  [7, 9, 3, 1, 13, 12, 11, 14, 2, 6, 5, 10, 4, 0, 15, 8],
  [9, 0, 5, 7, 2, 4, 10, 15, 14, 1, 11, 12, 6, 8, 3, 13],
  [2, 12, 6, 10, 0, 11, 8, 3, 4, 13, 7, 5, 15, 14, 1, 9],
  [12, 5, 1, 15, 14, 13, 4, 10, 0, 7, 6, 3, 9, 2, 8, 11],
  [13, 11, 7, 14, 12, 1, 3, 9, 5, 0, 15, 4, 8, 6, 2, 10],
  [6, 15, 14, 9, 11, 3, 0, 8, 12, 2, 13, 7, 1, 4, 10, 5],
  [10, 2, 8, 4, 7, 6, 1, 5, 15, 11, 9, 14, 3, 12, 13, 0],
  [0, 1, 2, 3, 4, 5, 6, 7, 8, 9, 10, 11, 12, 13, 14, 15],
  [14, 10, 4, 8, 9, 15, 13, 6, 1, 12, 0, 2, 11, 7, 5, 3]]

/-- The places that the eight mixing steps of a round work on: four columns, four diagonals. -/
def places : List (Nat × Nat × Nat × Nat) := [
  (0, 4, 8, 12), (1, 5, 9, 13), (2, 6, 10, 14), (3, 7, 11, 15),
  (0, 5, 10, 15), (1, 6, 11, 12), (2, 7, 8, 13), (3, 4, 9, 14)]

/-- One mixing step at the places `(i, j, k, l)` of the work words `v`. -/
def mixAt (v : Array UInt64) (place : Nat × Nat × Nat × Nat) (x y : UInt64) : Array UInt64 :=
  let (i, j, k, l) := place
  let q := mix (v.getD i 0) (v.getD j 0) (v.getD k 0) (v.getD l 0) x y
  (((v.setIfInBounds i q.a).setIfInBounds j q.b).setIfInBounds k q.c).setIfInBounds l q.d

/-- One round: the words of the block are used two by two in the given order. -/
def round (block : Array UInt64) (v : Array UInt64) (order : List Nat) : Array UInt64 :=
  (List.zip places (List.range 8)).foldl
    (fun v (place, i) =>
      mixAt v place (block.getD (order.getD (2 * i) 0) 0) (block.getD (order.getD (2 * i + 1) 0) 0))
    v

/-- The word that eight bytes form, least significant first. -/
def word (bytes : List UInt8) : UInt64 :=
  bytes.foldr (fun b w => (w <<< 8) ||| b.toUInt64) 0

/-- The eight bytes of a word, least significant first. -/
def wordBytes (w : UInt64) : List UInt8 :=
  [w.toUInt8, (w >>> 8).toUInt8, (w >>> 16).toUInt8, (w >>> 24).toUInt8,
    (w >>> 32).toUInt8, (w >>> 40).toUInt8, (w >>> 48).toUInt8, (w >>> 56).toUInt8]

/-- The words of a byte sequence, eight bytes each. -/
def words : List UInt8 → List UInt64
  | a :: b :: c :: d :: e :: f :: g :: h :: rest => word [a, b, c, d, e, f, g, h] :: words rest
  | _ => []

/-- The state after a block of 128 bytes, when `counted` bytes have been taken with it. -/
def compress (state : List UInt64) (block : List UInt8) (counted : Nat) (last : Bool) :
    List UInt64 :=
  let tail := List.zipWith (· ^^^ ·) initial
    [0, 0, 0, 0, UInt64.ofNat counted, UInt64.ofNat (counted >>> 64),
      if last then 0xffffffffffffffff else 0, 0]
  let v := orders.foldl (round (words block).toArray) (state ++ tail).toArray
  List.zipWith (· ^^^ ·) state (List.zipWith (· ^^^ ·) (v.toList.take 8) (v.toList.drop 8))

/-- The state after the rest of a message, of which `counted` bytes have been taken. -/
def absorb (state : List UInt64) (counted : Nat) (message : List UInt8) : List UInt64 :=
  if message.length ≤ 128 then
    let block := message ++ List.replicate (128 - message.length) 0
    compress state block (counted + message.length) true
  else
    absorb (compress state (message.take 128) (counted + 128) false) (counted + 128)
      (message.drop 128)
termination_by message.length
decreasing_by simp only [List.length_drop]; omega

/-- The digest of `size` bytes. -/
def digest (size : Nat) (message : List UInt8) : List UInt8 :=
  let state :=
    match initial with
    | first :: rest => (first ^^^ 0x01010000 ^^^ UInt64.ofNat size) :: rest
    | [] => []
  ((absorb state 0 message).flatMap wordBytes).take size

end Passbook.Blake2b
