import Passbook.Digest.Blake2b

/-!
# Memory blocks

A block has 1024 bytes: eight rows of sixteen words. Two blocks are compressed into one by mixing
the rows of their difference, then mixing its columns, and adding the difference back. A column is
made of the words with the numbers `2i` and `2i + 1` of every row, so that columns become rows when
the block is transposed.
-/
namespace Passbook.Argon2

open Blake2b (Quad rotateRight)

structure Row where
  w0 : UInt64
  w1 : UInt64
  w2 : UInt64
  w3 : UInt64
  w4 : UInt64
  w5 : UInt64
  w6 : UInt64
  w7 : UInt64
  w8 : UInt64
  w9 : UInt64
  w10 : UInt64
  w11 : UInt64
  w12 : UInt64
  w13 : UInt64
  w14 : UInt64
  w15 : UInt64
deriving Inhabited

structure Block where
  r0 : Row
  r1 : Row
  r2 : Row
  r3 : Row
  r4 : Row
  r5 : Row
  r6 : Row
  r7 : Row
deriving Inhabited

/-- The sum of two words and of twice the product of their lower halves. -/
@[inline] def blend (x y : UInt64) : UInt64 :=
  x + y + 2 * (x &&& 0xffffffff) * (y &&& 0xffffffff)

@[inline] def mix (a b c d : UInt64) : Quad :=
  let a := blend a b
  let d := rotateRight (d ^^^ a) 32
  let c := blend c d
  let b := rotateRight (b ^^^ c) 24
  let a := blend a b
  let d := rotateRight (d ^^^ a) 16
  let c := blend c d
  let b := rotateRight (b ^^^ c) 63
  ⟨a, b, c, d⟩

namespace Row

def zero : Row := ⟨0, 0, 0, 0, 0, 0, 0, 0, 0, 0, 0, 0, 0, 0, 0, 0⟩

def xor (x y : Row) : Row :=
  ⟨x.w0 ^^^ y.w0, x.w1 ^^^ y.w1, x.w2 ^^^ y.w2, x.w3 ^^^ y.w3,
    x.w4 ^^^ y.w4, x.w5 ^^^ y.w5, x.w6 ^^^ y.w6, x.w7 ^^^ y.w7,
    x.w8 ^^^ y.w8, x.w9 ^^^ y.w9, x.w10 ^^^ y.w10, x.w11 ^^^ y.w11,
    x.w12 ^^^ y.w12, x.w13 ^^^ y.w13, x.w14 ^^^ y.w14, x.w15 ^^^ y.w15⟩

/-- One full round over the sixteen words: four columns, then four diagonals. -/
def permute (x : Row) : Row :=
  let p0 := mix x.w0 x.w4 x.w8 x.w12
  let p1 := mix x.w1 x.w5 x.w9 x.w13
  let p2 := mix x.w2 x.w6 x.w10 x.w14
  let p3 := mix x.w3 x.w7 x.w11 x.w15
  let q0 := mix p0.a p1.b p2.c p3.d
  let q1 := mix p1.a p2.b p3.c p0.d
  let q2 := mix p2.a p3.b p0.c p1.d
  let q3 := mix p3.a p0.b p1.c p2.d
  ⟨q0.a, q1.a, q2.a, q3.a, q3.b, q0.b, q1.b, q2.b,
    q2.c, q3.c, q0.c, q1.c, q1.d, q2.d, q3.d, q0.d⟩

def word (x : Row) (i : Nat) : UInt64 :=
  match i with
  | 0 => x.w0
  | 1 => x.w1
  | 2 => x.w2
  | 3 => x.w3
  | 4 => x.w4
  | 5 => x.w5
  | 6 => x.w6
  | 7 => x.w7
  | 8 => x.w8
  | 9 => x.w9
  | 10 => x.w10
  | 11 => x.w11
  | 12 => x.w12
  | 13 => x.w13
  | 14 => x.w14
  | _ => x.w15

/-- The row of sixteen words that `words` gives by number. -/
def ofWords (words : Nat → UInt64) : Row :=
  ⟨words 0, words 1, words 2, words 3, words 4, words 5, words 6, words 7,
    words 8, words 9, words 10, words 11, words 12, words 13, words 14, words 15⟩

def words (x : Row) : List UInt64 :=
  [x.w0, x.w1, x.w2, x.w3, x.w4, x.w5, x.w6, x.w7,
    x.w8, x.w9, x.w10, x.w11, x.w12, x.w13, x.w14, x.w15]

end Row

namespace Block

def zero : Block :=
  ⟨Row.zero, Row.zero, Row.zero, Row.zero, Row.zero, Row.zero, Row.zero, Row.zero⟩

def xor (x y : Block) : Block :=
  ⟨x.r0.xor y.r0, x.r1.xor y.r1, x.r2.xor y.r2, x.r3.xor y.r3,
    x.r4.xor y.r4, x.r5.xor y.r5, x.r6.xor y.r6, x.r7.xor y.r7⟩

def permuteRows (x : Block) : Block :=
  ⟨x.r0.permute, x.r1.permute, x.r2.permute, x.r3.permute,
    x.r4.permute, x.r5.permute, x.r6.permute, x.r7.permute⟩

/-- Makes a row of the words `2i` and `2i + 1` of all rows, for each `i`. -/
def transpose (x : Block) : Block :=
  ⟨⟨x.r0.w0, x.r0.w1, x.r1.w0, x.r1.w1, x.r2.w0, x.r2.w1, x.r3.w0, x.r3.w1,
     x.r4.w0, x.r4.w1, x.r5.w0, x.r5.w1, x.r6.w0, x.r6.w1, x.r7.w0, x.r7.w1⟩,
   ⟨x.r0.w2, x.r0.w3, x.r1.w2, x.r1.w3, x.r2.w2, x.r2.w3, x.r3.w2, x.r3.w3,
     x.r4.w2, x.r4.w3, x.r5.w2, x.r5.w3, x.r6.w2, x.r6.w3, x.r7.w2, x.r7.w3⟩,
   ⟨x.r0.w4, x.r0.w5, x.r1.w4, x.r1.w5, x.r2.w4, x.r2.w5, x.r3.w4, x.r3.w5,
     x.r4.w4, x.r4.w5, x.r5.w4, x.r5.w5, x.r6.w4, x.r6.w5, x.r7.w4, x.r7.w5⟩,
   ⟨x.r0.w6, x.r0.w7, x.r1.w6, x.r1.w7, x.r2.w6, x.r2.w7, x.r3.w6, x.r3.w7,
     x.r4.w6, x.r4.w7, x.r5.w6, x.r5.w7, x.r6.w6, x.r6.w7, x.r7.w6, x.r7.w7⟩,
   ⟨x.r0.w8, x.r0.w9, x.r1.w8, x.r1.w9, x.r2.w8, x.r2.w9, x.r3.w8, x.r3.w9,
     x.r4.w8, x.r4.w9, x.r5.w8, x.r5.w9, x.r6.w8, x.r6.w9, x.r7.w8, x.r7.w9⟩,
   ⟨x.r0.w10, x.r0.w11, x.r1.w10, x.r1.w11, x.r2.w10, x.r2.w11, x.r3.w10, x.r3.w11,
     x.r4.w10, x.r4.w11, x.r5.w10, x.r5.w11, x.r6.w10, x.r6.w11, x.r7.w10, x.r7.w11⟩,
   ⟨x.r0.w12, x.r0.w13, x.r1.w12, x.r1.w13, x.r2.w12, x.r2.w13, x.r3.w12, x.r3.w13,
     x.r4.w12, x.r4.w13, x.r5.w12, x.r5.w13, x.r6.w12, x.r6.w13, x.r7.w12, x.r7.w13⟩,
   ⟨x.r0.w14, x.r0.w15, x.r1.w14, x.r1.w15, x.r2.w14, x.r2.w15, x.r3.w14, x.r3.w15,
     x.r4.w14, x.r4.w15, x.r5.w14, x.r5.w15, x.r6.w14, x.r6.w15, x.r7.w14, x.r7.w15⟩⟩

/-- The block that follows from two blocks. -/
def compress (x y : Block) : Block :=
  let difference := x.xor y
  difference.xor difference.permuteRows.transpose.permuteRows.transpose

def word (x : Block) (i : Nat) : UInt64 :=
  match i / 16 with
  | 0 => x.r0.word (i % 16)
  | 1 => x.r1.word (i % 16)
  | 2 => x.r2.word (i % 16)
  | 3 => x.r3.word (i % 16)
  | 4 => x.r4.word (i % 16)
  | 5 => x.r5.word (i % 16)
  | 6 => x.r6.word (i % 16)
  | _ => x.r7.word (i % 16)

/-- The block of 128 words that `words` gives by number. -/
def ofWords (words : Nat → UInt64) : Block :=
  let row (k : Nat) : Row := Row.ofWords fun i => words (16 * k + i)
  ⟨row 0, row 1, row 2, row 3, row 4, row 5, row 6, row 7⟩

def ofBytes (bytes : List UInt8) : Block :=
  let all := (Blake2b.words bytes).toArray
  ofWords fun i => all.getD i 0

def bytes (x : Block) : List UInt8 :=
  [x.r0, x.r1, x.r2, x.r3, x.r4, x.r5, x.r6, x.r7].flatMap fun r =>
    r.words.flatMap Blake2b.wordBytes

end Block
end Passbook.Argon2
