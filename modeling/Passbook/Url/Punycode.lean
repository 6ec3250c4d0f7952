/-!
# Punycode

A label with characters outside ASCII is written in ASCII: its ASCII characters first, then, behind a
hyphen, the others as the steps by which a counter over code points and places has to advance. Each
step is a number whose digits have thresholds that adapt to the numbers before.
-/
namespace Passbook.Punycode

/-- The digit below 36 as a small letter or a digit. -/
def digit (n : Nat) : Char := Char.ofNat (if n < 26 then 97 + n else 22 + n)

def value? (c : Char) : Option Nat :=
  if 'a' ≤ c ∧ c ≤ 'z' then some (c.toNat - 97)
  else if 'A' ≤ c ∧ c ≤ 'Z' then some (c.toNat - 65)
  else if '0' ≤ c ∧ c ≤ '9' then some (c.toNat - 22)
  else none

/-- The largest digit that ends a number at this place. -/
def threshold (place bias : Nat) : Nat :=
  let k := 36 * (place + 1)
  if k ≤ bias + 1 then 1 else if bias + 26 ≤ k then 26 else k - bias

theorem threshold_bounds (place bias : Nat) :
    1 ≤ threshold place bias ∧ threshold place bias ≤ 26 := by
  unfold threshold
  simp only
  split
  · omega
  · split <;> omega

/-- Divides by 35 as long as the value is above 455, and counts the divisions. -/
def scale (delta : Nat) : Nat × Nat :=
  if 455 < delta then
    let (rest, count) := scale (delta / 35)
    (rest, count + 1)
  else (delta, 0)
termination_by delta
decreasing_by omega

/-- The bias for the next number. -/
def adapt (delta count : Nat) (first : Bool) : Nat :=
  let delta := if first then delta / 700 else delta / 2
  let (rest, divisions) := scale (delta + delta / count)
  36 * divisions + 36 * rest / (rest + 38)

def numberDigits (bias : Nat) (place : Nat) (q : Nat) : List Char :=
  let t := threshold place bias
  if q < t then [digit q]
  else digit (t + (q - t) % (36 - t)) :: numberDigits bias (place + 1) ((q - t) / (36 - t))
termination_by q
decreasing_by
  have := threshold_bounds place bias
  have : (q - threshold place bias) / (36 - threshold place bias) ≤ q - threshold place bias :=
    Nat.div_le_self _ _
  omega

structure Encoder where
  delta : Nat
  bias : Nat
  handled : Nat
  output : List Char

/-- Goes through the whole label for one code point `n`. -/
def Encoder.pass (basic n : Nat) (e : Encoder) (label : List Char) : Encoder :=
  label.foldl (fun e c =>
    if c.toNat < n then { e with delta := e.delta + 1 }
    else if c.toNat = n then
      { delta := 0
        bias := adapt e.delta (e.handled + 1) (e.handled == basic)
        handled := e.handled + 1
        output := e.output ++ numberDigits e.bias 0 e.delta }
    else e) e

/-- The code points of a label that are not ASCII, in ascending order and once each. -/
def others (label : List Char) : List Nat :=
  let points := (label.map Char.toNat).filter (128 ≤ ·)
  (points.mergeSort (· ≤ ·)).eraseDups

def encode (label : List Char) : List Char :=
  let ascii := label.filter (·.toNat < 128)
  let basic := ascii.length
  let start : Encoder := { delta := 0, bias := 72, handled := basic, output := [] }
  let (e, _) := (others label).foldl (fun (e, previous) n =>
    let e := { e with delta := e.delta + (n - previous) * (e.handled + 1) }
    let e := e.pass basic n label
    ({ e with delta := e.delta + 1 }, n + 1)) (start, 128)
  (if ascii.isEmpty then [] else ascii ++ ['-']) ++ e.output

/-- Reads the digits of one number from place `place` on. -/
def readNumber (bias : Nat) : Nat → Nat → Nat → List Char → Option (Nat × List Char)
  | _, _, _, [] => none
  | place, weight, value, c :: rest => do
      let d ← value? c
      let value := value + d * weight
      let t := threshold place bias
      if 0x100000000 ≤ value then none
      else if d < t then some (value, rest)
      else readNumber bias (place + 1) (weight * (36 - t)) value rest

/-- Reads at most `fuel` numbers and inserts the characters that they stand for. -/
def insertAll : Nat → Nat → Nat → Nat → List Char → List Char → Option (List Char)
  | _, _, _, _, output, [] => some output
  | 0, _, _, _, _, _ => none
  | fuel + 1, n, i, bias, output, s => do
      let (delta, rest) ← readNumber bias 0 1 0 s
      let count := output.length + 1
      let position := i + delta
      let n := n + position / count
      let place := position % count
      if !n.isValidChar then none
      else
        insertAll fuel n (place + 1) (adapt delta count (i == 0))
          (output.take place ++ Char.ofNat n :: output.drop place) rest

def decode? (s : List Char) : Option (List Char) :=
  let reversed := s.reverse
  let tail := (reversed.takeWhile (· != '-')).reverse
  let front := s.take (s.length - tail.length - 1)
  if front.all (·.toNat < 128) then insertAll tail.length 128 0 72 front tail else none

end Passbook.Punycode
