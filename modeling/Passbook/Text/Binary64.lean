/-!
# Binary fractions of 64 bits

A nonnegative number of this format is a mantissa below `2 ^ 53` times a power of two between
`2 ^ -1074` and `2 ^ 971`. Everything else is rounded to the nearest such number, and to the one
with an even mantissa if two are equally near. A decimal number is not rounded in one step: its
digits are rounded first, then multiplied or divided by a power of ten that is itself rounded. The
result may therefore be a neighbour of the nearest number; it is the one that is reported to clients.
-/
namespace Passbook

structure Binary64 where
  mantissa : Nat
  exponent : Int
deriving DecidableEq, Repr

namespace Binary64

def zero : Binary64 := ⟨0, -1074⟩

/-- The integer nearest to a quotient, the even one if two are equally near. -/
def roundQuotient (num den : Nat) : Nat :=
  let q := num / den
  let twice := 2 * (num % den)
  if twice < den then q
  else if den < twice then q + 1
  else if q % 2 = 0 then q else q + 1

/-- The place of the leading binary digit of a positive quotient. -/
def leadingPlace (num den : Nat) : Int :=
  let place : Int := num.log2 - den.log2
  if num <<< (-place).toNat < den <<< place.toNat then place - 1 else place

/-- The number nearest to a quotient, unless it is too large. -/
def nearest (num den : Nat) : Option Binary64 :=
  if num = 0 then some zero
  else
    let exponent := max (leadingPlace num den - 52) (-1074)
    let mantissa := roundQuotient (num <<< (-exponent).toNat) (den <<< exponent.toNat)
    let (mantissa, exponent) :=
      if mantissa = 1 <<< 53 then (1 <<< 52, exponent + 1) else (mantissa, exponent)
    if 971 < exponent then none else some ⟨mantissa, exponent⟩

/-- The number nearest to a quotient times a power of two. -/
def nearestScaled (num den : Nat) (power : Int) : Option Binary64 :=
  nearest (num <<< power.toNat) (den <<< (-power).toNat)

def mul (x y : Binary64) : Option Binary64 :=
  nearestScaled (x.mantissa * y.mantissa) 1 (x.exponent + y.exponent)

def div (x y : Binary64) : Option Binary64 :=
  nearestScaled x.mantissa y.mantissa (x.exponent - y.exponent)

def powerOfTen (n : Nat) : Option Binary64 := nearest (Nat.pow 10 n) 1

/-- Shifts a number by decimal places, at most 308 of them at a time. -/
def shift (x : Binary64) (places : Int) : Option Binary64 :=
  if 308 < places then
    if x.mantissa = 0 then some x else none
  else if 0 ≤ places then do
    let power ← powerOfTen places.toNat
    x.mul power
  else if -308 ≤ places then do
    let power ← powerOfTen (-places).toNat
    x.div power
  else if x.mantissa = 0 then some x
  else do
    let power ← powerOfTen 308
    let smaller ← x.div power
    smaller.shift (places + 308)
termination_by (-places).toNat
decreasing_by omega

/-- The number that stands for `digits` times ten to the `places`, unless it is too large. -/
def ofDecimal (digits : Nat) (places : Int) : Option Binary64 := do
  let x ← nearest digits 1
  x.shift places

end Binary64
end Passbook
