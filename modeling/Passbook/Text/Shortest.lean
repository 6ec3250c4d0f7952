import Passbook.Text.Binary64
import Passbook.Text.Decimal

/-!
# Shortest digits

A binary fraction is shown by the fewest decimal digits that are nearer to it than to any other
number of the format. Candidates with a given count of digits are the two neighbours on the decimal
grid; the first count with a candidate wins, and of two candidates the nearer, or the even one if they
are equally near.
-/
namespace Passbook.Shortest

/-- The place of the leading decimal digit of a positive number. The number is scaled by a power of
ten that leaves digits before the point, however small it is. -/
def leadingPlace (x : Binary64) : Int :=
  let scaled := ((x.mantissa <<< x.exponent.toNat) * Nat.pow 10 400) >>> (-x.exponent).toNat
  (Decimal.ofNat scaled).length - 401

/-- The interval of numbers that round to `x`, as multiples of a quarter of its last place: the lower
end, the number itself, the upper end. Below a power of two the numbers lie closer together. -/
def interval (x : Binary64) : Nat × Nat × Nat :=
  let value := 4 * x.mantissa
  let below := if x.mantissa = 1 <<< 52 ∧ -1074 < x.exponent then 1 else 2
  (value - below, value, value + 2)

/-- The candidate with digits down to a place, if there is one. -/
def candidate? (x : Binary64) (place : Int) : Option Nat :=
  let quarter := x.exponent - 2
  let fine (n : Nat) : Nat := (n * Nat.pow 10 (-place).toNat) <<< quarter.toNat
  let grid (n : Nat) : Nat := (n * Nat.pow 10 place.toNat) <<< (-quarter).toNat
  let (low, value, high) := interval x
  let inside (n : Nat) : Bool :=
    if x.mantissa % 2 = 0 then fine low ≤ grid n && grid n ≤ fine high
    else fine low < grid n && grid n < fine high
  let lower := fine value / grid 1
  let upper := lower + 1
  if inside lower then
    let below := fine value - grid lower
    let above := grid upper - fine value
    if inside upper && (above < below || (above == below && lower % 2 == 1)) then some upper
    else some lower
  else if inside upper then some upper
  else none

/-- The digits of a positive number and the place of the last of them. -/
def digits (x : Binary64) : Nat × Int :=
  let top := leadingPlace x
  ((List.range 17).findSome? fun n : Nat =>
    let place := top - n
    (candidate? x place).map fun c => (c, place)).getD (x.mantissa, 0)

/-- Digits with their leading place between -5 and 15: all zeros are written out. -/
def positional (digits : List Char) (leading : Int) : List Char :=
  if leading < 0 then '0' :: '.' :: List.replicate (-leading - 1).toNat '0' ++ digits
  else
    let whole := leading.toNat + 1
    if digits.length ≤ whole then
      digits ++ List.replicate (whole - digits.length) '0' ++ ['.', '0']
    else digits.take whole ++ '.' :: digits.drop whole

/-- Digits behind the first one, and the leading place as a signed exponent. -/
def scientific (digits : List Char) (leading : Int) : List Char :=
  let fraction := digits.drop 1
  digits.take 1 ++ (if fraction.isEmpty then [] else '.' :: fraction) ++
    'e' :: (if leading < 0 then '-' else '+') :: Decimal.ofNat leading.natAbs

/-- The text of a nonnegative number. The upper neighbour on a grid may end in zeros, which are
dropped. -/
def chars (x : Binary64) : List Char :=
  if x.mantissa = 0 then "0.0".toList
  else
    let (n, place) := digits x
    let all := Decimal.ofNat n
    let leading := place + all.length - 1
    let ds := (all.reverse.dropWhile (· == '0')).reverse
    if -5 ≤ leading ∧ leading ≤ 15 then positional ds leading else scientific ds leading

end Passbook.Shortest
