import Passbook.Text.Decimal

/-!
# Instants

An instant counts microseconds from the start of 1970 in UTC and may lie before it. Its text is a
date and a time of day in the proleptic Gregorian calendar. The fraction has no digits, three or
six, whichever is the shortest that is exact. Years 0 to 9999 have four digits; later years carry a
plus sign, earlier ones a minus sign in front of at least four digits.
-/
namespace Passbook

/-- A point in time, in microseconds since the start of 1970. -/
structure Instant where
  micros : Int
deriving DecidableEq, Repr, Inhabited

/-- A day of the proleptic Gregorian calendar. -/
structure CivilDate where
  year : Int
  month : Nat
  day : Nat
deriving DecidableEq, Repr

namespace CivilDate

/-- The date that lies `days` days after the first of January 1970. Years are counted from March,
so that the leap day is the last of its year, and in eras of 400 years of 146097 days. -/
def ofDays (days : Int) : CivilDate :=
  let shifted := days + 719468
  let era := shifted.fdiv 146097
  let dayOfEra := (shifted.fmod 146097).toNat
  let yearOfEra := (dayOfEra - dayOfEra / 1460 + dayOfEra / 36524 - dayOfEra / 146096) / 365
  let dayOfYear := dayOfEra - (365 * yearOfEra + yearOfEra / 4 - yearOfEra / 100)
  let marchMonth := (5 * dayOfYear + 2) / 153
  let month := if marchMonth < 10 then marchMonth + 3 else marchMonth - 9
  { year := yearOfEra + era * 400 + (if month ≤ 2 then 1 else 0)
    month := month
    day := dayOfYear - (153 * marchMonth + 2) / 5 + 1 }

/-- A year of four digits, or a signed one outside 0 to 9999. -/
def yearText (year : Int) : List Char :=
  if year < 0 then '-' :: Decimal.padded 4 year.natAbs
  else if year ≤ 9999 then Decimal.padded 4 year.natAbs
  else '+' :: Decimal.ofNat year.natAbs

def chars (date : CivilDate) : List Char :=
  yearText date.year ++ '-' :: Decimal.padded 2 date.month ++ '-' :: Decimal.padded 2 date.day

end CivilDate

namespace Instant

def microsPerDay : Int := 86400000000

def before (a b : Instant) : Bool := decide (a.micros < b.micros)

/-- The fraction of a second that `micros` microseconds are, without needless digits. -/
def fractionText (micros : Nat) : List Char :=
  if micros = 0 then []
  else if micros % 1000 = 0 then '.' :: Decimal.padded 3 (micros / 1000)
  else '.' :: Decimal.padded 6 micros

def chars (t : Instant) : List Char :=
  let date := CivilDate.ofDays (t.micros.fdiv microsPerDay)
  let micros := (t.micros.fmod microsPerDay).toNat
  let seconds := micros / 1000000
  date.chars ++ 'T' :: Decimal.padded 2 (seconds / 3600) ++ ':' ::
    Decimal.padded 2 (seconds / 60 % 60) ++ ':' :: Decimal.padded 2 (seconds % 60) ++
    fractionText (micros % 1000000) ++ ['Z']

def text (t : Instant) : String := String.ofList t.chars

end Instant
end Passbook
