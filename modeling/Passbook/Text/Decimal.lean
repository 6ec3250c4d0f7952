/-!
# Integers in decimal

An integer is written as its digits behind a minus sign if it is negative. Reading takes one
optional sign and at least one digit, and nothing else. It goes digit by digit and stops at the
first fault, so a text with a stray character far behind an overflow reports the overflow.
-/
namespace Passbook

/-- An inclusive range of integers. A range without negative numbers has no minus sign to read. -/
structure IntegerRange where
  low : Int
  high : Int
deriving DecidableEq, Repr

namespace IntegerRange

/-- The integers of a `BIGINT` column. -/
def signed64 : IntegerRange := ⟨-0x8000000000000000, 0x7fffffffffffffff⟩

def unsigned16 : IntegerRange := ⟨0, 0xffff⟩

def unsigned32 : IntegerRange := ⟨0, 0xffffffff⟩

def unsigned64 : IntegerRange := ⟨0, 0xffffffffffffffff⟩

/-- Whether `n` lies in the range. -/
def holds (range : IntegerRange) (n : Int) : Bool :=
  decide (range.low ≤ n) && decide (n ≤ range.high)

end IntegerRange

/-- Why a text is no integer of the wanted range. -/
inductive IntegerFault where
  | empty
  | invalidDigit
  | tooLarge
  | tooSmall
deriving DecidableEq, Repr

def IntegerFault.message : IntegerFault → String
  | .empty => "cannot parse integer from empty string"
  | .invalidDigit => "invalid digit found in string"
  | .tooLarge => "number too large to fit in target type"
  | .tooSmall => "number too small to fit in target type"

namespace Decimal

def ofNat (n : Nat) : List Char := Nat.toDigits 10 n

/-- The digits of an integer, behind a minus sign if it is negative. -/
def ofInt : Int → List Char
  | .ofNat n => ofNat n
  | .negSucc n => '-' :: ofNat (n + 1)

def text (n : Int) : String := String.ofList (ofInt n)

/-- The digits of `n`, with zeros in front up to `width`. -/
def padded (width n : Nat) : List Char :=
  List.replicate (width - (ofNat n).length) '0' ++ ofNat n

def digit? (c : Char) : Option Nat :=
  if '0' ≤ c ∧ c ≤ '9' then some (c.toNat - 48) else none

/-- Continues a number upwards from `value`. -/
def readUp (high : Int) (value : Int) : List Char → Except IntegerFault Int
  | [] => .ok value
  | c :: rest =>
      match digit? c with
      | none => .error .invalidDigit
      | some d =>
          let value := value * 10 + d
          if value ≤ high then readUp high value rest else .error .tooLarge

/-- Continues a number downwards from `value`. -/
def readDown (low : Int) (value : Int) : List Char → Except IntegerFault Int
  | [] => .ok value
  | c :: rest =>
      match digit? c with
      | none => .error .invalidDigit
      | some d =>
          let value := value * 10 - d
          if low ≤ value then readDown low value rest else .error .tooSmall

/-- Reads a whole text as an integer of `range`. A sign alone lacks its digits. -/
def read (range : IntegerRange) : List Char → Except IntegerFault Int
  | [] => .error .empty
  | ['+'] => .error .invalidDigit
  | ['-'] => .error .invalidDigit
  | '+' :: rest => readUp range.high 0 rest
  | '-' :: rest =>
      if range.low < 0 then readDown range.low 0 rest else .error .invalidDigit
  | digits => readUp range.high 0 digits

end Decimal
end Passbook
