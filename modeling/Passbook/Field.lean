import Passbook.Account
import Passbook.Text.Split
import Passbook.Unicode.Alphabetic
import Passbook.Unicode.Blank
import Passbook.Verification

/-!
# Field rules

What the fields of a request must look like. Lengths count characters, not bytes. The rule for email
addresses is about their shape only: one `@` with something in front of it and a dotted domain
behind it.
-/
namespace Passbook

inductive FieldFault where
  | length (field : String) (min max : Nat)
  | usernameCharacters
  | fullNameCharacters
  | emailShape
  | unsupportedCurrency (value : String)
  | negativeOpening
  | recordId
  | pageNumber
  | pageSize
  | pageOutOfRange (page : Int)
  | currencyMismatch (account : Int) (held wanted : String)
deriving DecidableEq, Repr

def FieldFault.message : FieldFault → String
  | .length field min max =>
      field ++ " must contain from " ++ Decimal.text min ++ "-" ++ Decimal.text max ++ " characters"
  | .usernameCharacters => "username must contain only lowercase letters, digits, or underscore"
  | .fullNameCharacters => "full_name must contain only letters or spaces"
  | .emailShape => "email is not a valid email address"
  | .unsupportedCurrency value => "currency " ++ value ++ " is not supported"
  | .negativeOpening => "initial_balance must not be negative"
  | .recordId => "email_id must be a positive integer"
  | .pageNumber => "page_id must be at least 1"
  | .pageSize => "page_size must be between 5 and 10"
  | .pageOutOfRange page => "page_id " ++ Decimal.text page ++ " is out of range"
  | .currencyMismatch account held wanted =>
      "account [" ++ Decimal.text account ++ "] currency mismatch: " ++ held ++ " vs " ++ wanted

namespace Field

/-- Demands that a condition holds. -/
def require (condition : Bool) (fault : FieldFault) : Except FieldFault Unit :=
  if condition then .ok () else .error fault

/-- Demands a number of characters between `min` and `max`. -/
def length (field value : String) (min max : Nat) : Except FieldFault Unit :=
  let n := value.toList.length
  require (min ≤ n && n ≤ max) (.length field min max)

/-- A lower-case letter, a digit or an underscore, all of ASCII. -/
def isUsernameChar (c : Char) : Bool := c.isLower || c.isDigit || c == '_'

def username (value : String) : Except FieldFault Unit := do
  length "username" value 3 100
  require (value.toList.all isUsernameChar) .usernameCharacters

def password (value : String) : Except FieldFault Unit :=
  length "password" value 6 100

def isFullNameChar (c : Char) : Bool := Unicode.isAlphabetic c || c == ' '

def fullName (value : String) : Except FieldFault Unit := do
  length "full_name" value 3 100
  require (value.toList.all isFullNameChar) .fullNameCharacters

/-- The part behind the `@` has no other `@`, has two labels at least that are not empty, and begins
and ends with something other than a dot. -/
def isDomain (domain : List Char) : Bool :=
  !domain.contains '@' &&
    2 ≤ ((Split.all '.' domain).filter fun label => !label.isEmpty).length &&
    domain.head? != some '.' && domain.getLast? != some '.'

/-- Something in front of the first `@`, a domain behind it, and no blanks. -/
def isEmail (value : List Char) : Bool :=
  match Split.first? '@' value with
  | none => false
  | some (front, domain) =>
      !front.isEmpty && isDomain domain && !value.any Unicode.isBlank

def email (value : String) : Except FieldFault Unit := do
  length "email" value 3 200
  require (isEmail value.toList) .emailShape

def currency (value : String) : Except FieldFault Unit :=
  require (Account.currencies.contains value) (.unsupportedCurrency value)

def openingBalance (value : Int) : Except FieldFault Unit :=
  require (0 ≤ value) .negativeOpening

def recordId (value : Int) : Except FieldFault Unit :=
  require (0 < value) .recordId

def secretCode (value : String) : Except FieldFault Unit :=
  length "secret_code" value Verification.codeLength Verification.codeLength

/-- The number of a page, from one, and its size. -/
def page (number size : Int) : Except FieldFault Unit := do
  require (1 ≤ number) .pageNumber
  require (5 ≤ size && size ≤ 10) .pageSize

end Field
end Passbook
