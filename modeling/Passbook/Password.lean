import Passbook.Digest.Argon2
import Passbook.Password.Phc
import Passbook.Text.Utf8

/-!
# Passwords

A password is stored as a PHC string of Argon2 with a random salt. A password matches a stored string
if the same algorithm with the parameters of the string gives the same digest; a string that cannot
be read, lacks its salt or its digest, or asks for impossible parameters matches nothing.

The stretching function is a parameter of the definitions, so that what is said of reading and
writing the strings does not depend on it.
-/
namespace Passbook.Password

open Argon2 (Variant Version Cost)

/-- What a stored digest depends on besides the password. -/
structure Recipe where
  variant : Variant
  version : Version
  cost : Cost
  /-- the number of bytes of the digest -/
  size : Nat
  salt : List UInt8
  /-- further data that goes into the digest -/
  extra : List UInt8
deriving DecidableEq, Repr

/-- A function from a recipe and the bytes of a password to the bytes of a digest. -/
abbrev Stretch := Recipe → List UInt8 → List UInt8

def argon2 : Stretch := fun recipe password =>
  Argon2.tag recipe.variant recipe.version recipe.cost recipe.size password recipe.salt recipe.extra

def variantName : Variant → List Char
  | .dependent => "argon2d".toList
  | .independent => "argon2i".toList
  | .hybrid => "argon2id".toList

def variant? (name : List Char) : Option Variant :=
  [Variant.dependent, .independent, .hybrid].find? fun variant => variantName variant == name

/-- Strings without a version are taken to be of the later one. -/
def version? : Option Nat → Option Version
  | none => some .adding
  | some 16 => some .overwriting
  | some 19 => some .adding
  | some _ => none

def defaultCost : Cost := { memory := 19456, passes := 2, lanes := 1 }

/-- Whether a digest can be computed at this cost. -/
def isPossible (cost : Cost) : Bool :=
  8 ≤ cost.memory && 1 ≤ cost.passes && 1 ≤ cost.lanes && cost.lanes < 0x1000000 &&
    8 * cost.lanes ≤ cost.memory

/-- Further data of at most `size` bytes. -/
def data? (size : Nat) (value : List Char) : Option (List UInt8) := do
  let bytes ← Base64.decode? value
  if bytes.length ≤ size then some bytes else none

/-- Goes through the parameters of a string, of which the later ones win. The name of a key is
checked but not used. -/
def gather (cost : Cost) (extra : List UInt8) :
    List (List Char × List Char) → Option (Cost × List UInt8)
  | [] => some (cost, extra)
  | (name, value) :: rest => do
      if name = ['m'] then
        let n ← Phc.number? value
        gather { cost with memory := n } extra rest
      else if name = ['t'] then
        let n ← Phc.number? value
        gather { cost with passes := n } extra rest
      else if name = ['p'] then
        let n ← Phc.number? value
        gather { cost with lanes := n } extra rest
      else if name = "keyid".toList then
        let _ ← data? 8 value
        gather cost extra rest
      else if name = "data".toList then
        let bytes ← data? 32 value
        gather cost bytes rest
      else none

def recipe? (phc : Phc) : Option (Recipe × List UInt8) := do
  let salt ← phc.salt
  let digest ← phc.digest
  let (cost, extra) ← gather defaultCost [] phc.params
  if !isPossible cost then none
  let variant ← variant? phc.algorithm
  let version ← version? phc.version
  let salt ← Base64.decode? salt
  if salt.length < 8 then none
  pure ({ variant, version, cost, size := digest.length, salt, extra }, digest)

def freshRecipe (salt : List UInt8) : Recipe :=
  { variant := .hybrid, version := .adding, cost := defaultCost, size := 32, salt := salt,
    extra := [] }

/-- The string of a digest that was made by a recipe without further data. -/
def store (recipe : Recipe) (digest : List UInt8) : Phc :=
  { algorithm := variantName recipe.variant
    version := some recipe.version.number
    params := [
      (['m'], Decimal.ofNat recipe.cost.memory),
      (['t'], Decimal.ofNat recipe.cost.passes),
      (['p'], Decimal.ofNat recipe.cost.lanes)]
    salt := some (Base64.encode recipe.salt)
    digest := some digest }

/-- The string under which a new password is stored. -/
def hashWith (stretch : Stretch) (salt : List UInt8) (password : String) : String :=
  let recipe := freshRecipe salt
  String.ofList (store recipe (stretch recipe (Utf8.encode password.toList))).chars

/-- Whether a password matches a stored string. -/
def verifyWith (stretch : Stretch) (password stored : String) : Bool :=
  match (Phc.read stored.toList).bind recipe? with
  | none => false
  | some (recipe, digest) => stretch recipe (Utf8.encode password.toList) == digest

def hash (salt : List UInt8) (password : String) : String := hashWith argon2 salt password

def verify (password stored : String) : Bool := verifyWith argon2 password stored

end Passbook.Password
