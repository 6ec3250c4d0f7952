import Passbook.Text.Base64
import Passbook.Text.Decimal
import Passbook.Text.Split

/-!
# PHC strings

A password digest is kept as one string that also says how it was made: the algorithm, a version,
parameters, the salt and the digest, each behind a dollar sign. Everything behind the algorithm may
be absent, but what is there stands in this order. Salt and digest are written in base64 without
padding; the salt is checked for its letters only when it is used.
-/
namespace Passbook

structure Phc where
  algorithm : List Char
  version : Option Nat
  params : List (List Char × List Char)
  /-- in base64 -/
  salt : Option (List Char)
  digest : Option (List UInt8)
deriving DecidableEq, Repr

namespace Phc

/-- Names are made of up to 32 small letters, digits and hyphens. -/
def isName (s : List Char) : Bool :=
  !s.isEmpty && s.length ≤ 32 && s.all fun c => c.isLower || c.isDigit || c == '-'

/-- Values are made of up to 64 letters, digits and a few signs. -/
def isValue (s : List Char) : Bool :=
  s.length ≤ 64 && s.all fun c => c.isAlphanum || c == '/' || c == '+' || c == '.' || c == '-'

/-- A number below 2³² without leading zeros. -/
def number? (s : List Char) : Option Nat :=
  if s.isEmpty || !s.all Char.isDigit || (s.head? == some '0' && 1 < s.length) then none
  else
    match Decimal.read .unsigned32 s with
    | .ok n => some n.toNat
    | .error _ => none

def params? (field : List Char) : Option (List (List Char × List Char)) :=
  if 127 < field.length then none
  else
    (Split.all ',' field).mapM fun pair =>
      match Split.all '=' pair with
      | [name, value] => if isName name && isValue value then some (name, value) else none
      | _ => none

/-- Takes the version off the fields, if they begin with one. -/
def takeVersion : List (List Char) → Option (Option Nat × List (List Char))
  | ('v' :: '=' :: value) :: rest =>
      if value.contains ',' then some (none, ('v' :: '=' :: value) :: rest)
      else if isValue value then (number? value).map fun n => (some n, rest)
      else none
  | fields => some (none, fields)

/-- Takes the parameters off the fields, if they begin with some. -/
def takeParams : List (List Char) → Option (List (List Char × List Char) × List (List Char))
  | [] => some ([], [])
  | field :: rest =>
      if field.contains '=' then (params? field).map fun params => (params, rest)
      else some ([], field :: rest)

def salt? (field : List Char) : Option (List Char) :=
  if 4 ≤ field.length && isValue field then some field else none

/-- A digest has between 10 and 64 bytes. -/
def digest? (field : List Char) : Option (List UInt8) := do
  let bytes ← Base64.decode? field
  if 10 ≤ bytes.length && bytes.length ≤ 64 then some bytes else none

/-- Takes the salt and the digest, after which nothing may follow. -/
def takeEnd : List (List Char) → Option (Option (List Char) × Option (List UInt8))
  | [] => some (none, none)
  | [salt] => do
      let salt ← salt? salt
      pure (some salt, none)
  | [salt, digest] => do
      let salt ← salt? salt
      let digest ← digest? digest
      pure (some salt, some digest)
  | _ => none

def read (s : List Char) : Option Phc :=
  match Split.all '$' s with
  | [] :: algorithm :: fields => do
      if !isName algorithm then none
      let (version, fields) ← takeVersion fields
      let (params, fields) ← takeParams fields
      let (salt, digest) ← takeEnd fields
      pure { algorithm, version, params, salt, digest }
  | _ => none

def paramChars : List (List Char × List Char) → List Char
  | [] => []
  | [(name, value)] => name ++ '=' :: value
  | (name, value) :: next :: rest => name ++ '=' :: value ++ ',' :: paramChars (next :: rest)

/-- The string of a digest. -/
def chars (phc : Phc) : List Char :=
  '$' :: phc.algorithm ++
    (match phc.version with
      | none => []
      | some n => '$' :: 'v' :: '=' :: Decimal.ofNat n) ++
    (if phc.params.isEmpty then [] else '$' :: paramChars phc.params) ++
    (match phc.salt with
      | none => []
      | some salt => '$' :: salt) ++
    (match phc.digest with
      | none => []
      | some bytes => '$' :: Base64.encode bytes)

end Phc
end Passbook
