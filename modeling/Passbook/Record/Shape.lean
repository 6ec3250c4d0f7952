import Passbook.Json.Malformed
import Passbook.Json.Number
import Passbook.Text.Decimal
import Passbook.Text.Quoted
import Passbook.Text.Shortest

/-!
# Records of a request

What a client asks for is a record of texts and integers. A shape names the members of a record in
their order and builds it from what was found. A record may come as JSON or as the query of a URL;
either way the first fault is reported, with the place where it was found.
-/
namespace Passbook

inductive Scalar where
  | text (s : List Char)
  | int (n : Int)
deriving DecidableEq, Repr

inductive Scalar.Kind where
  | text
  | int
deriving DecidableEq, Repr

/-- How a kind is called in reports. -/
def Scalar.Kind.title : Scalar.Kind → String
  | .text => "a string"
  | .int => "i64"

/-- A member of a record. An optional member has a default. -/
structure Member where
  name : String
  kind : Scalar.Kind
  optional : Bool := false
deriving DecidableEq, Repr

/-- What stands where something else was wanted. -/
inductive Seen where
  | null
  | bool (b : Bool)
  | number (n : Json.Number)
  | text (s : List Char)
  | list
  | object
deriving DecidableEq, Repr

def Seen.title : Seen → String
  | .null => "null"
  | .bool b => "boolean \x60" ++ (if b then "true" else "false") ++ "\x60"
  | .number (.int n) => "integer \x60" ++ Decimal.text n ++ "\x60"
  | .number (.fraction negative magnitude) =>
      "floating point \x60" ++ (if negative then "-" else "") ++
        String.ofList (Shortest.chars magnitude) ++ "\x60"
  | .text s => "string " ++ String.ofList (Quoted.echo s)
  | .list => "sequence"
  | .object => "map"

inductive RecordFault where
  | malformed (fault : Json.Malformed)
  | wrongKind (seen : Seen) (wanted : String)
  | outOfRange (n : Int)
  | missing (name : String)
  | duplicate (name : String)
  /-- a list that ends before all members are found -/
  | tooShort (length : Nat) (wanted : String)
  | badInteger (fault : IntegerFault)
deriving DecidableEq, Repr

namespace RecordFault

def message : RecordFault → String
  | .malformed fault => fault.message
  | .wrongKind seen wanted => "invalid type: " ++ seen.title ++ ", expected " ++ wanted
  | .outOfRange n =>
      "invalid value: integer \x60" ++ Decimal.text n ++ "\x60, expected " ++ Scalar.Kind.int.title
  | .missing name => "missing field \x60" ++ name ++ "\x60"
  | .duplicate name => "duplicate field \x60" ++ name ++ "\x60"
  | .tooShort length wanted =>
      "invalid length " ++ Decimal.text length ++ ", expected " ++ wanted
  | .badInteger fault => fault.message

/-- Whether the bytes are no JSON text, rather than a text of another shape. -/
def isMalformed : RecordFault → Bool
  | .malformed _ => true
  | _ => false

end RecordFault

/-- A fault and its place. The record as a whole is the place called `.`. -/
structure LocatedFault where
  place : List Char := ['.']
  fault : RecordFault
deriving DecidableEq, Repr

/-- The text of a fault, behind its place unless that is the whole record. -/
def LocatedFault.message (located : LocatedFault) : String :=
  if located.place = ['.'] then located.fault.message
  else String.ofList located.place ++ ": " ++ located.fault.message

abbrev Found := List (String × Scalar)

namespace Found

def text (found : Found) (name : String) : Except RecordFault String :=
  match found.lookup name with
  | some (.text s) => .ok (String.ofList s)
  | _ => .error (.missing name)

def int (found : Found) (name : String) : Except RecordFault Int :=
  match found.lookup name with
  | some (.int n) => .ok n
  | _ => .error (.missing name)

def intD (found : Found) (name : String) (default : Int) : Int :=
  match found.lookup name with
  | some (.int n) => n
  | _ => default

end Found

/-- The members of a record of type `α` and how it is built from them. -/
structure RecordShape (α : Type) where
  name : String
  members : List Member
  build : Found → Except RecordFault α

namespace RecordShape

variable {α : Type}

def member? (shape : RecordShape α) (name : List Char) : Option Member :=
  shape.members.find? fun member => member.name.toList == name

/-- How a record is called in reports. -/
def title (shape : RecordShape α) : String := "struct " ++ shape.name

/-- How a list in place of a record is called in reports. -/
def listTitle (shape : RecordShape α) : String :=
  shape.title ++ " with " ++ Decimal.text shape.members.length ++ " elements"

end RecordShape
end Passbook
