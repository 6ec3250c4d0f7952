import Passbook.Failure
import Passbook.Instant

/-!
# Rows

A row of an answer lists values by column name; an absent column holds NULL. Records are read column
by column in a fixed order, and the first column that is NULL is the fault that is reported.
-/
namespace Passbook

/-- A value in a column. Instants are kept in microseconds. -/
inductive Cell where
  | int (n : Int)
  | text (s : String)
  | bool (b : Bool)
deriving DecidableEq, Repr

abbrev Row := List (String × Cell)

namespace Row

/-- The fault of a column that holds no value. Names are shown in quotes. -/
def missing (name : String) : StorageFault := .unexpectedNull ("\"" ++ name ++ "\"")

def int (row : Row) (name : String) : Except StorageFault Int :=
  match row.lookup name with
  | some (.int n) => .ok n
  | _ => .error (missing name)

def text (row : Row) (name : String) : Except StorageFault String :=
  match row.lookup name with
  | some (.text s) => .ok s
  | _ => .error (missing name)

def bool (row : Row) (name : String) : Except StorageFault Bool :=
  match row.lookup name with
  | some (.bool b) => .ok b
  | _ => .error (missing name)

def instant (row : Row) (name : String) : Except StorageFault Instant :=
  (row.int name).map Instant.mk

/-- The integer in a column that is known, and shown, by its place. -/
def intAt (row : Row) (name : String) (place : Nat) : Except StorageFault Int :=
  match row.lookup name with
  | some (.int n) => .ok n
  | _ => .error (.unexpectedNull (Decimal.text place))

/-- The text in a column that is known, and shown, by its place. -/
def textAt (row : Row) (name : String) (place : Nat) : Except StorageFault String :=
  match row.lookup name with
  | some (.text s) => .ok s
  | _ => .error (.unexpectedNull (Decimal.text place))

end Row
end Passbook
