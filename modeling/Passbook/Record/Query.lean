import Passbook.Record.Shape
import Passbook.Text.Form

/-!
# Records in queries

The query of a URL gives the members of a record as pairs, in any order. Pairs with other names are
passed over.
-/
namespace Passbook.QueryString

/-- The value of a member. -/
def scalar (kind : Scalar.Kind) (value : List Char) : Except RecordFault Scalar :=
  match kind with
  | .text => .ok (.text value)
  | .int =>
      match Decimal.read .signed64 value with
      | .ok n => .ok (.int n)
      | .error fault => .error (.badInteger fault)

variable {α : Type}

/-- Adds the values of pairs to those that were found before. -/
def gather (shape : RecordShape α) (found : Found) :
    List (List Char × List Char) → Except LocatedFault Found
  | [] => .ok found
  | (name, value) :: pairs =>
      match shape.member? name with
      | none => gather shape found pairs
      | some member =>
          if (found.lookup member.name).isSome then .error { fault := .duplicate member.name }
          else
            match scalar member.kind value with
            | .error fault => .error ⟨name, fault⟩
            | .ok v => gather shape ((member.name, v) :: found) pairs

def read (shape : RecordShape α) (query : List UInt8) : Except LocatedFault α := do
  let found ← gather shape [] (Form.pairs query)
  match shape.build found with
  | .ok record => return record
  | .error fault => throw { fault := fault }

end Passbook.QueryString
