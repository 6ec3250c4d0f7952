import Passbook.Text.Decimal
import Passbook.Text.Hex

/-!
# JSON values

The values that answers and mails are made of. An object keeps its fields in the order in which they
are given. The text has no blanks; in a string only quotes, backslashes and control characters are
escaped.
-/
namespace Passbook.Json

inductive Value where
  | null
  | bool (b : Bool)
  | int (n : Int)
  | text (s : List Char)
  | array (items : List Value)
  | object (fields : List (String × Value))

namespace Value

def ofString (s : String) : Value := .text s.toList

/-- The written form of one character of a string. -/
def escape (c : Char) : List Char :=
  if c = '"' then ['\\', '"']
  else if c = '\\' then ['\\', '\\']
  else if c.toNat < 32 then
    if c = '\n' then ['\\', 'n']
    else if c = '\r' then ['\\', 'r']
    else if c = '\t' then ['\\', 't']
    else if c.toNat = 8 then ['\\', 'b']
    else if c.toNat = 12 then ['\\', 'f']
    else ['\\', 'u', '0', '0', Hex.digit (c.toNat / 16), Hex.digit (c.toNat % 16)]
  else [c]

/-- A string in quotes. -/
def quote (s : List Char) : List Char :=
  '"' :: s.flatMap escape ++ ['"']

mutual

def chars : Value → List Char
  | .null => "null".toList
  | .bool true => "true".toList
  | .bool false => "false".toList
  | .int n => Decimal.ofInt n
  | .text s => quote s
  | .array items => '[' :: itemChars items ++ [']']
  | .object fields => '\x7b' :: fieldChars fields ++ ['\x7d']

def itemChars : List Value → List Char
  | [] => []
  | [item] => item.chars
  | item :: next :: rest => item.chars ++ ',' :: itemChars (next :: rest)

def fieldChars : List (String × Value) → List Char
  | [] => []
  | [(name, value)] => quote name.toList ++ ':' :: value.chars
  | (name, value) :: next :: rest =>
      quote name.toList ++ ':' :: value.chars ++ ',' :: fieldChars (next :: rest)

end

def render (value : Value) : String := String.ofList value.chars

end Value
end Passbook.Json
