import Passbook.Text.Decimal
import Passbook.Text.Hex
import Passbook.Text.Split
import Passbook.Url.Fault

/-!
# IPv4 addresses

A host whose last label is a number is an IPv4 address. It may have one to four parts; each is
decimal, or octal behind a zero, or hexadecimal behind `0x`. All parts but the last are single
bytes, and the last one fills the bytes that are left.
-/
namespace Passbook.Ipv4

/-- The digits of a base, from most significant on. -/
def digits? (base : Nat) (value : Nat) : List Char → Option Nat
  | [] => some value
  | c :: rest =>
      match Hex.value? c with
      | some d => if d < base then digits? base (value * base + d) rest else none
      | none => none

/-- A part of an address. A base without digits behind it stands for zero. -/
def part? : List Char → Option Nat
  | [] => none
  | '0' :: 'x' :: rest => digits? 16 0 rest
  | '0' :: 'X' :: rest => digits? 16 0 rest
  | '0' :: d :: rest => digits? 8 0 (d :: rest)
  | s => digits? 10 0 s

/-- The labels of a domain, without the empty one behind a final dot. -/
def labels (domain : List Char) : List (List Char) :=
  let all := Split.all '.' domain
  if all.getLast? = some [] then all.dropLast else all

/-- Whether the last label of a domain is a number. -/
def endsInNumber (domain : List Char) : Bool :=
  match (labels domain).getLast? with
  | none => false
  | some label => (!label.isEmpty && label.all Char.isDigit) || (part? label).isSome

/-- Puts the parts of an address together, most significant first. -/
def assemble : Nat → List Nat → Option Nat
  | _, [] => none
  | left, [last] => if last < 1 <<< (8 * left) then some last else none
  | left, n :: rest => do
      let tail ← assemble (left - 1) rest
      if n < 256 then some ((n <<< (8 * (left - 1))) + tail) else none

/-- The address that a domain with a final number stands for. -/
def read (domain : List Char) : Except UrlFault Nat :=
  let parts := labels domain
  if 4 < parts.length then .error .invalidIpv4
  else
    match (parts.mapM part?).bind (assemble 4) with
    | some address => .ok address
    | none => .error .invalidIpv4

def chars (address : Nat) : List Char :=
  Decimal.ofNat ((address >>> 24) % 256) ++ '.' :: Decimal.ofNat ((address >>> 16) % 256) ++
    '.' :: Decimal.ofNat ((address >>> 8) % 256) ++ '.' :: Decimal.ofNat (address % 256)

/-- The two groups of sixteen bits of an address in plain notation: four decimal numbers without
leading zeros. -/
def groups? (s : List Char) : Option (Nat × Nat) := do
  let bytes ← (Split.all '.' s).mapM fun part =>
    match part with
    | [] => none
    | ['0'] => some 0
    | '0' :: _ => none
    | digits => do
        let n ← digits? 10 0 digits
        if n < 256 then some n else none
  match bytes with
  | [a, b, c, d] => some (a * 256 + b, c * 256 + d)
  | _ => none

end Passbook.Ipv4
