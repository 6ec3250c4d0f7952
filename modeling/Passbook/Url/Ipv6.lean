import Passbook.Url.Ipv4

/-!
# IPv6 addresses

Eight groups of sixteen bits in hexadecimal digits, with colons between them. One run of zero groups
may be left out between two colons, and the last two groups may be written like an IPv4 address. The
written form has no leading zeros and leaves out the longest run of two or more zero groups, the
first of them if there are several.
-/
namespace Passbook.Ipv6

def isHexDigit (c : Char) : Bool := (Hex.value? c).isSome

/-- What has been read: the groups in front of the gap and, if there is a gap, those behind it. -/
structure Groups where
  front : List Nat
  back : Option (List Nat)

namespace Groups

/-- The number of places taken. A gap takes one at least. -/
def count (g : Groups) : Nat :=
  g.front.length + (match g.back with | none => 0 | some back => back.length + 1)

def push (g : Groups) (n : Nat) : Groups :=
  match g.back with
  | none => { g with front := g.front ++ [n] }
  | some back => { g with back := some (back ++ [n]) }

/-- All eight groups, with zeros in the gap. -/
def finish (g : Groups) : Option (List Nat) :=
  match g.back with
  | none => if g.front.length = 8 then some g.front else none
  | some back => some (g.front ++ List.replicate (8 - g.front.length - back.length) 0 ++ back)

end Groups

/-- Reads the rest of an address behind the groups `g`. -/
def readFrom (g : Groups) (s : List Char) : Option (List Nat) :=
  match s with
  | [] => g.finish
  | c :: tail =>
      if 8 ≤ g.count then none
      else if c = ':' then
        match g.back with
        | some _ => none
        | none => readFrom { g with back := some [] } tail
      else
        let digits := ((c :: tail).take 4).takeWhile isHexDigit
        let value := (Ipv4.digits? 16 0 digits).getD 0
        match _h : (c :: tail).drop digits.length with
        | [] => (g.push value).finish
        | '.' :: _ =>
            if digits.isEmpty || 6 < g.count then none
            else do
              let (high, low) ← Ipv4.groups? (c :: tail)
              ((g.push high).push low).finish
        | ':' :: more => if more.isEmpty then none else readFrom (g.push value) more
        | _ => none
termination_by s.length
decreasing_by
  · simp
  · have := congrArg List.length _h
    simp only [List.length_drop, List.length_cons] at this ⊢
    omega

def read (s : List Char) : Except UrlFault (List Nat) :=
  let groups :=
    match s with
    | ':' :: ':' :: rest => readFrom ⟨[], some []⟩ rest
    | ':' :: _ => none
    | _ => readFrom ⟨[], none⟩ s
  match groups with
  | some groups => .ok groups
  | none => .error .invalidIpv6

/-- The number of zero groups at the front. -/
def zeros (groups : List Nat) : Nat := (groups.takeWhile (· == 0)).length

/-- The place and the length of the first longest run of zero groups, from place `i` on. -/
def longestRun : Nat → List Nat → Nat × Nat
  | _, [] => (0, 0)
  | i, n :: rest =>
      let (place, length) := longestRun (i + 1) rest
      let here := zeros (n :: rest)
      if length ≤ here then (i, here) else (place, length)

def joined : List Nat → List Char
  | [] => []
  | [n] => Hex.ofNat n
  | n :: next :: rest => Hex.ofNat n ++ ':' :: joined (next :: rest)

def chars (groups : List Nat) : List Char :=
  let (place, length) := longestRun 0 groups
  if length < 2 then joined groups
  else joined (groups.take place) ++ ':' :: ':' :: joined (groups.drop (place + length))

end Passbook.Ipv6
