import Passbook.Text.Percent
import Passbook.Text.Utf8
import Passbook.Url.Domain
import Passbook.Url.Ipv6

/-!
# Hosts

A host is a domain or an address. In URLs of the well-known schemes it is percent-decoded and brought
to ASCII, and it is an IPv4 address if it ends in a number. In other URLs it is taken as it is.
-/
namespace Passbook

inductive Host where
  | domain (name : List Char)
  | ipv4 (address : Nat)
  | ipv6 (groups : List Nat)
deriving DecidableEq, Repr

namespace Host

/-- The host between brackets. -/
def bracketed (inner : List Char) : Except UrlFault Host :=
  if inner.getLast? = some ']' then (Ipv6.read inner.dropLast).map .ipv6
  else .error .invalidIpv6

def read : List Char → Except UrlFault Host
  | '[' :: inner => bracketed inner
  | s =>
      match Domain.toAscii (Utf8.lossy (Percent.decode (Utf8.encode s))) with
      | none => .error .invalidDomain
      | some [] => .error .emptyHost
      | some name =>
          if Ipv4.endsInNumber name then (Ipv4.read name).map .ipv4
          else .ok (.domain name)

/-- Control characters, which are escaped everywhere. -/
def isControl (b : UInt8) : Bool := b.toNat < 32 || b.toNat == 127

/-- Characters that no host can hold. -/
def isForbidden (c : Char) : Bool :=
  c.toNat = 0 || "\t\n\r #/:<>?@[\\]^|".toList.contains c

/-- The host of any other URL. -/
def readPlain : List Char → Except UrlFault Host
  | '[' :: inner => bracketed inner
  | s =>
      if s.any isForbidden then .error .invalidHostCharacter
      else .ok (.domain (Percent.encode isControl (Utf8.encode s)))

def chars : Host → List Char
  | .domain name => name
  | .ipv4 address => Ipv4.chars address
  | .ipv6 groups => '[' :: Ipv6.chars groups ++ [']']

end Host
end Passbook
