import Passbook.Unicode.Composition
import Passbook.Unicode.Direction
import Passbook.Unicode.HostMapping
import Passbook.Unicode.Joining
import Passbook.Url.Punycode

/-!
# Labels

A label is a part of a domain between dots. It is held together with its form in ASCII, which is
Punycode behind `xn--` if it has characters outside ASCII. A label that comes in that form is read
back and has to be one that would be written so.

In a domain with characters that are written from the right, every label has to keep one direction,
so that a reader can tell where it begins and ends.
-/
namespace Passbook

structure Label where
  text : List Char
  ascii : List Char
deriving DecidableEq, Repr

namespace Label

def normalized (text : List Char) : List Char :=
  let mapped := text.flatMap fun c => (Unicode.hostMapping? c.toNat).getD [c.toNat]
  if mapped.all (· < 128) then mapped.map Char.ofNat
  else (Unicode.composed mapped).map Char.ofNat

/-- ASCII characters that no label can hold. -/
def isForbidden (c : Char) : Bool :=
  c.toNat ≤ 32 || c.toNat == 127 || "%#/:<>?@[\\]^|".toList.contains c

/-- Separates letters that would be joined. -/
def isSeparator (c : Char) : Bool := c.toNat == 0x200c

/-- Joins letters that would not be joined. -/
def isJoiner (c : Char) : Bool := c.toNat == 0x200d

/-- Printable characters outside ASCII that no label can hold. -/
def excludedTable : RangeTable := [
  (0x115f, 0x1160), (0x17b4, 0x17b5), (0x1806, 0x1806), (0x2ff0, 0x2fff), (0x3164, 0x3164),
  (0x31ef, 0x31ef), (0xffa0, 0xffa0), (0xfffc, 0xfffd)]

/-- Whether a character that is not mapped can stand in a label. -/
def isAllowed (c : Char) : Bool :=
  if c.toNat < 128 then !isForbidden c
  else
    isSeparator c || isJoiner c ||
      (Unicode.isPrintable c && !excludedTable.holds c.toNat)

/-- Whether the first character that is not transparent satisfies `p`. -/
def reaches (p : Char → Bool) (text : List Char) : Bool :=
  (text.find? (!Unicode.isTransparent ·)).any p

/-- Whether `c` can stand behind the text whose reverse is `before`, and in front of `after`, if it
joins or separates. Both can stand behind a sign that takes the vowel from a consonant; a separator
can stand between two letters that would be joined. -/
def stands (before : List Char) (c : Char) (after : List Char) : Bool :=
  let behindSign := before.head?.any (Unicode.markClass ·.toNat == 9)
  if isJoiner c then behindSign
  else if isSeparator c then
    behindSign || (reaches Unicode.joinsNext before && reaches Unicode.joinsPrevious after)
  else true

/-- Whether everything that joins or separates has its place, where `before` is the reverse of what
comes in front. -/
def allStand : List Char → List Char → Bool
  | _, [] => true
  | before, c :: after => stands before c after && allStand (c :: before) after

/-- Whether a text with characters outside ASCII is well formed. -/
def isWellFormed (text : List Char) : Bool :=
  text.all isAllowed && !text.head?.any (Unicode.isMark ·.toNat) && allStand [] text

/-- The label that a part of a normalized domain stands for. Parts that would take long to write or
to read in Punycode stand for none. -/
def read? (part : List Char) : Option Label :=
  match part with
  | 'x' :: 'n' :: '-' :: '-' :: code => do
      let text ← if code.length ≤ 2000 then Punycode.decode? code else none
      if part.all (·.toNat < 128) && text.any (128 ≤ ·.toNat) && normalized text == text &&
          isWellFormed text then
        some { text, ascii := part }
      else none
  | _ =>
      if part.all (·.toNat < 128) then
        if part.all isAllowed then some { text := part, ascii := part } else none
      else if part.length ≤ 1000 && isWellFormed part then
        some { text := part, ascii := "xn--".toList ++ Punycode.encode part }
      else none

/-- Whether a label has characters that are written from the right. -/
def hasRight (label : Label) : Bool :=
  label.text.any fun c =>
    Unicode.direction c == .fromRight || Unicode.direction c == .arabicNumber

/-- Whether the last direction that is not a mark is one of `ends`. -/
def endsIn (ends : List Unicode.Direction) (line : List Unicode.Direction) : Bool :=
  (line.reverse.find? (· != .mark)).any ends.contains

/-- Whether a label keeps the direction of its first letter. From the left there is nothing that is
written from the right; from the right there is no letter from the left, and only one kind of
numbers. Signs can stand at neither end. -/
def keepsDirection (label : Label) : Bool :=
  let line := label.text.map Unicode.direction
  match line with
  | [] => true
  | .fromLeft :: _ => !label.hasRight && endsIn [.fromLeft, .digit] line
  | .fromRight :: _ =>
      !line.contains .fromLeft && endsIn [.fromRight, .digit, .arabicNumber] line &&
        !(line.contains .digit && line.contains .arabicNumber)
  | _ => false

end Label
end Passbook
