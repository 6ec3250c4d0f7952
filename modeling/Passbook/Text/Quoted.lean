import Passbook.Text.Hex
import Passbook.Unicode.Printable

/-!
# Quoted echoes

A text that a client sent is echoed in quotes, on one line and without characters that cannot be
seen. Whatever is not shown as itself is written behind a backslash; for characters without a short
form of their own that is their code point.
-/
namespace Passbook.Quoted

/-- The code point of a character, in hexadecimal digits between braces. -/
def codePoint (c : Char) : List Char :=
  ['\\', 'u', '\x7b'] ++ Hex.ofNat c.toNat ++ ['\x7d']

/-- What is written for one character. -/
def escape (c : Char) : List Char :=
  if c = '"' then ['\\', '"']
  else if c = '\\' then ['\\', '\\']
  else if c = '\n' then ['\\', 'n']
  else if c = '\r' then ['\\', 'r']
  else if c = '\t' then ['\\', 't']
  else if c.toNat = 0 then ['\\', '0']
  else if Unicode.isPrintable c && !Unicode.isExtender c then [c]
  else codePoint c

/-- A text in quotes. -/
def echo (text : List Char) : List Char := '"' :: text.flatMap escape ++ ['"']

end Passbook.Quoted
