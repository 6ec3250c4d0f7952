import Passbook.Text.Form
import Passbook.Url.Host

/-!
# URLs

The parts of an absolute URL and its written form. Parts are kept as they are written, with their
escapes. A path is a list of segments, or one plain text if nothing but a scheme stands in front of it.
-/
namespace Passbook

inductive UrlPath where
  | plain (text : List Char)
  | segments (list : List (List Char))
deriving DecidableEq, Repr

structure Url where
  scheme : List Char
  username : List Char := []
  password : List Char := []
  host : Option Host := none
  port : Option Nat := none
  path : UrlPath
  query : Option (List Char) := none
  fragment : Option (List Char) := none
deriving DecidableEq, Repr

namespace Url

/-- The port that a scheme stands for, for the schemes that have one. -/
def defaultPort? (scheme : List Char) : Option Nat :=
  if scheme = "http".toList ∨ scheme = "ws".toList then some 80
  else if scheme = "https".toList ∨ scheme = "wss".toList then some 443
  else if scheme = "ftp".toList then some 21
  else none

/-- The name and the password in front of a host. -/
def userinfoChars (url : Url) : List Char :=
  if url.username.isEmpty && url.password.isEmpty then []
  else url.username ++ (if url.password.isEmpty then [] else ':' :: url.password) ++ ['@']

/-- The two slashes and what follows them up to the path. -/
def authorityChars (url : Url) : List Char :=
  match url.host with
  | none => []
  | some host =>
      '/' :: '/' :: url.userinfoChars ++ host.chars ++
        (match url.port with
          | none => []
          | some port => ':' :: Decimal.ofNat port)

/-- The path. A path that would look like a host gets a dot in front. -/
def pathChars (url : Url) : List Char :=
  match url.path with
  | .plain text => text
  | .segments list =>
      let text := list.flatMap ('/' :: ·)
      match url.host, list with
      | none, [] :: _ :: _ => '/' :: '.' :: text
      | _, _ => text

def queryChars (url : Url) : List Char :=
  match url.query with
  | none => []
  | some query => '?' :: query

def fragmentChars (url : Url) : List Char :=
  match url.fragment with
  | none => []
  | some fragment => '#' :: fragment

def chars (url : Url) : List Char :=
  url.scheme ++ ':' :: url.authorityChars ++ url.pathChars ++ url.queryChars ++ url.fragmentChars

def extendQuery (query : List Char) (pair : List Char × List Char) : List Char :=
  if query.isEmpty then Form.encodePair pair else query ++ '&' :: Form.encodePair pair

/-- The URL with further pairs in its query, which it gets if it has none. -/
def withPairs (url : Url) (pairs : List (List Char × List Char)) : Url :=
  { url with query := some (pairs.foldl extendQuery (url.query.getD [])) }

end Url
end Passbook
