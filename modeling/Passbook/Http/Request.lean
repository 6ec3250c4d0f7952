import Passbook.Text.Split
import Passbook.Text.Utf8

/-!
# Requests

A request has a method, a target, headers and a body. The target is a path, perhaps with a query
behind the first question mark. A fragment behind it is not part of what is asked for.
-/
namespace Passbook.Http

structure Request where
  method : String
  target : String
  headers : List (String × String) := []
  body : List UInt8 := []
deriving DecidableEq, Repr

namespace Request

/-- The value of the first header of a name, whatever its case. -/
def header? (request : Request) (name : String) : Option String :=
  (request.headers.find? fun (n, _) => n.toLower == name.toLower).map Prod.snd

def resource (request : Request) : List Char × List Char :=
  Split.first '?' (Split.first '#' request.target.toList).1

def path (request : Request) : List Char := request.resource.1

def query (request : Request) : List UInt8 := Utf8.encode request.resource.2

end Request
end Passbook.Http
