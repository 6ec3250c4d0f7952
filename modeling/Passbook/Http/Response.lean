import Passbook.Json.Value

/-!
# Responses

What is sent back for a request: a status, a body, and the headers that say what kind of body it is
or which methods are allowed.
-/
namespace Passbook.Http

structure Response where
  status : Nat
  body : String
  contentType : Option String := none
  allow : Option String := none
deriving DecidableEq, Repr

namespace Response

def json (status : Nat) (value : Json.Value) : Response :=
  { status := status, body := value.render, contentType := some "application/json" }

def plain (status : Nat) (text : String) : Response :=
  { status := status, body := text, contentType := some "text/plain; charset=utf-8" }

def empty (status : Nat) : Response := { status := status, body := "" }

end Response
end Passbook.Http
