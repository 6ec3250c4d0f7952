import Passbook.Http.MediaType
import Passbook.Http.Request
import Passbook.Http.Response
import Passbook.Record.Body
import Passbook.Record.Query
import Passbook.Text.Percent

/-!
# Taking requests apart

What an operation needs is taken from the body, the query or the path of a request. A request that
does not have it is rejected with a plain text that says why. A body that is too large is rejected
before it is read.

Bodies that break off on the way and headers that are no text are left out.
-/
namespace Passbook.Http

inductive Rejection where
  | mediaType
  | tooLarge
  | body (fault : LocatedFault)
  | query (fault : LocatedFault)
  | segmentEncoding (name : String)
  | segmentNumber (text : List Char)
deriving DecidableEq, Repr

namespace Rejection

def status : Rejection → Nat
  | .mediaType => 415
  | .tooLarge => 413
  | .body located => if located.fault.isMalformed then 400 else 422
  | .query _ | .segmentEncoding _ | .segmentNumber _ => 400

def message : Rejection → String
  | .mediaType => "Expected request with \x60Content-Type: application/json\x60"
  | .tooLarge => "Failed to buffer the request body: length limit exceeded"
  | .body located =>
      (if located.fault.isMalformed then "Failed to parse the request body as JSON: "
        else "Failed to deserialize the JSON body into the target type: ") ++ located.message
  | .query located => "Failed to deserialize query string: " ++ located.message
  | .segmentEncoding name => "Invalid URL: Invalid UTF-8 in \x60" ++ name ++ "\x60"
  | .segmentNumber text =>
      "Invalid URL: Cannot parse \x60" ++ String.ofList text ++ "\x60 to a \x60i64\x60"

def response (rejection : Rejection) : Response := .plain rejection.status rejection.message

end Rejection

namespace Request

variable {α : Type}

/-- Whether the request says that its body is JSON. -/
def saysJson (request : Request) : Bool :=
  match request.header? "content-type" with
  | none => false
  | some value => (MediaType.read value.toList).any MediaType.isJson

/-- Two mebibytes. -/
def bodyLimit : Nat := 2097152

def bodyRecord (shape : RecordShape α) (request : Request) : Except Rejection α :=
  if !request.saysJson then .error .mediaType
  else if bodyLimit < request.body.length then .error .tooLarge
  else (Body.read shape request.body).mapError .body

def queryRecord (shape : RecordShape α) (request : Request) : Except Rejection α :=
  (QueryString.read shape request.query).mapError .query

def segmentNumber (name : String) (segment : List Char) : Except Rejection Int :=
  match Utf8.decode? (Percent.decode (Utf8.encode segment)) with
  | none => .error (.segmentEncoding name)
  | some text => (Decimal.read .signed64 text).mapError fun _ => .segmentNumber text

end Request
end Passbook.Http
