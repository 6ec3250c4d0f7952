import Passbook.Mail.Message
import Passbook.Mail.Signature
import Passbook.Program
import Passbook.Url.Reader

/-!
# The mail relay

Messages are handed to a relay by a signed request. The relay has to be reached over HTTPS; plain HTTP
is for this machine only. A relay accepts a message by answering with a status between 200 and 299.

What becomes of a request on its way is left out: redirects, the time that it may take, and hosts that
nothing can be sent to.
-/
namespace Passbook

structure Relay where
  url : Url
  secret : String

structure RelayRequest where
  /-- the path and the query -/
  target : String
  contentType : String
  signature : String
  /-- a random identifier -/
  mailId : String
  body : String
deriving DecidableEq, Repr

namespace Relay

/-- The names that this machine goes by. -/
def localHosts : List (List Char) :=
  ["localhost".toList, "127.0.0.1".toList, "0.0.0.0".toList]

def url? (text : String) : Except MailFault Url :=
  if 2048 < text.utf8ByteSize then .error (.invalidRelayUrl "URL exceeds 2048 characters")
  else
    match Url.read text.toList with
    | .error _ => .error (.invalidRelayUrl "Invalid URL format")
    | .ok url =>
        if url.scheme = "https".toList then .ok url
        else if url.scheme = "http".toList then
          match url.host with
          | some host =>
              if localHosts.contains host.chars then .ok url
              else .error (.invalidRelayUrl
                "HTTP is only allowed for localhost. Use HTTPS for production.")
          | none => .error (.invalidRelayUrl
              "HTTP is only allowed for localhost. Use HTTPS for production.")
        else .error (.invalidRelayUrl "URL must use HTTP or HTTPS")

def connect (url secret : String) : Except MailFault Relay :=
  (url? url).map fun url => { url, secret }

/-- Sixteen random bytes as an identifier of version four, with the bits for its version and its
variant set. -/
def identifier (random : List UInt8) : String :=
  let marked := random.zipIdx.map fun (b, i) =>
    if i = 6 then (b &&& 0x0f) ||| 0x40 else if i = 8 then (b &&& 0x3f) ||| 0x80 else b
  let digits := Hex.encode marked
  String.ofList <|
    digits.take 8 ++ '-' :: (digits.drop 8).take 4 ++ '-' :: (digits.drop 12).take 4 ++
      '-' :: (digits.drop 16).take 4 ++ '-' :: digits.drop 20

def request (relay : Relay) (message : Message) (random : List UInt8) : RelayRequest :=
  let body := message.json.render
  { target := String.ofList (relay.url.pathChars ++ relay.url.queryChars)
    contentType := "application/json"
    signature := Mail.signature relay.secret body
    mailId := identifier random
    body := body }

/-- What the status of the answer means. -/
def outcome (status : Nat) : Except MailFault Unit :=
  if 200 ≤ status ∧ status ≤ 299 then .ok () else .error (.rejected status)

inductive Action where
  /-- sixteen random bytes -/
  | random
  /-- sends a request to the relay and waits for its answer -/
  | post (request : RelayRequest)
deriving DecidableEq, Repr

/-- What is learnt from it: the status of the answer, if there is one. -/
abbrev Action.Answer : Action → Type
  | .random => List UInt8
  | .post _ => Option Nat

def random : Program Action Action.Answer (List UInt8) := Program.request Action.random

def post (request : RelayRequest) : Program Action Action.Answer (Option Nat) :=
  Program.request (Action.post request)

def send (relay : Relay) (message : Message) :
    Program Action Action.Answer (Except MailFault Unit) := do
  let random ← random
  match ← post (relay.request message random) with
  | none => return .error .unreachable
  | some status => return outcome status

end Relay
end Passbook
