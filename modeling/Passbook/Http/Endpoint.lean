import Passbook.Http.Response
import Passbook.Text.Split

/-!
# Endpoints

The paths that requests can go to, and what each method does there. A path is matched as it is
written; only the number of an account stands for any segment that is not empty. Whatever GET serves,
HEAD serves without a body.
-/
namespace Passbook.Http

inductive Endpoint where
  | health
  | users
  | verifyEmail
  | accounts
  /-- one account, by the segment that names it -/
  | account (segment : List Char)
  | transfers
deriving DecidableEq, Repr

inductive Operation where
  | checkHealth
  | createUser
  | confirmEmail
  | createAccount
  | listAccounts
  | showAccount (segment : List Char)
  | createTransfer
deriving DecidableEq, Repr

namespace Endpoint

def fixed : List (String × Endpoint) := [
  ("/health", .health),
  ("/api/v1/users", .users),
  ("/api/v1/verify_email", .verifyEmail),
  ("/api/v1/accounts", .accounts),
  ("/api/v1/transfers", .transfers)]

/-- What stands in front of the number of an account. -/
def accountFront : List Char := "/api/v1/accounts/".toList

def ofPath (path : List Char) : Option Endpoint :=
  match fixed.find? fun (text, _) => text.toList == path with
  | some (_, endpoint) => some endpoint
  | none =>
      let segment := path.drop accountFront.length
      if path.take accountFront.length == accountFront && !segment.isEmpty &&
          !segment.contains '/' then
        some (.account segment)
      else none

def read? : Endpoint → Option Operation
  | .health => some .checkHealth
  | .verifyEmail => some .confirmEmail
  | .accounts => some .listAccounts
  | .account segment => some (.showAccount segment)
  | _ => none

def write? : Endpoint → Option Operation
  | .users => some .createUser
  | .accounts => some .createAccount
  | .transfers => some .createTransfer
  | _ => none

def operation? (endpoint : Endpoint) (method : String) : Option Operation :=
  if method = "GET" ∨ method = "HEAD" then endpoint.read?
  else if method = "POST" then endpoint.write?
  else none

/-- The methods that an endpoint serves. -/
def allow (endpoint : Endpoint) : String :=
  match endpoint.write?, endpoint.read? with
  | some _, some _ => "POST,GET,HEAD"
  | some _, none => "POST"
  | _, _ => "GET,HEAD"

end Endpoint
end Passbook.Http
