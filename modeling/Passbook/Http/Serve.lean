import Passbook.Http.Endpoint
import Passbook.Http.Extract
import Passbook.Http.Operations

/-!
# Serving requests

`respond` is the whole of the web service: it finds the operation that a request asks for, takes what
that operation needs from the request, carries it out and answers with what it has changed or read.
-/
namespace Passbook.Http

/-- The response to an operation, once what it needs has been taken from the request. -/
def answered {α β : Type} (status : Nat) (json : β → Json.Value) (needed : Except Rejection α)
    (operation : α → Service (Except Problem β)) : Service Response :=
  match needed with
  | .error rejection => .done rejection.response
  | .ok value => do
      match ← operation value with
      | .ok result => return .json status (json result)
      | .error problem => return problem.response

def confirmationJson (receipt : ConfirmationReceipt) : Json.Value :=
  .object [("is_verified", .bool receipt.user.isEmailVerified)]

def accountsJson (accounts : List Account) : Json.Value := .array (accounts.map Account.json)

/-- Carries an operation out. A transaction may take `limit` milliseconds. -/
def serve (limit : Nat) (request : Request) : Operation → Service Response
  | .checkHealth => answered 200 Health.json (.ok ()) fun () => Health.check
  | .createUser =>
      answered 201 User.publicJson (request.bodyRecord Registration.shape)
        (Registration.execute limit)
  | .confirmEmail =>
      answered 200 confirmationJson (request.queryRecord Confirmation.shape)
        (Confirmation.checkAndExecute limit)
  | .createAccount =>
      answered 201 Account.json (request.bodyRecord AccountOpening.shape) AccountOpening.execute
  | .listAccounts =>
      answered 200 accountsJson (request.queryRecord AccountPage.shape) AccountPage.accounts
  | .showAccount segment =>
      answered 200 Account.json (Request.segmentNumber "id" segment) fun id =>
        Service.reported (Service.pooled (.account id))
  | .createTransfer =>
      answered 201 TransferReceipt.json (request.bodyRecord Payment.shape) (Payment.execute limit)

/-- The response to a request. -/
def respond (limit : Nat) (request : Request) : Service Response :=
  match Endpoint.ofPath request.path with
  | none => .done (.empty 404)
  | some endpoint =>
      match endpoint.operation? request.method with
      | none => .done { Response.empty 405 with allow := some endpoint.allow }
      | some operation => do
          let response ← serve limit request operation
          if request.method = "HEAD" then return { response with body := "" } else return response

end Passbook.Http
