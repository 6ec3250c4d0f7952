import Passbook.Http.Problem
import Passbook.Http.Records
import Passbook.Password
import Passbook.Transaction.MoveMoney
import Passbook.Transaction.Register

/-!
# Operations

Each operation checks the fields of its record before anything is sent to the database. A broken rule
is an invalid request; everything else that goes wrong is a failure of the ledger.
-/
namespace Passbook

open Http (Problem)

namespace Service

/-- Goes on only if the rules of the fields are kept. -/
def checked {α β : Type} (check : Except FieldFault α) (next : α → Service (Except Problem β)) :
    Service (Except Problem β) :=
  match check with
  | .ok value => next value
  | .error fault => .done (.error (.invalidRequest fault.message))

/-- Reports the failure of a part of the ledger. -/
def reported {α : Type} (part : Service (Except Failure α)) : Service (Except Problem α) := do
  let result ← part
  return result.mapError .failed

end Service

open Service (checked reported)

def AccountOpening.execute (opening : AccountOpening) : Service (Except Problem Account) :=
  checked opening.check fun () =>
    reported (Service.pooled (.createAccount opening.owner opening.balance opening.currency))

def AccountPage.accounts (page : AccountPage) : Service (Except Problem (List Account)) :=
  checked page.checkedWindow fun window => reported (Service.pooled (.accounts page.owner window))

/-- Stores a user together with the task to mail a verification link. -/
def Registration.execute (limit : Nat) (registration : Registration) :
    Service (Except Problem User) :=
  checked registration.check fun () => do
    let salt ← Service.salt
    let digest := Password.hash salt registration.password
    reported ((registration.user digest).register limit .enqueue)

def Confirmation.checkAndExecute (limit : Nat) (confirmation : Confirmation) :
    Service (Except Problem ConfirmationReceipt) :=
  checked confirmation.check fun () => reported (confirmation.execute limit)

namespace Payment

/-- Demands that an account holds the currency of a payment. -/
def checkAccount (payment : Payment) (id : Int) : Service (Except Problem Unit) := do
  match ← Service.query (.account id) with
  | .error failure => return .error (.failed failure)
  | .ok account =>
      if account.currency = payment.currency then return .ok ()
      else return .error (.invalidRequest
        (FieldFault.currencyMismatch account.id account.currency payment.currency).message)

def checkBoth (payment : Payment) : Service (Except Problem Unit) := do
  match ← payment.checkAccount payment.order.fromAccount with
  | .error problem => return .error problem
  | .ok () => payment.checkAccount payment.order.toAccount

/-- Looks at both accounts on one connection. Currencies never change, so this need not be part of
the transaction. -/
def checkAccounts (payment : Payment) : Service (Except Problem Unit) := do
  match ← Service.checkout with
  | .error fault => return .error (.failed (.ofFault fault))
  | .ok () =>
      let result ← payment.checkBoth
      Service.release false
      return result

/-- Moves money between two accounts that hold the currency of the payment. -/
def execute (limit : Nat) (payment : Payment) : Service (Except Problem TransferReceipt) :=
  match payment.order.check with
  | .error failure => .done (.error (.failed failure))
  | .ok () =>
      checked (Field.currency payment.currency) fun () => do
        match ← payment.checkAccounts with
        | .error problem => return .error problem
        | .ok () => reported (payment.order.execute limit)

end Payment

/-- What is said about a database that answers. -/
structure Health where
  checkedAt : Instant
deriving DecidableEq, Repr

namespace Health

def json (health : Health) : Json.Value :=
  .object [
    ("status", .ofString "ok"),
    ("database", .ofString "reachable"),
    ("checked_at", .text health.checkedAt.chars)]

def check : Service (Except Problem Health) := do
  match ← reported (Service.pooled .probe) with
  | .error problem => return .error problem
  | .ok () =>
      let now ← Service.clock
      return .ok ⟨now⟩

end Health
end Passbook
