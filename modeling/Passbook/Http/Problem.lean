import Passbook.Failure
import Passbook.Http.Response

/-!
# Problems

Why a request that was understood is not served, and what the client is told about it. Failures of
the storage are not shown: the client only learns that there was one, or, when COMMIT failed, that
the outcome is unknown.
-/
namespace Passbook.Http

inductive Problem where
  | invalidRequest (reason : String)
  | failed (failure : Failure)
  | internal (reason : String)
deriving DecidableEq, Repr

/-- A status, a code for programs and a message for people. -/
structure Notice where
  status : Nat
  code : String
  message : String
deriving DecidableEq, Repr

namespace Notice

def internalError : Notice := ⟨500, "internal_error", "An internal error occurred"⟩

def ofFailure : Failure → Notice
  | .invalidTransfer reason => ⟨400, "invalid_transfer", reason⟩
  | .invalidSecret => ⟨403, "invalid_secret", Failure.invalidSecret.message⟩
  | .notFound => ⟨404, "not_found", Failure.notFound.message⟩
  | .duplicateIdentity => ⟨409, "duplicate_identity", Failure.duplicateIdentity.message⟩
  | .insufficientFunds => ⟨422, "insufficient_funds", Failure.insufficientFunds.message⟩
  | .afterCreate _ =>
      ⟨503, "registration_unavailable", "Registration could not be scheduled, try again later"⟩
  | .canceledOperation => ⟨504, "canceled", Failure.canceledOperation.message⟩
  | .commitFailed _ => ⟨500, "outcome_unknown", "The operation may or may not have been applied"⟩
  | .storageFailure _ => internalError
  | .rollbackFailed _ _ => internalError

def response (notice : Notice) : Response :=
  .json notice.status <| .object [
    ("error", .object [
      ("code", .ofString notice.code),
      ("message", .ofString notice.message)])]

end Notice

namespace Problem

/-- What the operators of the ledger read about a problem. -/
def message : Problem → String
  | .invalidRequest _ => "Invalid request"
  | .failed failure => failure.message
  | .internal reason => "internal error: " ++ reason

def notice : Problem → Notice
  | .invalidRequest reason => ⟨400, "invalid_request", reason⟩
  | .failed failure => .ofFailure failure
  | .internal _ => .internalError

def response (problem : Problem) : Response := problem.notice.response

end Problem
end Passbook.Http
