/-!
# Failures

A `StorageFault` is what the driver of the database reports: a refused statement, a lost or
unavailable connection, a row that cannot be read. A `Failure` is what an operation of the ledger
reports. `Failure.ofFault` is the only place where a code of the database is looked at; faults
without a meaning of their own are kept as they are.
-/
namespace Passbook

structure Refusal where
  message : String
  /-- five characters that classify the refusal -/
  code : Option String
  /-- the violated constraint -/
  constraint : Option String
deriving DecidableEq, Repr

/-- What can go wrong between the ledger and its database. -/
inductive StorageFault where
  | rowNotFound
  | refused (refusal : Refusal)
  | poolTimedOut
  | poolClosed
  | workerCrashed
  | beginFailed
  | protocol (detail : String)
  | columnNotFound (name : String)
  | unexpectedNull (column : String)
  | connectionLost
  /-- anything else, by its message and the messages of the causes behind it, nearest first -/
  | other (message : String) (causes : List String)
deriving DecidableEq, Repr

namespace StorageFault

/-- What is wrong with a value that is absent from a row. -/
def nullMessage : String := "unexpected null; try decoding as an \x60Option\x60"

def message : StorageFault → String
  | .rowNotFound => "no rows returned by a query that expected to return at least one row"
  | .refused refusal => "error returned from database: " ++ refusal.message
  | .poolTimedOut => "pool timed out while waiting for an open connection"
  | .poolClosed => "attempted to acquire a connection on a closed pool"
  | .workerCrashed => "attempted to communicate with a crashed background worker"
  | .beginFailed => "got unexpected connection status after attempting to begin transaction"
  | .protocol detail => "encountered unexpected or invalid data: " ++ detail
  | .columnNotFound name => "no column found for name: " ++ name
  | .unexpectedNull column =>
      "error occurred while decoding column " ++ column ++ ": " ++ nullMessage
  | .connectionLost => "error communicating with database"
  | .other message _ => message

/-- The messages of the causes behind a fault, nearest first. -/
def causes : StorageFault → List String
  | .refused refusal => [refusal.message]
  | .unexpectedNull _ => [nullMessage]
  | .other _ causes => causes
  | _ => []

end StorageFault

/-- What an operation of the ledger reports when it does not succeed. -/
inductive Failure where
  /-- a unique constraint rejected the write -/
  | duplicateIdentity
  /-- no row matched, or a referenced row does not exist -/
  | notFound
  /-- the code did not match, or its record was used or expired -/
  | invalidSecret
  /-- the debit would take a balance below zero -/
  | insufficientFunds
  /-- rejected before any statement was sent -/
  | invalidTransfer (reason : String)
  /-- the step after the creation of a user refused that user -/
  | afterCreate (reason : String)
  | storageFailure (fault : StorageFault)
  /-- the writes may or may not have been stored -/
  | commitFailed (fault : StorageFault)
  /-- the limit on a transaction or a statement was exceeded -/
  | canceledOperation
  /-- undoing the transaction after `cause` failed as well -/
  | rollbackFailed (cause : Failure) (rollback : StorageFault)
deriving DecidableEq, Repr

namespace Failure

def message : Failure → String
  | .duplicateIdentity => "duplicate identity"
  | .notFound => "record not found"
  | .invalidSecret => "invalid secret code"
  | .insufficientFunds => "insufficient funds"
  | .invalidTransfer reason => "invalid transfer: " ++ reason
  | .afterCreate reason => "after-create hook failed: " ++ reason
  | .storageFailure fault => "storage failure: " ++ fault.message
  | .commitFailed fault => "commit failed, outcome indeterminate: " ++ fault.message
  | .canceledOperation => "operation canceled"
  | .rollbackFailed cause rollback =>
      "tx error: " ++ cause.message ++ ", rollback error: " ++ rollback.message

/-- The messages of the causes behind a failure, nearest first. -/
def causes : Failure → List String
  | .storageFailure fault => fault.message :: fault.causes
  | .commitFailed fault => fault.message :: fault.causes
  | .rollbackFailed _ rollback => rollback.message :: rollback.causes
  | .afterCreate reason => [reason]
  | _ => []

/-- The constraint that keeps balances from falling below zero. -/
def balanceConstraint : String := "accounts_balance_non_negative"

/-- The meaning of a refusal by its code, for the codes that have one. -/
def ofRefusal? (refusal : Refusal) : Option Failure :=
  match refusal.code with
  | some "23505" => some .duplicateIdentity
  | some "23503" => some .notFound
  | some "23514" =>
      if refusal.constraint = some balanceConstraint then some .insufficientFunds else none
  | some "57014" => some .canceledOperation
  | _ => none

/-- The failure that a fault of the storage amounts to. -/
def ofFault (fault : StorageFault) : Failure :=
  match fault with
  | .rowNotFound => .notFound
  | .refused refusal => (ofRefusal? refusal).getD (.storageFailure fault)
  | _ => .storageFailure fault

end Failure
end Passbook
