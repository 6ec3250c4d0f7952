import Passbook.Atomic

/-!
# Confirming an address

The record is read under its lock, so that two attempts with one code cannot both succeed. If the
code may use it up, the record is marked as used and the user whom the marked record names is marked
as verified.
-/
namespace Passbook

/-- What a client presents: the number of a record and its code. -/
structure Confirmation where
  recordId : Int
  secretCode : String
deriving DecidableEq, Repr

structure ConfirmationReceipt where
  user : User
  record : Verification
deriving DecidableEq, Repr

namespace Confirmation

def script (confirmation : Confirmation) : Script ConfirmationReceipt := do
  let found ← Script.query (.lockedVerification confirmation.recordId)
  let now ← Script.clock
  if found.accepts confirmation.secretCode now then
    let record ← Script.query (.useVerification found.id)
    let user ← Script.query
      (.updateUser { username := record.username, isEmailVerified := some true })
    return { user, record }
  else
    Script.fail .invalidSecret

def execute (limit : Nat) (confirmation : Confirmation) :
    Service (Except Failure ConfirmationReceipt) :=
  atomically limit confirmation.script

end Confirmation
end Passbook
