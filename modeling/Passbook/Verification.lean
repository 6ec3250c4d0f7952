import Passbook.Json.Value
import Passbook.Row

/-!
# Verification records

A record is made for a user after registration. Its code is mailed to the address that the record
names, and the code can be used once, before it expires.
-/
namespace Passbook

structure Verification where
  id : Int
  username : String
  email : String
  secretCode : String
  isUsed : Bool
  createdAt : Instant
  expiredAt : Instant
deriving DecidableEq, Repr

namespace Verification

def codeLength : Nat := 32

def ofRow (row : Row) : Except StorageFault Verification := do
  let id ← row.int "id"
  let username ← row.text "username"
  let email ← row.text "email"
  let secretCode ← row.text "secret_code"
  let isUsed ← row.bool "is_used"
  let createdAt ← row.instant "created_at"
  let expiredAt ← row.instant "expired_at"
  pure { id, username, email, secretCode, isUsed, createdAt, expiredAt }

/-- Whether `code` may use up the record at `now`. -/
def accepts (record : Verification) (code : String) (now : Instant) : Bool :=
  record.secretCode == code && !record.isUsed && now.before record.expiredAt

/-- What is shown of a record: everything but the code. -/
def json (record : Verification) : Json.Value :=
  .object [
    ("id", .int record.id),
    ("username", .ofString record.username),
    ("email", .ofString record.email),
    ("is_used", .bool record.isUsed),
    ("created_at", .text record.createdAt.chars),
    ("expired_at", .text record.expiredAt.chars)]

end Verification

/-- The columns of a record that are given when it is made. -/
structure NewVerification where
  username : String
  email : String
  secretCode : String
deriving DecidableEq, Repr

end Passbook
