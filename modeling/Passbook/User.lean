import Passbook.Json.Value
import Passbook.Row

/-!
# Users

A user is known by a name that accounts, login sessions and verification records refer to. The
digest of the password stays inside: the public view leaves it out.
-/
namespace Passbook

structure User where
  username : String
  passwordDigest : String
  fullName : String
  email : String
  passwordChangedAt : Instant
  isEmailVerified : Bool
  createdAt : Instant
deriving DecidableEq, Repr

namespace User

def ofRow (row : Row) : Except StorageFault User := do
  let username ← row.text "username"
  let passwordDigest ← row.text "hashed_password"
  let fullName ← row.text "full_name"
  let email ← row.text "email"
  let passwordChangedAt ← row.instant "password_changed_at"
  let isEmailVerified ← row.bool "is_email_verified"
  let createdAt ← row.instant "created_at"
  pure {
    username, passwordDigest, fullName, email, passwordChangedAt, isEmailVerified, createdAt }

def publicJson (user : User) : Json.Value :=
  .object [
    ("username", .ofString user.username),
    ("full_name", .ofString user.fullName),
    ("email", .ofString user.email),
    ("is_email_verified", .bool user.isEmailVerified),
    ("password_changed_at", .text user.passwordChangedAt.chars),
    ("created_at", .text user.createdAt.chars)]

end User

/-- The columns of a user that registration gives. -/
structure NewUser where
  username : String
  passwordDigest : String
  fullName : String
  email : String
deriving DecidableEq, Repr

/-- A change of some columns of one user. An absent column is left as it is. -/
structure UserChange where
  username : String
  passwordDigest : Option String := none
  passwordChangedAt : Option Instant := none
  fullName : Option String := none
  email : Option String := none
  isEmailVerified : Option Bool := none
deriving DecidableEq, Repr

end Passbook
