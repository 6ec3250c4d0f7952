import Passbook.Row
import Passbook.Text.Hex

/-!
# Login sessions

A login session stores a refresh token of a user. Only the rows are kept here; tokens are issued and
checked elsewhere.
-/
namespace Passbook

structure LoginSession where
  id : String
  username : String
  refreshToken : String
  userAgent : String
  clientIp : String
  isBlocked : Bool
  expiresAt : Instant
  createdAt : Instant
deriving DecidableEq, Repr

/-- The columns of a login session that are given when it starts. -/
structure NewLoginSession where
  id : String
  username : String
  refreshToken : String
  userAgent : String
  clientIp : String
  isBlocked : Bool
  expiresAt : Instant
deriving DecidableEq, Repr

namespace LoginSession

def ofRow (row : Row) : Except StorageFault LoginSession := do
  let id ← row.text "id"
  let username ← row.text "username"
  let refreshToken ← row.text "refresh_token"
  let userAgent ← row.text "user_agent"
  let clientIp ← row.text "client_ip"
  let isBlocked ← row.bool "is_blocked"
  let expiresAt ← row.instant "expires_at"
  let createdAt ← row.instant "created_at"
  pure { id, username, refreshToken, userAgent, clientIp, isBlocked, expiresAt, createdAt }

/-- The usual spelling of an identifier, whose last 32 hexadecimal digits count: lower case, in
groups of eight, four, four, four and twelve. -/
def canonicalId (id : String) : String :=
  let all := (id.toList.filterMap Hex.value?).map Hex.digit
  let digits := all.drop (all.length - 32)
  String.ofList <|
    digits.take 8 ++ '-' :: (digits.drop 8).take 4 ++ '-' :: (digits.drop 12).take 4 ++
      '-' :: (digits.drop 16).take 4 ++ '-' :: digits.drop 20

end LoginSession
end Passbook
