import Passbook.LoginSession
import Passbook.Transfer
import Passbook.User
import Passbook.Verification

/-!
# Statements

Every statement on the tables of the ledger that the program can send, with its text and the
parameters that the text refers to by number. The statements are a closed type: what a statement
does to the tables can be said by cases, without reading its text.
-/
namespace Passbook

/-- A value bound to a numbered place of a statement. -/
inductive Param where
  | null
  | int (n : Int)
  | text (s : String)
  | bool (b : Bool)
  | instant (t : Instant)
deriving DecidableEq, Repr

namespace Param

/-- An absent value is bound as NULL. -/
def ofOption {α : Type} (bind : α → Param) : Option α → Param
  | none => .null
  | some a => bind a

end Param

/-- A section of an ordered list of rows. -/
structure Window where
  limit : Int
  offset : Int
deriving DecidableEq, Repr

inductive Statement where
  | insertAccount (owner : String) (balance : Int) (currency : String)
  | selectAccount (id : Int)
  /-- reads a row and holds its lock until the transaction ends -/
  | lockAccount (id : Int)
  | selectAccounts (owner : String) (window : Window)
  | setBalance (id balance : Int)
  /-- changes a balance in place by a signed amount -/
  | addBalance (change : BalanceChange)
  | deleteAccount (id : Int)
  | insertEntry (account amount : Int)
  | selectEntry (id : Int)
  | selectEntries (account : Int) (window : Window)
  | sumEntries (account : Int)
  | insertTransfer (order : TransferOrder)
  | selectTransfer (id : Int)
  /-- transfers that leave one account or arrive at another -/
  | selectTransfers (fromAccount toAccount : Int) (window : Window)
  | insertUser (user : NewUser)
  | selectUser (username : String)
  | updateUser (change : UserChange)
  | insertSession (session : NewLoginSession)
  | selectSession (id : String)
  | insertVerification (record : NewVerification)
  /-- reads a record and holds its lock until the transaction ends -/
  | lockVerification (id : Int)
  | useVerification (id : Int)
  /-- asks for nothing but an answer -/
  | probe
deriving DecidableEq, Repr

namespace Statement

def accountColumns : String := "id, owner, balance, currency, created_at"

def entryColumns : String := "id, account_id, amount, created_at"

def transferColumns : String := "id, from_account_id, to_account_id, amount, created_at"

def userColumns : String :=
  "username, hashed_password, full_name, email, password_changed_at, is_email_verified, created_at"

def text : Statement → String
  | .insertAccount .. =>
      "INSERT INTO accounts (owner, balance, currency) VALUES ($1, $2, $3) RETURNING " ++
        accountColumns
  | .selectAccount _ => "SELECT " ++ accountColumns ++ " FROM accounts WHERE id = $1"
  | .lockAccount _ =>
      "SELECT " ++ accountColumns ++ " FROM accounts WHERE id = $1 FOR NO KEY UPDATE"
  | .selectAccounts .. =>
      "SELECT " ++ accountColumns ++
        " FROM accounts WHERE owner = $1 ORDER BY id LIMIT $2 OFFSET $3"
  | .setBalance .. =>
      "UPDATE accounts SET balance = $2 WHERE id = $1 RETURNING " ++ accountColumns
  | .addBalance _ =>
      "UPDATE accounts SET balance = balance + $2 WHERE id = $1 RETURNING " ++ accountColumns
  | .deleteAccount _ => "DELETE FROM accounts WHERE id = $1"
  | .insertEntry .. =>
      "INSERT INTO entries (account_id, amount) VALUES ($1, $2) RETURNING " ++ entryColumns
  | .selectEntry _ => "SELECT " ++ entryColumns ++ " FROM entries WHERE id = $1"
  | .selectEntries .. =>
      "SELECT " ++ entryColumns ++
        " FROM entries WHERE account_id = $1 ORDER BY id LIMIT $2 OFFSET $3"
  | .sumEntries _ =>
      "SELECT COALESCE(SUM(amount), 0)::BIGINT FROM entries WHERE account_id = $1"
  | .insertTransfer _ =>
      "INSERT INTO transfers (from_account_id, to_account_id, amount) VALUES ($1, $2, $3) " ++
        "RETURNING " ++ transferColumns
  | .selectTransfer _ => "SELECT " ++ transferColumns ++ " FROM transfers WHERE id = $1"
  | .selectTransfers .. =>
      "SELECT " ++ transferColumns ++
        " FROM transfers WHERE from_account_id = $1 OR to_account_id = $2 " ++
        "ORDER BY id LIMIT $3 OFFSET $4"
  | .insertUser _ =>
      "INSERT INTO users (username, hashed_password, full_name, email) VALUES ($1, $2, $3, $4) " ++
        "RETURNING " ++ userColumns
  | .selectUser _ => "SELECT " ++ userColumns ++ " FROM users WHERE username = $1"
  | .updateUser _ =>
      "UPDATE users SET hashed_password = COALESCE($2, hashed_password), " ++
        "password_changed_at = COALESCE($3, password_changed_at), " ++
        "full_name = COALESCE($4, full_name), email = COALESCE($5, email), " ++
        "is_email_verified = COALESCE($6, is_email_verified) WHERE username = $1 RETURNING " ++
        userColumns
  | .insertSession _ =>
      "INSERT INTO sessions ( id, username, refresh_token, user_agent, client_ip, is_blocked, " ++
        "expires_at ) VALUES ($1, $2, $3, $4, $5, $6, $7) RETURNING *"
  | .selectSession _ => "SELECT * FROM sessions WHERE id = $1"
  | .insertVerification _ =>
      "INSERT INTO verify_emails (username, email, secret_code) VALUES ($1, $2, $3) RETURNING *"
  | .lockVerification _ => "SELECT * FROM verify_emails WHERE id = $1 FOR UPDATE"
  | .useVerification _ =>
      "UPDATE verify_emails SET is_used = true WHERE id = $1 AND is_used = false RETURNING *"
  | .probe => "SELECT 1"

/-- The values of `$1`, `$2` and so on. -/
def params : Statement → List Param
  | .insertAccount owner balance currency => [.text owner, .int balance, .text currency]
  | .selectAccount id => [.int id]
  | .lockAccount id => [.int id]
  | .selectAccounts owner window => [.text owner, .int window.limit, .int window.offset]
  | .setBalance id balance => [.int id, .int balance]
  | .addBalance change => [.int change.account, .int change.amount]
  | .deleteAccount id => [.int id]
  | .insertEntry account amount => [.int account, .int amount]
  | .selectEntry id => [.int id]
  | .selectEntries account window => [.int account, .int window.limit, .int window.offset]
  | .sumEntries account => [.int account]
  | .insertTransfer order => [.int order.fromAccount, .int order.toAccount, .int order.amount]
  | .selectTransfer id => [.int id]
  | .selectTransfers fromAccount toAccount window =>
      [.int fromAccount, .int toAccount, .int window.limit, .int window.offset]
  | .insertUser user =>
      [.text user.username, .text user.passwordDigest, .text user.fullName, .text user.email]
  | .selectUser username => [.text username]
  | .updateUser change =>
      [.text change.username, .ofOption .text change.passwordDigest,
        .ofOption .instant change.passwordChangedAt, .ofOption .text change.fullName,
        .ofOption .text change.email, .ofOption .bool change.isEmailVerified]
  | .insertSession s =>
      [.text s.id, .text s.username, .text s.refreshToken, .text s.userAgent, .text s.clientIp,
        .bool s.isBlocked, .instant s.expiresAt]
  | .selectSession id => [.text id]
  | .insertVerification record =>
      [.text record.username, .text record.email, .text record.secretCode]
  | .lockVerification id => [.int id]
  | .useVerification id => [.int id]
  | .probe => []

end Statement
end Passbook
