import Passbook.Proofs.Database.Table
import Passbook.Store.Query

/-!
# The tables of the ledger

The database holds one table of each kind of record. A record is found by its key, whatever its kind,
so that what holds of all tables is said once. A record is written as the row that is read back as the
same record.
-/
namespace Passbook

/-- What a record is found by. -/
inductive Key where
  | user (username : String)
  | account (id : Int)
  | entry (id : Int)
  | transfer (id : Int)
  | session (id : String)
  | verification (id : Int)
deriving DecidableEq, Repr

/-- A row of any table. -/
inductive Record where
  | user (row : User)
  | account (row : Account)
  | entry (row : Entry)
  | transfer (row : Transfer)
  | session (row : LoginSession)
  | verification (row : Verification)
deriving DecidableEq, Repr

def Record.key : Record → Key
  | .user row => .user row.username
  | .account row => .account row.id
  | .entry row => .entry row.id
  | .transfer row => .transfer row.id
  | .session row => .session row.id
  | .verification row => .verification row.id

structure Database where
  users : Table User.username := Table.empty
  accounts : Table Account.id := Table.empty
  entries : Table Entry.id := Table.empty
  transfers : Table Transfer.id := Table.empty
  sessions : Table LoginSession.id := Table.empty
  verifications : Table Verification.id := Table.empty

namespace Database

def find (db : Database) : Key → Option Record
  | .user username => (db.users.find username).map .user
  | .account id => (db.accounts.find id).map .account
  | .entry id => (db.entries.find id).map .entry
  | .transfer id => (db.transfers.find id).map .transfer
  | .session id => (db.sessions.find id).map .session
  | .verification id => (db.verifications.find id).map .verification

def put (db : Database) : Record → Database
  | .user row => { db with users := db.users.put row }
  | .account row => { db with accounts := db.accounts.put row }
  | .entry row => { db with entries := db.entries.put row }
  | .transfer row => { db with transfers := db.transfers.put row }
  | .session row => { db with sessions := db.sessions.put row }
  | .verification row => { db with verifications := db.verifications.put row }

def remove (db : Database) : Key → Database
  | .user username => { db with users := db.users.remove username }
  | .account id => { db with accounts := db.accounts.remove id }
  | .entry id => { db with entries := db.entries.remove id }
  | .transfer id => { db with transfers := db.transfers.remove id }
  | .session id => { db with sessions := db.sessions.remove id }
  | .verification id => { db with verifications := db.verifications.remove id }

@[simp] theorem find_put (db : Database) (record : Record) (key : Key) :
    (db.put record).find key = if key = record.key then some record else db.find key := by
  cases record <;> cases key <;> simp only [find, put, Record.key, Table.find_put, Key.user.injEq,
    Key.account.injEq, Key.entry.injEq, Key.transfer.injEq, Key.session.injEq, Key.verification.injEq,
    reduceCtorEq, if_false] <;> split <;> rfl

theorem put_put {record record' : Record} (h : record.key = record'.key) (db : Database) :
    (db.put record).put record' = db.put record' := by
  cases record <;> cases record' <;> simp only [Record.key, Key.user.injEq, Key.account.injEq,
    Key.entry.injEq, Key.transfer.injEq, Key.session.injEq, Key.verification.injEq, reduceCtorEq] at h <;>
    simp only [put, Table.put_put h]

@[simp] theorem find_remove (db : Database) (key key' : Key) :
    (db.remove key').find key = if key = key' then none else db.find key := by
  cases key' <;> cases key <;> simp only [find, remove, Table.find_remove, Key.user.injEq,
    Key.account.injEq, Key.entry.injEq, Key.transfer.injEq, Key.session.injEq, Key.verification.injEq,
    reduceCtorEq, if_false] <;> split <;> rfl

end Database

def User.toRow (user : User) : Row :=
  [("username", .text user.username), ("hashed_password", .text user.passwordDigest),
    ("full_name", .text user.fullName), ("email", .text user.email),
    ("password_changed_at", .int user.passwordChangedAt.micros),
    ("is_email_verified", .bool user.isEmailVerified), ("created_at", .int user.createdAt.micros)]

def Account.toRow (account : Account) : Row :=
  [("id", .int account.id), ("owner", .text account.owner), ("balance", .int account.balance),
    ("currency", .text account.currency), ("created_at", .int account.createdAt.micros)]

def Entry.toRow (entry : Entry) : Row :=
  [("id", .int entry.id), ("account_id", .int entry.accountId), ("amount", .int entry.amount),
    ("created_at", .int entry.createdAt.micros)]

def Transfer.toRow (transfer : Transfer) : Row :=
  [("id", .int transfer.id), ("from_account_id", .int transfer.fromAccount),
    ("to_account_id", .int transfer.toAccount), ("amount", .int transfer.amount),
    ("created_at", .int transfer.createdAt.micros)]

def LoginSession.toRow (session : LoginSession) : Row :=
  [("id", .text session.id), ("username", .text session.username),
    ("refresh_token", .text session.refreshToken), ("user_agent", .text session.userAgent),
    ("client_ip", .text session.clientIp), ("is_blocked", .bool session.isBlocked),
    ("expires_at", .int session.expiresAt.micros), ("created_at", .int session.createdAt.micros)]

def Verification.toRow (record : Verification) : Row :=
  [("id", .int record.id), ("username", .text record.username), ("email", .text record.email),
    ("secret_code", .text record.secretCode), ("is_used", .bool record.isUsed),
    ("created_at", .int record.createdAt.micros), ("expired_at", .int record.expiredAt.micros)]

@[simp] theorem User.ofRow_toRow (user : User) : User.ofRow user.toRow = .ok user := rfl

@[simp] theorem Account.ofRow_toRow (account : Account) : Account.ofRow account.toRow = .ok account := rfl

@[simp] theorem Entry.ofRow_toRow (entry : Entry) : Entry.ofRow entry.toRow = .ok entry := rfl

@[simp] theorem Transfer.ofRow_toRow (transfer : Transfer) :
    Transfer.ofRow transfer.toRow = .ok transfer := rfl

@[simp] theorem LoginSession.ofRow_toRow (session : LoginSession) :
    LoginSession.ofRow session.toRow = .ok session := rfl

@[simp] theorem Verification.ofRow_toRow (record : Verification) :
    Verification.ofRow record.toRow = .ok record := rfl

end Passbook
