import Passbook.Proofs.Database.Record

/-!
# What statements do

Every statement is carried out on the tables as its text says, under the constraints of the schema: a
refusal carries the code and the constraint that the database reports, and leaves the tables alone.
What the text leaves open comes from outside: the next number of a sequence and the time of day.

A statement changes or locks at most one row. Where it finds no row, it answers with none and holds
nothing.
-/
namespace Passbook

/-- What a statement takes from outside of the tables. -/
structure Stamp where
  /-- the next number of the sequence of the table -/
  id : Int
  now : Instant
deriving DecidableEq, Repr

/-- What a statement leaves behind. -/
inductive Effect where
  | none
  /-- the row stays as it is, and is held until the transaction ends -/
  | hold (key : Key)
  | put (record : Record)
  | remove (key : Key)
deriving DecidableEq, Repr

namespace Effect

/-- The row that is held from then on. -/
def key? : Effect → Option Key
  | .none => Option.none
  | .hold key => some key
  | .put record => some record.key
  | .remove key => some key

def apply (db : Database) : Effect → Database
  | .none | .hold _ => db
  | .put record => db.put record
  | .remove key => db.remove key

theorem hold_ne_remove (held key : Key) : hold held ≠ remove key := nofun

theorem put_ne_remove (record : Record) (key : Key) : put record ≠ remove key := nofun

end Effect

namespace Refusal

def unique (name : String) : Refusal where
  message := "duplicate key value violates unique constraint \"" ++ name ++ "\""
  code := some "23505"
  constraint := some name

def foreignKey (table name : String) : Refusal where
  message :=
    "insert or update on table \"" ++ table ++ "\" violates foreign key constraint \"" ++ name ++ "\""
  code := some "23503"
  constraint := some name

def referenced (table name other : String) : Refusal where
  message :=
    "update or delete on table \"" ++ table ++ "\" violates foreign key constraint \"" ++ name ++
      "\" on table \"" ++ other ++ "\""
  code := some "23503"
  constraint := some name

def check (table name : String) : Refusal where
  message := "new row for relation \"" ++ table ++ "\" violates check constraint \"" ++ name ++ "\""
  code := some "23514"
  constraint := some name

def outOfRange : Refusal where
  message := "bigint out of range"
  code := some "22003"
  constraint := none

def negativeLimit : Refusal where
  message := "LIMIT must not be negative"
  code := some "2201W"
  constraint := none

def negativeOffset : Refusal where
  message := "OFFSET must not be negative"
  code := some "2201X"
  constraint := none

end Refusal

/-- Whether a number fits into a column of 64 bits. -/
def IsBigint (n : Int) : Prop := -2 ^ 63 ≤ n ∧ n < 2 ^ 63

instance (n : Int) : Decidable (IsBigint n) := inferInstanceAs (Decidable (_ ∧ _))

namespace Database

/-- Everything is given back as it was found. -/
def reads (rows : List Row) : Except Refusal (Answer × Effect) := .ok (⟨rows, 0⟩, .none)

/-- The only row, or none. -/
def readsOne {α : Type} (toRow : α → Row) (found : Option α) : Except Refusal (Answer × Effect) :=
  reads (found.map toRow).toList

def holds (row : Row) (key : Key) : Except Refusal (Answer × Effect) := .ok (⟨[row], 0⟩, .hold key)

/-- A row is written and given back. -/
def writes (row : Row) (record : Record) : Except Refusal (Answer × Effect) :=
  .ok (⟨[row], 1⟩, .put record)

/-- A section of the rows in ascending order of their numbers. -/
def page {α : Type} (id : α → Int) (toRow : α → Row) (rows : List α) (window : Window) :
    Except Refusal (Answer × Effect) :=
  if window.limit < 0 then .error .negativeLimit
  else if window.offset < 0 then .error .negativeOffset
  else
    let sorted := rows.mergeSort fun a b => id a ≤ id b
    reads (((sorted.drop window.offset.toNat).take window.limit.toNat).map toRow)

/-- Stores a row, unless its key or one of its other unique columns is taken or what it refers to is
missing. -/
def insert (db : Database) (record : Record) (row : Row) (primaryKey : String)
    (refusal? : Option Refusal) : Except Refusal (Answer × Effect) :=
  if (db.find record.key).isSome then .error (.unique primaryKey)
  else match refusal? with
    | some refusal => .error refusal
    | none => writes row record

/-- The refusal, unless what is referred to exists. -/
def demand (db : Database) (key : Key) (refusal : Refusal) : Option Refusal :=
  if (db.find key).isSome then none else some refusal

/-- Gives an account another balance. -/
def writeBalance (account : Account) (balance : Int) : Except Refusal (Answer × Effect) :=
  if ¬IsBigint balance then .error .outOfRange
  else if balance < 0 then .error (.check "accounts" Failure.balanceConstraint)
  else
    let account := { account with balance }
    writes account.toRow (.account account)

def insertAccount (db : Database) (stamp : Stamp) (owner : String) (balance : Int) (currency : String) :
    Except Refusal (Answer × Effect) :=
  let account : Account := { id := stamp.id, owner, balance, currency, createdAt := stamp.now }
  if balance < 0 then .error (.check "accounts" Failure.balanceConstraint)
  else
    db.insert (.account account) account.toRow "accounts_pkey"
      (if db.accounts.rows.any fun other => other.owner == owner && other.currency == currency then
        some (.unique "owner_currency_key")
      else db.demand (.user owner) (.foreignKey "accounts" "accounts_owner_fkey"))

def deleteAccount (db : Database) (id : Int) : Except Refusal (Answer × Effect) :=
  if db.entries.rows.any fun entry => entry.accountId == id then
    .error (.referenced "accounts" "entries_account_id_fkey" "entries")
  else if db.transfers.rows.any fun transfer => transfer.fromAccount == id then
    .error (.referenced "accounts" "transfers_from_account_id_fkey" "transfers")
  else if db.transfers.rows.any fun transfer => transfer.toAccount == id then
    .error (.referenced "accounts" "transfers_to_account_id_fkey" "transfers")
  else if (db.accounts.find id).isSome then .ok (⟨[], 1⟩, .remove (.account id))
  else reads []

def insertEntry (db : Database) (stamp : Stamp) (account amount : Int) :
    Except Refusal (Answer × Effect) :=
  let entry : Entry := { id := stamp.id, accountId := account, amount, createdAt := stamp.now }
  db.insert (.entry entry) entry.toRow "entries_pkey"
    (db.demand (.account account) (.foreignKey "entries" "entries_account_id_fkey"))

def insertTransfer (db : Database) (stamp : Stamp) (order : TransferOrder) :
    Except Refusal (Answer × Effect) :=
  let transfer : Transfer :=
    { id := stamp.id, fromAccount := order.fromAccount, toAccount := order.toAccount,
      amount := order.amount, createdAt := stamp.now }
  if order.amount ≤ 0 then .error (.check "transfers" "transfers_amount_check")
  else
    db.insert (.transfer transfer) transfer.toRow "transfers_pkey"
      ((db.demand (.account order.fromAccount)
        (.foreignKey "transfers" "transfers_from_account_id_fkey")).or
      (db.demand (.account order.toAccount) (.foreignKey "transfers" "transfers_to_account_id_fkey")))

def netOf (db : Database) (account : Int) : Int :=
  ((db.entries.rows.filter fun entry => entry.accountId = account).map (·.amount)).sum

def insertUser (db : Database) (stamp : Stamp) (user : NewUser) : Except Refusal (Answer × Effect) :=
  let row : User :=
    { username := user.username, passwordDigest := user.passwordDigest, fullName := user.fullName,
      email := user.email, passwordChangedAt := ⟨-62135596800000000⟩, isEmailVerified := false,
      createdAt := stamp.now }
  db.insert (.user row) row.toRow "users_pkey"
    (if db.users.rows.any fun other => other.email == user.email then
      some (.unique "users_email_key")
    else none)

def changed (user : User) (change : UserChange) : User :=
  { user with
    passwordDigest := change.passwordDigest.getD user.passwordDigest
    passwordChangedAt := change.passwordChangedAt.getD user.passwordChangedAt
    fullName := change.fullName.getD user.fullName
    email := change.email.getD user.email
    isEmailVerified := change.isEmailVerified.getD user.isEmailVerified }

/-- Whether somebody else has the address that a change names. -/
def takesEmail (db : Database) (change : UserChange) : Bool :=
  match change.email with
  | none => false
  | some email =>
      db.users.rows.any fun other => other.username != change.username && other.email == email

def updateUser (db : Database) (change : UserChange) : Except Refusal (Answer × Effect) :=
  match db.users.find change.username with
  | none => reads []
  | some user =>
      if db.takesEmail change then .error (.unique "users_email_key")
      else writes (changed user change).toRow (.user (changed user change))

def insertSession (db : Database) (stamp : Stamp) (session : NewLoginSession) :
    Except Refusal (Answer × Effect) :=
  let row : LoginSession :=
    { id := LoginSession.canonicalId session.id, username := session.username,
      refreshToken := session.refreshToken, userAgent := session.userAgent,
      clientIp := session.clientIp, isBlocked := session.isBlocked, expiresAt := session.expiresAt,
      createdAt := stamp.now }
  db.insert (.session row) row.toRow "sessions_pkey"
    (db.demand (.user session.username) (.foreignKey "sessions" "sessions_username_fkey"))

/-- A record expires a quarter of an hour after it is made. -/
def insertVerification (db : Database) (stamp : Stamp) (record : NewVerification) :
    Except Refusal (Answer × Effect) :=
  let row : Verification :=
    { id := stamp.id, username := record.username, email := record.email,
      secretCode := record.secretCode, isUsed := false, createdAt := stamp.now,
      expiredAt := ⟨stamp.now.micros + 900000000⟩ }
  db.insert (.verification row) row.toRow "verify_emails_pkey"
    (db.demand (.user record.username) (.foreignKey "verify_emails" "verify_emails_username_fkey"))

/-- Marks a record as used, if there is one that is not. -/
def useVerification (db : Database) (id : Int) : Except Refusal (Answer × Effect) :=
  match db.verifications.find id with
  | none => reads []
  | some record =>
      if record.isUsed then reads []
      else
        let record := { record with isUsed := true }
        writes record.toRow (.verification record)

/-- Carries a statement out. -/
def execute (db : Database) (stamp : Stamp) : Statement → Except Refusal (Answer × Effect)
  | .insertAccount owner balance currency => db.insertAccount stamp owner balance currency
  | .selectAccount id => readsOne Account.toRow (db.accounts.find id)
  | .lockAccount id =>
      match db.accounts.find id with
      | none => reads []
      | some account => holds account.toRow (.account id)
  | .selectAccounts owner window =>
      page Account.id Account.toRow (db.accounts.rows.filter fun account => account.owner = owner) window
  | .setBalance id balance =>
      match db.accounts.find id with
      | none => reads []
      | some account => writeBalance account balance
  | .addBalance change =>
      match db.accounts.find change.account with
      | none => reads []
      | some account => writeBalance account (account.balance + change.amount)
  | .deleteAccount id => db.deleteAccount id
  | .insertEntry account amount => db.insertEntry stamp account amount
  | .selectEntry id => readsOne Entry.toRow (db.entries.find id)
  | .selectEntries account window =>
      page Entry.id Entry.toRow (db.entries.rows.filter fun entry => entry.accountId = account) window
  | .sumEntries account =>
      if IsBigint (db.netOf account) then reads [[("value", .int (db.netOf account))]]
      else .error .outOfRange
  | .insertTransfer order => db.insertTransfer stamp order
  | .selectTransfer id => readsOne Transfer.toRow (db.transfers.find id)
  | .selectTransfers fromAccount toAccount window =>
      page Transfer.id Transfer.toRow
        (db.transfers.rows.filter fun transfer =>
          transfer.fromAccount = fromAccount ∨ transfer.toAccount = toAccount) window
  | .insertUser user => db.insertUser stamp user
  | .selectUser username => readsOne User.toRow (db.users.find username)
  | .updateUser change => db.updateUser change
  | .insertSession session => db.insertSession stamp session
  | .selectSession id => readsOne LoginSession.toRow (db.sessions.find (LoginSession.canonicalId id))
  | .insertVerification record => db.insertVerification stamp record
  | .lockVerification id =>
      match db.verifications.find id with
      | none => reads []
      | some record => holds record.toRow (.verification id)
  | .useVerification id => db.useVerification id
  | .probe => reads [[("value", .int 1)]]

end Database

end Passbook
