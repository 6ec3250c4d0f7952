import Passbook.Store.Statement

/-!
# Queries

A query is one statement together with the reading of its answer. The same query runs on a pooled
connection and inside a transaction. Reads of one record take the first row and fail without one;
lists take every row; a deletion fails if it found nothing. Whatever goes wrong is turned into a
failure by `Failure.ofFault` alone.
-/
namespace Passbook

/-- What the database answers to a statement that it carries out. -/
structure Answer where
  rows : List Row
  /-- how many rows were changed -/
  affected : Nat
deriving DecidableEq, Repr

namespace Answer

def one {α : Type} (read : Row → Except StorageFault α) (answer : Answer) :
    Except StorageFault α :=
  match answer.rows with
  | [] => .error .rowNotFound
  | row :: _ => read row

def all {α : Type} (read : Row → Except StorageFault α) (answer : Answer) :
    Except StorageFault (List α) :=
  answer.rows.mapM read

end Answer

structure Query (α : Type) where
  statement : Statement
  read : Answer → Except StorageFault α

namespace Query

/-- The result of a query, given what came back for its statement. -/
def result {α : Type} (query : Query α) (outcome : Except StorageFault Answer) :
    Except Failure α :=
  match outcome with
  | .error fault => .error (.ofFault fault)
  | .ok answer =>
      match query.read answer with
      | .error fault => .error (.ofFault fault)
      | .ok value => .ok value

def createAccount (owner : String) (balance : Int) (currency : String) : Query Account :=
  ⟨.insertAccount owner balance currency, Answer.one Account.ofRow⟩

def account (id : Int) : Query Account := ⟨.selectAccount id, Answer.one Account.ofRow⟩

def lockedAccount (id : Int) : Query Account := ⟨.lockAccount id, Answer.one Account.ofRow⟩

def accounts (owner : String) (window : Window) : Query (List Account) :=
  ⟨.selectAccounts owner window, Answer.all Account.ofRow⟩

/-- Overwrites a balance, for administrative use only. -/
def setBalance (id balance : Int) : Query Account := ⟨.setBalance id balance, Answer.one Account.ofRow⟩

def addBalance (change : BalanceChange) : Query Account :=
  ⟨.addBalance change, Answer.one Account.ofRow⟩

def deleteAccount (id : Int) : Query Unit :=
  ⟨.deleteAccount id, fun answer =>
    if answer.affected = 0 then .error .rowNotFound else .ok ()⟩

def createEntry (account amount : Int) : Query Entry :=
  ⟨.insertEntry account amount, Answer.one Entry.ofRow⟩

def entry (id : Int) : Query Entry := ⟨.selectEntry id, Answer.one Entry.ofRow⟩

def entries (account : Int) (window : Window) : Query (List Entry) :=
  ⟨.selectEntries account window, Answer.all Entry.ofRow⟩

/-- The net of all entries of an account. -/
def sumEntries (account : Int) : Query Int :=
  ⟨.sumEntries account, Answer.one fun row => row.intAt "value" 0⟩

def createTransfer (order : TransferOrder) : Query Transfer :=
  ⟨.insertTransfer order, Answer.one Transfer.ofRow⟩

def transfer (id : Int) : Query Transfer := ⟨.selectTransfer id, Answer.one Transfer.ofRow⟩

def transfers (fromAccount toAccount : Int) (window : Window) : Query (List Transfer) :=
  ⟨.selectTransfers fromAccount toAccount window, Answer.all Transfer.ofRow⟩

def createUser (user : NewUser) : Query User := ⟨.insertUser user, Answer.one User.ofRow⟩

def user (username : String) : Query User := ⟨.selectUser username, Answer.one User.ofRow⟩

def updateUser (change : UserChange) : Query User := ⟨.updateUser change, Answer.one User.ofRow⟩

def createSession (session : NewLoginSession) : Query LoginSession :=
  ⟨.insertSession session, Answer.one LoginSession.ofRow⟩

def session (id : String) : Query LoginSession := ⟨.selectSession id, Answer.one LoginSession.ofRow⟩

def createVerification (record : NewVerification) : Query Verification :=
  ⟨.insertVerification record, Answer.one Verification.ofRow⟩

def lockedVerification (id : Int) : Query Verification :=
  ⟨.lockVerification id, Answer.one Verification.ofRow⟩

/-- Marks a record as used. A record that is used already is not found. -/
def useVerification (id : Int) : Query Verification :=
  ⟨.useVerification id, Answer.one Verification.ofRow⟩

def probe : Query Unit := ⟨.probe, fun _ => .ok ()⟩

end Query
end Passbook
