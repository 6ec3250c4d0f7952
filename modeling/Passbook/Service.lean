import Passbook.Mail.Message
import Passbook.Store.Migration
import Passbook.Store.Script

/-!
# Services

A service is a program of the ledger as a whole: it checks a connection out, sends commands on it and
gives it back, hands mail over, and asks for the clock and for randomness. A connection is given back
either clean or with its transaction still open; in the latter case the transaction is undone before
anybody else uses the connection.

A statement can be sent with patience. If its answer takes longer, the service goes on without it,
and the connection deals with the answer later.
-/
namespace Passbook

/-- What migrations ask the database for, apart from their own statements. -/
inductive Bookkeeping where
  | currentDatabase
  | lock
  | createTable
  | unfinished
  | applied
  | record (migration : Migration)
  | timing (migration : Migration)
  | unlock
deriving DecidableEq, Repr

/-- What can be sent on a connection. -/
inductive Command where
  | begin
  /-- caps each statement of the transaction -/
  | limit (millis : Nat)
  | commit
  | rollback
  | statement (statement : Statement)
  | migrate (migration : Migration)
  | bookkeeping (note : Bookkeeping)
deriving DecidableEq, Repr

namespace Command

/-- The text of a command. Bookkeeping is no part of the ledger's own statements. -/
def text? : Command → Option String
  | .begin => some "BEGIN"
  | .limit _ => some "SELECT set_config('statement_timeout', $1, true)"
  | .commit => some "COMMIT"
  | .rollback => some "ROLLBACK"
  | .statement s => some s.text
  | .migrate migration => some migration.text
  | .bookkeeping _ => none

def params : Command → List Param
  | .limit millis => [.text (Decimal.text millis ++ "ms")]
  | .statement s => s.params
  | _ => []

end Command

/-- What comes back for a statement that is waited for with patience. -/
inductive TimedReply where
  | overdue
  | inTime (after : Nat) (outcome : Except StorageFault Answer)

namespace Service

inductive Action where
  | checkout
  | release (inTransaction : Bool)
  | send (command : Command)
  | sendWithin (statement : Statement) (patience : Nat)
  | clock
  | announce (hook : Hook) (user : User)
  /-- sixteen random bytes -/
  | salt
  /-- a random choice among 62 characters for each place of a secret code -/
  | codeDraws
  | deliver (message : Message)
deriving DecidableEq, Repr

/-- What a service learns from it. -/
abbrev Action.Answer : Action → Type
  | .checkout => Except StorageFault Unit
  | .release _ => Unit
  | .send _ => Except StorageFault Passbook.Answer
  | .sendWithin .. => TimedReply
  | .clock => Instant
  | .announce .. => Except String Unit
  | .salt => List UInt8
  | .codeDraws => List (Fin 62)
  | .deliver _ => Except MailFault Unit

end Service

abbrev Service (α : Type) : Type := Program Service.Action Service.Action.Answer α

namespace Service

def request (action : Action) : Service action.Answer := Program.request action

def checkout : Service (Except StorageFault Unit) := request .checkout

def release (inTransaction : Bool) : Service Unit := request (.release inTransaction)

def send (command : Command) : Service (Except StorageFault Answer) := request (.send command)

def clock : Service Instant := request .clock

def salt : Service (List UInt8) := request .salt

def codeDraws : Service (List (Fin 62)) := request .codeDraws

def deliver (message : Message) : Service (Except MailFault Unit) := request (.deliver message)

/-- Runs one query on the connection that is checked out. -/
def query {α : Type} (query : Query α) : Service (Except Failure α) := do
  let outcome ← send (.statement query.statement)
  return query.result outcome

/-- Checks a connection out for `body` and gives it back afterwards. -/
def onConnection {α : Type} (body : Service (Except Failure α)) : Service (Except Failure α) := do
  match ← checkout with
  | .error fault => return .error (.ofFault fault)
  | .ok () =>
      let result ← body
      release false
      return result

/-- Runs one query on a pooled connection. -/
def pooled {α : Type} (query : Query α) : Service (Except Failure α) :=
  onConnection (Service.query query)

end Service
end Passbook
