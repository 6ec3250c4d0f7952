import Passbook.Program
import Passbook.Store.Query

/-!
# Scripts

A script is the body of one transaction: queries that may depend on earlier answers, waits, a look
at the clock, and the announcement of a new user. It says nothing about connections, the start and
the end of the transaction or its time limit. A script ends with a value or with a failure, and a
failure ends it at once.
-/
namespace Passbook

/-- The step that follows the creation of a user, before it is made final. -/
inductive Hook where
  /-- puts a task for the user into the task queue -/
  | enqueue
  | allow
  | refuse (reason : String)
deriving DecidableEq, Repr

namespace Script

inductive Action where
  | send (statement : Statement)
  | pause (millis : Nat)
  | clock
  | announce (hook : Hook) (user : User)
deriving DecidableEq, Repr

/-- What a script learns from it. -/
abbrev Action.Answer : Action → Type
  | .send _ => Except StorageFault Passbook.Answer
  | .pause _ => Unit
  | .clock => Instant
  | .announce .. => Except String Unit

end Script

abbrev Script (α : Type) : Type :=
  ExceptT Failure (Program Script.Action Script.Action.Answer) α

namespace Script

def request (action : Action) : Script action.Answer :=
  ExceptT.mk (.ask action fun answer => .done (.ok answer))

def fail {α : Type} (failure : Failure) : Script α := throw failure

def query {α : Type} (query : Query α) : Script α := do
  let outcome ← request (.send query.statement)
  ExceptT.mk (.done (query.result outcome))

def pause (millis : Nat) : Script Unit := request (.pause millis)

def clock : Script Instant := request .clock

/-- Hands a new user to the next step, whose refusal ends the script. -/
def announce (hook : Hook) (user : User) : Script Unit := do
  match ← request (.announce hook user) with
  | .ok () => pure ()
  | .error reason => fail (.afterCreate reason)

end Script
end Passbook
