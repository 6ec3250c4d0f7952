import Passbook.Service

/-!
# Bringing the schema up to date

The migrations that a database lacks are applied in order, each in a transaction of its own together
with the note that it was applied. A lock keeps others out meanwhile. Nothing is applied to a database
with a migration that was left unfinished, is not known here, or was another one when it was applied.
-/
namespace Passbook

/-- Why the schema is not up to date. -/
inductive SchemaFault where
  | storage (fault : StorageFault)
  | statement (version : Int) (fault : StorageFault)
  | unfinished (version : Int)
  | unknown (version : Int)
  | modified (version : Int)
deriving DecidableEq, Repr

def SchemaFault.message : SchemaFault → String
  | .storage fault => "while executing migrations: " ++ fault.message
  | .statement version fault =>
      "while executing migration " ++ Decimal.text version ++ ": " ++ fault.message
  | .unfinished version =>
      "migration " ++ Decimal.text version ++
        " is partially applied; fix and remove row from \x60_sqlx_migrations\x60 table"
  | .unknown version =>
      "migration " ++ Decimal.text version ++
        " was previously applied but is missing in the resolved migrations"
  | .modified version =>
      "migration " ++ Decimal.text version ++ " was previously applied but has been modified"

/-- A migration that a database lists as applied. -/
structure AppliedMigration where
  version : Int
  checksum : String
deriving DecidableEq, Repr

namespace Schema

/-- A fault, and whether it leaves a transaction open. -/
structure Halt where
  fault : SchemaFault
  inTransaction : Bool := false
deriving DecidableEq, Repr

abbrev Step (α : Type) : Type :=
  ExceptT Halt (Program Service.Action Service.Action.Answer) α

/-- A fault outside of a transaction. -/
def outside (fault : StorageFault) : Halt := { fault := .storage fault }

/-- A fault inside of a transaction. -/
def inside (fault : StorageFault) : Halt := { fault := .storage fault, inTransaction := true }

def send {α : Type} (command : Command) (read : Answer → Except StorageFault α)
    (report : StorageFault → Halt := outside) : Step α :=
  ExceptT.mk do
    let outcome ← Service.send command
    return (outcome.bind read).mapError report

def run (command : Command) (report : StorageFault → Halt := outside) : Step Unit :=
  send command (fun _ => .ok ()) report

/-- The name of the database, which the lock is made from. -/
def databaseName : Step String :=
  send (.bookkeeping .currentDatabase) (Answer.one fun row => row.textAt "value" 0)

def lock : Step Unit := do
  let _ ← databaseName
  run (.bookkeeping .lock)

def unlock : Step Unit := do
  let _ ← databaseName
  run (.bookkeeping .unlock)

/-- The first migration that was left unfinished. -/
def readUnfinished (answer : Answer) : Except StorageFault (Option Int) :=
  match answer.rows with
  | [] => .ok none
  | row :: _ => (row.intAt "version" 0).map some

def readApplied (row : Row) : Except StorageFault AppliedMigration := do
  let version ← row.intAt "version" 0
  let checksum ← row.textAt "checksum" 1
  return { version, checksum }

def fail {α : Type} (fault : SchemaFault) : Step α := throw { fault := fault }

/-- Demands that every applied migration is known. -/
def checkKnown (applied : List AppliedMigration) : Step Unit :=
  match applied.find? fun a => !(Migration.all.any fun m => m.version == a.version) with
  | some a => fail (.unknown a.version)
  | none => pure ()

def apply (migration : Migration) : Step Unit := do
  run .begin
  run (.migrate migration) fun fault =>
    { fault := .statement migration.version fault, inTransaction := true }
  run (.bookkeeping (.record migration)) inside
  run .commit inside
  run (.bookkeeping (.timing migration))

/-- Whether two checksums are equal, however their digits are written. -/
def sameChecksum (a b : String) : Bool := Hex.decode? a.toList == Hex.decode? b.toList

/-- Applies the migrations that are not among those that were applied before. -/
def applyMissing (applied : List AppliedMigration) : List Migration → Step Unit
  | [] => pure ()
  | migration :: rest => do
      match applied.reverse.find? fun a => a.version == migration.version with
      | some a =>
          if sameChecksum a.checksum migration.checksum then applyMissing applied rest
          else fail (.modified migration.version)
      | none =>
          apply migration
          applyMissing applied rest

/-- Everything that is done on the connection. -/
def steps : Step Unit := do
  lock
  run (.bookkeeping .createTable)
  match ← send (.bookkeeping .unfinished) readUnfinished with
  | some version => fail (.unfinished version)
  | none =>
      let applied ← send (.bookkeeping .applied) (Answer.all readApplied)
      checkKnown applied
      applyMissing applied Migration.all
      unlock

/-- Brings the schema up to date on a pooled connection. -/
def update : Service (Except SchemaFault Unit) := do
  match ← Service.checkout with
  | .error fault => return .error (.storage fault)
  | .ok () =>
      match ← steps.run with
      | .ok () =>
          Service.release false
          return .ok ()
      | .error halt =>
          Service.release halt.inTransaction
          return .error halt.fault

end Schema
end Passbook
