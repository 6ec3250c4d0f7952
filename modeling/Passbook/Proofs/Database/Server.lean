import Passbook.Proofs.Database.Draft
import Passbook.Proofs.Transaction.Contract

/-!
# A database of one's own

A server carries out what it is sent on its one connection, and nothing goes wrong that is not the
fault of a statement: nobody else holds a row, no connection is lost and no answer comes late. Outside
of a transaction a statement takes effect at once. Inside of one it takes effect on tables that COMMIT
stores and ROLLBACK forgets. A statement that is refused spoils its transaction: nothing more is
carried out in it, and COMMIT stores nothing. The numbers of new rows come from sequences, and a number
that has been drawn is not drawn again, whatever becomes of the row.

Migrations and their bookkeeping are no statements of the ledger and are left out. What a service asks
of others than the database is answered from outside.
-/
namespace Passbook

/-- The next numbers of the tables that number their rows. -/
structure Sequences where
  accounts : Int := 1
  entries : Int := 1
  transfers : Int := 1
  verifications : Int := 1

def Sequences.draw (sequences : Sequences) : Statement → Int × Sequences
  | .insertAccount .. =>
      (sequences.accounts, { sequences with accounts := sequences.accounts + 1 })
  | .insertEntry .. => (sequences.entries, { sequences with entries := sequences.entries + 1 })
  | .insertTransfer _ =>
      (sequences.transfers, { sequences with transfers := sequences.transfers + 1 })
  | .insertVerification _ =>
      (sequences.verifications, { sequences with verifications := sequences.verifications + 1 })
  | _ => (0, sequences)

/-- A transaction that has been begun: the tables as it has left them, unless it is spoiled. -/
inductive Pending where
  | active (tables : Database)
  | spoiled

structure Server where
  committed : Database
  pending? : Option Pending := none
  sequences : Sequences := {}
  now : Instant := ⟨0⟩

def Refusal.spoiled : Refusal where
  message := "current transaction is aborted, commands ignored until end of transaction block"
  code := some "25P02"
  constraint := none

namespace Server

def acknowledged : Except StorageFault Answer := .ok ⟨[], 0⟩

/-- Carries a statement out on these tables. -/
def attempt (s : Server) (tables : Database) (statement : Statement) :
    Except Refusal (Answer × Database) × Sequences :=
  let (id, sequences) := s.sequences.draw statement
  ((tables.execute ⟨id, s.now⟩ statement).map fun (answer, effect) => (answer, effect.apply tables),
    sequences)

def execute (statement : Statement) (s : Server) : Except StorageFault Answer × Server :=
  match s.pending? with
  | none =>
      match s.attempt s.committed statement with
      | (.ok (answer, tables), sequences) => (.ok answer, { s with committed := tables, sequences })
      | (.error refusal, sequences) => (.error (.refused refusal), { s with sequences })
  | some (.active tables) =>
      match s.attempt tables statement with
      | (.ok (answer, tables), sequences) =>
          (.ok answer, { s with pending? := some (.active tables), sequences })
      | (.error refusal, sequences) =>
          (.error (.refused refusal), { s with pending? := some .spoiled, sequences })
  | some .spoiled => (.error (.refused .spoiled), s)

def send (command : Command) (s : Server) : Except StorageFault Answer × Server :=
  match command with
  | .begin =>
      (acknowledged, { s with pending? := some (s.pending?.getD (.active s.committed)) })
  | .limit _ =>
      match s.pending? with
      | some .spoiled => (.error (.refused .spoiled), s)
      | _ => (acknowledged, s)
  | .commit =>
      match s.pending? with
      | some (.active tables) => (acknowledged, { s with committed := tables, pending? := none })
      | _ => (acknowledged, { s with pending? := none })
  | .rollback => (acknowledged, { s with pending? := none })
  | .statement statement => s.execute statement
  | .migrate _ | .bookkeeping _ => (acknowledged, s)

/-- Answers what a service asks for, with the help of `outside` for what is not the database's. -/
def surroundings (outside : (action : Service.Action) → action.Answer) (action : Service.Action)
    (s : Server) : action.Answer × Server :=
  match action with
  | .checkout => (.ok (), s)
  | .release inTransaction => ((), if inTransaction then { s with pending? := none } else s)
  | .send command => s.send command
  | .sendWithin statement _ => (.inTime 0 (s.execute statement).1, (s.execute statement).2)
  | action => (outside action, s)

/-- Outside of the database nothing fails, no time passes and every draw is the first. -/
def calm : (action : Service.Action) → action.Answer
  | .checkout => .ok ()
  | .release _ => ()
  | .send _ => .ok ⟨[], 0⟩
  | .sendWithin .. => .overdue
  | .clock => ⟨0⟩
  | .announce .. => .ok ()
  | .salt => []
  | .codeDraws => List.replicate Verification.codeLength ⟨0, by decide⟩
  | .deliver _ => .ok ()

variable {α β : Type} {outside : (action : Service.Action) → action.Answer}

def working (s : Server) (tables : Database) (sequences : Sequences) : Server :=
  { s with pending? := some (.active tables), sequences }

theorem within_query (patience : Nat) (query : Query α) (next : α → Script β) (s : Server) :
    (Script.within patience (Script.query query >>= next).run).run (surroundings outside) s =
      match query.result (s.execute query.statement).1 with
      | .ok value =>
          (Script.within patience (next value).run).run (surroundings outside)
            (s.execute query.statement).2
      | .error failure => (.error failure, (s.execute query.statement).2) := by
  rw [Script.run_query_bind]
  simp only [Script.within, Program.run, surroundings, Nat.sub_zero]
  cases query.result (s.execute query.statement).1 <;> rfl

section
variable {patience : Nat} (query : Query α) {next : α → Script β} {s : Server} {tables : Database}
  (sequences : Sequences)

theorem within_query_of_ok {answer : Answer} {effect : Effect} {value : α}
    (h : tables.execute ⟨(sequences.draw query.statement).1, s.now⟩ query.statement = .ok (answer, effect))
    (hread : query.read answer = .ok value) :
    (Script.within patience (Script.query query >>= next).run).run (surroundings outside)
        (s.working tables sequences) =
      (Script.within patience (next value).run).run (surroundings outside)
        (s.working (effect.apply tables) (sequences.draw query.statement).2) := by
  have hexecute : (s.working tables sequences).execute query.statement =
      (.ok answer, s.working (effect.apply tables) (sequences.draw query.statement).2) := by
    simp only [execute, working, attempt, h]
    rfl
  rw [within_query, hexecute, Query.result, hread]

theorem within_query_of_error {refusal : Refusal}
    (h : tables.execute ⟨(sequences.draw query.statement).1, s.now⟩ query.statement = .error refusal) :
    ((Script.within patience (Script.query query >>= next).run).run (surroundings outside)
      (s.working tables sequences)).1 = .error (.ofFault (.refused refusal)) := by
  have hexecute : ((s.working tables sequences).execute query.statement).1 =
      .error (.refused refusal) := by
    simp only [execute, working, attempt, h]
    rfl
  rw [within_query, hexecute, Query.result]

end

/-- In a transaction nothing but the tables of that transaction changes, and the numbers that are drawn. -/
theorem within_committed (patience : Nat) (p : Script.Body α) {s : Server} (h : s.pending?.isSome) :
    ((Script.within patience p).run (surroundings outside) s).2.committed = s.committed := by
  induction p generalizing patience s with
  | done result => rfl
  | ask action next ih =>
      cases action with
      | send statement =>
          have hexecute : (s.execute statement).2.committed = s.committed ∧
              (s.execute statement).2.pending?.isSome := by
            unfold execute
            cases hpending : s.pending? with
            | none =>
                rw [hpending] at h
                cases h
            | some pending =>
                cases pending with
                | spoiled => exact ⟨rfl, by rw [hpending]; rfl⟩
                | active tables =>
                    dsimp only
                    split
                    · exact ⟨rfl, rfl⟩
                    · exact ⟨rfl, rfl⟩
          simp only [Script.within, Program.run, surroundings]
          exact (ih _ _ hexecute.2).trans hexecute.1
      | pause wait =>
          simp only [Script.within]
          split
          · rfl
          · exact ih () _ h
      | clock => exact ih _ patience h
      | announce hook user => exact ih _ patience h

/-- The end of a transaction: what it has done is stored if its script has succeeded, and forgotten
otherwise. -/
theorem run_conclude (result : Except Failure α) (s : Server) :
    (conclude result).run (surroundings outside) s =
      (result, match result with
        | .ok _ => (s.send .commit).2
        | .error _ => (s.send .rollback).2) := by
  cases result with
  | error failure => rfl
  | ok value =>
      simp only [conclude, Service.send, Service.request, Program.request, Program.bind_eq,
        Program.ask_bind, Program.done_bind, Program.run, surroundings]
      have hcommit : (s.send .commit).1 = acknowledged := by
        simp only [send]
        split <;> rfl
      rw [hcommit]
      rfl

/-- A transaction results in what its script comes to on the tables. -/
theorem run_atomically (limit : Nat) (body : Script α) {s : Server} (hidle : s.pending? = none) :
    (atomically limit body).run (surroundings outside) s =
      let ended := (Script.within limit body.run).run (surroundings outside)
        (s.working s.committed s.sequences)
      (ended.1, match ended.1 with
        | .ok _ => (ended.2.send .commit).2
        | .error _ => (ended.2.send .rollback).2) := by
  rw [atomically_eq]
  simp only [Program.run, surroundings, send, hidle, Option.getD_none, acknowledged]
  rw [Program.run_bind]
  exact run_conclude _ _

/-- Whatever fails, a transaction that does not succeed leaves the tables as they were. -/
theorem run_atomically_of_error {limit : Nat} {body : Script α} {s : Server} {failure : Failure}
    (hidle : s.pending? = none)
    (h : ((Script.within limit body.run).run (surroundings outside)
      (s.working s.committed s.sequences)).1 = .error failure) :
    ((atomically limit body).run (surroundings outside) s).1 = .error failure ∧
      ((atomically limit body).run (surroundings outside) s).2.committed = s.committed ∧
      ((atomically limit body).run (surroundings outside) s).2.pending? = none := by
  rw [run_atomically limit body hidle]
  dsimp only
  rw [h]
  exact ⟨rfl, within_committed limit body.run rfl, rfl⟩

/-- A transaction whose script succeeds stores the tables that the script has left. -/
theorem run_atomically_of_ok {limit : Nat} {body : Script α} {s : Server} {value : α} {tables : Database}
    {sequences : Sequences} (hidle : s.pending? = none)
    (h : (Script.within limit body.run).run (surroundings outside) (s.working s.committed s.sequences) =
      (.ok value, s.working tables sequences)) :
    ((atomically limit body).run (surroundings outside) s).1 = .ok value ∧
      ((atomically limit body).run (surroundings outside) s).2.committed = tables ∧
      ((atomically limit body).run (surroundings outside) s).2.pending? = none := by
  rw [run_atomically limit body hidle, h]
  exact ⟨rfl, rfl, rfl⟩

end Server
end Passbook
