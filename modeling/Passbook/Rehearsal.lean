import Passbook.Chance
import Passbook.Store.Schema
import Passbook.Worker

/-!
# Rehearsals

A rehearsal runs services without a database: what the database replies is laid down beforehand, and
every command it is sent is noted. It keeps one connection, which can be lost and replaced, a queue of
tasks and a worker for them. Time stands still, and chance is a seeded sequence.

A reply that a service does not wait for is left unread on the connection. The next command runs into
it: if it is a fault, that command is not sent.
-/
namespace Passbook

/-- What the database replies, and after how many milliseconds. -/
structure Reply where
  delay : Nat := 0
  outcome : Except StorageFault Answer

/-- What is laid down for one step. A control command without a reply of its own succeeds. -/
structure Cues where
  /-- for everything but control commands, in order -/
  replies : List Reply := []
  begin? : Option Reply := none
  limit? : Option Reply := none
  commit? : Option Reply := none
  rollback? : Option Reply := none
  /-- for new connections, in order -/
  refusals : List Refusal := []
  /-- statuses with which messages are rejected, or `none` for acceptance, in order -/
  mail : List (Option Nat) := []

/-- What was observed during one step, in order. -/
structure Trace where
  commands : List Command := []
  messages : List Message := []
  /-- the users that were announced to a hook other than the queue -/
  announced : List String := []
deriving Repr

structure Rehearsal where
  isOpen : Bool := true
  isConnected : Bool := true
  unread : Option StorageFault := none
  cues : Cues := {}
  queue : TaskQueue
  hasWorker : Bool := false
  /-- the URL that links are made from -/
  linkBase : String
  chance : Chance := ⟨0⟩
  trace : Trace := {}

namespace Rehearsal

/-- The first of June 2025. -/
def now : Instant := ⟨1748736000000000⟩

def success : Reply := { outcome := .ok { rows := [], affected := 0 } }

/-- The reply to a command that none was laid down for. -/
def unscripted : Reply :=
  { outcome := .error (.refused
      { message := "no scripted reply", code := some "XX000", constraint := none }) }

/-- Takes the reply to a command. -/
def reply (command : Command) (cues : Cues) : Reply × Cues :=
  match command with
  | .begin => (cues.begin?.getD success, { cues with begin? := none })
  | .limit _ => (cues.limit?.getD success, { cues with limit? := none })
  | .commit => (cues.commit?.getD success, { cues with commit? := none })
  | .rollback => (cues.rollback?.getD success, { cues with rollback? := none })
  | _ =>
      match cues.replies with
      | [] => (unscripted, cues)
      | first :: rest => (first, { cues with replies := rest })

/-- Refusals that the pool does not report: it goes on trying. -/
def isPassing (refusal : Refusal) : Bool :=
  refusal.code == some "53300" || refusal.code == some "57P03"

def checkout (r : Rehearsal) : Except StorageFault Unit × Rehearsal :=
  if !r.isOpen then (.error .poolClosed, r)
  else if r.isConnected then (.ok (), r)
  else
    match r.cues.refusals.dropWhile isPassing with
    | [] => (.ok (), { r with isConnected := true, cues := { r.cues with refusals := [] } })
    | refusal :: rest => (.error (.refused refusal), { r with cues := { r.cues with refusals := rest } })

/-- Notes a command and takes its reply. -/
def exchange (command : Command) (r : Rehearsal) : Reply × Rehearsal :=
  let (answer, cues) := reply command r.cues
  (answer, { r with
    cues := cues
    trace := { r.trace with commands := r.trace.commands ++ [command] } })

/-- Learns about an outcome, after which the connection may be lost. -/
def learn {α : Type} (outcome : Except StorageFault α) (r : Rehearsal) :
    Except StorageFault α × Rehearsal :=
  match outcome with
  | .error .connectionLost => (outcome, { r with isConnected := false })
  | _ => (outcome, r)

/-- A command reaches the database only if nothing is left unread and the connection is there. -/
def send (command : Command) (r : Rehearsal) : Except StorageFault Answer × Rehearsal :=
  match r.unread with
  | some fault => learn (.error fault) { r with unread := none }
  | none =>
      if !r.isConnected then (.error .connectionLost, r)
      else
        let (answer, r) := exchange command r
        learn answer.outcome r

/-- What an outcome leaves unread. -/
def leftover (outcome : Except StorageFault Answer) : Option StorageFault :=
  match outcome with
  | .ok _ => none
  | .error fault => some fault

def sendWithin (statement : Statement) (patience : Nat) (r : Rehearsal) : TimedReply × Rehearsal :=
  match r.unread with
  | some fault =>
      let (outcome, r) := learn (.error fault) { r with unread := none }
      (.inTime 0 outcome, r)
  | none =>
      if !r.isConnected then (.inTime 0 (.error .connectionLost), r)
      else
        let (answer, r) := exchange (.statement statement) r
        if patience < answer.delay then (.overdue, { r with unread := leftover answer.outcome })
        else
          let (outcome, r) := learn answer.outcome r
          (.inTime answer.delay outcome, r)

/-- Gives the connection back. An open transaction is undone first; a connection on which that fails
is given up. -/
def release (inTransaction : Bool) (r : Rehearsal) : Rehearsal :=
  if inTransaction && r.isConnected then
    let (answer, r) := exchange .rollback r
    match answer.outcome with
    | .ok _ => { r with unread := none }
    | .error _ => { r with unread := none, isConnected := false }
  else { r with unread := none }

def announce (hook : Hook) (user : User) (r : Rehearsal) : Except String Unit × Rehearsal :=
  let noted : Rehearsal :=
    { r with trace := { r.trace with announced := r.trace.announced ++ [user.username] } }
  match hook with
  | .enqueue =>
      match r.queue.offer ⟨user.username⟩ with
      | .ok queue => (.ok (), { r with queue := queue })
      | .error fault => (.error fault.message, r)
  | .allow => (.ok (), noted)
  | .refuse reason => (.error reason, noted)

def deliver (message : Message) (r : Rehearsal) : Except MailFault Unit × Rehearsal :=
  let noted : Rehearsal :=
    { r with
      cues := { r.cues with mail := r.cues.mail.drop 1 }
      trace := { r.trace with messages := r.trace.messages ++ [message] } }
  match r.cues.mail.head? with
  | some (some status) => (.error (.rejected status), noted)
  | _ => (.ok (), noted)

/-- Carries out what a service asks for. -/
def surroundings (action : Service.Action) (r : Rehearsal) : action.Answer × Rehearsal :=
  match action with
  | .checkout => checkout r
  | .release inTransaction => ((), release inTransaction r)
  | .send command => send command r
  | .sendWithin statement patience => sendWithin statement patience r
  | .clock => (now, r)
  | .announce hook user => announce hook user r
  | .salt =>
      let (bytes, chance) := r.chance.bytes 16
      (bytes, { r with chance := chance })
  | .codeDraws =>
      let (draws, chance) := r.chance.codeDraws Verification.codeLength
      (draws, { r with chance := chance })
  | .deliver message => deliver message r

def run {α : Type} (service : Service α) (r : Rehearsal) : α × Rehearsal :=
  service.run surroundings r

/-- Lets the worker, if there is one, work off the tasks that are pending. -/
def work (r : Rehearsal) : Rehearsal :=
  if r.hasWorker then
    ((Task.processAll r.linkBase r.queue.pending).run surroundings
      { r with queue := r.queue.clear }).2
  else r

/-- Forgets the cues and, in a step that settles, replaces a lost connection. -/
def settle (settles : Bool) (r : Rehearsal) : Rehearsal :=
  { r with
    cues := {}
    trace := {}
    isConnected := r.isConnected || (settles && r.isOpen) }

/-- One step: a change of the rehearsal itself, with the cues laid down for it, and the work of the
worker behind it. -/
def step {α : Type} (cues : Cues) (settles : Bool) (change : Rehearsal → α × Rehearsal)
    (r : Rehearsal) : α × Trace × Rehearsal :=
  let (value, r) := change { r with cues := cues }
  let r := r.work
  (value, r.trace, r.settle settles)

def closePool (r : Rehearsal) : Rehearsal := { r with isOpen := false }

def offerTask (task : Task) (r : Rehearsal) : Except QueueFault Unit × Rehearsal :=
  match r.queue.offer task with
  | .ok queue => (.ok (), { r with queue := queue })
  | .error fault => (.error fault, r)

def takeTask (r : Rehearsal) : Except Idle Task × Rehearsal :=
  match r.queue.take with
  | .ok (task, queue) => (.ok task, { r with queue := queue })
  | .error idle => (.error idle, r)

def closeQueue (r : Rehearsal) : Rehearsal := { r with queue := r.queue.close }

def dropQueue (r : Rehearsal) : Rehearsal := { r with queue := r.queue.drop }

def startWorker (r : Rehearsal) : Rehearsal := { r with hasWorker := true }

/-- Ends the worker once it has worked off what is pending; there are no tasks after it. -/
def stopWorker (r : Rehearsal) : Rehearsal :=
  { r.work with hasWorker := false, queue := r.work.queue.close }

end Rehearsal
end Passbook
