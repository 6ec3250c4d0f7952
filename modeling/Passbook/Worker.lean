import Passbook.Mail.Welcome
import Passbook.SecretCode
import Passbook.Service
import Passbook.TaskQueue

/-!
# The worker

A task is worked off once: a verification record with a fresh code is stored for the user, and the
user is mailed the link. The connection is given back before the mail is handed over. What goes wrong
is reported, and the task is not repeated.
-/
namespace Passbook

inductive TaskFault where
  | connection (failure : Failure)
  | user (username : String) (failure : Failure)
  | record (failure : Failure)
  | link (fault : UrlFault)
  | mail (fault : MailFault)
deriving DecidableEq, Repr

namespace TaskFault

/-- What was attempted, then the failure and the causes behind it, nearest first. -/
def chain : TaskFault → List String
  | .connection failure => failure.message :: failure.causes
  | .user username failure =>
      ("failed to get user " ++ username) :: failure.message :: failure.causes
  | .record failure => "failed to create verify email" :: failure.message :: failure.causes
  | .link fault => ["invalid verify email base URL", fault.message]
  | .mail fault => ["failed to send verify email", fault.message]

def message (fault : TaskFault) : String := String.intercalate ": " fault.chain

end TaskFault

namespace Task

/-- Reads the user and stores a record with a fresh code for the address of that user. -/
def prepare (task : Task) : Service (Except TaskFault (User × Verification)) := do
  match ← Service.query (.user task.username) with
  | .error failure => return .error (.user task.username failure)
  | .ok user =>
      let draws ← Service.codeDraws
      let record : NewVerification :=
        { username := user.username
          email := user.email
          secretCode := SecretCode.ofDraws draws }
      match ← Service.query (.createVerification record) with
      | .error failure => return .error (.record failure)
      | .ok stored => return .ok (user, stored)

/-- Mails the link for a record, on top of the URL `base`. -/
def mail (base : String) (user : User) (record : Verification) :
    Service (Except TaskFault Verification) := do
  match Mail.welcome user record base with
  | .error fault => return .error (.link fault)
  | .ok message =>
      match ← Service.deliver message with
      | .error fault => return .error (.mail fault)
      | .ok () => return .ok record

/-- Works a task off. -/
def process (base : String) (task : Task) : Service (Except TaskFault Verification) := do
  match ← Service.checkout with
  | .error fault => return .error (.connection (.ofFault fault))
  | .ok () =>
      let prepared ← task.prepare
      Service.release false
      match prepared with
      | .error fault => return .error fault
      | .ok (user, record) => mail base user record

/-- Works tasks off one after the other, whatever becomes of each of them. -/
def processAll (base : String) : List Task → Service Unit
  | [] => .done ()
  | task :: rest => do
      let _ ← task.process base
      processAll base rest

end Task
end Passbook
