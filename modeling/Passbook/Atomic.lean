import Passbook.Service

/-!
# Atomic execution

`atomically limit body` runs a script in one transaction. The transaction is begun and each of its
statements capped; the script runs with a limit on its whole duration; then the transaction is
committed if the script succeeded in time, and rolled back otherwise. Nothing is sent twice, and
nothing is sent for the script after it has ended or its time is over. If the cap, COMMIT or ROLLBACK
fails, the connection is given back with its transaction open.
-/
namespace Passbook

/-- Runs a script with `patience` milliseconds left. A wait or an answer that takes longer than what
is left cancels the script; one that takes exactly as long does not. -/
def Script.within {α : Type} (patience : Nat) :
    Program Script.Action Script.Action.Answer (Except Failure α) → Service (Except Failure α)
  | .done result => .done result
  | .ask (.send statement) next =>
      .ask (.sendWithin statement patience) fun reply =>
        match reply with
        | .overdue => .done (.error .canceledOperation)
        | .inTime after outcome => Script.within (patience - after) (next outcome)
  | .ask (.pause millis) next =>
      if patience < millis then .done (.error .canceledOperation)
      else Script.within (patience - millis) (next ())
  | .ask .clock next => .ask .clock fun now => Script.within patience (next now)
  | .ask (.announce hook user) next =>
      .ask (.announce hook user) fun outcome => Script.within patience (next outcome)

/-- Runs `body` in one transaction that may take `limit` milliseconds. -/
def atomically {α : Type} (limit : Nat) (body : Script α) : Service (Except Failure α) := do
  match ← Service.checkout with
  | .error fault => return .error (.ofFault fault)
  | .ok () =>
    match ← Service.send .begin with
    | .error fault =>
        Service.release false
        return .error (.ofFault fault)
    | .ok _ =>
      match ← Service.send (.limit limit) with
      | .error fault =>
          Service.release true
          return .error (.ofFault fault)
      | .ok _ =>
        match ← Script.within limit body.run with
        | .ok value =>
            match ← Service.send .commit with
            | .ok _ =>
                Service.release false
                return .ok value
            | .error fault =>
                Service.release true
                return .error (.commitFailed fault)
        | .error cause =>
            match ← Service.send .rollback with
            | .ok _ =>
                Service.release false
                return .error cause
            | .error fault =>
                Service.release true
                return .error (.rollbackFailed cause fault)

end Passbook
