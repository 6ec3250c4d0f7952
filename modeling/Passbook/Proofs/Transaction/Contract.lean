import Passbook.Proofs.Transaction.Course

/-!
# The contract of a transaction

A transaction asks its script's own statements in the order in which the script asks them, and it
asks for COMMIT only once: after the script has ended with a value and every statement before has
been answered in time. It succeeds exactly with the value of a script whose COMMIT was acknowledged.
Nothing is said here about how long things take; every reply is allowed.
-/
namespace Passbook

namespace Service

/-- A request of a service, with the answer that came back. -/
abbrev Event : Type := Program.Event Action Action.Answer

/-- What the script of a transaction hears of an event. -/
def Event.heard? : Event → Option Script.Heard
  | ⟨.sendWithin statement _, .inTime after outcome⟩ => some ⟨.send statement, outcome, after⟩
  | ⟨.clock, now⟩ => some ⟨.clock, now, 0⟩
  | ⟨.announce hook user, outcome⟩ => some ⟨.announce hook user, outcome, 0⟩
  | _ => none

def heard (past : List Event) : List Script.Heard := past.filterMap Event.heard?

/-- How an event changes what is known to have been carried out in the open transaction. -/
def record (log : Option (List (Statement × Answer))) : Event → Option (List (Statement × Answer))
  | ⟨.send .begin, .ok _⟩ => some []
  | ⟨.send (.limit _), .ok _⟩ => log
  | ⟨.sendWithin statement _, .inTime _ (.ok answer)⟩ => log.map (· ++ [(statement, answer)])
  | ⟨.clock, _⟩ | ⟨.announce _ _, _⟩ | ⟨.salt, _⟩ | ⟨.codeDraws, _⟩ | ⟨.deliver _, _⟩ => log
  | _ => none

/-- The statements carried out since BEGIN, with their answers, as long as a transaction is open and
nothing in it has failed or come late. -/
def transcript (past : List Event) : Option (List (Statement × Answer)) := past.foldl record none

@[simp] theorem heard_append (past past' : List Event) :
    heard (past ++ past') = heard past ++ heard past' := List.filterMap_append

@[simp] theorem transcript_append_singleton (past : List Event) (event : Event) :
    transcript (past ++ [event]) = record (transcript past) event := by
  simp only [transcript, List.foldl_append, List.foldl_cons, List.foldl_nil]

def Uncommitted (past : List Event) : Prop := ∀ event ∈ past, event.1 ≠ .send .commit

theorem Uncommitted.append_singleton {past : List Event} (h : Uncommitted past) {e : Event}
    (he : e.1 ≠ .send .commit) : Uncommitted (past ++ [e]) := by
  intro other hother
  rcases List.mem_append.mp hother with hother | hother
  · exact h other hother
  · rwa [List.mem_singleton.mp hother]

end Service

open Service (Event heard transcript Uncommitted)

variable {α : Type}

/-- The moment before COMMIT: the script has ended with `value`. -/
structure Ready (body : Script α) (value : α) (past : List Event) : Prop where
  course : ∃ millis, Script.Course body.run (heard past) millis (.done (.ok value))
  transcript_eq : transcript past = Script.exchanges (heard past)
  uncommitted : Uncommitted past

/-- What holds before each request of a transaction. -/
def AskedInOrder (body : Script α) (past : List Event) : Service.Action → Prop
  | .send .commit => ∃ value, Ready body value past
  | .sendWithin statement _ =>
      ∃ millis next, Script.Course body.run (heard past) millis (.ask (.send statement) next)
  | .send (.statement _) | .send (.migrate _) | .send (.bookkeeping _) | .salt | .codeDraws
  | .deliver _ => False
  | _ => True

/-- The failures of a transaction that has not come to COMMIT: a fault of the connection or of the
frame around the script, a failure of the script itself, the end of its time, or the failure to undo
what one of these has left. -/
inductive Blamed (body : Script α) : Failure → Prop
  | frame (fault : StorageFault) : Blamed body (.ofFault fault)
  | script {heard millis failure} :
      Script.Course body.run heard millis (.done (.error failure)) → Blamed body failure
  | overdue : Blamed body .canceledOperation
  | rollback {failure} (fault : StorageFault) :
      Blamed body failure → Blamed body (.rollbackFailed failure fault)

def EndedTruly (body : Script α) (past : List Event) : Except Failure α → Prop
  | .ok value =>
      ∃ past' answer, past = past' ++ [⟨.send .commit, .ok answer⟩, ⟨.release false, ()⟩] ∧
        Ready body value past'
  | .error failure =>
      Uncommitted past ∧ Blamed body failure ∨ ∃ past' fault value,
        past = past' ++ [⟨.send .commit, .error fault⟩, ⟨.release true, ()⟩] ∧
          Ready body value past' ∧ failure = .commitFailed fault

/-- What the script has come to when it is over. -/
def ScriptEnded (body : Script α) (past : List Event) : Except Failure α → Prop
  | .ok value => Ready body value past
  | .error failure => Uncommitted past ∧ Blamed body failure

theorem transcript_of_heard {past : List Event} {event : Event} {heardEvent : Script.Heard}
    (hevent : event.heard? = some heardEvent) (h : transcript past = Script.exchanges (heard past)) :
    transcript (past ++ [event]) = Script.exchanges (heard past ++ [heardEvent]) := by
  rw [Service.transcript_append_singleton, h, Script.exchanges_append]
  rcases event with ⟨action, answer⟩
  cases action with
  | sendWithin statement patience =>
      cases answer with
      | overdue => cases hevent
      | inTime after outcome =>
          cases hevent
          cases outcome <;> cases Script.exchanges (heard past) <;> rfl
  | clock => cases hevent; cases Script.exchanges (heard past) <;> simp [Service.record, Script.exchanges]
  | announce hook user =>
      cases hevent; cases Script.exchanges (heard past) <;> simp [Service.record, Script.exchanges]
  | _ => cases hevent

theorem heard_of_heard {past : List Event} {event : Event} {heardEvent : Script.Heard}
    (hevent : event.heard? = some heardEvent) : heard (past ++ [event]) = heard past ++ [heardEvent] := by
  rw [Service.heard_append]
  simp only [heard, List.filterMap_cons, hevent, List.filterMap_nil]

/-- Within its time a script asks for its own statements only, and only a script that has ended with a
value leaves the transaction ready for COMMIT. -/
theorem within_keeps {body : Script α} (q : Script.Body α) (patience : Nat) {past : List Event}
    {m : Nat} (hcourse : Script.Course body.run (heard past) m q)
    (hlog : transcript past = Script.exchanges (heard past)) (hpast : Uncommitted past) :
    (Script.within patience q).Keeps (AskedInOrder body) (ScriptEnded body) past := by
  induction q generalizing patience past m with
  | done result =>
      cases result with
      | ok value => exact ⟨⟨m, hcourse⟩, hlog, hpast⟩
      | error failure => exact ⟨hpast, .script hcourse⟩
  | ask action next ih =>
      -- An event that the script hears keeps the three facts about the past.
      have hear : ∀ {event : Event} {heardEvent : Script.Heard} {answer : action.Answer} {n : Nat}
          (patience : Nat), event.heard? = some heardEvent → event.1 ≠ .send .commit →
          Script.Course (.ask action next) [heardEvent] n (next answer) →
          (Script.within patience (next answer)).Keeps (AskedInOrder body) (ScriptEnded body)
            (past ++ [event]) := by
        intro event heardEvent answer n patience hevent hne hstep
        refine ih answer patience (m := m + n) ?_ ?_ (hpast.append_singleton hne)
        · rw [heard_of_heard hevent]
          exact hcourse.trans hstep
        · rw [transcript_of_heard hevent hlog, heard_of_heard hevent]
      cases action with
      | send statement =>
          simp only [Script.within, Program.keeps_ask]
          refine ⟨⟨m, next, hcourse⟩, fun reply => ?_⟩
          cases reply with
          | overdue => exact ⟨hpast.append_singleton (by simp), .overdue⟩
          | inTime after outcome => exact hear _ rfl (by simp) (.send after outcome (.start _))
      | pause wait =>
          simp only [Script.within]
          split
          · exact ⟨hpast, .overdue⟩
          · refine ih () _ (m := m + (wait + 0)) ?_ hlog hpast
            simpa only [List.append_nil] using hcourse.trans (.pause (.start _))
      | clock =>
          simp only [Script.within, Program.keeps_ask]
          exact ⟨trivial, fun now => hear _ rfl (by simp) (.clock now (.start _))⟩
      | announce hook user =>
          simp only [Script.within, Program.keeps_ask]
          exact ⟨trivial, fun outcome => hear _ rfl (by simp) (.announce outcome (.start _))⟩

/-- The end of a transaction, once its script is over. -/
def conclude (result : Except Failure α) : Service (Except Failure α) :=
  match result with
  | .ok value => do
      match ← Service.send .commit with
      | .ok _ =>
          Service.release false
          return .ok value
      | .error fault =>
          Service.release true
          return .error (.commitFailed fault)
  | .error cause => do
      match ← Service.send .rollback with
      | .ok _ =>
          Service.release false
          return .error cause
      | .error fault =>
          Service.release true
          return .error (.rollbackFailed cause fault)

theorem atomically_eq (limit : Nat) (body : Script α) :
    atomically limit body =
      .ask .checkout fun
        | .error fault => .done (.error (.ofFault fault))
        | .ok () => .ask (.send .begin) fun
          | .error fault => .ask (.release false) fun () => .done (.error (.ofFault fault))
          | .ok _ => .ask (.send (.limit limit)) fun
            | .error fault => .ask (.release true) fun () => .done (.error (.ofFault fault))
            | .ok _ => (Script.within limit body.run).bind conclude := by
  refine congrArg (Program.ask _) (funext fun opened => ?_)
  cases opened with
  | error fault => rfl
  | ok opened =>
      refine congrArg (Program.ask _) (funext fun begun => ?_)
      cases begun with
      | error fault => rfl
      | ok begun =>
          refine congrArg (Program.ask _) (funext fun limited => ?_)
          cases limited <;> rfl

theorem conclude_keeps {body : Script α} {past : List Event} {result : Except Failure α}
    (h : ScriptEnded body past result) :
    (conclude result).Keeps (AskedInOrder body) (EndedTruly body) past := by
  cases result with
  | ok value =>
      refine ⟨⟨value, h⟩, fun committed => ?_⟩
      cases committed with
      | ok answer => exact ⟨trivial, fun _ => ⟨past, answer, List.append_assoc .., h⟩⟩
      | error fault => exact ⟨trivial, fun _ => .inr ⟨past, fault, value, List.append_assoc .., h, rfl⟩⟩
  | error cause =>
      obtain ⟨hpast, hblame⟩ := h
      refine ⟨trivial, fun undone => ?_⟩
      have hundone := hpast.append_singleton (e := ⟨.send .rollback, undone⟩) (by simp)
      cases undone with
      | ok answer => exact ⟨trivial, fun _ => .inl ⟨hundone.append_singleton (by simp), hblame⟩⟩
      | error fault =>
          exact ⟨trivial, fun _ => .inl ⟨hundone.append_singleton (by simp), hblame.rollback fault⟩⟩

/-- Every transaction keeps its contract. -/
theorem atomically_keeps (limit : Nat) (body : Script α) :
    (atomically limit body).Keeps (AskedInOrder body) (EndedTruly body) [] := by
  have hnil : Uncommitted [] := fun _ h => absurd h List.not_mem_nil
  rw [atomically_eq]
  refine ⟨trivial, fun opened => ?_⟩
  have hopened := hnil.append_singleton (e := ⟨.checkout, opened⟩) (by simp)
  cases opened with
  | error fault => exact .inl ⟨hopened, .frame fault⟩
  | ok opened =>
      refine ⟨trivial, fun begun => ?_⟩
      have hbegun := hopened.append_singleton (e := ⟨.send .begin, begun⟩) (by simp)
      cases begun with
      | error fault => exact ⟨trivial, fun _ => .inl ⟨hbegun.append_singleton (by simp), .frame fault⟩⟩
      | ok begun =>
          refine ⟨trivial, fun limited => ?_⟩
          have hlimited := hbegun.append_singleton (e := ⟨.send (.limit limit), limited⟩) (by simp)
          cases limited with
          | error fault =>
              exact ⟨trivial, fun _ => .inl ⟨hlimited.append_singleton (by simp), .frame fault⟩⟩
          | ok limited =>
              refine (Program.keeps_bind _ _).mpr ?_
              exact (within_keeps body.run limit (m := 0) (.start _) rfl hlimited).mono
                (fun _ _ h => h) fun _ _ h => conclude_keeps h

/-- What is sent in a transaction is what its script sends. -/
theorem atomically_sends {P : Statement → Prop} {body : Script α} (h : Script.Sends P body.run) (limit : Nat) :
    (atomically limit body).Keeps
      (fun _ action => (∀ statement patience, action = .sendWithin statement patience → P statement) ∧
        ∀ statement, action ≠ .send (.statement statement))
      (fun _ _ => True) [] := by
  refine (atomically_keeps limit body).mono (fun past action hasked => ⟨?_, ?_⟩) fun _ _ _ => trivial
  · rintro statement patience rfl
    obtain ⟨_, _, hcourse⟩ := hasked
    exact hcourse.sends h
  · rintro statement rfl
    exact hasked

end Passbook
