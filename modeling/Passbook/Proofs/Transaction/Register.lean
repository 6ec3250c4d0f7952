import Passbook.Proofs.Transaction.Commits
import Passbook.TaskQueue

/-!
# What a registration does

A registration announces its user at most once, after the database has answered the INSERT with a row,
and it is the user of that row who is announced. A user who was not announced, or was refused, is rolled
back without a COMMIT. A user who was accepted is followed by COMMIT, so the result is that user, or the
failure of COMMIT. All of this holds whatever is answered, by the database as well as by the hook.
-/
namespace Passbook

open Service (Event commits Uncommitted)

/-- A user who was announced to a hook, with what the hook said. -/
structure Announcement where
  hook : Hook
  user : User
  outcome : Except String Unit

/-- The task that the queue has accepted with an announcement. -/
def Announcement.task? : Announcement → Option Task
  | ⟨.enqueue, user, .ok ()⟩ => some ⟨user.username⟩
  | _ => none

namespace Service

def Event.announcement? : Event → Option Announcement
  | ⟨.announce hook user, outcome⟩ => some ⟨hook, user, outcome⟩
  | _ => none

def announcements (past : List Event) : List Announcement := past.filterMap Event.announcement?

/-- The tasks that the queue has accepted, in this order. -/
def acceptedTasks (past : List Event) : List Task := (announcements past).filterMap Announcement.task?

theorem announcements_append_singleton {past : List Event} {e : Event} (h : e.announcement? = none) :
    announcements (past ++ [e]) = announcements past := by
  rw [announcements, List.filterMap_append, List.filterMap_cons, h, List.filterMap_nil, List.append_nil,
    announcements]

theorem announcements_append_announce {past : List Event} (h : announcements past = []) (hook : Hook)
    (user : User) (said : Except String Unit) :
    announcements (past ++ [⟨.announce hook user, said⟩]) = [⟨hook, user, said⟩] := by
  rw [announcements, List.filterMap_append]
  exact congrArg (· ++ _) h

/-- Nobody has been announced, and no COMMIT has been asked for. -/
structure Untold (past : List Event) : Prop where
  uncommitted : Uncommitted past
  unannounced : announcements past = []

theorem Untold.append_singleton {past : List Event} (h : Untold past) {e : Event}
    (hcommit : e.1 ≠ .send .commit) (hannounce : e.announcement? = none) : Untold (past ++ [e]) where
  uncommitted := h.uncommitted.append_singleton hcommit
  unannounced := (announcements_append_singleton hannounce).trans h.unannounced

end Service

open Service (announcements acceptedTasks Untold announcements_append_singleton
  announcements_append_announce)

/-- Whether a result leaves it possible that the transaction has taken effect. -/
def MayHaveCommitted {α : Type} : Except Failure α → Prop
  | .ok _ => True
  | .error failure => ∃ fault, failure = .commitFailed fault

/-- Whether a result reports a refusal of the hook, perhaps together with the failure to undo what had
been done. -/
def ReportsRefusal {α : Type} (reason : String) (result : Except Failure α) : Prop :=
  result = .error (.afterCreate reason) ∨
    ∃ fault, result = .error (.rollbackFailed (.afterCreate reason) fault)

theorem ReportsRefusal.not_mayHaveCommitted {α : Type} {reason : String} {result : Except Failure α}
    (h : ReportsRefusal reason result) : ¬MayHaveCommitted result := by
  rcases h with rfl | ⟨fault, rfl⟩ <;> rintro ⟨fault', h⟩ <;> cases h

namespace NewUser

/-- Whether the database has answered the INSERT of a user with a row that reads as `stored`. -/
def StoredAs (user : NewUser) (past : List Event) (stored : User) : Prop :=
  ∃ patience after answer,
    ⟨.sendWithin (.insertUser user) patience, .inTime after (.ok answer)⟩ ∈ past ∧
      answer.one User.ofRow = .ok stored

inductive Registers (user : NewUser) (hook : Hook) (past : List Event) (result : Except Failure User) :
    Prop
  | unannounced : announcements past = [] → commits past = [] → ¬MayHaveCommitted result →
      Registers user hook past result
  | refused {stored reason} : announcements past = [⟨hook, stored, .error reason⟩] →
      user.StoredAs past stored → commits past = [] → ReportsRefusal reason result →
      Registers user hook past result
  | accepted {stored} : announcements past = [⟨hook, stored, .ok ()⟩] → user.StoredAs past stored →
      (result = .ok stored ∨ ∃ fault, result = .error (.commitFailed fault)) →
      Registers user hook past result

/-- What the script of a registration has come to when it is over. -/
inductive Ended (user : NewUser) (hook : Hook) (past : List Event) : Except Failure User → Prop
  | unannounced {failure} : announcements past = [] → (∀ fault, failure ≠ .commitFailed fault) →
      Ended user hook past (.error failure)
  | refused {stored reason} : announcements past = [⟨hook, stored, .error reason⟩] →
      user.StoredAs past stored → Ended user hook past (.error (.afterCreate reason))
  | accepted {stored} : announcements past = [⟨hook, stored, .ok ()⟩] → user.StoredAs past stored →
      Ended user hook past (.ok stored)

variable {user : NewUser} {hook : Hook} {past : List Event}

theorem StoredAs.append {stored : User} (h : user.StoredAs past stored) (later : List Event) :
    user.StoredAs (past ++ later) stored := by
  obtain ⟨patience, after, answer, hmem, hread⟩ := h
  exact ⟨patience, after, answer, List.mem_append_left _ hmem, hread⟩

theorem script_run (user : NewUser) (hook : Hook) :
    (user.script hook).run = .ask (.send (.insertUser user)) fun outcome =>
      match (Query.createUser user).result outcome with
      | .error failure => .done (.error failure)
      | .ok stored => .ask (.announce hook stored) fun
        | .ok () => .done (.ok stored)
        | .error reason => .done (.error (.afterCreate reason)) := by
  rw [script, Script.run_query_bind]
  refine congrArg (Program.ask _) (funext fun outcome => ?_)
  cases (Query.createUser user).result outcome with
  | error failure => rfl
  | ok stored => exact Script.run_announce_bind hook stored _

theorem within_ended (user : NewUser) (hook : Hook) (patience : Nat) (hpast : Untold past) :
    (Script.within patience (user.script hook).run).Keeps (fun _ _ => True)
      (fun past result => Uncommitted past ∧ user.Ended hook past result) past := by
  rw [script_run, Script.within]
  refine ⟨trivial, fun reply => ?_⟩
  have hasked : Untold (past ++ [⟨.sendWithin (.insertUser user) patience, reply⟩]) :=
    hpast.append_singleton (by simp) rfl
  cases reply with
  | overdue =>
      exact ⟨hasked.uncommitted, .unannounced hasked.unannounced fun _ h => Failure.noConfusion h⟩
  | inTime after outcome =>
      dsimp only
      cases hresult : (Query.createUser user).result outcome with
      | error failure =>
          obtain ⟨fault, rfl⟩ := Query.result_eq_error hresult
          exact ⟨hasked.uncommitted, .unannounced hasked.unannounced fun fault' =>
            Failure.ofFault_ne_commitFailed fault fault'⟩
      | ok stored =>
          obtain ⟨answer, rfl, hread⟩ := Query.result_eq_ok hresult
          have hstored : user.StoredAs (past ++ [⟨.sendWithin (.insertUser user) patience,
              .inTime after (.ok answer)⟩]) stored := ⟨patience, after, answer, by simp, hread⟩
          refine ⟨trivial, fun said => ?_⟩
          have huncommitted := hasked.uncommitted.append_singleton
            (e := ⟨.announce hook stored, said⟩) (by simp)
          have hannounced := announcements_append_announce hasked.unannounced hook stored said
          cases said with
          | ok => exact ⟨huncommitted, .accepted hannounced (hstored.append _)⟩
          | error reason => exact ⟨huncommitted, .refused hannounced (hstored.append _)⟩

/-- COMMIT or ROLLBACK and the release of the connection announce nobody. -/
theorem conclude_registers {ended : Except Failure User} (hpast : Uncommitted past)
    (h : user.Ended hook past ended) :
    (conclude ended).Keeps (fun _ _ => True) (user.Registers hook) past := by
  have hannounced : ∀ (command : Command) (answer : Except StorageFault Answer) (inTransaction : Bool),
      announcements (past ++ [⟨.send command, answer⟩] ++ [⟨.release inTransaction, ()⟩]) =
        announcements past := fun command answer inTransaction =>
    (announcements_append_singleton rfl).trans (announcements_append_singleton rfl)
  cases h with
  | accepted hannouncements hstored =>
      refine ⟨trivial, fun committed => ?_⟩
      cases committed with
      | ok answer =>
          exact ⟨trivial, fun _ => .accepted ((hannounced ..).trans hannouncements)
            ((hstored.append _).append _) (.inl rfl)⟩
      | error fault =>
          exact ⟨trivial, fun _ => .accepted ((hannounced ..).trans hannouncements)
            ((hstored.append _).append _) (.inr ⟨fault, rfl⟩)⟩
  | unannounced hannouncements hfailure =>
      refine ⟨trivial, fun undone => ?_⟩
      have hcommits := hpast.append_singleton (e := ⟨.send .rollback, undone⟩) (by simp)
      cases undone with
      | ok answer =>
          exact ⟨trivial, fun _ => .unannounced ((hannounced ..).trans hannouncements)
            (hcommits.append_singleton (by simp)).commits_eq fun ⟨fault, h⟩ => hfailure fault h⟩
      | error fault =>
          exact ⟨trivial, fun _ => .unannounced ((hannounced ..).trans hannouncements)
            (hcommits.append_singleton (by simp)).commits_eq fun ⟨_, h⟩ => nomatch h⟩
  | refused hannouncements hstored =>
      refine ⟨trivial, fun undone => ?_⟩
      have hcommits := hpast.append_singleton (e := ⟨.send .rollback, undone⟩) (by simp)
      cases undone with
      | ok answer =>
          exact ⟨trivial, fun _ => .refused ((hannounced ..).trans hannouncements)
            ((hstored.append _).append _) (hcommits.append_singleton (by simp)).commits_eq (.inl rfl)⟩
      | error fault =>
          exact ⟨trivial, fun _ => .refused ((hannounced ..).trans hannouncements)
            ((hstored.append _).append _) (hcommits.append_singleton (by simp)).commits_eq
            (.inr ⟨fault, rfl⟩)⟩

/-- Every registration comes to its result in one of the three ways. -/
theorem register_registers (limit : Nat) (user : NewUser) (hook : Hook) :
    (user.register limit hook).Keeps (fun _ _ => True) (user.Registers hook) [] := by
  have unopened : ∀ {past : List Event} (fault : StorageFault), Untold past →
      user.Registers hook past (.error (.ofFault fault)) := fun fault hpast =>
    .unannounced hpast.unannounced hpast.uncommitted.commits_eq fun ⟨fault', h⟩ =>
      Failure.ofFault_ne_commitFailed fault fault' h
  have hnil : Untold [] := ⟨fun _ h => absurd h List.not_mem_nil, rfl⟩
  rw [register, atomically_eq]
  refine ⟨trivial, fun opened => ?_⟩
  have hopened := hnil.append_singleton (e := ⟨.checkout, opened⟩) (by simp) rfl
  cases opened with
  | error fault => exact unopened fault hopened
  | ok opened =>
      refine ⟨trivial, fun begun => ?_⟩
      have hbegun := hopened.append_singleton (e := ⟨.send .begin, begun⟩) (by simp) rfl
      cases begun with
      | error fault => exact ⟨trivial, fun _ => unopened fault (hbegun.append_singleton (by simp) rfl)⟩
      | ok begun =>
          refine ⟨trivial, fun limited => ?_⟩
          have hlimited := hbegun.append_singleton (e := ⟨.send (.limit limit), limited⟩) (by simp) rfl
          cases limited with
          | error fault => exact ⟨trivial, fun _ => unopened fault (hlimited.append_singleton (by simp) rfl)⟩
          | ok limited =>
              refine (Program.keeps_bind _ _).mpr ?_
              exact (within_ended user hook limit hlimited).mono (fun _ _ h => h)
                fun past result h => conclude_registers h.1 h.2

end NewUser

end Passbook
