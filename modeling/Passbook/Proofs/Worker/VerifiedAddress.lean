import Passbook.Proofs.Database.Changes
import Passbook.Proofs.Worker.Handling

/-!
# Whose address is verified

Users register, the worker makes verification records, users are changed and records are confirmed, one
after the other and in any order. A record is made for the address that its user has at that time, and its
code is mailed to no other address. A later change may give the user another address. A confirmation marks
the user without looking at the address once more: what is marked as verified is the address of the record
unless the user was given another one since, and then it is the one that was given last.
-/
namespace Passbook

open Service (Action mailed)
open Server (surroundings)

variable {outside : (action : Action) → action.Answer}

namespace Server

theorem execute_idle {s : Server} (hidle : s.pending? = none) (statement : Statement) :
    (∃ answer effect,
      s.committed.execute ⟨(s.sequences.draw statement).1, s.now⟩ statement = .ok (answer, effect) ∧
      s.execute statement = (.ok answer,
        { s with committed := effect.apply s.committed, sequences := (s.sequences.draw statement).2 })) ∨
    ∃ refusal, s.execute statement =
      (.error (.refused refusal), { s with sequences := (s.sequences.draw statement).2 }) := by
  simp only [execute, hidle, attempt]
  cases hexecute : s.committed.execute ⟨(s.sequences.draw statement).1, s.now⟩ statement with
  | error refusal => exact .inr ⟨refusal, by rfl⟩
  | ok done => exact .inl ⟨done.1, done.2, rfl, by rfl⟩

end Server

namespace Task

/-- What a task makes: a record for its user under the address of the user. -/
structure Makes (task : Task) (db : Database) (record : Verification) : Prop where
  user : ∃ user, db.users.find task.username = some user ∧ record.username = user.username ∧
    record.email = user.email
  unused : record.isUsed = false
  isNew : db.verifications.find record.id = none

/-- What a task does on a server. -/
inductive Leaves (task : Task) (s s' : Server) (past : List Service.Event) : Prop
  | nothing : s'.committed = s.committed → mailed past = [] → Leaves task s s' past
  | record {record : Verification} : task.Makes s.committed record →
      s'.committed = s.committed.put (.verification record) →
      (∀ message ∈ mailed past, ∃ url user, Mail.Asks url user record message) → Leaves task s s' past

variable {base : String} {task : Task} {s : Server}

/-- Mail changes nothing on the server and goes to the address of the record alone. -/
theorem mail_run (user : User) (record : Verification) (s : Server) :
    ((mail base user record).run (surroundings outside) s).2 = s ∧
      ∀ message ∈ mailed ((mail base user record).history (surroundings outside) s),
        ∃ url user, Mail.Asks url user record message := by
  cases hbase : Url.read base.toList with
  | error fault =>
      rw [mail, Mail.welcome_eq_error hbase]
      exact ⟨rfl, fun _ hmem => absurd hmem List.not_mem_nil⟩
  | ok url =>
      obtain ⟨message, hwelcome, hasks⟩ := @Mail.welcome_eq_ok user record base url hbase
      rw [mail, hwelcome]
      simp only [Service.deliver, Service.request, Program.request, Program.bind_eq, Program.ask_bind,
        Program.done_bind, Program.run, Program.history, surroundings]
      cases outside (.deliver message) with
      | error fault => exact ⟨rfl, List.forall_mem_singleton.mpr ⟨url, user, hasks⟩⟩
      | ok => exact ⟨rfl, List.forall_mem_singleton.mpr ⟨url, user, hasks⟩⟩

theorem run_server (base : String) (task : Task) (hidle : s.pending? = none) :
    ((task.process base).run (surroundings outside) s).2.pending? = none ∧
      task.Leaves s ((task.process base).run (surroundings outside) s).2
        ((task.process base).history (surroundings outside) s) := by
  have hselect : s.send (.statement (.selectUser task.username)) =
      (.ok ⟨((s.committed.users.find task.username).map User.toRow).toList, 0⟩, s) := by
    obtain ⟨committed, _, sequences, now⟩ := s
    cases hidle
    rfl
  rw [process_eq]
  simp only [Program.run, Program.history, surroundings, hselect]
  cases hfind : s.committed.users.find task.username with
  | none => exact ⟨hidle, .nothing rfl rfl⟩
  | some user =>
      have hresult : (Query.user task.username).result (.ok ⟨((some user).map User.toRow).toList, 0⟩) =
          .ok user := rfl
      simp only [hresult, Program.run, Program.history, surroundings, Service.release, Service.request,
        Program.request, Program.ask_bind, Program.done_bind]
      set asked : NewVerification :=
        ⟨user.username, user.email, SecretCode.ofDraws (outside .codeDraws)⟩
      rcases Server.execute_idle hidle (.insertVerification asked) with
        ⟨answer, effect, hexecute, heq⟩ | ⟨refusal, heq⟩
      · simp only [Database.execute, Database.insertVerification, Database.insert_eq_ok] at hexecute
        obtain ⟨hfree, -, rfl, rfl⟩ := hexecute
        set record : Verification := ⟨(s.sequences.draw (.insertVerification asked)).1, user.username,
          user.email, asked.secretCode, false, s.now, ⟨s.now.micros + 900000000⟩⟩ with hrecord
        have hstored : s.send (.statement (.insertVerification asked)) = (.ok ⟨[record.toRow], 1⟩,
            { s with committed := s.committed.put (.verification record),
                     sequences := (s.sequences.draw (.insertVerification asked)).2 }) := heq
        have hread : (Query.createVerification asked).result (.ok ⟨[record.toRow], 1⟩) = .ok record := rfl
        simp only [hstored, hread, if_false, Bool.false_eq_true]
        obtain ⟨hrun, hmailed⟩ := @mail_run outside base user record
          { s with committed := s.committed.put (.verification record),
                   sequences := (s.sequences.draw (.insertVerification asked)).2 }
        rw [hrun]
        have hmakes : task.Makes s.committed record :=
          ⟨⟨user, hfind, rfl, rfl⟩, rfl, Option.map_eq_none_iff.mp hfree⟩
        exact ⟨hidle, .record hmakes rfl hmailed⟩
      · have hrefused : s.send (.statement (.insertVerification asked)) =
            (.error (.refused refusal),
              { s with sequences := (s.sequences.draw (.insertVerification asked)).2 }) :=
          heq
        simp only [hrefused, Query.result, Program.run, Program.history, if_false, Bool.false_eq_true]
        exact ⟨hidle, .nothing rfl rfl⟩

end Task

/-- An operation on users and the records of their addresses. -/
inductive Act where
  | register (limit : Nat) (user : NewUser) (hook : Hook)
  | work (base : String) (task : Task)
  | update (change : UserChange)
  | confirm (limit : Nat) (confirmation : Confirmation)

/-- An operation, the time of the database meanwhile, and what is answered by others than the database. -/
structure Turn where
  act : Act
  now : Instant
  outside : (action : Action) → action.Answer

/-- The server at some time. -/
def Server.at (s : Server) (now : Instant) : Server := { s with now }

def Server.attend (s : Server) (turn : Turn) : Server :=
  match turn.act with
  | .register limit user hook =>
      ((user.register limit hook).run (surroundings turn.outside) (s.at turn.now)).2
  | .work base task => ((task.process base).run (surroundings turn.outside) (s.at turn.now)).2
  | .update change => ((s.at turn.now).update turn.outside change).2
  | .confirm limit confirmation =>
      ((confirmation.execute limit).run (surroundings turn.outside) (s.at turn.now)).2

namespace Turn

/-- The address that a turn gives a user: it is a change of that user, names an address and succeeds. -/
def given? (turn : Turn) (username : String) (s : Server) : Option String :=
  match turn.act with
  | .update change =>
      match ((s.at turn.now).update turn.outside change).1 with
      | .ok _ => if change.username = username then change.email else none
      | .error _ => none
  | _ => none

/-- Whether a turn stores a record: the worker makes it for the address that its user has at that time, and
mails its code to no other address. -/
def Stores (turn : Turn) (s : Server) (record : Verification) : Prop :=
  ∃ base task, turn.act = .work base task ∧ task.Makes s.committed record ∧
    ∀ message ∈ mailed ((task.process base).history (surroundings turn.outside) (s.at turn.now)),
      ∃ url user, Mail.Asks url user record message

/-- What a turn does to users and records. -/
structure Advances (turn : Turn) (s s' : Server) : Prop where
  idle : s'.pending? = none
  users : ∀ username user, s.committed.users.find username = some user →
    ∃ user', s'.committed.users.find username = some user' ∧
      user'.email = (turn.given? username s).getD user.email
  records : ∀ id record', s'.committed.verifications.find id = some record' →
    (∃ record, s.committed.verifications.find id = some record ∧
      (record' = record ∨ record' = record.used)) ∨ turn.Stores s record'

variable {turn : Turn} {s s' : Server}

theorem Advances.of_same (hidle : s'.pending? = none) (hsame : s'.committed = s.committed)
    (hgiven : ∀ username, turn.given? username s = none) : turn.Advances s s' where
  idle := hidle
  users username user hfind := ⟨user, by rwa [hsame], by rw [hgiven, Option.getD_none]⟩
  records id record' hfind := .inl ⟨record', by rwa [← hsame], .inl rfl⟩

section
variable {now : Instant} (hidle : (s.at now).pending? = none)
include hidle

theorem register_advances (limit : Nat) (user : NewUser) (hook : Hook) :
    Advances ⟨.register limit user hook, now, outside⟩ s
      ((user.register limit hook).run (surroundings outside) (s.at now)).2 := by
  have hpending : ((user.register limit hook).run (surroundings outside) (s.at now)).2.pending? = none :=
    Server.run_atomically_idle limit (user.script hook) hidle
  cases hresult : ((user.register limit hook).run (surroundings outside) (s.at now)).1 with
  | error failure => exact .of_same hpending (Server.run_atomically_error hidle hresult) fun _ => rfl
  | ok stored =>
      obtain ⟨hnew, hcommitted⟩ := NewUser.run_server hidle hresult
      refine ⟨hpending, fun username other hfind => ⟨other, ?_, rfl⟩, fun id record' hfind => .inl ?_⟩
      · have hne : username ≠ stored.username := by
          rintro rfl
          cases hnew.symm.trans hfind
        rw [hcommitted]
        exact (Table.find_put ..).trans ((if_neg hne).trans hfind)
      · rw [hcommitted] at hfind
        exact ⟨record', hfind, .inl rfl⟩

theorem work_advances (base : String) (task : Task) :
    Advances ⟨.work base task, now, outside⟩ s
      ((task.process base).run (surroundings outside) (s.at now)).2 := by
  obtain ⟨hpending, hleaves⟩ := @Task.run_server outside (s.at now) base task hidle
  cases hleaves with
  | nothing hcommitted => exact .of_same hpending hcommitted fun _ => rfl
  | @record record hmakes hcommitted hmailed =>
      refine ⟨hpending, fun username user hfind => ⟨user, by rwa [hcommitted], rfl⟩,
        fun id record' hfind => ?_⟩
      rw [hcommitted] at hfind
      have hput : (s.committed.verifications.put record).find id = some record' := hfind
      rw [Table.find_put] at hput
      split at hput
      · cases hput
        exact .inr ⟨base, task, rfl, hmakes, hmailed⟩
      · exact .inl ⟨record', hput, .inl rfl⟩

theorem update_advances (change : UserChange) :
    Advances ⟨.update change, now, outside⟩ s ((s.at now).update outside change).2 := by
  have hgiven : ∀ username, given? ⟨.update change, now, outside⟩ username s =
      match ((s.at now).update outside change).1 with
      | .ok _ => if change.username = username then change.email else none
      | .error _ => none := fun _ => rfl
  rcases Server.update_cases outside hidle change with ⟨-, heq⟩ | ⟨-, -, heq⟩ | ⟨old, hfind, -, heq⟩
  · rw [heq] at hgiven ⊢
    exact .of_same hidle rfl hgiven
  · rw [heq] at hgiven ⊢
    exact .of_same hidle rfl hgiven
  · rw [heq] at hgiven ⊢
    refine ⟨hidle, fun username user huser => ?_, fun id record' hrecord => .inl ⟨record', hrecord, .inl rfl⟩⟩
    have hfound : (s.committed.users.put (Database.changed old change)).find username =
        if username = change.username then some (Database.changed old change) else some user := by
      rw [Table.find_put, Database.username_changed, (Table.find_eq_some.mp hfind).2]
      exact if_congr Iff.rfl rfl huser
    rw [hgiven]
    by_cases hname : username = change.username
    · obtain rfl : user = old := Option.some.inj (huser.symm.trans (hname ▸ hfind))
      refine ⟨_, hfound.trans (if_pos hname), ?_⟩
      simp only [if_pos hname.symm]
      rfl
    · refine ⟨_, hfound.trans (if_neg hname), ?_⟩
      simp only [if_neg (Ne.symm hname), Option.getD_none]

theorem confirm_advances (limit : Nat) (confirmation : Confirmation) :
    Advances ⟨.confirm limit confirmation, now, outside⟩ s
      ((confirmation.execute limit).run (surroundings outside) (s.at now)).2 := by
  have hpending : ((confirmation.execute limit).run (surroundings outside) (s.at now)).2.pending? = none :=
    Server.run_atomically_idle limit confirmation.script hidle
  cases hresult : ((confirmation.execute limit).run (surroundings outside) (s.at now)).1 with
  | error failure => exact .of_same hpending (Server.run_atomically_error hidle hresult) fun _ => rfl
  | ok receipt =>
      obtain ⟨_, huses⟩ := Confirmation.run_server hidle hresult
      refine ⟨hpending, fun username user hfind => ?_, fun id record' hfind => .inl ?_⟩
      · obtain ⟨hmem, rfl⟩ := Table.find_eq_some.mp hfind
        refine ⟨if user.username = receipt.record.username then user.verified else user, ?_, ?_⟩
        · refine Table.find_eq_some.mpr ⟨?_, by split <;> rfl⟩
          rw [huses.users]
          exact List.mem_map_of_mem hmem
        · split <;> rfl
      · obtain ⟨hmem, rfl⟩ := Table.find_eq_some.mp hfind
        rw [huses.verifications] at hmem
        obtain ⟨record, hrecord, rfl⟩ := List.mem_map.mp hmem
        refine ⟨record, Table.find_eq_some.mpr ⟨hrecord, by split <;> rfl⟩, ?_⟩
        split
        · exact .inr rfl
        · exact .inl rfl

end

/-- Every turn advances the server. -/
theorem attend_advances (turn : Turn) (hidle : s.pending? = none) : turn.Advances s (s.attend turn) := by
  obtain ⟨act, now, outside⟩ := turn
  have hstart : (s.at now).pending? = none := hidle
  cases act with
  | register limit user hook => exact register_advances hstart limit user hook
  | work base task => exact work_advances hstart base task
  | update change => exact update_advances hstart change
  | confirm limit confirmation => exact confirm_advances hstart limit confirmation

end Turn

namespace Turn

/-- The addresses that turns give a user, in this order. -/
def given (username : String) : List Turn → Server → List String
  | [], _ => []
  | turn :: later, s => (turn.given? username s).toList ++ given username later (s.attend turn)

theorem given_append (username : String) (turns later : List Turn) (s : Server) :
    given username (turns ++ later) s =
      given username turns s ++ given username later (turns.foldl Server.attend s) := by
  induction turns generalizing s with
  | nil => rfl
  | cons turn turns ih => simp only [List.cons_append, given, ih, List.foldl_cons, List.append_assoc]

/-- The address of a user who had some address and was given others since. -/
def address (email : String) (given : List String) : String := given.getLast?.getD email

theorem address_append_toList (email : String) (given : List String) (given? : Option String) :
    address email (given ++ given?.toList) = given?.getD (address email given) := by
  cases given? with
  | none => rw [Option.toList_none, List.append_nil, Option.getD_none]
  | some last => simp [address]

end Turn

/-- Where a record comes from: one of the turns has stored it, and its user has the address of the record
unless later turns gave another one. -/
def Verification.Traced (record : Verification) (start : Server) (turns : List Turn) : Prop :=
  ∃ before turn after, turns = before ++ turn :: after ∧
    (∃ stored, turn.Stores (before.foldl Server.attend start) stored ∧
      (record = stored ∨ record = stored.used)) ∧
    ∃ user, (turns.foldl Server.attend start).committed.users.find record.username = some user ∧
      user.email = Turn.address record.email
        (Turn.given record.username after ((before ++ [turn]).foldl Server.attend start))

namespace Verification.Traced

variable {start : Server} {turns : List Turn} {turn : Turn} {record record' : Verification}

/-- A record stays traced when one more turn keeps it or marks it as used. -/
theorem step (h : record.Traced start turns)
    (hadvances : turn.Advances (turns.foldl Server.attend start) ((turns ++ [turn]).foldl Server.attend start))
    (hrecord : record' = record ∨ record' = record.used) : record'.Traced start (turns ++ [turn]) := by
  obtain ⟨before, made, after, rfl, ⟨stored, hstores, horigin⟩, user, huser, hemail⟩ := h
  obtain ⟨user', huser', hemail'⟩ := hadvances.users _ user huser
  have hname : record'.username = record.username := by rcases hrecord with rfl | rfl <;> rfl
  have haddress : record'.email = record.email := by rcases hrecord with rfl | rfl <;> rfl
  refine ⟨before, made, after ++ [turn], by simp, ⟨stored, hstores, ?_⟩, user', hname ▸ huser', ?_⟩
  · rcases hrecord with rfl | rfl <;> rcases horigin with rfl | rfl
    · exact .inl rfl
    · exact .inr rfl
    · exact .inr rfl
    · exact .inr rfl
  · have hstart : after.foldl Server.attend ((before ++ [made]).foldl Server.attend start) =
        (before ++ made :: after).foldl Server.attend start := by
      rw [← List.foldl_append, List.append_assoc, List.singleton_append]
    rw [hemail', hname, haddress, Turn.given_append, hstart, Turn.given, Turn.given, List.append_nil,
      Turn.address_append_toList, hemail]

/-- A record is traced to the turn that has just stored it. -/
theorem of_stores
    (hadvances : turn.Advances (turns.foldl Server.attend start) ((turns ++ [turn]).foldl Server.attend start))
    (hstores : turn.Stores (turns.foldl Server.attend start) record) :
    record.Traced start (turns ++ [turn]) := by
  obtain ⟨base, task, hact, hmakes, hmailed⟩ := hstores
  obtain ⟨user, hfind, hname, haddress⟩ := hmakes.user
  obtain ⟨-, htask⟩ := Table.find_eq_some.mp hfind
  obtain ⟨user', huser', hemail'⟩ := hadvances.users _ user hfind
  have hgiven : turn.given? task.username (turns.foldl Server.attend start) = none := by
    rw [Turn.given?, hact]
  refine ⟨turns, turn, [], rfl, ⟨record, ⟨base, task, hact, hmakes, hmailed⟩, .inl rfl⟩, user',
    hname ▸ htask ▸ huser', ?_⟩
  rw [hemail', hgiven, Option.getD_none, haddress]
  rfl

end Verification.Traced

/-- After any turns no transaction is open, and every record is traced to the turn that has stored it. -/
theorem Server.foldl_attend_traced {start : Server} (hidle : start.pending? = none)
    (hnew : start.committed.verifications.rows = []) (turns : List Turn) :
    (turns.foldl Server.attend start).pending? = none ∧
      ∀ id record, (turns.foldl Server.attend start).committed.verifications.find id = some record →
        record.Traced start turns := by
  induction turns using List.reverseRecOn with
  | nil =>
      refine ⟨hidle, fun id record hfind => ?_⟩
      have hmem : record ∈ start.committed.verifications.rows := (Table.find_eq_some.mp hfind).1
      rw [hnew] at hmem
      cases hmem
  | append_singleton turns turn ih =>
      have hadvances : turn.Advances (turns.foldl Server.attend start)
          ((turns ++ [turn]).foldl Server.attend start) := by
        rw [List.foldl_append]
        exact Turn.attend_advances turn ih.1
      refine ⟨hadvances.idle, fun id record' hfind => ?_⟩
      rcases hadvances.records id record' hfind with ⟨record, hrecord, hsame⟩ | hstores
      · exact (ih.2 id record hrecord).step hadvances hsame
      · exact .of_stores hadvances hstores

/-- What a confirmation says of an address. -/
structure ConfirmationReceipt.Attests (receipt : ConfirmationReceipt) (start : Server) (turns : List Turn)
    (s' : Server) : Prop where
  /-- the user whom the record names is marked as verified -/
  marked : receipt.user.username = receipt.record.username ∧ receipt.user.isEmailVerified = true ∧
    s'.committed.users.find receipt.user.username = some receipt.user
  /-- the record was stored by one of the turns, for the address that the user had then; the user has that
  address unless later turns gave another one, and then the last of those -/
  address : ∃ before turn after, turns = before ++ turn :: after ∧
    (∃ stored, turn.Stores (before.foldl Server.attend start) stored ∧ receipt.record = stored.used) ∧
    receipt.user.email = Turn.address receipt.record.email
      (Turn.given receipt.user.username after ((before ++ [turn]).foldl Server.attend start))

/-- Whenever a confirmation succeeds, the address of the user who is marked as verified is the one to which
the code was mailed, unless the user was given another one since. -/
theorem Confirmation.attests {start : Server} (hidle : start.pending? = none)
    (hnew : start.committed.verifications.rows = []) (turns : List Turn) (now : Instant) {limit : Nat}
    {confirmation : Confirmation} {receipt : ConfirmationReceipt}
    (h : ((confirmation.execute limit).run (surroundings outside)
      ((turns.foldl Server.attend start).at now)).1 = .ok receipt) :
    receipt.Attests start turns ((confirmation.execute limit).run (surroundings outside)
      ((turns.foldl Server.attend start).at now)).2 := by
  obtain ⟨hpending, htraced⟩ := Server.foldl_attend_traced hidle hnew turns
  have hstart : ((turns.foldl Server.attend start).at now).pending? = none := hpending
  obtain ⟨_, huses⟩ := Confirmation.run_server hstart h
  obtain ⟨record, hfind, hunused, -, -, hused⟩ := huses.record
  obtain ⟨user, huser, hverified⟩ := huses.user
  obtain ⟨huserMem, huserName⟩ := Table.find_eq_some.mp huser
  have hname : receipt.user.username = receipt.record.username := by rw [hverified]; exact huserName
  constructor
  case marked =>
    refine ⟨hname, by rw [hverified]; rfl, Table.find_eq_some.mpr ⟨?_, rfl⟩⟩
    rw [huses.users]
    refine List.mem_map.mpr ⟨user, huserMem, ?_⟩
    rw [if_pos huserName, hverified]
  case address =>
    obtain ⟨before, turn, after, hturns, ⟨stored, hstores, horigin⟩, owner, howner, hemail⟩ :=
      htraced _ record hfind
    refine ⟨before, turn, after, hturns, ⟨stored, hstores, ?_⟩, ?_⟩
    · rcases horigin with rfl | rfl
      · exact hused
      · cases hunused
    · have husername : receipt.record.username = record.username := by rw [hused]; rfl
      obtain rfl : user = owner := Option.some.inj (huser.symm.trans (husername ▸ howner))
      rw [hname, husername]
      rw [hverified, hused]
      exact hemail

namespace Turn

/-- Alice registers, a record is made for her, and then she is given another address. -/
def movedAway : List Turn := [
  ⟨.register 1000 ⟨"alice", "digest", "Alice Liddell", "alice@old.example"⟩ .enqueue, ⟨0⟩, Server.calm⟩,
  ⟨.work "https://bank.example/api/v1/verify_email" ⟨"alice"⟩, ⟨0⟩, Server.calm⟩,
  ⟨.update { username := "alice", email := some "alice@new.example" }, ⟨0⟩, Server.calm⟩]

/-- What she presents in the end, with the code that was drawn for the record. -/
def presented : Confirmation := ⟨1, SecretCode.ofDraws (Server.calm .codeDraws)⟩

def receipt : ConfirmationReceipt where
  user := ⟨"alice", "digest", "Alice Liddell", "alice@new.example", ⟨-62135596800000000⟩, true, ⟨0⟩⟩
  record := ⟨1, "alice", "alice@old.example", presented.secretCode, true, ⟨0⟩, ⟨900000000⟩⟩

theorem run_movedAway :
    ((presented.execute 1000).run (surroundings Server.calm)
      ((movedAway.foldl Server.attend { committed := {} }).at ⟨0⟩)).1 = .ok receipt := by
  decide +kernel

end Turn

/-- The confirmation of a code that was mailed to the old address marks the new one as verified. -/
theorem Confirmation.marks_moved_address :
    ((Turn.presented.execute 1000).run (surroundings Server.calm)
        ((Turn.movedAway.foldl Server.attend { committed := {} }).at ⟨0⟩)).1 = .ok Turn.receipt ∧
      Turn.receipt.user.isEmailVerified = true ∧
      Turn.receipt.user.email ≠ Turn.receipt.record.email :=
  ⟨Turn.run_movedAway, rfl, by decide⟩

/-- The address of Alice is then the one that she was given behind the turn that has stored her record. -/
theorem Confirmation.attests_movedAway :
    Turn.receipt.Attests { committed := {} } Turn.movedAway
      ((Turn.presented.execute 1000).run (surroundings Server.calm)
        ((Turn.movedAway.foldl Server.attend { committed := {} }).at ⟨0⟩)).2 :=
  Confirmation.attests rfl rfl Turn.movedAway ⟨0⟩ Turn.run_movedAway

end Passbook
