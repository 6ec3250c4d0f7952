import Passbook.Proofs.Database.Server
import Passbook.Proofs.Transaction.ConfirmEmail
import Passbook.Proofs.Transaction.Register

/-!
# Transactions on a server of one's own

A transaction that succeeds leaves the tables as its draft leaves them: what its script was answered can be
carried out once more from the tables that the transaction has found. Any other transaction leaves the
tables as they were. From this it is read what a registration and a confirmation do.
-/
namespace Passbook

open Script (Course Heard exchanges)

variable {α : Type} {outside : (action : Service.Action) → action.Answer}

namespace Server

theorem execute_active {s : Server} {tables : Database} (hactive : s.pending? = some (.active tables))
    (statement : Statement) :
    (∃ stamp answer effect, tables.execute stamp statement = .ok (answer, effect) ∧
      (s.execute statement).1 = .ok answer ∧
      (s.execute statement).2.pending? = some (.active (effect.apply tables))) ∨
    ∃ fault, (s.execute statement).1 = .error fault := by
  simp only [execute, hactive, attempt]
  cases hexecute : tables.execute ⟨(s.sequences.draw statement).1, s.now⟩ statement with
  | error refusal => exact .inr ⟨_, rfl⟩
  | ok done =>
      obtain ⟨answer, effect⟩ := done
      exact .inl ⟨_, answer, effect, hexecute, rfl, rfl⟩

/-- The course of a script that succeeds, and its draft if none of its statements has failed. -/
theorem within_replays (patience : Nat) (p : Script.Body α) {s : Server} {value : α}
    (h : ((Script.within patience p).run (surroundings outside) s).1 = .ok value) :
    ∃ heard millis, Course p heard millis (.done (.ok value)) ∧
      ∀ tables log, s.pending? = some (.active tables) → exchanges heard = some log →
        ∃ draft : Draft, draft.exchanges = log ∧ draft.Replays tables ∧
          ((Script.within patience p).run (surroundings outside) s).2.pending? =
            some (.active (tables.after draft)) := by
  induction p generalizing patience s with
  | done result =>
      simp only [Script.within, Program.run] at h
      subst h
      refine ⟨[], 0, .start _, fun tables log hactive hlog => ?_⟩
      cases hlog
      exact ⟨[], rfl, trivial, by simpa only [Script.within, Program.run, Database.after_nil] using hactive⟩
  | ask action next ih =>
      cases action with
      | send statement =>
          simp only [Script.within, Program.run, surroundings] at h ⊢
          obtain ⟨heard, millis, hcourse, hdraft⟩ := ih _ _ h
          refine ⟨_, _, .send 0 _ hcourse, fun tables log hactive hlog => ?_⟩
          rcases execute_active hactive statement with
            ⟨stamp, answer, effect, hexecute, hanswer, hpending⟩ | ⟨fault, hfault⟩
          · rw [hanswer, exchanges] at hlog
            obtain ⟨log', hlog', rfl⟩ := Option.map_eq_some_iff.mp hlog
            obtain ⟨draft, hexchanges, hreplays, hleft⟩ := hdraft _ log' hpending hlog'
            refine ⟨⟨statement, answer, effect⟩ :: draft, ?_, ⟨.inr ⟨stamp, hexecute⟩, hreplays⟩, hleft⟩
            exact congrArg _ hexchanges
          · rw [hfault, exchanges] at hlog
            cases hlog
      | pause wait =>
          simp only [Script.within] at h ⊢
          split at h
          · cases h
          · next hwait =>
              rw [if_neg hwait]
              obtain ⟨heard, millis, hcourse, hdraft⟩ := ih () _ h
              exact ⟨heard, _, .pause hcourse, hdraft⟩
      | clock =>
          obtain ⟨heard, millis, hcourse, hdraft⟩ := ih _ patience h
          exact ⟨_, _, .clock _ hcourse, hdraft⟩
      | announce hook user =>
          obtain ⟨heard, millis, hcourse, hdraft⟩ := ih _ patience h
          exact ⟨_, _, .announce _ hcourse, hdraft⟩

variable {limit : Nat} {body : Script α} {s : Server}

theorem run_atomically_idle (limit : Nat) (body : Script α) (hidle : s.pending? = none) :
    ((atomically limit body).run (surroundings outside) s).2.pending? = none := by
  rw [run_atomically limit body hidle]
  dsimp only
  split
  · simp only [send]
    split <;> rfl
  · rfl

/-- A transaction that does not succeed leaves the tables as they were. -/
theorem run_atomically_error (hidle : s.pending? = none) {failure : Failure}
    (h : ((atomically limit body).run (surroundings outside) s).1 = .error failure) :
    ((atomically limit body).run (surroundings outside) s).2.committed = s.committed := by
  rw [run_atomically limit body hidle] at h
  exact (run_atomically_of_error hidle h).2.1

/-- A transaction that succeeds stores its draft, if none of its statements may fail. -/
theorem run_atomically_ok (hidle : s.pending? = none) {value : α}
    (hanswered : ∀ {heard millis}, Course body.run heard millis (.done (.ok value)) →
      ∃ log, exchanges heard = some log)
    (h : ((atomically limit body).run (surroundings outside) s).1 = .ok value) :
    ∃ heard millis, ∃ draft : Draft, Course body.run heard millis (.done (.ok value)) ∧
      exchanges heard = some draft.exchanges ∧ draft.Replays s.committed ∧
      ((atomically limit body).run (surroundings outside) s).2.committed = s.committed.after draft := by
  rw [run_atomically limit body hidle] at h ⊢
  dsimp only at h ⊢
  obtain ⟨heard, millis, hcourse, hdraft⟩ := within_replays limit body.run h
  obtain ⟨log, hlog⟩ := hanswered hcourse
  obtain ⟨draft, rfl, hreplays, hleft⟩ := hdraft s.committed log rfl hlog
  refine ⟨heard, millis, draft, hcourse, hlog, hreplays, ?_⟩
  simp only [h, send, hleft]

end Server

open Server (surroundings run_atomically_ok)

variable {limit : Nat} {s : Server}

/-- What a confirmation that succeeds does to the tables. -/
theorem Confirmation.run_server {confirmation : Confirmation} {receipt : ConfirmationReceipt}
    (hidle : s.pending? = none)
    (h : ((confirmation.execute limit).run (surroundings outside) s).1 = .ok receipt) :
    ∃ now, confirmation.Uses now receipt s.committed
        ((confirmation.execute limit).run (surroundings outside) s).2.committed := by
  obtain ⟨heard, millis, draft, hcourse, hlog, hreplays, hcommitted⟩ :=
    run_atomically_ok hidle confirmation.script_reliable.answered h
  obtain ⟨now, log, -, hlog', hanswered⟩ := script_course hcourse
  obtain rfl : draft.exchanges = log := Option.some.inj (hlog.symm.trans hlog')
  rw [execute, hcommitted]
  exact ⟨now, uses_of_replays hanswered hreplays⟩

namespace NewUser

variable {user : NewUser} {hook : Hook} {stored : User}

theorem script_course {heard : List Heard} {millis : Nat}
    (h : Course (user.script hook).run heard millis (.done (.ok stored))) :
    ∃ answer, exchanges heard = some [(.insertUser user, answer)] ∧
      answer.one User.ofRow = .ok stored := by
  obtain ⟨answer, found, _, _, _, hread, rfl, h₁⟩ := h.of_query
  rw [Script.run_announce_bind] at h₁
  cases h₁ with
  | announce outcome h₂ =>
      cases outcome with
      | error reason => cases h₂.of_done.2
      | ok =>
          obtain ⟨rfl, hresult⟩ := h₂.of_done
          cases hresult
          exact ⟨answer, rfl, hread⟩

theorem run_server (hidle : s.pending? = none)
    (h : ((user.register limit hook).run (surroundings outside) s).1 = .ok stored) :
    s.committed.users.find stored.username = none ∧
      ((user.register limit hook).run (surroundings outside) s).2.committed =
        s.committed.put (.user stored) := by
  obtain ⟨heard, millis, draft, hcourse, hlog, hreplays, hcommitted⟩ :=
    run_atomically_ok hidle (fun hcourse => let ⟨_, hlog, _⟩ := script_course hcourse; ⟨_, hlog⟩) h
  obtain ⟨answer, hlog', hread⟩ := script_course hcourse
  have hexchanges := Option.some.inj (hlog.symm.trans hlog')
  obtain ⟨stamp, effect, _, hexecute, rfl, hrest, -⟩ :=
    hreplays.uncons hexchanges (Answer.rows_ne_nil hread)
  obtain rfl := Draft.eq_nil_of_exchanges hrest
  simp only [Database.execute, Database.insertUser, Database.insert_eq_ok] at hexecute
  obtain ⟨hfree, -, rfl, rfl⟩ := hexecute
  obtain rfl := Except.ok.inj ((User.ofRow_toRow _).symm.trans hread)
  rw [register, hcommitted]
  exact ⟨Option.map_eq_none_iff.mp hfree, rfl⟩

end NewUser
end Passbook
