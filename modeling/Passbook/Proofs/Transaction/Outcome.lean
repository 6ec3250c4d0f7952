import Passbook.Proofs.Transaction.Attempts
import Passbook.Proofs.Transaction.Contract

/-!
# Attempts and result of a transaction

Which commands a transaction attempts, in which order, and what it results in, for every script and
for all replies with all delays. The measure is the script left to itself: what it sends and how it
ends if the same replies reach it and nothing limits its time. The transaction attempts the statements
that the script sends by the end of its time, and commits exactly if the script ends with a value by
then.
-/
namespace Passbook

variable {α : Type}

/-- What a script comes to if nothing limits its time. -/
structure Performance (α : Type) where
  /-- its statements, each with the millisecond at which it is sent -/
  sendings : List (Nat × Attempt)
  millis : Nat
  result : Except Failure α

namespace Performance

def within (limit : Nat) (performance : Performance α) : List Attempt :=
  (performance.sendings.takeWhile (·.1 ≤ limit)).map (·.2)

/-- The result, if it is there by the end of the time. -/
def outcome (limit : Nat) (performance : Performance α) : Except Failure α :=
  if performance.millis ≤ limit then performance.result else .error .canceledOperation

theorem outcome_eq_ok {limit : Nat} {performance : Performance α} {value : α} :
    performance.outcome limit = .ok value ↔
      performance.millis ≤ limit ∧ performance.result = .ok value := by
  unfold outcome
  split <;> rename_i h
  · exact ⟨fun hresult => ⟨h, hresult⟩, And.right⟩
  · exact ⟨nofun, fun hend => absurd hend.1 h⟩

end Performance

namespace Rehearsal

/-- The script left to itself, from the millisecond `started` on. -/
def perform (started : Nat) : Script.Body α → Rehearsal → Performance α
  | .done result, _ => ⟨[], started, result⟩
  | .ask (.send statement) next, r =>
      let reply := (takeReply (.statement statement) r).1
      let rest := perform (started + reply.delay) (next reply.outcome) (r.send (.statement statement)).2
      { rest with sendings := (started, ⟨.statement statement, reply⟩) :: rest.sendings }
  | .ask (.pause wait) next, r => perform (started + wait) (next ()) r
  | .ask .clock next, r => perform started (next now) r
  | .ask (.announce hook user) next, r =>
      perform started (next (r.announce hook user).1) (r.announce hook user).2

theorem perform_started_le (p : Script.Body α) (started : Nat) (r : Rehearsal) :
    started ≤ (perform started p r).millis ∧
      ∀ sending ∈ (perform started p r).sendings, started ≤ sending.1 := by
  induction p generalizing started r with
  | done result => simp [perform]
  | ask action next ih =>
      cases action with
      | send statement =>
          have h := ih (takeReply (.statement statement) r).1.outcome
            (started + (takeReply (.statement statement) r).1.delay) (r.send (.statement statement)).2
          refine ⟨Nat.le_trans (Nat.le_add_right ..) h.1, fun sending hsending => ?_⟩
          rcases List.mem_cons.mp hsending with rfl | hsending
          · exact Nat.le_refl _
          · exact Nat.le_trans (Nat.le_add_right ..) (h.2 sending hsending)
      | pause wait =>
          have h := ih () (started + wait) r
          refine ⟨Nat.le_trans (Nat.le_add_right ..) h.1, fun sending hsending => ?_⟩
          exact Nat.le_trans (Nat.le_add_right ..) (h.2 sending hsending)
      | clock => exact ih now started r
      | announce hook user => exact ih _ started _

theorem perform_late (p : Script.Body α) {started limit : Nat} (h : limit < started) (r : Rehearsal) :
    (perform started p r).within limit = [] ∧
      (perform started p r).outcome limit = .error .canceledOperation := by
  obtain ⟨hmillis, hsendings⟩ := perform_started_le p started r
  constructor
  · rw [Performance.within, List.map_eq_nil_iff]
    cases hs : (perform started p r).sendings with
    | nil => rfl
    | cons sending rest =>
        have hsending := hsendings sending (by simp [hs])
        exact List.takeWhile_cons_of_neg (by simp; omega)
  · exact if_neg (by omega)

/-- A script with a time limit attempts what the script left to itself sends within that time, and it
results in what the script left to itself does by then. -/
theorem within_performs (p : Script.Body α) {started limit : Nat} (h : started ≤ limit) (r : Rehearsal) :
    attempts (Script.within (limit - started) p) r = (perform started p r).within limit ∧
      (run (Script.within (limit - started) p) r).1 = (perform started p r).outcome limit := by
  induction p generalizing started r with
  | done result => exact ⟨rfl, (if_pos h).symm⟩
  | ask action next ih =>
      cases action with
      | send statement =>
          simp only [Script.within, attempts, attempted, surroundings, run, Program.run, sendWithin_eq]
          simp only [perform, Performance.within, List.takeWhile_cons, h, decide_true, if_true, List.map_cons]
          cases htaken : takeReply (.statement statement) r with
          | mk reply taken =>
              simp only [Performance.outcome]
              by_cases hlate : limit - started < reply.delay
              · have hbehind : limit < started + reply.delay := by omega
                have hrest := perform_late (next reply.outcome) hbehind (r.send (.statement statement)).2
                simp only [if_pos hlate, attempts, Program.run, List.append_nil]
                exact ⟨by rw [← hrest.1]; rfl, hrest.2.symm⟩
              · have hahead : started + reply.delay ≤ limit := by omega
                have hrest := ih reply.outcome hahead (r.send (.statement statement)).2
                rw [Nat.sub_add_eq] at hrest
                simp only [if_neg hlate, List.singleton_append]
                exact ⟨congrArg _ hrest.1, hrest.2⟩
      | pause wait =>
          simp only [Script.within]
          split
          · next hlate =>
              have hbehind : limit < started + wait := by omega
              have hrest := perform_late (next ()) hbehind r
              exact ⟨hrest.1.symm, hrest.2.symm⟩
          · next hlate =>
              rw [← Nat.sub_add_eq]
              exact ih () (by omega) r
      | clock => exact ih now h r
      | announce hook user => exact ih _ h _

theorem isLive_within (p : Script.Body α) (patience : Nat) (r : Rehearsal) :
    (run (Script.within patience p) r).2.IsLive ↔
      r.IsLive ∧ ¬Lost (attempts (Script.within patience p) r) := by
  induction p generalizing patience r with
  | done result => simp [Script.within, run, Program.run, attempts]
  | ask action next ih =>
      cases action with
      | send statement =>
          have hlive := isLive_sendWithin statement patience r
          simp only [Script.within, attempts, attempted, surroundings, run, Program.run]
          cases hanswer : r.sendWithin statement patience with
          | mk answer after =>
              simp only [hanswer] at hlive
              cases answer with
              | overdue => simpa [attempts, Program.run] using hlive
              | inTime delay outcome =>
                  have hrest := ih outcome (patience - delay) after
                  simp only [run] at hrest
                  simp only [lost_append, lost_singleton, hrest, hlive, not_or, and_assoc]
      | pause wait =>
          simp only [Script.within]
          split
          · simp [run, Program.run, attempts]
          · exact ih () _ r
      | clock => exact ih now patience r
      | announce hook user =>
          have hrest := ih (r.announce hook user).1 patience (r.announce hook user).2
          rw [isLive_announce] at hrest
          exact hrest

/-- What becomes of a transaction that is given back open: it is undone, unless the connection is
lost. -/
inductive Undone (before : List Attempt) : List Attempt → Prop
  | lost : Lost before → Undone before []
  | undone (reply : Reply) : ¬Lost before → Undone before [⟨.rollback, reply⟩]

/-- The end of a transaction, by what its script has come to. -/
inductive Closes (before : List Attempt) : Except Failure α → List Attempt → Except Failure α → Prop
  | committed {value reply answer} :
      reply.outcome = .ok answer → Closes before (.ok value) [⟨.commit, reply⟩] (.ok value)
  | inDoubt {value reply fault undone} :
      reply.outcome = .error fault → Undone (before ++ [⟨.commit, reply⟩]) undone →
      Closes before (.ok value) (⟨.commit, reply⟩ :: undone) (.error (.commitFailed fault))
  | rolledBack {cause reply answer} :
      reply.outcome = .ok answer → Closes before (.error cause) [⟨.rollback, reply⟩] (.error cause)
  | notRolledBack {cause reply fault undone} :
      reply.outcome = .error fault → Undone (before ++ [⟨.rollback, reply⟩]) undone →
      Closes before (.error cause) (⟨.rollback, reply⟩ :: undone) (.error (.rollbackFailed cause fault))

/-- The attempts and the result of a transaction, by the connection it gets and by what its script,
left to itself, would come to. -/
inductive Transacts (limit : Nat) (connection : Except StorageFault Unit) (performance : Performance α) :
    List Attempt → Except Failure α → Prop
  | noConnection {fault} :
      connection = .error fault → Transacts limit connection performance [] (.error (.ofFault fault))
  | notBegun {reply fault} :
      connection = .ok () → reply.outcome = .error fault →
      Transacts limit connection performance [⟨.begin, reply⟩] (.error (.ofFault fault))
  | notLimited {begun limited answer fault undone} :
      connection = .ok () → begun.outcome = .ok answer → limited.outcome = .error fault →
      Undone [⟨.begin, begun⟩, ⟨.limit limit, limited⟩] undone →
      Transacts limit connection performance ([⟨.begin, begun⟩, ⟨.limit limit, limited⟩] ++ undone)
        (.error (.ofFault fault))
  | closed {begun limited answer answer' closing result} :
      connection = .ok () → begun.outcome = .ok answer → limited.outcome = .ok answer' →
      Closes ([⟨.begin, begun⟩, ⟨.limit limit, limited⟩] ++ performance.within limit)
        (performance.outcome limit) closing result →
      Transacts limit connection performance
        ([⟨.begin, begun⟩, ⟨.limit limit, limited⟩] ++ performance.within limit ++ closing) result

/-- The moment at which the script of a transaction starts. -/
def opened (limit : Nat) (r : Rehearsal) : Rehearsal :=
  ((r.checkout.2.send .begin).2.send (.limit limit)).2

theorem undone_of_send (command : Command) (r : Rehearsal) {before : List Attempt}
    (hbefore : r.IsLive ↔ ¬Lost before) :
    Undone (before ++ [⟨command, (takeReply command r).1⟩])
      (attempted (.release true) (r.send command).2) := by
  have hlive := isLive_send command r
  have hunread : (r.send command).2.unread = none := by
    rw [send_eq]
    have := takeReply_unread command r
    unfold learn
    split <;> exact this
  have hlost : ¬Lost (before ++ [⟨command, (takeReply command r).1⟩]) ↔ (r.send command).2.IsLive := by
    rw [lost_append, lost_singleton, not_or, hlive, hbefore]
  simp only [IsLive, hunread] at hlost
  cases hconnected : (r.send command).2.isConnected with
  | true =>
      have : ¬Lost (before ++ [⟨command, (takeReply command r).1⟩]) :=
        hlost.mpr ⟨hconnected, (Option.some_ne_none _).symm⟩
      simpa only [attempted, hconnected, if_true] using Undone.undone _ this
  | false =>
      have : Lost (before ++ [⟨command, (takeReply command r).1⟩]) :=
        Classical.not_not.mp fun h => by simpa [hconnected] using (hlost.mp h).1
      simpa only [attempted, hconnected, Bool.false_eq_true, if_false] using Undone.lost this

theorem conclude_closes (result : Except Failure α) (r : Rehearsal) {before : List Attempt}
    (hbefore : r.IsLive ↔ ¬Lost before) :
    Closes before result (attempts (conclude result) r) (run (conclude result) r).1 := by
  cases result with
  | ok value =>
      have hundone := undone_of_send .commit r hbefore
      simp only [conclude, Service.send, Service.request, Program.request, Program.bind_eq,
        Program.ask_bind, Program.done_bind, attempts_send, run_send]
      cases hreply : (takeReply .commit r).1.outcome with
      | ok answer => exact .committed hreply
      | error fault =>
          rw [← attempts_release true (Except.error (Failure.commitFailed fault) : Except Failure α)] at hundone
          exact .inDoubt hreply hundone
  | error cause =>
      have hundone := undone_of_send .rollback r hbefore
      simp only [conclude, Service.send, Service.request, Program.request, Program.bind_eq,
        Program.ask_bind, Program.done_bind, attempts_send, run_send]
      cases hreply : (takeReply .rollback r).1.outcome with
      | ok answer => exact .rolledBack hreply
      | error fault =>
          rw [← attempts_release true
            (Except.error (Failure.rollbackFailed cause fault) : Except Failure α)] at hundone
          exact .notRolledBack hreply hundone

/-- From the moment at which its script starts, a transaction attempts what the script left to itself
sends within the time, and then closes by what the script has come to. -/
theorem within_closes (limit : Nat) (p : Script.Body α) {r : Rehearsal} (hlive : r.IsLive)
    {before : List Attempt} (hbefore : ¬Lost before) :
    ∃ closing, attempts ((Script.within limit p).bind conclude) r =
        (perform 0 p r).within limit ++ closing ∧
      Closes (before ++ (perform 0 p r).within limit) ((perform 0 p r).outcome limit) closing
        (run ((Script.within limit p).bind conclude) r).1 := by
  obtain ⟨hattempts, hresult⟩ := within_performs p (Nat.zero_le limit) r
  rw [Nat.sub_zero] at hattempts hresult
  refine ⟨_, by rw [attempts_bind, hattempts], ?_⟩
  have hrun : run ((Script.within limit p).bind conclude) r =
      run (conclude (run (Script.within limit p) r).1) (run (Script.within limit p) r).2 :=
    Program.run_bind surroundings _ _ r
  rw [hrun, hresult]
  refine conclude_closes _ _ ?_
  rw [isLive_within, hattempts, lost_append, not_or]
  exact ⟨fun h => ⟨hbefore, h.2⟩, fun h => ⟨hlive, h.2⟩⟩

theorem atomically_transacts (limit : Nat) (body : Script α) (r : Rehearsal) :
    Transacts limit r.checkout.1 (perform 0 body.run (r.opened limit))
      (attempts (atomically limit body) r) (run (atomically limit body) r).1 := by
  rw [atomically_eq, attempts_checkout, run_checkout]
  cases hconnection : r.checkout.1 with
  | error fault => exact .noConnection rfl
  | ok connection =>
      simp only [attempts_send, run_send]
      cases hbegun : (takeReply .begin r.checkout.2).1.outcome with
      | error fault => exact .notBegun rfl hbegun
      | ok answer =>
          have hbefore : (r.checkout.2.send .begin).2.IsLive ↔
              ¬Lost [⟨.begin, (takeReply .begin r.checkout.2).1⟩] := by
            simp [isLive_of_ok hbegun, hbegun]
          simp only [attempts_send, run_send]
          cases hlimited : (takeReply (.limit limit) (r.checkout.2.send .begin).2).1.outcome with
          | error fault =>
              have hundone := undone_of_send (.limit limit) (r.checkout.2.send .begin).2 hbefore
              rw [← attempts_release true (Except.error (Failure.ofFault fault) : Except Failure α)] at hundone
              exact .notLimited rfl hbegun hlimited hundone
          | ok answer' =>
              have hnotLost : ¬Lost [⟨.begin, (takeReply .begin r.checkout.2).1⟩,
                  ⟨.limit limit, (takeReply (.limit limit) (r.checkout.2.send .begin).2).1⟩] := by
                simp [Lost, hbegun, hlimited]
              obtain ⟨closing, hclosing, hcloses⟩ :=
                within_closes limit body.run (isLive_of_ok hlimited) hnotLost
              have hopened : (Except.ok connection : Except StorageFault Unit) = .ok () := rfl
              have htransacts := Transacts.closed hopened hbegun hlimited hcloses
              rw [List.append_assoc, ← hclosing] at htransacts
              exact htransacts

theorem perform_sends (p : Script.Body α) (started : Nat) (r : Rehearsal) :
    ∀ sending ∈ (perform started p r).sendings, ∃ statement, sending.2.command = .statement statement := by
  induction p generalizing started r with
  | done result => exact fun _ h => absurd h List.not_mem_nil
  | ask action next ih =>
      cases action with
      | send statement =>
          intro sending hsending
          rcases List.mem_cons.mp hsending with rfl | hsending
          · exact ⟨statement, rfl⟩
          · exact ih _ _ _ sending hsending
      | pause wait => exact ih () _ r
      | clock => exact ih now _ r
      | announce hook user => exact ih _ _ _

/-- Whether a transaction has been opened and its statements capped. -/
def Opens (limit : Nat) (attempts : List Attempt) : Prop :=
  ∃ begun limited answer answer' rest,
    attempts = ⟨.begin, begun⟩ :: ⟨.limit limit, limited⟩ :: rest ∧
      begun.outcome = .ok answer ∧ limited.outcome = .ok answer'

/-- What holds of the attempts and the result of every transaction. -/
structure Conducted (limit : Nat) (before after : Rehearsal) (performance : Performance α)
    (attempts : List Attempt) (result : Except Failure α) : Prop where
  transacts : Transacts limit before.checkout.1 performance attempts result
  notes : Notes before after attempts
  /-- between set-up and end there is only the beginning of what the script left to itself sends -/
  sends : performance.within limit <+: performance.sendings.map (·.2) ∧
    ∀ attempt ∈ performance.within limit, ∃ statement, attempt.command = .statement statement
  commit_iff : (∃ reply, ⟨.commit, reply⟩ ∈ attempts) ↔
    Opens limit attempts ∧ ∃ value, performance.millis ≤ limit ∧ performance.result = .ok value
  ok_iff : ∀ value, result = .ok value ↔
    (∃ reply answer, ⟨.commit, reply⟩ ∈ attempts ∧ reply.outcome = .ok answer) ∧
      performance.result = .ok value
  commit_failed : ∀ reply fault, ⟨.commit, reply⟩ ∈ attempts → reply.outcome = .error fault →
    result = .error (.commitFailed fault)

theorem Undone.ne_commit {before undone : List Attempt} (h : Undone before undone) (reply : Reply) :
    ⟨.commit, reply⟩ ∉ undone := by
  cases h with
  | lost => simp
  | undone reply' => simp

theorem Closes.commit_mem {before closing : List Attempt} {ended result : Except Failure α} {reply : Reply}
    (h : Closes before ended closing result) (hmem : ⟨.commit, reply⟩ ∈ closing) :
    ∃ value, ended = .ok value ∧
      match reply.outcome with
      | .ok _ => result = .ok value
      | .error fault => result = .error (.commitFailed fault) := by
  cases h with
  | committed hreply =>
      cases List.mem_singleton.mp hmem
      exact ⟨_, rfl, by rw [hreply]⟩
  | inDoubt hreply hundone =>
      rcases List.mem_cons.mp hmem with heq | hmem
      · cases heq
        exact ⟨_, rfl, by rw [hreply]⟩
      · exact absurd hmem (hundone.ne_commit reply)
  | rolledBack => cases List.mem_singleton.mp hmem
  | notRolledBack _ hundone =>
      rcases List.mem_cons.mp hmem with heq | hmem
      · cases heq
      · exact absurd hmem (hundone.ne_commit reply)

theorem Transacts.commit_mem {limit : Nat} {connection : Except StorageFault Unit}
    {performance : Performance α} {attempts : List Attempt} {result : Except Failure α} {reply : Reply}
    (h : Transacts limit connection performance attempts result)
    (hsends : ∀ attempt ∈ performance.within limit, ∃ statement, attempt.command = .statement statement)
    (hmem : ⟨.commit, reply⟩ ∈ attempts) :
    Opens limit attempts ∧ ∃ value, performance.outcome limit = .ok value ∧
      match reply.outcome with
      | .ok _ => result = .ok value
      | .error fault => result = .error (.commitFailed fault) := by
  cases h with
  | noConnection => cases hmem
  | notBegun => cases List.mem_singleton.mp hmem
  | notLimited _ _ _ hundone =>
      have := hundone.ne_commit reply
      simp_all
  | closed _ hbegun hlimited hcloses =>
      refine ⟨⟨_, _, _, _, _, rfl, hbegun, hlimited⟩, hcloses.commit_mem ?_⟩
      rcases List.mem_append.mp hmem with hmem | hmem
      · rcases List.mem_append.mp hmem with hmem | hmem
        · simp at hmem
        · obtain ⟨statement, h⟩ := hsends _ hmem
          cases h
      · exact hmem

theorem Closes.committed_of_ok {before closing : List Attempt} {ended : Except Failure α} {value : α}
    (h : Closes before ended closing (.ok value)) :
    ended = .ok value ∧ ∃ reply answer, ⟨.commit, reply⟩ ∈ closing ∧ reply.outcome = .ok answer := by
  cases h with
  | committed hreply => exact ⟨rfl, _, _, List.mem_singleton_self _, hreply⟩

theorem Closes.exists_commit {before closing : List Attempt} {value : α} {result : Except Failure α}
    (h : Closes before (.ok value) closing result) : ∃ reply, ⟨.commit, reply⟩ ∈ closing := by
  cases h with
  | committed => exact ⟨_, List.mem_singleton_self _⟩
  | inDoubt => exact ⟨_, List.mem_cons_self⟩

theorem Transacts.exists_commit {limit : Nat} {connection : Except StorageFault Unit}
    {performance : Performance α} {attempts : List Attempt} {result : Except Failure α} {value : α}
    (h : Transacts limit connection performance attempts result) (hopens : Opens limit attempts)
    (hended : performance.outcome limit = .ok value) : ∃ reply, ⟨.commit, reply⟩ ∈ attempts := by
  obtain ⟨_, _, _, _, _, heq, hbegun, hlimited⟩ := hopens
  cases h with
  | noConnection => cases heq
  | notBegun => cases heq
  | notLimited _ _ hfault _ =>
      cases heq
      rw [hfault] at hlimited
      cases hlimited
  | closed _ _ _ hcloses =>
      obtain ⟨reply, hmem⟩ := (hended ▸ hcloses).exists_commit
      exact ⟨reply, List.mem_append_right _ hmem⟩

theorem Transacts.committed_of_ok {limit : Nat} {connection : Except StorageFault Unit}
    {performance : Performance α} {attempts : List Attempt} {value : α}
    (h : Transacts limit connection performance attempts (.ok value)) :
    performance.outcome limit = .ok value ∧
      ∃ reply answer, ⟨.commit, reply⟩ ∈ attempts ∧ reply.outcome = .ok answer := by
  cases h with
  | closed _ _ _ hcloses =>
      obtain ⟨hended, reply, answer, hmem, hreply⟩ := hcloses.committed_of_ok
      exact ⟨hended, reply, answer, List.mem_append_right _ hmem, hreply⟩

/-- For every script, all replies with all delays and every limit: a transaction attempts what it
should, commits exactly if its script ends with a value in time, and says so in its result. -/
theorem atomically_conducted (limit : Nat) (body : Script α) (r : Rehearsal) :
    Conducted limit r (run (atomically limit body) r).2 (perform 0 body.run (r.opened limit))
      (attempts (atomically limit body) r) (run (atomically limit body) r).1 := by
  have htransacts := atomically_transacts limit body r
  have hsends : ∀ attempt ∈ (perform 0 body.run (r.opened limit)).within limit,
      ∃ statement, attempt.command = .statement statement := by
    intro attempt hattempt
    obtain ⟨sending, hsending, rfl⟩ := List.mem_map.mp hattempt
    exact perform_sends body.run 0 (r.opened limit) sending (List.takeWhile_subset _ hsending)
  constructor
  case transacts => exact htransacts
  case notes => exact run_notes (atomically limit body) r
  case sends => exact ⟨(List.takeWhile_prefix _).map _, hsends⟩
  case commit_iff =>
    constructor
    · rintro ⟨reply, hmem⟩
      obtain ⟨hopens, value, hended, _⟩ := htransacts.commit_mem hsends hmem
      exact ⟨hopens, value, Performance.outcome_eq_ok.mp hended⟩
    · rintro ⟨hopens, value, hended⟩
      exact htransacts.exists_commit hopens (Performance.outcome_eq_ok.mpr hended)
  case ok_iff =>
    intro value
    constructor
    · intro hresult
      obtain ⟨hended, hcommit⟩ := (hresult ▸ htransacts).committed_of_ok
      exact ⟨hcommit, (Performance.outcome_eq_ok.mp hended).2⟩
    · rintro ⟨⟨reply, answer, hmem, hreply⟩, hvalue⟩
      obtain ⟨_, value', hended, hresult⟩ := htransacts.commit_mem hsends hmem
      have heq := (Performance.outcome_eq_ok.mp hended).2.symm.trans hvalue
      simp only [hreply] at hresult
      rw [hresult, heq]
  case commit_failed =>
    intro reply fault hmem hreply
    obtain ⟨_, _, _, hresult⟩ := htransacts.commit_mem hsends hmem
    simpa only [hreply] using hresult

end Rehearsal

end Passbook
