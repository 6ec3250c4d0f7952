import Passbook.Proofs.Queue.Surroundings
import Passbook.Proofs.Transaction.Outcome
import Passbook.Transaction.ConfirmEmail
import Passbook.Transaction.MoveMoney
import Passbook.Transaction.Register

/-!
# The first failure decides

The scripts of the ledger are sequences of statements, of which each needs an answer that can be read.
For every limit, all replies and all delays, a transaction sends the statements of its script in their
order, with the values that the script has for them, up to the first one that fails: one that is
refused, whose answer lacks a row or a value, whose connection is lost, or whose reply comes too late.
Nothing is sent for the script after that and COMMIT is not attempted. The result is that failure,
unless ROLLBACK fails as well, which is then reported with it. A script may also object on its own
once its statements have passed, with the same consequences.

Lateness comes first: a reply behind the deadline is not looked at, whatever it says.
-/
namespace Passbook

open Rehearsal (Opens Undone Closes Transacts perform attempts run opened takeReply)

variable {α β : Type}

/-- A statement of a script, with what an answer may lack for the script to go on with it. -/
structure Step where
  statement : Statement
  lacks? : Answer → Option StorageFault

/-- The step of a query, whose answer has to be readable. -/
def Query.step (query : Query α) : Step where
  statement := query.statement
  lacks? answer :=
    match query.read answer with
    | .ok _ => none
    | .error fault => some fault

/-- What a reply fails a step with, if the statement is sent `elapsed` milliseconds after the start. -/
def Step.failure? (step : Step) (limit elapsed : Nat) (reply : Reply) : Option Failure :=
  if limit < elapsed + reply.delay then some .canceledOperation
  else
    match reply.outcome with
    | .error fault => some (.ofFault fault)
    | .ok answer => (step.lacks? answer).map .ofFault

namespace Query

variable {query : Query α} {limit elapsed : Nat} {reply : Reply}

theorem failure?_of_late (h : limit < elapsed + reply.delay) :
    query.step.failure? limit elapsed reply = some .canceledOperation := if_pos h

/-- In time, a reply fails a step exactly with what it fails the query with. -/
theorem failure?_of_result (query : Query α) (h : elapsed + reply.delay ≤ limit) :
    query.step.failure? limit elapsed reply =
      match query.result reply.outcome with
      | .ok _ => none
      | .error failure => some failure := by
  rw [Step.failure?, if_neg (Nat.not_lt.mpr h)]
  cases reply.outcome with
  | error fault => rfl
  | ok answer =>
      simp only [step, result]
      cases query.read answer <;> rfl

end Query

/-- Whether an attempt sends a statement, rather than a control command. -/
def Attempt.isData (attempt : Attempt) : Bool :=
  match attempt.command with
  | .statement _ => true
  | _ => false

/-- The attempts that send statements. -/
def Rehearsal.data (attempts : List Attempt) : List Attempt := attempts.filter Attempt.isData

/-- The milliseconds that replies have taken. -/
def Rehearsal.elapsed (attempts : List Attempt) : Nat :=
  (attempts.map fun attempt => attempt.reply.delay).sum

open Rehearsal (data elapsed)

/-- A transaction that ends with `failure`: no COMMIT, and nothing else in the result than the failure
and that of ROLLBACK. -/
structure RolledBack (failure : Failure) (attempts : List Attempt) (result : Except Failure α) : Prop where
  uncommitted : ∀ reply, ⟨.commit, reply⟩ ∉ attempts
  rollback : ∃ before reply after, attempts = before ++ ⟨.rollback, reply⟩ :: after ∧
    (∀ earlier, ⟨.rollback, earlier⟩ ∉ before) ∧
    result =
      match reply.outcome with
      | .ok _ => .error failure
      | .error fault => .error (.rollbackFailed failure fault)

/-- What holds of the attempts and the result of a transaction whose script has these steps and then
the objection `own?`, if any. -/
structure FirstFailureDecides (limit : Nat) (steps : List Step) (own? : Option Failure)
    (attempts : List Attempt) (result : Except Failure α) : Prop where
  /-- the statements are the first ones of the script, in its order -/
  sends : (data attempts).map Attempt.command <+: steps.map fun step => .statement step.statement
  /-- a statement that fails is the last one, and the transaction ends with its failure -/
  decides : ∀ before attempt later step failure, data attempts = before ++ attempt :: later →
    steps[before.length]? = some step →
    step.failure? limit (elapsed before) attempt.reply = some failure →
      later = [] ∧ RolledBack failure attempts result
  /-- if none fails, all are sent, and then the script's own objection decides -/
  completes : Opens limit attempts →
    (∀ before attempt later step, data attempts = before ++ attempt :: later →
      steps[before.length]? = some step → step.failure? limit (elapsed before) attempt.reply = none) →
    (data attempts).map Attempt.command = steps.map (fun step => .statement step.statement) ∧
      match own? with
      | some failure => RolledBack failure attempts result
      | none => ∃ reply, ⟨.commit, reply⟩ ∈ attempts
  /-- without a transaction nothing is sent for the script -/
  unopened : ¬Opens limit attempts → data attempts = [] ∧ (∀ reply, ⟨.commit, reply⟩ ∉ attempts) ∧
    ∃ fault, result = .error (.ofFault fault)

/-- How a script ends once its statements have passed. -/
def EndsAs (own? : Option Failure) (ended : Except Failure α) : Prop :=
  match own? with
  | some failure => ended = .error failure
  | none => ∃ value, ended = .ok value

/-- The attempts of a script that has come to `ended`, judged by its steps from the millisecond
`started` on. -/
inductive Judged (limit : Nat) (own? : Option Failure) :
    Nat → List Step → List Attempt → Except Failure α → Prop
  | ended {started ended} : EndsAs own? ended → Judged limit own? started [] [] ended
  | failed {started step steps reply failure} :
      step.failure? limit started reply = some failure →
      Judged limit own? started (step :: steps) [⟨.statement step.statement, reply⟩] (.error failure)
  | passed {started step steps reply attempts ended} :
      step.failure? limit started reply = none →
      Judged limit own? (started + reply.delay) steps attempts ended →
      Judged limit own? started (step :: steps) (⟨.statement step.statement, reply⟩ :: attempts) ended

namespace Judged

variable {limit started : Nat} {own? : Option Failure} {steps : List Step} {attempts : List Attempt}
  {ended : Except Failure α}

theorem isData (h : Judged limit own? started steps attempts ended) :
    ∀ attempt ∈ attempts, attempt.isData = true := by
  induction h with
  | ended => exact fun _ hmem => absurd hmem List.not_mem_nil
  | failed =>
      intro attempt hmem
      rw [List.mem_singleton.mp hmem]
      rfl
  | passed _ _ ih =>
      intro attempt hmem
      rcases List.mem_cons.mp hmem with rfl | hmem
      · rfl
      · exact ih attempt hmem

theorem sends (h : Judged limit own? started steps attempts ended) :
    attempts.map Attempt.command <+: steps.map fun step => .statement step.statement := by
  induction h with
  | ended => exact List.prefix_rfl
  | failed => exact List.cons_prefix_cons.mpr ⟨rfl, List.nil_prefix⟩
  | passed _ _ ih => exact List.cons_prefix_cons.mpr ⟨rfl, ih⟩

theorem decides (h : Judged limit own? started steps attempts ended) {before later : List Attempt}
    {attempt : Attempt} {step : Step} {failure : Failure} (hsplit : attempts = before ++ attempt :: later)
    (hstep : steps[before.length]? = some step)
    (hfailure : step.failure? limit (started + elapsed before) attempt.reply = some failure) :
    later = [] ∧ ended = .error failure := by
  induction h generalizing before with
  | ended => exact absurd hsplit.symm (List.append_ne_nil_of_right_ne_nil _ (List.cons_ne_nil _ _))
  | @failed started step' steps reply failure' hfails =>
      cases before with
      | nil =>
          cases hsplit
          cases hstep
          exact ⟨rfl, congrArg Except.error (Option.some.inj (hfails.symm.trans hfailure))⟩
      | cons first before => simp at hsplit
  | @passed started step' steps reply attempts ended hpasses _ ih =>
      cases before with
      | nil =>
          cases hsplit
          cases hstep
          exact absurd (hpasses.symm.trans hfailure) (Option.some_ne_none _).symm
      | cons first before =>
          obtain ⟨rfl, hrest⟩ := List.cons.inj hsplit
          refine ih hrest hstep ?_
          simpa only [elapsed, List.map_cons, List.sum_cons, Nat.add_assoc] using hfailure

theorem completes (h : Judged limit own? started steps attempts ended)
    (hpasses : ∀ before attempt later step, attempts = before ++ attempt :: later →
      steps[before.length]? = some step →
      step.failure? limit (started + elapsed before) attempt.reply = none) :
    attempts.map Attempt.command = steps.map (fun step => .statement step.statement) ∧
      EndsAs own? ended := by
  induction h with
  | ended hends => exact ⟨rfl, hends⟩
  | failed hfails =>
      have hnone := hpasses [] _ [] _ rfl rfl
      exact absurd (hnone.symm.trans hfails) (Option.some_ne_none _).symm
  | @passed started step steps reply attempts ended _ _ ih =>
      obtain ⟨hcommands, hends⟩ := ih fun before attempt later step' hsplit hstep => by
        have := hpasses (⟨.statement step.statement, reply⟩ :: before) attempt later step'
          (by rw [hsplit, List.cons_append]) hstep
        simpa only [elapsed, List.map_cons, List.sum_cons, Nat.add_assoc] using this
      exact ⟨congrArg _ hcommands, hends⟩

end Judged

theorem Rehearsal.data_append (attempts attempts' : List Attempt) :
    data (attempts ++ attempts') = data attempts ++ data attempts' := List.filter_append ..

theorem Rehearsal.data_eq_self {attempts : List Attempt} (h : ∀ attempt ∈ attempts, attempt.isData = true) :
    data attempts = attempts := List.filter_eq_self.mpr h

theorem Rehearsal.Undone.data_eq {before undone : List Attempt} (h : Undone before undone) :
    data undone = [] := by
  cases h <;> rfl

theorem Rehearsal.Closes.data_eq {before closing : List Attempt} {ended result : Except Failure α}
    (h : Closes before ended closing result) : data closing = [] := by
  cases h with
  | committed => rfl
  | inDoubt _ hundone =>
      have hnone := hundone.data_eq
      exact hnone
  | rolledBack => rfl
  | notRolledBack _ hundone =>
      have hnone := hundone.data_eq
      exact hnone

/-- What a whole transaction sends is what it sends for its script. -/
theorem Rehearsal.Closes.data_whole (limit : Nat) (begun limited : Reply)
    {before sent closing : List Attempt} {ended result : Except Failure α}
    (h : Closes before ended closing result) (hsent : ∀ attempt ∈ sent, attempt.isData = true) :
    data ([⟨.begin, begun⟩, ⟨.limit limit, limited⟩] ++ sent ++ closing) = sent := by
  rw [data_append, data_append, h.data_eq, data_eq_self hsent, List.append_nil]
  rfl

/-- A transaction whose script has failed is rolled back. -/
theorem Rehearsal.Closes.rolledBack_of_error (limit : Nat) (begun limited : Reply)
    {before sent closing : List Attempt} {failure : Failure} {result : Except Failure α}
    (hsent : ∀ attempt ∈ sent, attempt.isData = true) (h : Closes before (.error failure) closing result) :
    RolledBack failure ([⟨.begin, begun⟩, ⟨.limit limit, limited⟩] ++ sent ++ closing) result := by
  have notSent : ∀ {command : Command} {reply : Reply}, (Attempt.mk command reply).isData = false →
      ⟨command, reply⟩ ∉ sent := fun hdata hmem => by simp [hsent _ hmem] at hdata
  have hbefore : ∀ earlier : Reply,
      ⟨.rollback, earlier⟩ ∉ [⟨.begin, begun⟩, ⟨.limit limit, limited⟩] ++ sent := by
    intro earlier hmem
    rcases List.mem_append.mp hmem with hmem | hmem
    · simp at hmem
    · exact notSent rfl hmem
  have huncommitted : ∀ reply : Reply, ⟨.commit, reply⟩ ∉ closing →
      ⟨.commit, reply⟩ ∉ [⟨.begin, begun⟩, ⟨.limit limit, limited⟩] ++ sent ++ closing := by
    intro reply hclosing hmem
    rcases List.mem_append.mp hmem with hmem | hmem
    · rcases List.mem_append.mp hmem with hmem | hmem
      · simp at hmem
      · exact notSent rfl hmem
    · exact hclosing hmem
  cases h with
  | rolledBack hreply =>
      exact ⟨fun reply => huncommitted reply (by simp), _, _, _, rfl, hbefore, by simp only [hreply]⟩
  | notRolledBack hreply hundone =>
      refine ⟨fun reply => huncommitted reply ?_, _, _, _, rfl, hbefore, by simp only [hreply]⟩
      rintro (_ | ⟨_, hmem⟩)
      exact hundone.ne_commit reply hmem

theorem Rehearsal.Transacts.data_eq {limit : Nat} {connection : Except StorageFault Unit}
    {performance : Performance α} {attempts : List Attempt} {result : Except Failure α}
    (h : Transacts limit connection performance attempts result)
    (hsent : ∀ attempt ∈ performance.within limit, attempt.isData = true) :
    data attempts = [] ∨ data attempts = performance.within limit := by
  cases h with
  | noConnection => exact .inl rfl
  | notBegun => exact .inl rfl
  | notLimited _ _ _ hundone =>
      rw [data_append, hundone.data_eq]
      exact .inl rfl
  | closed _ _ _ hcloses => exact .inr (hcloses.data_whole _ _ _ hsent)

theorem firstFailureDecides_of_unopened {limit : Nat} {attempts : List Attempt} {steps : List Step}
    {own? : Option Failure} {fault : StorageFault} (hopens : ¬Opens limit attempts)
    (hdata : data attempts = []) (hcommit : ∀ reply, ⟨.commit, reply⟩ ∉ attempts) :
    FirstFailureDecides limit steps own? attempts (.error (.ofFault fault) : Except Failure α) := by
  constructor
  case sends =>
    rw [hdata]
    exact List.nil_prefix
  case decides =>
    intro before attempt later step failure hsplit
    rw [hdata] at hsplit
    exact absurd hsplit.symm (List.append_ne_nil_of_right_ne_nil _ (List.cons_ne_nil _ _))
  case completes => exact fun h => absurd h hopens
  case unopened => exact fun _ => ⟨hdata, hcommit, fault, rfl⟩

/-- In an open transaction the script is judged, and what it has come to decides how it is closed. -/
theorem Judged.closes {limit : Nat} {own? : Option Failure} {steps : List Step} {begun limited : Reply}
    {sent closing : List Attempt} {ended result : Except Failure α}
    (hjudged : Judged limit own? 0 steps sent ended)
    (hopens : Opens limit ([⟨.begin, begun⟩, ⟨.limit limit, limited⟩] ++ sent ++ closing))
    (hcloses : Closes ([⟨.begin, begun⟩, ⟨.limit limit, limited⟩] ++ sent) ended closing result) :
    FirstFailureDecides limit steps own?
      ([⟨.begin, begun⟩, ⟨.limit limit, limited⟩] ++ sent ++ closing) result := by
  have hdata := hcloses.data_whole limit begun limited hjudged.isData
  have rolledBack {failure : Failure} (hended : ended = .error failure) :=
    Closes.rolledBack_of_error limit begun limited hjudged.isData (hended ▸ hcloses)
  constructor
  case sends =>
    rw [hdata]
    exact hjudged.sends
  case decides =>
    intro before attempt later step failure hsplit hstep hfailure
    rw [hdata] at hsplit
    obtain ⟨hlater, hended⟩ := hjudged.decides hsplit hstep (by rwa [Nat.zero_add])
    exact ⟨hlater, rolledBack hended⟩
  case completes =>
    intro _ hpasses
    rw [hdata] at hpasses ⊢
    obtain ⟨hcommands, hends⟩ := hjudged.completes fun before attempt later step hsplit hstep => by
      rw [Nat.zero_add]
      exact hpasses before attempt later step hsplit hstep
    refine ⟨hcommands, ?_⟩
    cases own? with
    | some failure => exact rolledBack hends
    | none =>
        obtain ⟨value, hvalue⟩ := hends
        obtain ⟨reply, hmem⟩ := (hvalue ▸ hcloses).exists_commit
        exact ⟨reply, List.mem_append_right _ hmem⟩
  case unopened => exact fun h => absurd hopens h

theorem Rehearsal.Transacts.decides {limit : Nat} {connection : Except StorageFault Unit}
    {performance : Performance α} {attempts : List Attempt} {result : Except Failure α}
    {steps : List Step} {own? : Option Failure}
    (h : Transacts limit connection performance attempts result)
    (hjudged : Judged limit own? 0 steps (performance.within limit) (performance.outcome limit)) :
    FirstFailureDecides limit steps own? attempts result := by
  cases h with
  | noConnection =>
      exact firstFailureDecides_of_unopened (fun ⟨_, _, _, _, _, heq, _⟩ => by cases heq) rfl nofun
  | notBegun =>
      exact firstFailureDecides_of_unopened (fun ⟨_, _, _, _, _, heq, _⟩ => by cases heq) rfl (by simp)
  | @notLimited begun limited answer fault undone _ _ hfault hundone =>
      apply firstFailureDecides_of_unopened
      case hopens =>
        rintro ⟨_, _, _, _, _, heq, _, hlimited⟩
        cases heq
        rw [hfault] at hlimited
        cases hlimited
      case hdata =>
        rw [data_append, hundone.data_eq]
        rfl
      case hcommit =>
        intro reply hmem
        rcases List.mem_append.mp hmem with hmem | hmem
        · simp at hmem
        · exact hundone.ne_commit reply hmem
  | closed _ hbegun hlimited hcloses =>
      exact hjudged.closes ⟨_, _, _, _, _, rfl, hbegun, hlimited⟩ hcloses

/-- Whether a script, left to itself from the millisecond `started` on, is judged by these steps. -/
abbrev JudgedBy (limit : Nat) (own? : Option Failure) (started : Nat) (steps : List Step) (p : Script α)
    (r : Rehearsal) : Prop :=
  Judged limit own? started steps ((perform started p.run r).within limit)
    ((perform started p.run r).outcome limit)

/-- What a hook has to say against a new user. The task queue only says whether it takes tasks. -/
def Hook.objection? (queue : TaskQueue) : Hook → Option String
  | .enqueue =>
      if !queue.accepting then some QueueFault.closed.message
      else if queue.pending.length < queue.capacity then none
      else some QueueFault.full.message
  | .allow => none
  | .refuse reason => some reason

theorem Rehearsal.announce_fst (hook : Hook) (user : User) (r : Rehearsal) :
    (r.announce hook user).1 =
      match hook.objection? r.queue with
      | none => .ok ()
      | some reason => .error reason := by
  cases hook with
  | enqueue =>
      cases hopen : r.queue.accepting with
      | false => simp [announce, TaskQueue.offer, Hook.objection?, hopen]
      | true =>
          by_cases hroom : r.queue.pending.length < r.queue.capacity
          · simp [announce, TaskQueue.offer, Hook.objection?, hopen, hroom]
          · simp [announce, TaskQueue.offer, Hook.objection?, hopen, hroom]
  | allow => rfl
  | refuse reason => rfl

/-- What is left of a script that began with a query, once the reply is there. -/
def afterQuery (query : Query α) (next : α → Script β) (reply : Reply) : Script.Body β :=
  match query.result reply.outcome with
  | .ok value => (next value).run
  | .error failure => .done (.error failure)

section
variable {limit started : Nat} {own? : Option Failure} {steps : List Step} {query : Query α}
  {next : α → Script β} {r : Rehearsal}

theorem perform_query (query : Query α) (next : α → Script β) (started : Nat) (r : Rehearsal) :
    perform started (Script.query query >>= next).run r =
      let reply := (takeReply (.statement query.statement) r).1
      let rest := perform (started + reply.delay) (afterQuery query next reply)
        (r.send (.statement query.statement)).2
      { rest with sendings := (started, ⟨.statement query.statement, reply⟩) :: rest.sendings } := by
  rw [Script.run_query_bind]
  rfl

theorem within_query (h : started ≤ limit) :
    (perform started (Script.query query >>= next).run r).within limit =
      ⟨.statement query.statement, (takeReply (.statement query.statement) r).1⟩ ::
        (perform (started + (takeReply (.statement query.statement) r).1.delay)
          (afterQuery query next (takeReply (.statement query.statement) r).1)
          (r.send (.statement query.statement)).2).within limit := by
  rw [perform_query]
  simp only [Performance.within, List.takeWhile_cons, h, decide_true, if_true, List.map_cons]

theorem outcome_query :
    (perform started (Script.query query >>= next).run r).outcome limit =
      (perform (started + (takeReply (.statement query.statement) r).1.delay)
        (afterQuery query next (takeReply (.statement query.statement) r).1)
        (r.send (.statement query.statement)).2).outcome limit := by
  rw [perform_query]
  rfl

theorem judgedBy_pure {value : α} (h : started ≤ limit) (r : Rehearsal) :
    JudgedBy limit none started [] (pure value : Script α) r :=
  .ended ⟨value, if_pos h⟩

theorem judgedBy_fail {failure : Failure} (h : started ≤ limit) (r : Rehearsal) :
    JudgedBy limit (some failure) started [] (Script.fail failure : Script α) r :=
  .ended (if_pos h)

theorem judgedBy_announce {hook : Hook} {user : User} {value : α} (h : started ≤ limit) (r : Rehearsal) :
    JudgedBy limit ((hook.objection? r.queue).map .afterCreate) started []
      (Script.announce hook user >>= fun _ => pure value) r := by
  unfold JudgedBy
  rw [Script.run_announce_bind]
  simp only [perform, Rehearsal.announce_fst]
  cases hook.objection? r.queue with
  | none => exact .ended ⟨value, if_pos h⟩
  | some reason => exact .ended (if_pos h)

/-- A script that begins with a query goes on only if the query has a value in time. -/
theorem judgedBy_query (h : started ≤ limit)
    (hnext : ∀ value, query.result (takeReply (.statement query.statement) r).1.outcome = .ok value →
      started + (takeReply (.statement query.statement) r).1.delay ≤ limit →
      JudgedBy limit own? (started + (takeReply (.statement query.statement) r).1.delay) steps (next value)
        (r.send (.statement query.statement)).2) :
    JudgedBy limit own? started (query.step :: steps) (Script.query query >>= next) r := by
  unfold JudgedBy
  rw [within_query h, outcome_query]
  generalize (takeReply (.statement query.statement) r).1 = reply at hnext ⊢
  by_cases hlate : limit < started + reply.delay
  · obtain ⟨hrest, hended⟩ := Rehearsal.perform_late (afterQuery query next reply) hlate
      (r.send (.statement query.statement)).2
    rw [hrest, hended]
    exact .failed (Query.failure?_of_late hlate)
  · have hintime : started + reply.delay ≤ limit := Nat.not_lt.mp hlate
    have hfailure := Query.failure?_of_result query hintime
    unfold afterQuery
    cases hresult : query.result reply.outcome with
    | error failure =>
        rw [hresult] at hfailure
        have hended : Performance.outcome limit ⟨[], started + reply.delay, .error failure⟩ =
          (.error failure : Except Failure β) := if_pos hintime
        exact hended ▸ Judged.failed hfailure
    | ok value =>
        rw [hresult] at hfailure
        exact .passed hfailure (hnext value hresult hintime)

end

/-- The steps of a transfer: the transfer, an entry for either account, and the changes of the balances,
the smaller account number first. -/
def TransferOrder.steps (order : TransferOrder) : List Step :=
  let debit := (Query.addBalance ⟨order.fromAccount, -order.amount⟩).step
  let credit := (Query.addBalance ⟨order.toAccount, order.amount⟩).step
  [(Query.createTransfer order).step,
    (Query.createEntry order.fromAccount (-order.amount)).step,
    (Query.createEntry order.toAccount order.amount).step] ++
    if order.fromAccount < order.toAccount then [debit, credit] else [credit, debit]

/-- The one step of a registration, with the values that are given. -/
def NewUser.steps (user : NewUser) : List Step := [(Query.createUser user).step]

/-- The steps of a confirmation at `now`, by the record that is found and the one that is marked. -/
def Confirmation.steps (confirmation : Confirmation) (now : Instant) (found marked : Verification) :
    List Step :=
  (Query.lockedVerification confirmation.recordId).step ::
    if found.accepts confirmation.secretCode now then
      [(Query.useVerification found.id).step,
        (Query.updateUser { username := marked.username, isEmailVerified := some true }).step]
    else []

/-- What a confirmation objects to: a record that does not accept the code. -/
def Confirmation.objection? (confirmation : Confirmation) (now : Instant) (found : Verification) :
    Option Failure :=
  if found.accepts confirmation.secretCode now then none else some .invalidSecret

theorem TransferOrder.steps_eq (order : TransferOrder) :
    order.steps = [(Query.createTransfer order).step,
      (Query.createEntry order.fromAccount (-order.amount)).step,
      (Query.createEntry order.toAccount order.amount).step,
      (Query.addBalance order.lockOrder.1).step, (Query.addBalance order.lockOrder.2).step] := by
  unfold steps lockOrder
  split
  · rfl
  · rfl

theorem TransferOrder.script_judged (limit : Nat) (order : TransferOrder) (r : Rehearsal) :
    JudgedBy limit none 0 order.steps order.script r := by
  rw [steps_eq]
  unfold script
  apply judgedBy_query (Nat.zero_le _)
  intro transfer _ htransfer
  apply judgedBy_query htransfer
  intro fromEntry _ hfrom
  apply judgedBy_query hfrom
  intro toEntry _ hto
  apply judgedBy_query hto
  intro first _ hfirst
  apply judgedBy_query hfirst
  intro second _ hsecond
  split
  · exact judgedBy_pure hsecond _
  · exact judgedBy_pure hsecond _

theorem Rehearsal.queue_learn {α : Type} (outcome : Except StorageFault α) (r : Rehearsal) :
    (learn outcome r).2.queue = r.queue := by
  unfold learn
  split <;> rfl

theorem Rehearsal.queue_send (command : Command) (r : Rehearsal) : (r.send command).2.queue = r.queue := by
  unfold send
  split
  · exact queue_learn ..
  · split
    · rfl
    · exact queue_learn ..

theorem Rehearsal.queue_checkout (r : Rehearsal) : r.checkout.2.queue = r.queue := by
  unfold checkout
  split
  · rfl
  · split
    · rfl
    · split <;> rfl

theorem Rehearsal.queue_opened (limit : Nat) (r : Rehearsal) : (r.opened limit).queue = r.queue := by
  rw [opened, queue_send, queue_send, queue_checkout]

theorem NewUser.script_judged (limit : Nat) (user : NewUser) (hook : Hook) (r : Rehearsal) :
    JudgedBy limit ((hook.objection? r.queue).map .afterCreate) 0 user.steps (user.script hook) r := by
  refine judgedBy_query (Nat.zero_le _) fun stored _ hstored => ?_
  rw [← Rehearsal.queue_send (.statement (Query.createUser user).statement) r]
  exact judgedBy_announce hstored _

/-- Whether `value` is what the answer to an attempt is read as, if it can be read. -/
def Query.Finds (query : Query α) (attempt? : Option Attempt) (value : α) : Prop :=
  ∀ attempt ∈ attempt?, ∀ value', query.result attempt.reply.outcome = .ok value' → value' = value

theorem Query.finds_none (query : Query α) (value : α) : query.Finds none value := by
  intro attempt hmem
  cases hmem

theorem Query.exists_finds [Nonempty α] (query : Query α) (attempt? : Option Attempt) :
    ∃ value, query.Finds attempt? value := by
  obtain ⟨blank⟩ := ‹Nonempty α›
  cases attempt? with
  | none => exact ⟨blank, query.finds_none blank⟩
  | some attempt =>
      cases hresult : query.result attempt.reply.outcome with
      | ok value =>
          refine ⟨value, ?_⟩
          rintro _ ⟨⟩ value' h
          exact Except.ok.inj (h.symm.trans hresult)
      | error failure =>
          refine ⟨blank, ?_⟩
          rintro _ ⟨⟩ value' h
          cases h.symm.trans hresult

theorem Confirmation.script_judged (limit : Nat) (confirmation : Confirmation) (r : Rehearsal) :
    ∃ found marked,
      (Query.lockedVerification confirmation.recordId).Finds
        ((perform 0 confirmation.script.run r).within limit)[0]? found ∧
      (Query.useVerification found.id).Finds
        ((perform 0 confirmation.script.run r).within limit)[1]? marked ∧
      JudgedBy limit (confirmation.objection? Rehearsal.now found) 0
        (confirmation.steps Rehearsal.now found marked) confirmation.script r := by
  have : Nonempty Verification := ⟨⟨0, "", "", "", false, ⟨0⟩, ⟨0⟩⟩⟩
  obtain ⟨found, hfound⟩ := (Query.lockedVerification confirmation.recordId).exists_finds
    ((perform 0 confirmation.script.run r).within limit)[0]?
  obtain ⟨marked, hmarked⟩ := (Query.useVerification found.id).exists_finds
    ((perform 0 confirmation.script.run r).within limit)[1]?
  refine ⟨found, marked, hfound, hmarked, ?_⟩
  unfold Confirmation.script at hfound hmarked ⊢
  rw [within_query (Nat.zero_le _)] at hfound hmarked
  refine judgedBy_query (Nat.zero_le _) fun found' hresult hintime => ?_
  obtain rfl := hfound _ rfl found' hresult
  simp only [afterQuery, hresult, List.getElem?_cons_succ, Script.run_clock_bind, perform] at hmarked
  unfold JudgedBy Confirmation.objection?
  rw [Script.run_clock_bind]
  simp only [perform]
  cases haccepts : found'.accepts confirmation.secretCode Rehearsal.now with
  | false => exact judgedBy_fail hintime _
  | true =>
      simp only [haccepts, if_true] at hmarked ⊢
      rw [within_query hintime] at hmarked
      refine judgedBy_query hintime fun marked' hresult' hintime' => ?_
      obtain rfl := hmarked _ rfl marked' hresult'
      exact judgedBy_query hintime' fun user _ hintime'' => judgedBy_pure hintime'' _

/-- What a query finds in a whole transaction is what it finds in what is sent for the script. -/
theorem Query.Finds.of_data {query : Query α} {value : α} {sent whole : List Attempt} {i : Nat}
    (h : query.Finds sent[i]? value) (hdata : data whole = [] ∨ data whole = sent) :
    query.Finds (data whole)[i]? value := by
  rcases hdata with hdata | hdata
  · rw [hdata, List.getElem?_nil]
    exact query.finds_none value
  · rwa [hdata]

/-- In every transaction of the ledger the first failure decides, whatever the database replies and how
long it takes: in transfers, of which those that are not admitted attempt nothing, in registrations, and
in confirmations, whose later steps are about the record that was read and the one that was marked. -/
theorem first_failure_decides (limit : Nat) (r : Rehearsal) :
    (∀ order : TransferOrder,
      match order.check with
      | .error failure =>
          attempts (order.execute limit) r = [] ∧ (run (order.execute limit) r).1 = .error failure
      | .ok () =>
          FirstFailureDecides limit order.steps none (attempts (order.execute limit) r)
            (run (order.execute limit) r).1) ∧
      (∀ (user : NewUser) (hook : Hook),
        FirstFailureDecides limit user.steps ((hook.objection? r.queue).map .afterCreate)
          (attempts (user.register limit hook) r) (run (user.register limit hook) r).1) ∧
      ∀ confirmation : Confirmation, ∃ found marked,
        (Query.lockedVerification confirmation.recordId).Finds
          (data (attempts (confirmation.execute limit) r))[0]? found ∧
        (Query.useVerification found.id).Finds
          (data (attempts (confirmation.execute limit) r))[1]? marked ∧
        FirstFailureDecides limit (confirmation.steps Rehearsal.now found marked)
          (confirmation.objection? Rehearsal.now found) (attempts (confirmation.execute limit) r)
          (run (confirmation.execute limit) r).1 := by
  refine ⟨fun order => ?_, fun user hook => ?_, fun confirmation => ?_⟩
  · unfold TransferOrder.execute
    cases order.check with
    | error failure => exact ⟨rfl, rfl⟩
    | ok =>
        exact (Rehearsal.atomically_transacts limit order.script r).decides (order.script_judged limit _)
  · have hjudged := user.script_judged limit hook (r.opened limit)
    rw [Rehearsal.queue_opened] at hjudged
    exact (Rehearsal.atomically_transacts limit (user.script hook) r).decides hjudged
  · obtain ⟨found, marked, hfound, hmarked, hjudged⟩ :=
      confirmation.script_judged limit (r.opened limit)
    have htransacts := Rehearsal.atomically_transacts limit confirmation.script r
    have hdata := htransacts.data_eq hjudged.isData
    exact ⟨found, marked, hfound.of_data hdata, hmarked.of_data hdata, htransacts.decides hjudged⟩

end Passbook
