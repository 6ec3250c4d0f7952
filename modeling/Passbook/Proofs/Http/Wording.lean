import Passbook.Http.Serve
import Passbook.Proofs.Database.AsWritten
import Passbook.Proofs.Transaction.Contract
import Passbook.Worker

/-!
# What requests and tasks send to the tables

Whatever is answered, a request or a task sends no statement but those that are told as they are written,
and the probe of a health check. So what becomes of the tables is what the texts say, with the values at
their places.
-/
namespace Passbook

open Service (Action)

variable {α β : Type}

/-- Whether a statement, if one is sent, is told as it is written. -/
def Service.Action.IsWritten : Action → Prop
  | .send (.statement statement) | .sendWithin statement _ =>
      statement = .probe ∨ ∃ written, statement.written? = some written
  | _ => True

/-- Whether a service sends no other statements. -/
def Service.SendsWritten (service : Service α) : Prop :=
  service.Keeps (fun _ action => action.IsWritten) (fun _ _ => True) []

namespace Service.SendsWritten

theorem behind {service : Service α} (h : service.SendsWritten) (past : List Event) :
    service.Keeps (fun _ action => action.IsWritten) (fun _ _ => True) past := by
  have hbehind := Program.Keeps.behind past h
  rw [List.append_nil] at hbehind
  exact hbehind.mono (fun _ _ ⟨_, _, hwritten⟩ => hwritten) fun _ _ _ => trivial

theorem bind {service : Service α} {next : α → Service β} (h : service.SendsWritten)
    (hnext : ∀ value, (next value).SendsWritten) : SendsWritten (service.bind next) :=
  (Program.keeps_bind _ _).mpr (h.mono (fun _ _ hwritten => hwritten) fun past value _ => (hnext value).behind past)

theorem ask {action : Action} {next : action.Answer → Service α} (h : action.IsWritten)
    (hnext : ∀ answer, (next answer).SendsWritten) : SendsWritten (.ask action next) :=
  ⟨h, fun answer => (hnext answer).behind _⟩

theorem done (value : α) : SendsWritten (.done value) := trivial

theorem query {query : Query α} {written : Written} (h : query.statement.written? = some written) :
    (Service.query query).SendsWritten :=
  ask (.inr ⟨written, h⟩) done

/-- What is sent between a checkout and a release, and what comes afterwards. -/
theorem onConnection {body : Service α} {refused : StorageFault → β} {next : α → Service β}
    (hbody : body.SendsWritten) (hnext : ∀ result, (next result).SendsWritten) :
    SendsWritten (.ask .checkout fun
      | .error fault => .done (refused fault)
      | .ok () => body.bind fun result => .ask (.release false) fun () => next result) := by
  refine ask trivial fun opened => ?_
  cases opened with
  | error fault => exact done _
  | ok => exact hbody.bind fun result => ask trivial fun _ => hnext result

theorem pooled {query : Query α} (h : Action.IsWritten (.send (.statement query.statement))) :
    (Service.pooled query).SendsWritten :=
  onConnection (ask h fun _ => done _) done

theorem reported {service : Service (Except Failure α)} (h : service.SendsWritten) :
    (Service.reported service).SendsWritten := h.bind fun _ => done _

theorem checked {check : Except FieldFault α} {next : α → Service (Except Http.Problem β)}
    (h : ∀ value, (next value).SendsWritten) : (Service.checked check next).SendsWritten := by
  cases check with
  | ok value => exact h value
  | error fault => exact done _

theorem atomically {body : Script α}
    (h : Script.Sends (fun statement => ∃ written, statement.written? = some written) body.run) (limit : Nat) :
    SendsWritten (Passbook.atomically limit body) := by
  refine (atomically_sends h limit).mono (fun past action hsends => ?_) fun _ _ _ => trivial
  match action with
  | .sendWithin statement patience => exact .inr (hsends.1 statement patience rfl)
  | .send (.statement statement) => exact absurd rfl (hsends.2 statement)
  | .send .begin | .send (.limit _) | .send .commit | .send .rollback | .send (.migrate _)
  | .send (.bookkeeping _) | .checkout | .release _ | .clock | .announce .. | .salt | .codeDraws
  | .deliver _ => trivial

end Service.SendsWritten

open Service (SendsWritten)

theorem TransferOrder.execute_sendsWritten (limit : Nat) (order : TransferOrder) :
    (order.execute limit).SendsWritten := by
  unfold execute
  split
  · exact .done _
  · refine .atomically ?_ limit
    refine Script.sends_query ⟨_, rfl⟩ fun _ => Script.sends_query ⟨_, rfl⟩ fun _ => ?_
    refine Script.sends_query ⟨_, rfl⟩ fun _ => Script.sends_query ⟨_, rfl⟩ fun first => ?_
    refine Script.sends_query ⟨_, rfl⟩ fun _ => ?_
    split <;> exact Script.sends_pure _

theorem NewUser.register_sendsWritten (limit : Nat) (user : NewUser) (hook : Hook) :
    (user.register limit hook).SendsWritten :=
  .atomically (Script.sends_query ⟨_, rfl⟩ fun _ => Script.sends_announce fun _ => Script.sends_pure _) limit

theorem Confirmation.execute_sendsWritten (limit : Nat) (confirmation : Confirmation) :
    (confirmation.execute limit).SendsWritten := by
  refine .atomically (Script.sends_query ⟨_, rfl⟩ fun found => Script.sends_clock fun now => ?_) limit
  split
  · exact Script.sends_query ⟨_, rfl⟩ fun _ => Script.sends_query ⟨_, rfl⟩ fun _ => Script.sends_pure _
  · exact Script.sends_fail _

namespace Payment

theorem checkAccount_sendsWritten (payment : Payment) (id : Int) : (payment.checkAccount id).SendsWritten := by
  refine (SendsWritten.query rfl).bind fun found => ?_
  cases found with
  | error failure => exact .done _
  | ok account =>
      dsimp only
      split <;> exact .done _

theorem checkAccounts_sendsWritten (payment : Payment) : payment.checkAccounts.SendsWritten := by
  have hboth : payment.checkBoth.SendsWritten := by
    refine (payment.checkAccount_sendsWritten _).bind fun result => ?_
    cases result with
    | error problem => exact .done _
    | ok => exact payment.checkAccount_sendsWritten _
  exact .onConnection hboth .done

theorem execute_sendsWritten (limit : Nat) (payment : Payment) : (payment.execute limit).SendsWritten := by
  unfold execute
  split
  · exact .done _
  · refine .checked fun _ => payment.checkAccounts_sendsWritten.bind fun result => ?_
    cases result with
    | error problem => exact .done _
    | ok => exact (payment.order.execute_sendsWritten limit).reported

end Payment

namespace Http

theorem answered_sendsWritten {status : Nat} {json : β → Json.Value} {needed : Except Rejection α}
    {operation : α → Service (Except Problem β)} (h : ∀ value, (operation value).SendsWritten) :
    (answered status json needed operation).SendsWritten := by
  cases needed with
  | error rejection => exact .done _
  | ok value =>
      refine (h value).bind fun result => ?_
      cases result <;> exact .done _

theorem serve_sendsWritten (limit : Nat) (request : Request) (operation : Operation) :
    (serve limit request operation).SendsWritten := by
  cases operation with
  | checkHealth =>
      have hprobe : Health.check.SendsWritten := by
        refine (SendsWritten.pooled (.inl rfl)).reported.bind fun result => ?_
        cases result with
        | error problem => exact .done _
        | ok => exact .ask trivial fun _ => .done _
      change (answered 200 Health.json (.ok ()) fun () => Health.check).SendsWritten
      exact answered_sendsWritten fun _ => hprobe
  | createUser =>
      exact answered_sendsWritten fun registration => .checked fun _ =>
        .ask trivial fun _ => (NewUser.register_sendsWritten limit _ .enqueue).reported
  | confirmEmail =>
      exact answered_sendsWritten fun confirmation => .checked fun _ =>
        (confirmation.execute_sendsWritten limit).reported
  | createAccount =>
      exact answered_sendsWritten fun _ => .checked fun _ => (SendsWritten.pooled (.inr ⟨_, rfl⟩)).reported
  | listAccounts =>
      exact answered_sendsWritten fun _ => .checked fun _ => (SendsWritten.pooled (.inr ⟨_, rfl⟩)).reported
  | showAccount segment =>
      exact answered_sendsWritten fun _ => (SendsWritten.pooled (.inr ⟨_, rfl⟩)).reported
  | createTransfer => exact answered_sendsWritten fun payment => payment.execute_sendsWritten limit

theorem respond_sendsWritten (limit : Nat) (request : Request) : (respond limit request).SendsWritten := by
  unfold respond
  split
  · exact .done _
  · split
    · exact .done _
    · refine (serve_sendsWritten limit request _).bind fun response => ?_
      split <;> exact .done _

end Http

theorem Task.process_sendsWritten (base : String) (task : Task) : (task.process base).SendsWritten := by
  have hprepare : task.prepare.SendsWritten := by
    refine (SendsWritten.query rfl).bind fun found => ?_
    cases found with
    | error failure => exact .done _
    | ok user =>
        refine .ask trivial fun draws => (SendsWritten.query rfl).bind fun stored => ?_
        cases stored <;> exact .done _
  refine .onConnection hprepare fun prepared => ?_
  cases prepared with
  | error fault => exact .done _
  | ok prepared =>
      change (mail base prepared.1 prepared.2).SendsWritten
      unfold mail
      split
      · exact .done _
      · refine .ask trivial fun delivered => ?_
        cases delivered <;> exact .done _

/-- What a service that sends written statements only sends in a run is carried out as it is written. -/
theorem Service.SendsWritten.carriesOut {service : Service α} (h : service.SendsWritten) {σ : Type}
    (surroundings : (action : Action) → σ → action.Answer × σ) (state : σ) {statement : Statement}
    (hsent : ∃ event ∈ service.history surroundings state,
      event.1 = .send (.statement statement) ∨ ∃ patience, event.1 = .sendWithin statement patience) :
    statement = .probe ∨ ∃ written, ∀ (db : Database) (stamp : Stamp),
      (db.users.rows.map User.email).Nodup → db.CarriesOut stamp statement written := by
  obtain ⟨event, hevent, hstatement⟩ := hsent
  have hwritten := h.asked surroundings state event hevent
  have htold : statement = .probe ∨ ∃ written, statement.written? = some written := by
    rcases hstatement with heq | ⟨patience, heq⟩ <;> rwa [heq] at hwritten
  exact htold.imp_right fun ⟨written, h⟩ => ⟨written, fun _ _ hunique => Database.carriesOut hunique h⟩

end Passbook
