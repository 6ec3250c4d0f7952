import Passbook.Http.Serve
import Passbook.Proofs.Transaction.Contract
import Passbook.Worker

/-!
# How services hold a connection

A service knows how it stands to the connection from the answers alone. It begins a transaction, and sends
single statements, only on a connection that it holds without a transaction; it sends the statements of a
script, COMMIT and ROLLBACK only within a transaction; and once setting up the transaction, COMMIT or
ROLLBACK has failed, it does nothing but give the connection back with its transaction open. Every call
of the ledger keeps to this, whatever is answered, and ends without a connection.
-/
namespace Passbook

open Service (Event)

/-- How a service stands to the connection. -/
inductive Grip where
  | away
  | held
  | inTransaction
  /-- the connection is held with a transaction that can no longer be ended by the service itself -/
  | spoiled
deriving DecidableEq

/-- The grip after an event, if it is one that may happen with this grip. -/
def Grip.after : Grip → Event → Option Grip
  | .away, ⟨.checkout, .ok _⟩ => some .held
  | .away, ⟨.checkout, .error _⟩ => some .away
  | .held, ⟨.send .begin, .ok _⟩ => some .inTransaction
  | .held, ⟨.send .begin, .error _⟩ => some .held
  | .held, ⟨.send (.statement _), _⟩ => some .held
  | .held, ⟨.release false, _⟩ => some .away
  | .inTransaction, ⟨.send (.limit _), .ok _⟩ => some .inTransaction
  | .inTransaction, ⟨.sendWithin .., _⟩ => some .inTransaction
  | .inTransaction, ⟨.send .commit, .ok _⟩ => some .held
  | .inTransaction, ⟨.send .rollback, .ok _⟩ => some .held
  | .inTransaction, ⟨.send (.limit _), .error _⟩ => some .spoiled
  | .inTransaction, ⟨.send .commit, .error _⟩ => some .spoiled
  | .inTransaction, ⟨.send .rollback, .error _⟩ => some .spoiled
  | .spoiled, ⟨.release true, _⟩ => some .away
  | grip, ⟨.clock, _⟩ | grip, ⟨.announce .., _⟩ | grip, ⟨.salt, _⟩ | grip, ⟨.codeDraws, _⟩
  | grip, ⟨.deliver _, _⟩ => some grip
  | _, _ => none

variable {α β : Type}

/-- Whether a service, from a grip on, does only what its grip allows, and ends as it should. -/
def Grip.Suits (ends : α → Grip → Prop) (grip : Grip) : Service α → Prop
  | .done value => ends value grip
  | .ask action next => ∀ answer, ∃ grip', grip.after ⟨action, answer⟩ = some grip' ∧
      grip'.Suits ends (next answer)

namespace Grip.Suits

variable {grip : Grip}

theorem mono {ends ends' : α → Grip → Prop} (hends : ∀ value grip, ends value grip → ends' value grip)
    {p : Service α} (h : grip.Suits ends p) : grip.Suits ends' p := by
  induction p generalizing grip with
  | done value => exact hends _ _ h
  | ask action next ih =>
      intro answer
      obtain ⟨grip', hafter, hrest⟩ := h answer
      exact ⟨grip', hafter, ih answer hrest⟩

theorem bind {ends : β → Grip → Prop} {p : Service α} {f : α → Service β}
    (h : grip.Suits (fun value grip => grip.Suits ends (f value)) p) : grip.Suits ends (p.bind f) := by
  induction p generalizing grip with
  | done value => exact h
  | ask action next ih =>
      intro answer
      obtain ⟨grip', hafter, hrest⟩ := h answer
      exact ⟨grip', hafter, ih answer hrest⟩

end Grip.Suits

/-- Whether a service takes a connection and gives it back as it should, any number of times. -/
def Service.IsTidy (p : Service α) : Prop := Grip.away.Suits (fun _ grip => grip = .away) p

/-- Whether a service does nothing but single statements on the connection it is given. -/
def Service.OnlyQueries (p : Service α) : Prop := Grip.held.Suits (fun _ grip => grip = .held) p

namespace Service

theorem isTidy_done (value : α) : IsTidy (.done value) := rfl

theorem IsTidy.bind {p : Service α} {f : α → Service β} (hp : p.IsTidy) (hf : ∀ value, (f value).IsTidy) :
    IsTidy (p.bind f) := by
  refine Grip.Suits.bind (hp.mono ?_)
  rintro value _ rfl
  exact hf value

theorem OnlyQueries.bind {p : Service α} {f : α → Service β} (hp : p.OnlyQueries)
    (hf : ∀ value, (f value).OnlyQueries) : OnlyQueries (p.bind f) := by
  refine Grip.Suits.bind (hp.mono ?_)
  rintro value _ rfl
  exact hf value

theorem query_onlyQueries (query : Query α) : (Service.query query).OnlyQueries :=
  fun _ => ⟨.held, rfl, rfl⟩

/-- Queries between a checkout and a release, and what is done without the connection afterwards. -/
theorem isTidy_of_onlyQueries {body : Service α} {refused : StorageFault → β} {next : α → Service β}
    (hbody : body.OnlyQueries) (hnext : ∀ result, (next result).IsTidy) :
    IsTidy (.ask .checkout fun
      | .error fault => .done (refused fault)
      | .ok () => body.bind fun result => .ask (.release false) fun () => next result) := by
  intro opened
  cases opened with
  | error fault => exact ⟨.away, rfl, rfl⟩
  | ok opened =>
      refine ⟨.held, rfl, Grip.Suits.bind (hbody.mono ?_)⟩
      rintro value _ rfl
      exact fun _ => ⟨.away, rfl, hnext value⟩

theorem onConnection_isTidy {body : Service (Except Failure α)} (hbody : body.OnlyQueries) :
    (onConnection body).IsTidy :=
  isTidy_of_onlyQueries hbody isTidy_done

theorem pooled_isTidy (query : Query α) : (pooled query).IsTidy :=
  onConnection_isTidy (query_onlyQueries query)

end Service

theorem Script.within_suits (q : Script.Body α) (patience : Nat) :
    Grip.inTransaction.Suits (fun _ grip => grip = .inTransaction) (Script.within patience q) := by
  induction q generalizing patience with
  | done result => rfl
  | ask action next ih =>
      cases action with
      | send statement =>
          rw [Script.within]
          intro reply
          cases reply with
          | overdue => exact ⟨.inTransaction, rfl, rfl⟩
          | inTime after outcome => exact ⟨.inTransaction, rfl, ih outcome _⟩
      | pause millis =>
          rw [Script.within]
          split
          · rfl
          · exact ih () _
      | clock => exact fun now => ⟨.inTransaction, rfl, ih now _⟩
      | announce hook user => exact fun outcome => ⟨.inTransaction, rfl, ih outcome _⟩

theorem conclude_suits (result : Except Failure α) :
    Grip.inTransaction.Suits (fun _ grip => grip = .away) (conclude result) := by
  cases result with
  | ok value =>
      intro committed
      cases committed with
      | ok answer => exact ⟨.held, rfl, fun _ => ⟨.away, rfl, rfl⟩⟩
      | error fault => exact ⟨.spoiled, rfl, fun _ => ⟨.away, rfl, rfl⟩⟩
  | error cause =>
      intro undone
      cases undone with
      | ok answer => exact ⟨.held, rfl, fun _ => ⟨.away, rfl, rfl⟩⟩
      | error fault => exact ⟨.spoiled, rfl, fun _ => ⟨.away, rfl, rfl⟩⟩

/-- A transaction leaves no connection behind, whatever its script does. -/
theorem atomically_isTidy (limit : Nat) (body : Script α) : (atomically limit body).IsTidy := by
  rw [atomically_eq]
  intro opened
  cases opened with
  | error fault => exact ⟨.away, rfl, rfl⟩
  | ok opened =>
      refine ⟨.held, rfl, fun begun => ?_⟩
      cases begun with
      | error fault => exact ⟨.held, rfl, fun _ => ⟨.away, rfl, rfl⟩⟩
      | ok begun =>
          refine ⟨.inTransaction, rfl, fun limited => ?_⟩
          cases limited with
          | error fault => exact ⟨.spoiled, rfl, fun _ => ⟨.away, rfl, rfl⟩⟩
          | ok limited =>
              refine ⟨.inTransaction, rfl, Grip.Suits.bind ((Script.within_suits body.run limit).mono ?_)⟩
              rintro result _ rfl
              exact conclude_suits result

theorem TransferOrder.execute_isTidy (limit : Nat) (order : TransferOrder) :
    (order.execute limit).IsTidy := by
  unfold TransferOrder.execute
  split
  · rfl
  · exact atomically_isTidy limit order.script

namespace Service

open Http (Problem)

theorem checked_isTidy {check : Except FieldFault α} {next : α → Service (Except Problem β)}
    (h : ∀ value, (next value).IsTidy) : (checked check next).IsTidy := by
  cases check with
  | ok value => exact h value
  | error fault => rfl

theorem reported_isTidy {part : Service (Except Failure α)} (h : part.IsTidy) : (reported part).IsTidy :=
  h.bind fun _ => isTidy_done _

end Service

open Service (checked_isTidy reported_isTidy pooled_isTidy isTidy_done)

namespace Payment

theorem checkAccount_onlyQueries (payment : Payment) (id : Int) :
    (payment.checkAccount id).OnlyQueries := by
  refine (Service.query_onlyQueries (.account id)).bind fun result => ?_
  cases result with
  | error failure => rfl
  | ok account =>
      dsimp only
      split <;> rfl

theorem checkAccounts_isTidy (payment : Payment) : payment.checkAccounts.IsTidy := by
  have hboth : payment.checkBoth.OnlyQueries := by
    refine (payment.checkAccount_onlyQueries _).bind fun result => ?_
    cases result with
    | error problem => rfl
    | ok => exact payment.checkAccount_onlyQueries _
  exact Service.isTidy_of_onlyQueries hboth isTidy_done

theorem execute_isTidy (limit : Nat) (payment : Payment) : (payment.execute limit).IsTidy := by
  unfold execute
  split
  · rfl
  · refine checked_isTidy fun _ => payment.checkAccounts_isTidy.bind fun result => ?_
    cases result with
    | error problem => rfl
    | ok => exact reported_isTidy (payment.order.execute_isTidy limit)

end Payment

theorem Health.check_isTidy : Health.check.IsTidy := by
  refine (reported_isTidy (pooled_isTidy .probe)).bind fun result => ?_
  cases result with
  | error problem => rfl
  | ok => exact fun _ => ⟨.away, rfl, rfl⟩

namespace Http

theorem answered_isTidy {status : Nat} {json : β → Json.Value} {needed : Except Rejection α}
    {operation : α → Service (Except Problem β)} (h : ∀ value, (operation value).IsTidy) :
    (answered status json needed operation).IsTidy := by
  cases needed with
  | error rejection => rfl
  | ok value =>
      refine (h value).bind fun result => ?_
      cases result <;> rfl

theorem serve_isTidy (limit : Nat) (request : Request) (operation : Operation) :
    (serve limit request operation).IsTidy := by
  cases operation with
  | checkHealth =>
      change (answered 200 Health.json (.ok ()) fun () => Health.check).IsTidy
      exact answered_isTidy fun _ => Health.check_isTidy
  | createUser =>
      exact answered_isTidy fun registration => checked_isTidy fun _ salt =>
        ⟨.away, rfl, reported_isTidy (atomically_isTidy limit _)⟩
  | confirmEmail =>
      exact answered_isTidy fun _ => checked_isTidy fun _ => reported_isTidy (atomically_isTidy limit _)
  | createAccount => exact answered_isTidy fun _ => checked_isTidy fun _ => reported_isTidy (pooled_isTidy _)
  | listAccounts => exact answered_isTidy fun _ => checked_isTidy fun _ => reported_isTidy (pooled_isTidy _)
  | showAccount segment => exact answered_isTidy fun _ => reported_isTidy (pooled_isTidy _)
  | createTransfer => exact answered_isTidy fun payment => payment.execute_isTidy limit

/-- Every request leaves no connection behind. -/
theorem respond_isTidy (limit : Nat) (request : Request) : (respond limit request).IsTidy := by
  unfold respond
  split
  · rfl
  · split
    · rfl
    · refine (serve_isTidy limit request _).bind fun response => ?_
      split <;> rfl

end Http

namespace Task

theorem prepare_onlyQueries (task : Task) : task.prepare.OnlyQueries := by
  refine (Service.query_onlyQueries (.user task.username)).bind fun found => ?_
  cases found with
  | error failure => rfl
  | ok user =>
      refine fun draws => ⟨.held, rfl, (Service.query_onlyQueries _).bind fun stored => ?_⟩
      cases stored <;> rfl

theorem mail_isTidy (base : String) (user : User) (record : Verification) :
    (mail base user record).IsTidy := by
  unfold mail
  split
  · rfl
  · intro delivered
    cases delivered <;> exact ⟨.away, rfl, rfl⟩

/-- Every task leaves no connection behind. -/
theorem process_isTidy (base : String) (task : Task) : (task.process base).IsTidy := by
  refine Service.isTidy_of_onlyQueries task.prepare_onlyQueries fun prepared => ?_
  cases prepared with
  | error fault => exact isTidy_done _
  | ok prepared => exact mail_isTidy base prepared.1 prepared.2

end Task

end Passbook
