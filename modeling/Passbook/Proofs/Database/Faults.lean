import Passbook.Proofs.Database.Meaning
import Passbook.Proofs.Disclosure.Alike
import Passbook.Proofs.Transaction.Contract
import Passbook.Rehearsal

/-!
# What the faults of a query mean

All operations on the tables report what goes wrong by one rule: the failure is what the fault means, and
the message of a refusal has no part in that. The rule also holds of the faults of rows that cannot be read.

An operation takes the first row of its answer, or each of its rows, or the number of rows that were changed.
It makes no difference whether it runs on a connection of its own or in a transaction.
-/
namespace Passbook

namespace StorageFault

theorem means_alike {a b : Refusal} (h : a.Alike b) {failure : Failure}
    (hfailure : ∀ kept, failure ≠ .storageFailure kept) :
    (refused a).Means failure ↔ (refused b).Means failure := by
  cases failure with
  | storageFailure kept => exact absurd rfl (hfailure kept)
  | _ => simp [Means, h.1, h.2]

end StorageFault

namespace Answer

variable {α : Type} {read : Row → Except StorageFault α}

theorem all_eq_ok_iff {rows : List Row} {records : List α} :
    rows.mapM read = .ok records ↔ List.Forall₂ (fun row record => read row = .ok record) rows records := by
  induction rows generalizing records with
  | nil => cases records <;> simp [pure, Except.pure]
  | cons row rows ih =>
      rw [List.mapM_cons]
      cases hrow : read row with
      | error fault => cases records <;> simp [bind, Except.bind, hrow]
      | ok record =>
          cases hrows : rows.mapM read with
          | error fault => cases records <;> simp [bind, Except.bind, ← ih, hrow, hrows]
          | ok others => cases records <;> simp [bind, Except.bind, pure, Except.pure, ← ih, hrow, hrows]

/-- The first row that cannot be read decides. -/
theorem all_of_unread {row : Row} {later : List Row}
    {fault : StorageFault} (hrow : read row = .error fault) {earlier : List Row}
    (hearlier : ∀ row ∈ earlier, ∃ record, read row = .ok record) :
    (earlier ++ row :: later).mapM read = .error fault := by
  induction earlier with
  | nil =>
      rw [List.nil_append, List.mapM_cons, hrow]
      rfl
  | cons first earlier ih =>
      obtain ⟨record, hfirst⟩ := hearlier first List.mem_cons_self
      rw [List.cons_append, List.mapM_cons, hfirst, ih fun row hrow => hearlier row (.tail _ hrow)]
      rfl

end Answer

namespace Query

/-- What is taken from an answer: the first row, each row, or the number of rows that were changed. -/
inductive Reading : Type → Type 1
  | first {α : Type} (read : Row → Except StorageFault α) : Reading α
  | every {α : Type} (read : Row → Except StorageFault α) : Reading (List α)
  | changed : Reading Unit

def Reading.read {α : Type} : Reading α → Answer → Except StorageFault α
  | .first read => Answer.one read
  | .every read => Answer.all read
  | .changed => fun answer => if answer.affected = 0 then .error .rowNotFound else .ok ()

/-- The operations on the tables, each with what it takes from its answer. -/
inductive Operation : {α : Type} → Query α → Reading α → Prop
  | createAccount (owner balance currency) :
      Operation (.createAccount owner balance currency) (.first Account.ofRow)
  | account (id) : Operation (.account id) (.first Account.ofRow)
  | lockedAccount (id) : Operation (.lockedAccount id) (.first Account.ofRow)
  | accounts (owner window) : Operation (.accounts owner window) (.every Account.ofRow)
  | setBalance (id balance) : Operation (.setBalance id balance) (.first Account.ofRow)
  | addBalance (change) : Operation (.addBalance change) (.first Account.ofRow)
  | deleteAccount (id) : Operation (.deleteAccount id) .changed
  | createEntry (account amount) : Operation (.createEntry account amount) (.first Entry.ofRow)
  | entry (id) : Operation (.entry id) (.first Entry.ofRow)
  | entries (account window) : Operation (.entries account window) (.every Entry.ofRow)
  | sumEntries (account) : Operation (.sumEntries account) (.first fun row => row.intAt "value" 0)
  | createTransfer (order) : Operation (.createTransfer order) (.first Transfer.ofRow)
  | transfer (id) : Operation (.transfer id) (.first Transfer.ofRow)
  | transfers (fromAccount toAccount window) :
      Operation (.transfers fromAccount toAccount window) (.every Transfer.ofRow)
  | createUser (user) : Operation (.createUser user) (.first User.ofRow)
  | user (username) : Operation (.user username) (.first User.ofRow)
  | updateUser (change) : Operation (.updateUser change) (.first User.ofRow)
  | createSession (session) : Operation (.createSession session) (.first LoginSession.ofRow)
  | session (id) : Operation (.session id) (.first LoginSession.ofRow)
  | createVerification (record) : Operation (.createVerification record) (.first Verification.ofRow)
  | lockedVerification (id) : Operation (.lockedVerification id) (.first Verification.ofRow)
  | useVerification (id) : Operation (.useVerification id) (.first Verification.ofRow)

variable {α : Type} {query : Query α} {reading : Reading α}

theorem Operation.read_eq (h : Operation query reading) : query.read = reading.read := by
  cases h <;> rfl

/-- Whether a result is the failure that a fault means. -/
def Blames (fault : StorageFault) (result : Except Failure α) : Prop :=
  ∀ failure, result = .error failure ↔ fault.Means failure

def Reading.Gives : {α : Type} → Reading α → Answer → Except Failure α → Prop
  | _, .first read, answer, result =>
      (answer.rows = [] → result = .error .notFound) ∧
        ∀ row later, answer.rows = row :: later →
          (∀ record, read row = .ok record → result = .ok record) ∧
            ∀ fault, read row = .error fault → Blames fault result
  | _, .every read, answer, result =>
      (∀ records, result = .ok records ↔
        List.Forall₂ (fun row record => read row = .ok record) answer.rows records) ∧
        ∀ earlier row later fault, answer.rows = earlier ++ row :: later →
          (∀ row ∈ earlier, ∃ record, read row = .ok record) → read row = .error fault →
            Blames fault result
  | _, .changed, answer, result =>
      (answer.affected = 0 → result = .error .notFound) ∧ (answer.affected ≠ 0 → result = .ok ())

structure Reading.Tells (reading : Reading α) (outcome : Except StorageFault Answer)
    (result : Except Failure α) : Prop where
  fault : ∀ fault, outcome = .error fault → Blames fault result
  /-- another message would not have changed a failure that does not hold it -/
  message : ∀ a b : Refusal, outcome = .error (.refused a) → a.Alike b →
    ∀ failure, (∀ kept, failure ≠ .storageFailure kept) →
      (result = .error failure ↔ (StorageFault.refused b).Means failure)
  answer : ∀ answer, outcome = .ok answer → reading.Gives answer result

theorem blames_ofFault (fault : StorageFault) :
    Blames fault (.error (.ofFault fault) : Except Failure α) := by
  intro failure
  rw [StorageFault.means_iff, Except.error.injEq, eq_comm]

theorem Reading.tells_error (fault : StorageFault) :
    reading.Tells (.error fault) (.error (.ofFault fault) : Except Failure α) where
  fault := by
    rintro fault' ⟨⟩
    exact blames_ofFault fault
  message := by
    rintro a b ⟨⟩ halike failure hfailure
    rw [← StorageFault.means_alike halike hfailure]
    exact blames_ofFault _ failure
  answer := nofun

theorem result_of_read {answer : Answer} {value : α} (h : query.read answer = .ok value) :
    query.result (.ok answer) = .ok value := by
  simp only [result, h]

theorem result_of_unread {answer : Answer} {fault : StorageFault} (h : query.read answer = .error fault) :
    query.result (.ok answer) = .error (.ofFault fault) := by
  simp only [result, h]

theorem result_eq_ok_iff {answer : Answer} {value : α} :
    query.result (.ok answer) = .ok value ↔ query.read answer = .ok value := by
  refine ⟨fun h => ?_, result_of_read⟩
  cases hread : query.read answer with
  | error fault => cases (result_of_unread hread).symm.trans h
  | ok other => rw [Except.ok.inj ((result_of_read hread).symm.trans h)]

theorem Reading.gives_result (hread : query.read = reading.read) (answer : Answer) :
    reading.Gives answer (query.result (.ok answer)) := by
  cases reading with
  | first read =>
      have hone : query.read answer = answer.one read := congrFun hread answer
      refine ⟨fun hrows => ?_, fun row later hrows => ?_⟩
      · have hnone : query.read answer = .error .rowNotFound := by rw [hone, Answer.one, hrows]
        exact result_of_unread hnone
      · have hrow : query.read answer = read row := by rw [hone, Answer.one, hrows]
        refine ⟨fun record h => result_of_read (hrow.trans h), fun fault h => ?_⟩
        rw [result_of_unread (hrow.trans h)]
        exact blames_ofFault fault
  | every read =>
      have hall : query.read answer = answer.rows.mapM read := congrFun hread answer
      refine ⟨fun records => ?_, fun earlier row later fault hrows hearlier h => ?_⟩
      · rw [result_eq_ok_iff, hall, Answer.all_eq_ok_iff]
      · rw [hrows, Answer.all_of_unread h hearlier] at hall
        rw [result_of_unread hall]
        exact blames_ofFault fault
  | changed =>
      have hcount : query.read answer = if answer.affected = 0 then .error .rowNotFound else .ok () :=
        congrFun hread answer
      refine ⟨fun h => ?_, fun h => result_of_read (hcount.trans (if_neg h))⟩
      exact result_of_unread (hcount.trans (if_pos h))

theorem Reading.tells_result (hread : query.read = reading.read) :
    ∀ outcome, reading.Tells outcome (query.result outcome)
  | .error fault => tells_error fault
  | .ok answer =>
      { fault := nofun
        message := nofun
        answer := fun _ h => Except.ok.inj h ▸ gives_result hread answer }

/-- The ways in which an operation runs: on a connection of the pool, on one that is checked out, and in a
transaction that may take some more milliseconds. -/
inductive RunsAs (query : Query α) : Service (Except Failure α) → Prop
  | pooled : RunsAs query (Service.pooled query)
  | checkedOut : RunsAs query (Service.query query)
  | within (patience : Nat) : RunsAs query (Script.within patience (Script.query query).run)

end Query

open Service (Event)

namespace Service

/-- What an event reports of a statement: there is no connection for it, or this came back for it. -/
def Event.report? (statement : Statement) : Event → Option (Except StorageFault Answer)
  | ⟨.checkout, .error fault⟩ => some (.error fault)
  | ⟨.send (.statement sent), outcome⟩ => if sent = statement then some outcome else none
  | ⟨.sendWithin sent _, .inTime _ outcome⟩ => if sent = statement then some outcome else none
  | _ => none

/-- Everything that was reported of a statement. -/
def reports (statement : Statement) (past : List Event) : List (Except StorageFault Answer) :=
  past.filterMap (Event.report? statement)

end Service

open Service (reports)

namespace Query

variable {α : Type} {query : Query α} {reading : Reading α}

/-- What the run of an operation comes to: the result tells whatever is reported of the statement, and if
nothing is, the transaction did not wait for it any longer. -/
structure Classified (query : Query α) (reading : Reading α) (past : List Event)
    (result : Except Failure α) : Prop where
  reported : ∀ outcome ∈ reports query.statement past, reading.Tells outcome result
  overdue : reports query.statement past = [] →
    (∃ patience, past = [⟨.sendWithin query.statement patience, .overdue⟩]) ∧
      result = .error .canceledOperation

theorem Classified.of_report {past : List Event} {outcome : Except StorageFault Answer}
    {result : Except Failure α} (hpast : reports query.statement past = [outcome])
    (hresult : reading.Tells outcome result) : query.Classified reading past result where
  reported := by
    rw [hpast]
    exact List.forall_mem_singleton.mpr hresult
  overdue h := absurd (h.symm.trans hpast) (List.cons_ne_nil _ _).symm

theorem query_keeps (hread : query.read = reading.read) :
    (Service.query query).Keeps (fun _ _ => True) (query.Classified reading) [] := by
  refine ⟨trivial, fun outcome => ?_⟩
  exact .of_report (by simp [reports, Event.report?]) (Reading.tells_result hread outcome)

theorem pooled_keeps (hread : query.read = reading.read) :
    (Service.pooled query).Keeps (fun _ _ => True) (query.Classified reading) [] := by
  refine ⟨trivial, fun opened => ?_⟩
  cases opened with
  | error fault => exact .of_report (by simp [reports, Event.report?]) (Reading.tells_error fault)
  | ok =>
      refine ⟨trivial, fun outcome => ⟨trivial, fun _ => ?_⟩⟩
      exact .of_report (by simp [reports, List.filterMap_cons, Event.report?])
        (Reading.tells_result hread outcome)

theorem within_query (query : Query α) (patience : Nat) :
    Script.within patience (Script.query query).run =
      .ask (.sendWithin query.statement patience) fun reply =>
        match reply with
        | .overdue => .done (.error .canceledOperation)
        | .inTime _ outcome => .done (query.result outcome) := by
  have hbody : (Script.query query).run =
      .ask (.send query.statement) fun outcome => .done (query.result outcome) := rfl
  rw [hbody, Script.within]
  refine congrArg (Program.ask _) (funext fun reply => ?_)
  cases reply with
  | overdue => rfl
  | inTime after outcome => simp only [Script.within]

theorem within_keeps (hread : query.read = reading.read) (patience : Nat) :
    (Script.within patience (Script.query query).run).Keeps (fun _ _ => True)
      (query.Classified reading) [] := by
  rw [within_query, Program.keeps_ask]
  refine ⟨trivial, fun reply => ?_⟩
  cases reply with
  | overdue => exact ⟨nofun, fun _ => ⟨⟨patience, rfl⟩, rfl⟩⟩
  | inTime after outcome =>
      exact .of_report (by simp [reports, Event.report?]) (Reading.tells_result hread outcome)

/-- Every operation on the tables, in whatever way it runs and whatever it is answered, reports one of the
failures that faults mean if its statement fails, and otherwise what its answer gives. -/
theorem classified {service : Service (Except Failure α)} (hquery : Operation query reading)
    (hruns : query.RunsAs service) {σ : Type}
    (surroundings : (action : Service.Action) → σ → action.Answer × σ) (state : σ) :
    query.Classified reading (service.history surroundings state) (service.run surroundings state).1 := by
  cases hruns with
  | pooled => exact (pooled_keeps hquery.read_eq).run surroundings state
  | checkedOut => exact (query_keeps hquery.read_eq).run surroundings state
  | within patience => exact (within_keeps hquery.read_eq patience).run surroundings state

/-- Surroundings in which every statement is refused. -/
def refusing (refusal : Refusal) (action : Service.Action) : Unit → action.Answer × Unit :=
  fun _ => match action with
    | .checkout => (.ok (), ())
    | .release _ => ((), ())
    | .send _ => (.error (.refused refusal), ())
    | .sendWithin .. => (.inTime 0 (.error (.refused refusal)), ())
    | .clock => (Rehearsal.now, ())
    | .announce .. => (.ok (), ())
    | .salt => ([], ())
    | .codeDraws => ([], ())
    | .deliver _ => (.ok (), ())

def unchecked (constraint : String) : Refusal :=
  { message := "check failed", code := some "23514", constraint := some constraint }

/-- In a transaction a refusal for the balance means missing funds. On a connection of the pool one with the
same code for another constraint is kept. -/
theorem classified_overdraft :
    ((Script.within 1000 (Script.query (addBalance ⟨1, -500⟩)).run).run
        (refusing (unchecked "accounts_balance_non_negative")) ()).1 = .error .insufficientFunds ∧
      ((Service.pooled (addBalance ⟨1, -500⟩)).run
        (refusing (unchecked "accounts_currency_check")) ()).1 =
          .error (.storageFailure (.refused (unchecked "accounts_currency_check"))) := by
  constructor
  · have htold := (classified (.addBalance ⟨1, -500⟩) (.within 1000)
      (refusing (unchecked "accounts_balance_non_negative")) ()).reported
        (.error (.refused (unchecked "accounts_balance_non_negative")))
        (by rw [within_query]; exact List.mem_singleton.mpr rfl)
    exact (htold.fault _ rfl .insufficientFunds).mpr ⟨rfl, rfl⟩
  · have htold := (classified (.addBalance ⟨1, -500⟩) .pooled
      (refusing (unchecked "accounts_currency_check")) ()).reported
        (.error (.refused (unchecked "accounts_currency_check"))) (List.mem_singleton.mpr rfl)
    refine (htold.fault _ rfl (.storageFailure _)).mpr ⟨rfl, ?_⟩
    simp [StorageFault.IsKnown, unchecked]

end Query
end Passbook
