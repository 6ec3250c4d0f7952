import Passbook.Http.Serve
import Passbook.Proofs.Disclosure.Alike
import Passbook.Proofs.Program.Lockstep
import Passbook.Proofs.Transaction.Contract

/-!
# What responses depend on

Given answers that are alike, every operation of the web service asks for the same things and comes
to the same response. The one thing that is asked for with a digest in it is the announcement of a
new user, which names the user whom the database has stored; the digest of a new password is sent to
the database, and it depends on nothing that the database answers.

Each part of the service is shown to be in lockstep with itself: queries, scripts, the transaction
around a script, the checks in front of it, and the response behind it. Faults of the database reach
a response through `Failure.ofFault` and the notice of a failure, and neither looks at a message.
-/
namespace Passbook

open Program (Lockstep)

variable {α β : Type} {presented? : Option String}

namespace Script

/-- The same requests, except that the users who are announced are only alike. -/
inductive Action.Alike : Action → Action → Prop
  | same (action : Action) : Alike action action
  | announce (hook : Hook) {a b : User} : a.Alike b → Alike (.announce hook a) (.announce hook b)

def correspondence (presented? : Option String) : Correspondence Action Action.Answer where
  asks := Action.Alike
  answers
    | .send _, .send _ => AlikeOutcomes presented?
    | .pause _, .pause _ => Eq
    | .clock, .clock => Eq
    | .announce .., .announce .. => Eq
    | _, _ => fun _ _ => False

/-- Scripts in lockstep, with failures that are alike or values that are related. -/
abbrev RunAlike (presented? : Option String) (values : α → α → Prop) (p p' : Script α) : Prop :=
  Lockstep (correspondence presented?) (Matching Failure.Alike values) p.run p'.run

variable {values : α → α → Prop} {values' : β → β → Prop}

theorem runAlike_pure {a a' : α} (h : values a a') :
    RunAlike presented? values (pure a) (pure a') := .done (.ok h)

theorem runAlike_fail (failure : Failure) :
    RunAlike presented? values (Script.fail failure) (Script.fail failure) := .done (.error (.same _))

theorem runAlike_query {query : Query α} (hquery : query.Reads presented? values)
    {next next' : α → Script β}
    (hnext : ∀ a a', values a a' → RunAlike presented? values' (next a) (next' a')) :
    RunAlike presented? values' (Script.query query >>= next) (Script.query query >>= next') := by
  unfold RunAlike
  rw [run_query_bind, run_query_bind]
  refine .ask (.same _) fun outcome outcome' houtcome => ?_
  have hresult := hquery.result houtcome
  generalize query.result outcome = result, query.result outcome' = result' at hresult ⊢
  cases hresult with
  | error hfailure => exact .done (.error hfailure)
  | ok hvalue => exact hnext _ _ hvalue

theorem runAlike_clock {next next' : Instant → Script β}
    (hnext : ∀ now, RunAlike presented? values' (next now) (next' now)) :
    RunAlike presented? values' (Script.clock >>= next) (Script.clock >>= next') := by
  refine .ask (.same .clock) fun now now' hnow => ?_
  cases hnow
  exact hnext now

theorem runAlike_announce (hook : Hook) {user user' : User} (huser : user.Alike user')
    {next next' : Unit → Script β} (hnext : RunAlike presented? values' (next ()) (next' ())) :
    RunAlike presented? values' (Script.announce hook user >>= next)
      (Script.announce hook user' >>= next') := by
  unfold RunAlike
  rw [run_announce_bind, run_announce_bind]
  refine .ask (.announce hook huser) fun outcome outcome' houtcome => ?_
  cases houtcome
  cases outcome with
  | ok => exact hnext
  | error reason => exact .done (.error (.same _))

end Script

open Script in
theorem TransferOrder.script_alike (order : TransferOrder) :
    RunAlike presented? Eq order.script order.script := by
  have htransfer : Query.Reads presented? Eq (.createTransfer order) :=
    Query.reads_one _ fun _ _ => Transfer.ofRow_alike
  have hentry : ∀ account amount, Query.Reads presented? Eq (.createEntry account amount) :=
    fun _ _ => Query.reads_one _ fun _ _ => Entry.ofRow_alike
  have hbalance : ∀ change, Query.Reads presented? Eq (.addBalance change) :=
    fun _ => Query.reads_one _ fun _ _ => Account.ofRow_alike
  refine runAlike_query htransfer fun transfer _ h => ?_
  cases h
  refine runAlike_query (hentry _ _) fun fromEntry _ h => ?_
  cases h
  refine runAlike_query (hentry _ _) fun toEntry _ h => ?_
  cases h
  refine runAlike_query (hbalance _) fun first _ h => ?_
  cases h
  refine runAlike_query (hbalance _) fun second _ h => ?_
  cases h
  split
  · exact runAlike_pure rfl
  · exact runAlike_pure rfl

open Script in
theorem NewUser.script_alike (user : NewUser) (hook : Hook) :
    RunAlike presented? User.Alike (user.script hook) (user.script hook) :=
  runAlike_query (Query.reads_user _) fun _ _ hstored =>
    runAlike_announce hook hstored (runAlike_pure hstored)

/-- What a confirmation sends and comes to depends on the code of a record only by whether it is the
one that was presented. -/
theorem Confirmation.script_alike (confirmation : Confirmation) :
    Script.RunAlike (some confirmation.secretCode) (fun a b => a.user.Alike b.user)
      confirmation.script confirmation.script := by
  refine Script.runAlike_query (Query.reads_verification _) fun found found' hfound => ?_
  refine Script.runAlike_clock fun now => ?_
  rw [hfound.accepts now]
  obtain ⟨code, rfl, -⟩ := hfound
  split
  · refine Script.runAlike_query (Query.reads_verification _) fun record record' hrecord => ?_
    obtain ⟨code', rfl, -⟩ := hrecord
    exact Script.runAlike_query (Query.reads_user _) fun _ _ huser => Script.runAlike_pure huser
  · exact Script.runAlike_fail _

/-- Timed replies that are both overdue, or come at the same time and are alike. -/
inductive TimedReply.Alike (presented? : Option String) : TimedReply → TimedReply → Prop
  | overdue : Alike presented? .overdue .overdue
  | inTime (after : Nat) {outcome outcome' : Except StorageFault Answer} :
      AlikeOutcomes presented? outcome outcome' →
      Alike presented? (.inTime after outcome) (.inTime after outcome')

namespace Service

/-- The same requests, except that the users who are announced are only alike. -/
inductive Action.Alike : Action → Action → Prop
  | same (action : Action) : Alike action action
  | announce (hook : Hook) {a b : User} : a.Alike b → Alike (.announce hook a) (.announce hook b)

def correspondence (presented? : Option String) : Correspondence Action Action.Answer where
  asks := Action.Alike
  answers
    | .checkout, .checkout => Matching StorageFault.Alike Eq
    | .release _, .release _ => Eq
    | .send _, .send _ => AlikeOutcomes presented?
    | .sendWithin .., .sendWithin .. => TimedReply.Alike presented?
    | .clock, .clock => Eq
    | .announce .., .announce .. => Eq
    | .salt, .salt => Eq
    | .codeDraws, .codeDraws => Eq
    | .deliver _, .deliver _ => Eq
    | _, _ => fun _ _ => False

/-- Services in lockstep, with errors that are alike or values that are related. -/
abbrev RunAlike {ε : Type} (presented? : Option String) (errors : ε → ε → Prop) (values : α → α → Prop)
    (p p' : Service (Except ε α)) : Prop :=
  Lockstep (correspondence presented?) (Matching errors values) p p'

variable {values : α → α → Prop}

theorem runAlike_query {query : Query α} (hquery : query.Reads presented? values) :
    RunAlike presented? Failure.Alike values (Service.query query) (Service.query query) :=
  .ask (.same _) fun _ _ houtcome => .done (hquery.result houtcome)

theorem runAlike_pooled {query : Query α} (hquery : query.Reads presented? values) :
    RunAlike presented? Failure.Alike values (Service.pooled query) (Service.pooled query) := by
  refine .ask (.same .checkout) fun opened opened' hopened => ?_
  cases hopened with
  | error hfault => exact .done (.error hfault.ofFault)
  | ok _ =>
      exact (runAlike_query hquery).bind fun result result' hresult =>
        .ask (.same (.release false)) fun _ _ _ => .done hresult

end Service

open Service (RunAlike)

variable {values : α → α → Prop}

theorem Script.within_alike (patience : Nat) {p p' : Script.Body α}
    (h : Lockstep (Script.correspondence presented?) (Matching Failure.Alike values) p p') :
    Service.RunAlike presented? Failure.Alike values (Script.within patience p)
      (Script.within patience p') := by
  induction h generalizing patience with
  | done hends => exact .done hends
  | @ask action action' next next' hasks _ ih =>
      cases hasks with
      | announce hook huser =>
          exact .ask (.announce hook huser) fun outcome outcome' houtcome => ih _ _ houtcome patience
      | same =>
          cases action with
          | send statement =>
              simp only [Script.within]
              refine .ask (.same _) fun reply reply' hreply => ?_
              cases hreply with
              | overdue => exact .done (.error (.same _))
              | inTime after houtcome => exact ih _ _ houtcome _
          | pause millis =>
              simp only [Script.within]
              split
              · exact .done (.error (.same _))
              · exact ih () () rfl _
          | clock => exact .ask (.same _) fun now now' hnow => ih _ _ hnow patience
          | announce hook user =>
              exact .ask (.same _) fun outcome outcome' houtcome => ih _ _ houtcome patience

theorem conclude_alike {result result' : Except Failure α}
    (h : Matching Failure.Alike values result result') :
    RunAlike presented? Failure.Alike values (conclude result) (conclude result') := by
  cases h with
  | error hcause =>
      refine .ask (.same (.send .rollback)) fun outcome outcome' houtcome => ?_
      cases houtcome with
      | error hfault =>
          exact .ask (.same (.release true)) fun _ _ _ => .done (.error (.rollbackFailed hcause hfault))
      | ok _ => exact .ask (.same (.release false)) fun _ _ _ => .done (.error hcause)
  | ok hvalue =>
      refine .ask (.same (.send .commit)) fun outcome outcome' houtcome => ?_
      cases houtcome with
      | error hfault =>
          exact .ask (.same (.release true)) fun _ _ _ => .done (.error (.commitFailed hfault))
      | ok _ => exact .ask (.same (.release false)) fun _ _ _ => .done (.ok hvalue)

/-- A transaction depends on no more than its script. -/
theorem atomically_alike (limit : Nat) {body body' : Script α}
    (h : Script.RunAlike presented? values body body') :
    RunAlike presented? Failure.Alike values (atomically limit body) (atomically limit body') := by
  rw [atomically_eq, atomically_eq]
  refine .ask (.same .checkout) fun opened opened' hopened => ?_
  cases hopened with
  | error hfault => exact .done (.error hfault.ofFault)
  | ok _ =>
      refine .ask (.same (.send .begin)) fun begun begun' hbegun => ?_
      cases hbegun with
      | error hfault =>
          exact .ask (.same (.release false)) fun _ _ _ => .done (.error hfault.ofFault)
      | ok _ =>
          refine .ask (.same (.send (.limit limit))) fun limited limited' hlimited => ?_
          cases hlimited with
          | error hfault =>
              exact .ask (.same (.release true)) fun _ _ _ => .done (.error hfault.ofFault)
          | ok _ => exact (Script.within_alike limit h).bind fun _ _ => conclude_alike

open Http (Problem Notice Response Rejection Operation Endpoint Request)

theorem Failure.Alike.notice {a b : Failure} (h : a.Alike b) : Notice.ofFailure a = Notice.ofFailure b := by
  cases h <;> rfl

def Http.Problem.Alike (a b : Problem) : Prop := a.notice = b.notice

theorem Http.Problem.Alike.refl (problem : Problem) : problem.Alike problem := rfl

namespace Service

theorem runAlike_reported {p p' : Service (Except Failure α)}
    (h : RunAlike presented? Failure.Alike values p p') :
    RunAlike presented? Problem.Alike values (reported p) (reported p') := by
  refine h.bind fun result result' hresult => .done ?_
  cases hresult with
  | error hfailure => exact .error hfailure.notice
  | ok hvalue => exact .ok hvalue

theorem runAlike_checked (check : Except FieldFault β) {next : β → Service (Except Problem α)}
    (h : ∀ value, RunAlike presented? Problem.Alike values (next value) (next value)) :
    RunAlike presented? Problem.Alike values (checked check next) (checked check next) := by
  cases check with
  | ok value => exact h value
  | error fault => exact .done (.error (Problem.Alike.refl _))

end Service

open Service (runAlike_reported runAlike_checked runAlike_pooled)

theorem AccountOpening.execute_alike (opening : AccountOpening) :
    RunAlike presented? Problem.Alike Eq opening.execute opening.execute :=
  runAlike_checked _ fun _ => runAlike_reported <| runAlike_pooled <|
    Query.reads_one _ fun _ _ => Account.ofRow_alike

theorem AccountPage.accounts_alike (page : AccountPage) :
    RunAlike presented? Problem.Alike Eq page.accounts page.accounts :=
  runAlike_checked _ fun _ => runAlike_reported <| runAlike_pooled <|
    Query.reads_all _ fun _ _ => Account.ofRow_alike

theorem Registration.execute_alike (limit : Nat) (registration : Registration) :
    RunAlike presented? Problem.Alike User.Alike (registration.execute limit)
      (registration.execute limit) := by
  refine runAlike_checked _ fun _ => .ask (.same .salt) fun salt salt' hsalt => ?_
  cases hsalt
  exact runAlike_reported (atomically_alike limit (NewUser.script_alike _ _))

theorem Confirmation.checkAndExecute_alike (limit : Nat) (confirmation : Confirmation) :
    RunAlike (some confirmation.secretCode) Problem.Alike (fun a b => a.user.Alike b.user)
      (confirmation.checkAndExecute limit) (confirmation.checkAndExecute limit) :=
  runAlike_checked _ fun _ => runAlike_reported (atomically_alike limit confirmation.script_alike)

theorem Health.check_alike : RunAlike presented? Problem.Alike Eq Health.check Health.check := by
  refine (runAlike_reported (runAlike_pooled Query.reads_probe)).bind fun result result' hresult => ?_
  cases hresult with
  | error hproblem => exact .done (.error hproblem)
  | ok _ =>
      refine .ask (.same .clock) fun now now' hnow => ?_
      cases hnow
      exact .done (.ok rfl)

namespace Payment

theorem checkAccount_alike (payment : Payment) (id : Int) :
    RunAlike presented? Problem.Alike Eq (payment.checkAccount id) (payment.checkAccount id) := by
  refine (Service.runAlike_query (Query.reads_one _ fun _ _ => Account.ofRow_alike)).bind
    fun result result' hresult => ?_
  cases hresult with
  | error hfailure => exact .done (.error hfailure.notice)
  | ok haccount =>
      subst haccount
      dsimp only
      split
      · exact .done (.ok rfl)
      · exact .done (.error (Problem.Alike.refl _))

theorem checkAccounts_alike (payment : Payment) :
    RunAlike presented? Problem.Alike Eq payment.checkAccounts payment.checkAccounts := by
  refine .ask (.same .checkout) fun opened opened' hopened => ?_
  cases hopened with
  | error hfault => exact .done (.error hfault.ofFault.notice)
  | ok _ =>
      have hboth : RunAlike presented? Problem.Alike Eq payment.checkBoth payment.checkBoth := by
        refine (payment.checkAccount_alike _).bind fun result result' hresult => ?_
        cases hresult with
        | error hproblem => exact .done (.error hproblem)
        | ok _ => exact payment.checkAccount_alike _
      exact hboth.bind fun result result' hresult =>
        .ask (.same (.release false)) fun _ _ _ => .done hresult

theorem execute_alike (limit : Nat) (payment : Payment) :
    RunAlike presented? Problem.Alike Eq (payment.execute limit) (payment.execute limit) := by
  unfold execute
  cases hcheck : payment.order.check with
  | error failure => exact .done (.error (Problem.Alike.refl _))
  | ok =>
      refine runAlike_checked _ fun _ => payment.checkAccounts_alike.bind fun result result' hresult => ?_
      cases hresult with
      | error hproblem => exact .done (.error hproblem)
      | ok _ =>
          rw [TransferOrder.execute, hcheck]
          exact runAlike_reported (atomically_alike limit payment.order.script_alike)

end Payment

namespace Http

theorem answered_alike {success : Nat} {json : β → Json.Value} {needed : Except Rejection α}
    {operation : α → Service (Except Problem β)}
    (h : ∀ value, needed = .ok value →
      RunAlike presented? Problem.Alike (fun a b => json a = json b) (operation value) (operation value)) :
    Lockstep (Service.correspondence presented?) Eq (answered success json needed operation)
      (answered success json needed operation) := by
  cases needed with
  | error rejection => exact .done rfl
  | ok value =>
      refine (h value rfl).bind fun result result' hresult => ?_
      cases hresult with
      | error hproblem => exact .done (congrArg Notice.response hproblem)
      | ok hjson => exact .done (congrArg (Response.json success) hjson)

/-- The code that a request presents, if it asks for a confirmation. -/
def Request.presentedCode? (request : Request) : Option String :=
  match (Endpoint.ofPath request.path).bind fun endpoint => endpoint.operation? request.method with
  | some .confirmEmail => (request.queryRecord Confirmation.shape).toOption.map Confirmation.secretCode
  | _ => none

theorem serve_alike (limit : Nat) (request : Request) (operation : Operation)
    (hpresented : operation = .confirmEmail → ∀ confirmation,
      request.queryRecord Confirmation.shape = .ok confirmation →
        presented? = some confirmation.secretCode) :
    Lockstep (Service.correspondence presented?) Eq (serve limit request operation)
      (serve limit request operation) := by
  have same {γ : Type} {json : γ → Json.Value} : ∀ a b : γ, a = b → json a = json b :=
    fun _ _ h => congrArg json h
  cases operation with
  | checkHealth =>
      unfold serve
      refine answered_alike fun value _ => ?_
      cases value
      exact Health.check_alike.mono fun _ _ h => h.mono (fun _ _ => id) same
  | createUser =>
      exact answered_alike fun registration _ => (registration.execute_alike limit).mono
        fun _ _ h => h.mono (fun _ _ => id) fun _ _ huser => huser.publicJson
  | confirmEmail =>
      refine answered_alike fun confirmation hneeded => ?_
      rw [hpresented rfl confirmation hneeded]
      refine (confirmation.checkAndExecute_alike limit).mono
        fun _ _ h => h.mono (fun _ _ => id) fun receipt receipt' huser => ?_
      obtain ⟨digest, huser⟩ := huser
      simp only [confirmationJson, huser]
  | createAccount =>
      exact answered_alike fun opening _ => opening.execute_alike.mono
        fun _ _ h => h.mono (fun _ _ => id) same
  | listAccounts =>
      exact answered_alike fun page _ => page.accounts_alike.mono
        fun _ _ h => h.mono (fun _ _ => id) same
  | showAccount segment =>
      refine answered_alike fun id _ => Lockstep.mono
        (runAlike_reported (runAlike_pooled (Query.reads_one _ fun _ _ => Account.ofRow_alike)))
        fun _ _ h => h.mono (fun _ _ h => h) same
  | createTransfer =>
      exact answered_alike fun payment _ => (payment.execute_alike limit).mono
        fun _ _ h => h.mono (fun _ _ => id) same

/-- Whatever alike answers a request gets, it asks for the same things and is given the same
response. -/
theorem respond_alike (limit : Nat) (request : Request) :
    Lockstep (Service.correspondence request.presentedCode?) Eq (respond limit request)
      (respond limit request) := by
  unfold respond
  cases hendpoint : Endpoint.ofPath request.path with
  | none => exact .done rfl
  | some endpoint =>
      dsimp only
      cases hoperation : endpoint.operation? request.method with
      | none => exact .done rfl
      | some operation =>
          refine Lockstep.bind (serve_alike limit request operation fun hconfirm confirmation hneeded => ?_)
            fun response response' hresponse => ?_
          · subst hconfirm
            simp only [Request.presentedCode?, hendpoint, Option.bind_some, hoperation, hneeded]
            rfl
          · subst hresponse
            split
            · exact .done rfl
            · exact .done rfl

end Http
end Passbook
