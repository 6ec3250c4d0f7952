import Passbook.Http.Serve
import Passbook.Proofs.Transaction.Commits
import Passbook.Rehearsal

/-!
# What a response says about COMMIT

Three requests run a transaction: moving money, registering a user and confirming an address. For
each of them the response is a success exactly if one COMMIT was asked for and acknowledged, and it is
the notice of an unknown outcome exactly if one COMMIT was asked for and failed. With any other
response no COMMIT was asked for, and the statements outside of the transaction only read accounts.

The statements hold in any surroundings: whatever the database, the clock, the task queue and chance
answer, and whether or not their answers are plausible.
-/
namespace Passbook

open Service (Event commits OnlyReads)

variable {α : Type}

open Http (Problem Notice Response Rejection Operation Endpoint Request)

/-- The problem that reports the failure of a COMMIT. -/
abbrev Http.Problem.doubt (fault : StorageFault) : Problem := .failed (.commitFailed fault)

theorem reported_tells {past : List Event} {p : Service (Except Failure α)}
    (h : p.Keeps (fun _ r => OnlyReads r) (Tells Failure.commitFailed) past) :
    (Service.reported p).Keeps (fun _ r => OnlyReads r) (Tells Problem.doubt) past := by
  refine (Program.keeps_bind _ _).mpr (h.mono (fun _ _ h => h) fun past result h => ?_)
  cases result with
  | ok value => exact h
  | error failure =>
      rcases h with ⟨fault, rfl, hcommits⟩ | ⟨hne, hcommits⟩
      · exact .inl ⟨fault, rfl, hcommits⟩
      · exact .inr ⟨fun fault h => hne fault (Problem.failed.inj h), hcommits⟩

theorem checked_tells {β γ : Type} {check : Except FieldFault β} {next : β → Service (Except Problem γ)}
    (h : ∀ value, (next value).Keeps (fun _ r => OnlyReads r) (Tells Problem.doubt) []) :
    (Service.checked check next).Keeps (fun _ r => OnlyReads r) (Tells Problem.doubt) [] := by
  cases check with
  | ok value => exact h value
  | error fault => exact .inr ⟨fun _ h => Problem.noConfusion h, rfl⟩

theorem Registration.execute_tells (limit : Nat) (registration : Registration) :
    (registration.execute limit).Keeps (fun _ r => OnlyReads r) (Tells Problem.doubt) [] := by
  refine checked_tells fun _ => ⟨trivial, fun salt => reported_tells ?_⟩
  exact Tells.behind rfl (atomically_tells limit (NewUser.script_decided _ _))

theorem Confirmation.checkAndExecute_tells (limit : Nat) (confirmation : Confirmation) :
    (confirmation.checkAndExecute limit).Keeps (fun _ r => OnlyReads r) (Tells Problem.doubt) [] :=
  checked_tells fun _ => reported_tells (atomically_tells limit confirmation.script_decided)

namespace Payment

/-- What a look at an account may end with: no COMMIT, and no problem that tells of one. -/
def Looked (past : List Event) (result : Except Problem Unit) : Prop :=
  commits past = [] ∧ ∀ fault, result ≠ .error (Problem.doubt fault)

theorem checkAccount_looks (payment : Payment) (id : Int) {past : List Event} (hpast : commits past = []) :
    (payment.checkAccount id).Keeps (fun _ r => OnlyReads r) Looked past := by
  refine ⟨⟨id, rfl⟩, fun outcome => ?_⟩
  have hcommits : commits (past ++ [⟨.send (.statement (.selectAccount id)), outcome⟩]) = [] := by
    rw [Service.commits_append, hpast]
    rfl
  cases hresult : (Query.account id).result outcome with
  | error failure =>
      obtain ⟨fault, rfl⟩ := Query.result_eq_error hresult
      simp only [Program.done_bind, Program.pure_eq, hresult]
      exact ⟨hcommits, fun fault' h =>
        Failure.ofFault_ne_commitFailed fault fault' (Problem.failed.inj (Except.error.inj h))⟩
  | ok account =>
      simp only [Program.done_bind, Program.pure_eq, hresult]
      split
      · exact ⟨hcommits, nofun⟩
      · exact ⟨hcommits, fun _ h => Problem.noConfusion (Except.error.inj h)⟩

theorem checkAccounts_looks (payment : Payment) :
    payment.checkAccounts.Keeps (fun _ r => OnlyReads r) Looked [] := by
  refine ⟨trivial, fun opened => ?_⟩
  cases opened with
  | error fault =>
      exact ⟨rfl, fun fault' h =>
        Failure.ofFault_ne_commitFailed fault fault' (Problem.failed.inj (Except.error.inj h))⟩
  | ok opened =>
      change Program.Keeps _ Looked (payment.checkBoth.bind fun result =>
        (Service.release false).bind fun _ => .done result) _
      refine (Program.keeps_bind _ _).mpr ?_
      have hboth : payment.checkBoth.Keeps (fun _ r => OnlyReads r) Looked [⟨.checkout, .ok opened⟩] := by
        refine (Program.keeps_bind _ _).mpr ?_
        refine (payment.checkAccount_looks _ rfl).mono (fun _ _ h => h) fun past result h => ?_
        cases result with
        | error problem => exact ⟨h.1, h.2⟩
        | ok => exact payment.checkAccount_looks _ h.1
      refine hboth.mono (fun _ _ h => h) fun past result h => ⟨trivial, fun _ => ⟨?_, h.2⟩⟩
      rw [Service.commits_append, h.1]
      rfl

theorem execute_tells (limit : Nat) (payment : Payment) :
    (payment.execute limit).Keeps (fun _ r => OnlyReads r) (Tells Problem.doubt) [] := by
  unfold execute
  cases hcheck : payment.order.check with
  | error failure =>
      refine .inr ⟨fun fault h => ?_, rfl⟩
      unfold TransferOrder.check at hcheck
      split at hcheck <;> (try split at hcheck) <;> cases hcheck <;> cases h
  | ok =>
      refine checked_tells fun _ => (Program.keeps_bind _ _).mpr ?_
      refine payment.checkAccounts_looks.mono (fun _ _ h => h) fun past result h => ?_
      cases result with
      | error problem => exact .inr ⟨fun fault hfault => h.2 fault (by rw [hfault]), h.1⟩
      | ok =>
          refine reported_tells ?_
          rw [TransferOrder.execute, hcheck]
          exact Tells.behind h.1 (atomically_tells limit payment.order.script_decided)

end Payment

namespace Http

/-- What is said when COMMIT has failed. -/
def Notice.outcomeUnknown : Notice :=
  ⟨500, "outcome_unknown", "The operation may or may not have been applied"⟩

theorem Notice.response_ne_of_status {notice : Notice} (h : notice.status ≠ 500) :
    notice.response ≠ Notice.outcomeUnknown.response :=
  fun hresponse => h (congrArg Response.status hresponse)

theorem Notice.internalError_ne : Notice.internalError.response ≠ Notice.outcomeUnknown.response := by
  decide +kernel

/-- The notice of an unknown outcome is kept for a COMMIT that failed. -/
theorem Problem.response_ne {problem : Problem} (h : ∀ fault, problem ≠ Problem.doubt fault) :
    problem.response ≠ Notice.outcomeUnknown.response := by
  cases problem with
  | invalidRequest reason => exact Notice.response_ne_of_status (by simp [Problem.notice])
  | internal reason => exact Notice.internalError_ne
  | failed failure =>
      cases failure with
      | commitFailed fault => exact absurd rfl (h fault)
      | storageFailure fault => exact Notice.internalError_ne
      | rollbackFailed cause fault => exact Notice.internalError_ne
      | _ => exact Notice.response_ne_of_status (by simp [Problem.notice, Notice.ofFailure])

theorem Problem.response_status (problem : Problem) : 400 ≤ problem.response.status := by
  change 400 ≤ problem.notice.status
  cases problem with
  | failed failure => cases failure <;> simp [Problem.notice, Notice.ofFailure, Notice.internalError]
  | _ => simp [Problem.notice, Notice.internalError]

theorem Rejection.response_status (rejection : Rejection) :
    400 ≤ rejection.response.status ∧ rejection.response.status < 500 := by
  change 400 ≤ rejection.status ∧ rejection.status < 500
  cases rejection with
  | body located =>
      simp only [Rejection.status]
      split <;> decide
  | _ => simp [Rejection.status]

/-- Whether a response tells the truth about COMMIT; `success` is the status of a success. -/
structure Truthful (success : Nat) (past : List Event) (response : Response) : Prop where
  acknowledged : response.status = success ↔ ∃ answer, commits past = [.ok answer]
  unknown : response = Notice.outcomeUnknown.response ↔ ∃ fault, commits past = [.error fault]
  untouched : response.status ≠ success → response ≠ Notice.outcomeUnknown.response → commits past = []

theorem Truthful.of_success {success : Nat} (hsuccess : success < 400) {past : List Event}
    {answer : Answer} (hcommits : commits past = [.ok answer]) (json : Json.Value) :
    Truthful success past (Response.json success json) where
  acknowledged := ⟨fun _ => ⟨answer, hcommits⟩, fun _ => rfl⟩
  unknown := by
    refine ⟨fun h => ?_, fun ⟨fault, h⟩ => ?_⟩
    · have hstatus : success = 500 := congrArg Response.status h
      omega
    · simp [hcommits] at h
  untouched h := absurd rfl h

theorem Truthful.of_untouched {success : Nat} {past : List Event} {response : Response}
    (hsuccess : response.status ≠ success) (hunknown : response ≠ Notice.outcomeUnknown.response)
    (hcommits : commits past = []) : Truthful success past response where
  acknowledged := ⟨fun h => absurd h hsuccess, fun ⟨answer, h⟩ => by simp [hcommits] at h⟩
  unknown := ⟨fun h => absurd h hunknown, fun ⟨fault, h⟩ => by simp [hcommits] at h⟩
  untouched _ _ := hcommits

theorem Truthful.of_unknown {success : Nat} (hsuccess : success < 400) {past : List Event}
    {fault : StorageFault} (hcommits : commits past = [.error fault]) :
    Truthful success past Notice.outcomeUnknown.response where
  acknowledged := by
    refine ⟨fun h => ?_, fun ⟨answer, h⟩ => ?_⟩
    · have hstatus : 500 = success := h
      omega
    · simp [hcommits] at h
  unknown := ⟨fun _ => ⟨fault, hcommits⟩, fun _ => rfl⟩
  untouched _ h := absurd rfl h

theorem answered_truthful {β γ : Type} {success : Nat} (hsuccess : success < 400)
    {json : γ → Json.Value} {needed : Except Rejection β} {operation : β → Service (Except Problem γ)}
    (h : ∀ value, (operation value).Keeps (fun _ r => OnlyReads r) (Tells Problem.doubt) []) :
    (answered success json needed operation).Keeps (fun _ r => OnlyReads r) (Truthful success) [] := by
  cases needed with
  | error rejection =>
      obtain ⟨hlow, hhigh⟩ := rejection.response_status
      refine .of_untouched (by omega) (fun h => ?_) rfl
      have hstatus : rejection.response.status = 500 := congrArg Response.status h
      omega
  | ok value =>
      refine (Program.keeps_bind _ _).mpr ((h value).mono (fun _ _ h => h) fun past result h => ?_)
      cases result with
      | ok result => exact .of_success hsuccess h.choose_spec _
      | error problem =>
          rcases h with ⟨fault, rfl, hcommits⟩ | ⟨hne, hcommits⟩
          · exact .of_unknown hsuccess hcommits
          · have hstatus := problem.response_status
            exact .of_untouched (by omega) (Problem.response_ne hne) hcommits

/-- The requests that run a transaction, each with the status of its success. -/
inductive RunsTransaction (request : Request) : Nat → Prop
  | transfer : request.method = "POST" → request.path = "/api/v1/transfers".toList →
      RunsTransaction request 201
  | registration : request.method = "POST" → request.path = "/api/v1/users".toList →
      RunsTransaction request 201
  | confirmation : request.method = "GET" → request.path = "/api/v1/verify_email".toList →
      RunsTransaction request 200

/-- What `respond` does with the method and the path of one operation, unless only the head is asked for. -/
theorem respond_eq_serve (limit : Nat) (operation : Operation) {request : Request} {method path : String}
    (hmethod : request.method = method) (hpath : request.path = path.toList)
    (hfound : ((Endpoint.ofPath path.toList).bind fun endpoint => endpoint.operation? method) = some operation)
    (hhead : method ≠ "HEAD") : respond limit request = serve limit request operation := by
  obtain ⟨endpoint, hendpoint, hoperation⟩ := Option.bind_eq_some_iff.mp hfound
  rw [← hpath] at hendpoint
  rw [← hmethod] at hoperation hhead
  simp only [respond, hendpoint, hoperation, hhead, if_false, Program.bind_eq, Program.pure_eq,
    Program.bind_done]

theorem respond_keeps (limit : Nat) {request : Request} {success : Nat}
    (h : RunsTransaction request success) :
    (respond limit request).Keeps (fun _ r => OnlyReads r) (Truthful success) [] := by
  cases h with
  | transfer hmethod hpath =>
      rw [respond_eq_serve limit .createTransfer hmethod hpath (by decide +kernel) (by decide)]
      exact answered_truthful (by decide) (Payment.execute_tells limit)
  | registration hmethod hpath =>
      rw [respond_eq_serve limit .createUser hmethod hpath (by decide +kernel) (by decide)]
      exact answered_truthful (by decide) (Registration.execute_tells limit)
  | confirmation hmethod hpath =>
      rw [respond_eq_serve limit .confirmEmail hmethod hpath (by decide +kernel) (by decide)]
      exact answered_truthful (by decide) (Confirmation.checkAndExecute_tells limit)

/-- In any surroundings the response to a request that runs a transaction tells the truth about COMMIT,
and outside of the transaction nothing but accounts is read. -/
theorem respond_truthful {σ : Type} (surroundings : (r : Service.Action) → σ → r.Answer × σ) (state : σ)
    (limit : Nat) {request : Request} {success : Nat} (h : RunsTransaction request success) :
    Truthful success ((respond limit request).history surroundings state)
        ((respond limit request).run surroundings state).1 ∧
      ∀ event ∈ (respond limit request).history surroundings state, OnlyReads event.1 :=
  ⟨(respond_keeps limit h).run surroundings state, (respond_keeps limit h).asked surroundings state⟩

/-- A click on the link in a welcome mail. -/
def clickedLink : Request where
  method := "GET"
  target := "/api/v1/verify_email?email_id=7&secret_code=abcdefghijklmnopqrstuvwxyz012345"

/-- A database that carries a confirmation out, but loses the connection during COMMIT. -/
def commitLost : Rehearsal where
  queue := ⟨1, [], true, Nat.one_pos, TaskQueue.oneTask_room⟩
  linkBase := ""
  cues :=
    { replies := [record, record, user].map fun row => { outcome := .ok ⟨[row], 1⟩ }
      commit? := some { outcome := .error .connectionLost } }
where
  record : Row := [("id", .int 7), ("username", .text "alice"), ("email", .text "alice@example.com"),
    ("secret_code", .text "abcdefghijklmnopqrstuvwxyz012345"), ("is_used", .bool false),
    ("created_at", .int 0), ("expired_at", .int 9999999999999999)]
  user : Row := [("username", .text "alice"), ("hashed_password", .text ""), ("full_name", .text "Alice"),
    ("email", .text "alice@example.com"), ("password_changed_at", .int 0), ("is_email_verified", .bool true),
    ("created_at", .int 0)]

/-- With a lost COMMIT the client learns that the outcome is unknown. -/
theorem respond_truthful_commitLost :
    RunsTransaction clickedLink 200 ∧
      ((respond 1000 clickedLink).run Rehearsal.surroundings commitLost).1 =
        Notice.outcomeUnknown.response ∧
      ∃ fault, commits ((respond 1000 clickedLink).history Rehearsal.surroundings commitLost) =
        [.error fault] := by
  have hruns : RunsTransaction clickedLink 200 := .confirmation rfl (by decide +kernel)
  have hresponse : ((respond 1000 clickedLink).run Rehearsal.surroundings commitLost).1 =
      Notice.outcomeUnknown.response := by decide +kernel
  have htruthful := (respond_truthful Rehearsal.surroundings commitLost 1000 hruns).1
  exact ⟨hruns, hresponse, htruthful.unknown.mp hresponse⟩

end Http
end Passbook
