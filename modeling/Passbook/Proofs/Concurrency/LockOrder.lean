import Passbook.Proofs.Database.Record
import Passbook.Proofs.Transaction.Commits
import Passbook.Proofs.Transaction.MoveMoney
import Passbook.Transaction.ConfirmEmail

/-!
# The order of locks

A statement that changes a row, or reads it for a change, locks it until the transaction ends. Rows are
put in an order: accounts by their numbers, and the record of a verification before any user. A transfer
and a confirmation lock their rows in this order. For a confirmation this rests on the database handing
back the row that was asked for, since the record to be marked is the one that was read.
-/
namespace Passbook

/-- The row that a statement locks until its transaction ends. -/
def Statement.locks? : Statement → Option Key
  | .lockAccount id | .setBalance id _ | .deleteAccount id => some (.account id)
  | .addBalance change => some (.account change.account)
  | .updateUser change => some (.user change.username)
  | .lockVerification id | .useVerification id => some (.verification id)
  | _ => none

/-- Whether a row is the one with this key. -/
def Row.IsOf (row : Row) : Key → Prop
  | .user username => row.text "username" = .ok username
  | .account id | .entry id | .transfer id | .verification id => row.int "id" = .ok id
  | .session id => row.text "id" = .ok id

/-- Whether one row is to be locked ahead of another. -/
def Key.Before : Key → Key → Prop
  | .account id, .account id' => id < id'
  | .verification _, .user _ => True
  | _, _ => False

namespace Key.Before

theorem irrefl (key : Key) : ¬key.Before key := by
  cases key with
  | account id => exact Int.lt_irrefl id
  | _ => exact id

theorem trans {first second third : Key} (h : first.Before second) (h' : second.Before third) :
    first.Before third := by
  cases first <;> cases second <;> try exact h.elim
  · cases third with
    | account id => exact Int.lt_trans h h'
    | _ => exact h'.elim
  · exact h'.elim

end Key.Before

namespace Service

def Action.locks? : Action → Option Key
  | .send (.statement statement) | .sendWithin statement _ => statement.locks?
  | _ => none

/-- What the database has answered to a statement. -/
def Event.answer? : Event → Option Answer
  | ⟨.send (.statement _), .ok answer⟩ | ⟨.sendWithin .., .inTime _ (.ok answer)⟩ => some answer
  | _ => none

/-- Whether the rows of an answer are the row that was to be locked. -/
def Event.IsFaithful (event : Event) : Prop :=
  ∀ key answer, event.1.locks? = some key → event.answer? = some answer → ∀ row ∈ answer.rows, row.IsOf key

/-- The rows that were to be locked. -/
def claims (past : List Event) : List Key := past.filterMap (·.1.locks?)

theorem claims_append_singleton (past : List Event) (event : Event) :
    claims (past ++ [event]) = claims past ++ event.1.locks?.toList := by
  rw [claims, List.filterMap_append, claims]
  cases h : event.1.locks? <;> simp [h]

end Service

open Service (Event claims)

/-- Whether every row that was to be locked so far comes ahead of the one that is to be locked now, or
is that row. -/
def LocksInOrder (past : List Event) (action : Service.Action) : Prop :=
  (∀ event ∈ past, event.IsFaithful) → ∀ key, action.locks? = some key →
    ∀ earlier ∈ claims past, earlier = key ∨ earlier.Before key

theorem locksInOrder_of_none {past : List Event} {action : Service.Action} (h : action.locks? = none) :
    LocksInOrder past action := fun _ key hkey => by
  rw [h] at hkey
  cases hkey

theorem locksInOrder_of_claims_eq_nil {past : List Event} (h : claims past = [])
    (action : Service.Action) : LocksInOrder past action := fun _ _ _ earlier hearlier => by
  rw [h] at hearlier
  cases hearlier

variable {α β : Type} {past : List Event}

theorem Script.within_query_keeps {before : List Event → Service.Action → Prop}
    {after : List Event → Except Failure α → Prop} {query : Query β} {next : β → Script α} {patience : Nat}
    (hbefore : before past (.sendWithin query.statement patience))
    (hfailed : ∀ reply failure,
      after (past ++ [⟨.sendWithin query.statement patience, reply⟩]) (.error failure))
    (hnext : ∀ millis answer value, query.read answer = .ok value →
      (Script.within (patience - millis) (next value).run).Keeps before after
        (past ++ [⟨.sendWithin query.statement patience, .inTime millis (.ok answer)⟩])) :
    (Script.within patience (Script.query query >>= next).run).Keeps before after past := by
  rw [Script.run_query_bind, Script.within]
  refine ⟨hbefore, fun reply => ?_⟩
  cases reply with
  | overdue => exact hfailed _ _
  | inTime millis outcome =>
      dsimp only
      cases hresult : query.result outcome with
      | error failure => exact hfailed _ _
      | ok value =>
          obtain ⟨answer, rfl, hread⟩ := Query.result_eq_ok hresult
          exact hnext millis answer value hread

theorem atomically_locksInOrder {limit : Nat} {body : Script α}
    (h : ∀ past, claims past = [] →
      (Script.within limit body.run).Keeps LocksInOrder (fun _ _ => True) past) :
    (atomically limit body).Keeps LocksInOrder (fun _ _ => True) [] := by
  have quiet : ∀ {past : List Event} {action : Service.Action}, action.locks? = none →
    LocksInOrder past action := locksInOrder_of_none
  rw [atomically_eq]
  refine ⟨quiet rfl, fun opened => ?_⟩
  cases opened with
  | error fault => trivial
  | ok opened =>
      refine ⟨quiet rfl, fun begun => ?_⟩
      cases begun with
      | error fault => exact ⟨quiet rfl, fun _ => trivial⟩
      | ok begun =>
          refine ⟨quiet rfl, fun limited => ?_⟩
          cases limited with
          | error fault => exact ⟨quiet rfl, fun _ => trivial⟩
          | ok limited =>
              refine (Program.keeps_bind _ _).mpr ((h _ rfl).mono (fun _ _ h => h) fun past result _ => ?_)
              cases result with
              | ok value =>
                  refine ⟨quiet rfl, fun committed => ?_⟩
                  cases committed <;> exact ⟨quiet rfl, fun _ => trivial⟩
              | error cause =>
                  refine ⟨quiet rfl, fun undone => ?_⟩
                  cases undone <;> exact ⟨quiet rfl, fun _ => trivial⟩

theorem TransferOrder.lockOrder_before {order : TransferOrder} (h : order.fromAccount ≠ order.toAccount) :
    (Key.account order.lockOrder.1.account).Before (.account order.lockOrder.2.account) := by
  unfold TransferOrder.lockOrder
  split
  · next hlt => exact hlt
  · next hle =>
    change order.toAccount < order.fromAccount
    omega

theorem TransferOrder.execute_locksInOrder (limit : Nat) (order : TransferOrder) :
    (order.execute limit).Keeps LocksInOrder (fun _ _ => True) [] := by
  unfold TransferOrder.execute
  split
  · trivial
  · next hcheck =>
    have hbefore := lockOrder_before (TransferOrder.check_eq_ok.mp hcheck).2
    refine atomically_locksInOrder fun past hpast => ?_
    -- The three rows that are inserted are nobody else's, so they are not locked.
    refine Script.within_query_keeps (locksInOrder_of_none rfl) (fun _ _ => trivial) fun _ _ _ _ => ?_
    refine Script.within_query_keeps (locksInOrder_of_none rfl) (fun _ _ => trivial) fun _ _ _ _ => ?_
    refine Script.within_query_keeps (locksInOrder_of_none rfl) (fun _ _ => trivial) fun _ _ _ _ => ?_
    have hinserted : ∀ first second third : Event, first.1.locks? = none → second.1.locks? = none →
        third.1.locks? = none → claims (past ++ [first] ++ [second] ++ [third]) = [] := by
      intro first second third h₁ h₂ h₃
      simp only [Service.claims_append_singleton, hpast, h₁, h₂, h₃, Option.toList_none, List.append_nil]
    refine Script.within_query_keeps (locksInOrder_of_claims_eq_nil (hinserted _ _ _ rfl rfl rfl) _)
      (fun _ _ => trivial) fun _ _ _ _ => ?_
    refine Script.within_query_keeps ?_ (fun _ _ => trivial) fun _ _ first _ => ?_
    · intro _ key hkey earlier hearlier
      cases hkey
      rw [Service.claims_append_singleton, hinserted _ _ _ rfl rfl rfl] at hearlier
      cases List.mem_singleton.mp hearlier
      exact .inr hbefore
    · split <;> trivial

/-- The row that was asked for is read as a record with the number that was asked for. -/
theorem Verification.id_eq_of_faithful {answer : Answer} {id : Int} {found : Verification}
    (hread : answer.one Verification.ofRow = .ok found)
    (h : ∀ row ∈ answer.rows, row.IsOf (.verification id)) : found.id = id := by
  unfold Answer.one at hread
  split at hread
  · cases hread
  · next row rest hrows =>
    have hrow : row.int "id" = .ok id := h row (by simp [hrows])
    simp only [Verification.ofRow, hrow, bind, Except.bind] at hread
    repeat' split at hread
    all_goals cases hread
    rfl

theorem Confirmation.execute_locksInOrder (limit : Nat) (confirmation : Confirmation) :
    (confirmation.execute limit).Keeps LocksInOrder (fun _ _ => True) [] := by
  refine atomically_locksInOrder fun past hpast => ?_
  refine Script.within_query_keeps (locksInOrder_of_claims_eq_nil hpast _) (fun _ _ => trivial)
    fun millis answer found hread => ?_
  rw [Script.run_clock_bind, Script.within]
  refine ⟨locksInOrder_of_none rfl, fun now => ?_⟩
  dsimp only
  split
  · refine Script.within_query_keeps ?_ (fun _ _ => trivial) fun _ _ record _ => ?_
    · intro hfaithful key hkey earlier hearlier
      cases hkey
      simp only [Service.claims_append_singleton, hpast] at hearlier
      cases List.mem_singleton.mp hearlier
      have hrows := hfaithful ⟨.sendWithin (.lockVerification confirmation.recordId) limit,
        .inTime millis (.ok answer)⟩ (by simp [Query.lockedVerification]) _ answer rfl rfl
      exact .inl (congrArg Key.verification (Verification.id_eq_of_faithful hread hrows).symm)
    · refine Script.within_query_keeps ?_ (fun _ _ => trivial) fun _ _ user _ => trivial
      intro _ key hkey earlier hearlier
      cases hkey
      simp only [Service.claims_append_singleton, hpast] at hearlier
      have hverification : earlier = .verification confirmation.recordId ∨ earlier = .verification found.id :=
        (List.mem_cons.mp hearlier).imp_right List.mem_singleton.mp
      rcases hverification with rfl | rfl <;> exact .inr trivial
  · trivial

end Passbook
