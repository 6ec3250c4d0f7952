import Passbook.Proofs.Database.Meaning
import Passbook.Proofs.Transaction.Contract
import Passbook.Transaction.ConfirmEmail
import Passbook.Transaction.MoveMoney
import Passbook.Transaction.Register

/-!
# Results and COMMIT

What the result of a transaction says about COMMIT: a value that one was asked for and acknowledged,
the failure of COMMIT that one was asked for and failed, and any other failure that none was asked
for. The last part needs a script that does not itself end as if a COMMIT had failed; the scripts of
the ledger do not.
-/
namespace Passbook

namespace Service

/-- The outcome of an event, if it is a COMMIT. -/
def Event.commit? : Event → Option (Except StorageFault Answer)
  | ⟨.send .commit, outcome⟩ => some outcome
  | _ => none

def commits (past : List Event) : List (Except StorageFault Answer) := past.filterMap Event.commit?

@[simp] theorem commits_append (past past' : List Event) :
    commits (past ++ past') = commits past ++ commits past' := List.filterMap_append

theorem Event.commit?_eq_none {event : Event} (h : event.1 ≠ .send .commit) : event.commit? = none := by
  rcases event with ⟨action, answer⟩
  cases action with
  | send command => cases command <;> first | rfl | exact absurd rfl h
  | _ => rfl

theorem Uncommitted.commits_eq {past : List Event} (h : Uncommitted past) : commits past = [] :=
  List.filterMap_eq_nil_iff.mpr fun event hevent => Event.commit?_eq_none (h event hevent)

theorem commits_append_singleton {past : List Event} {e : Event} (h : e.1 ≠ .send .commit) :
    commits (past ++ [e]) = commits past := by
  rw [commits_append, commits, commits, List.filterMap_cons, Event.commit?_eq_none h,
    List.filterMap_nil, List.append_nil]

/-- Whether a request reads an account, or sends no statement at all outside of a transaction. -/
def OnlyReads : Action → Prop
  | .send (.statement statement) => ∃ id, statement = .selectAccount id
  | _ => True

end Service

open Service (Event commits OnlyReads Uncommitted)

variable {α : Type}

theorem Failure.ofFault_ne_commitFailed (fault fault' : StorageFault) :
    Failure.ofFault fault ≠ .commitFailed fault' := by
  intro h
  have hmeans := fault.means_ofFault
  rw [h] at hmeans
  exact hmeans

theorem Query.result_eq_error {query : Query α} {outcome : Except StorageFault Answer} {failure : Failure}
    (h : query.result outcome = .error failure) : ∃ fault, failure = .ofFault fault := by
  unfold Query.result at h
  split at h
  · next fault => exact ⟨fault, by cases h; rfl⟩
  · split at h
    · next fault _ => exact ⟨fault, by cases h; rfl⟩
    · cases h

theorem Query.result_eq_ok {query : Query α} {outcome : Except StorageFault Answer} {value : α}
    (h : query.result outcome = .ok value) :
    ∃ answer, outcome = .ok answer ∧ query.read answer = .ok value := by
  unfold Query.result at h
  split at h
  · cases h
  · next answer =>
      split at h
      · cases h
      · next hread => exact ⟨answer, rfl, by rw [hread, Except.ok.inj h]⟩

/-- Whether a result is anything but the failure of a COMMIT. -/
def KnownOutcome (result : Except Failure α) : Prop := ∀ fault, result ≠ .error (.commitFailed fault)

/-- No script of its own ends as if a COMMIT had failed. -/
abbrev Script.Decided (p : Script.Body α) : Prop :=
  ∀ past, p.Keeps (fun _ _ => True) (fun _ result => KnownOutcome result) past

namespace Script
variable {β : Type}

theorem decided_pure (value : α) : Decided (pure value : Script α).run := fun _ _ h => by cases h

theorem decided_fail {failure : Failure} (h : ∀ fault, failure ≠ .commitFailed fault) :
    Decided (Script.fail failure : Script α).run := fun _ fault h' => by
  cases h'
  exact h fault rfl

theorem decided_query {query : Query α} {next : α → Script β} (h : ∀ value, Decided (next value).run) :
    Decided (Script.query query >>= next).run := by
  intro past
  rw [run_query_bind]
  refine ⟨trivial, fun outcome => ?_⟩
  cases hresult : query.result outcome with
  | ok value => simpa only [hresult] using h value _
  | error failure =>
      obtain ⟨fault, rfl⟩ := Query.result_eq_error hresult
      simp only [hresult]
      exact fun fault' h' => Failure.ofFault_ne_commitFailed fault fault' (Except.error.inj h')

theorem decided_clock {next : Instant → Script β} (h : ∀ now, Decided (next now).run) :
    Decided (Script.clock >>= next).run := by
  intro past
  rw [run_clock_bind]
  exact ⟨trivial, fun now => h now _⟩

theorem decided_announce {hook : Hook} {user : User} {next : Unit → Script β}
    (h : Decided (next ()).run) : Decided (Script.announce hook user >>= next).run := by
  intro past
  rw [run_announce_bind]
  refine ⟨trivial, fun outcome => ?_⟩
  cases outcome with
  | ok => exact h _
  | error reason => exact fun fault h' => by cases h'

end Script

open Script in
theorem TransferOrder.script_decided (order : TransferOrder) : Decided order.script.run := by
  refine decided_query fun transfer => decided_query fun fromEntry => decided_query fun toEntry => ?_
  refine decided_query fun first => decided_query fun second => ?_
  split <;> exact decided_pure _

open Script in
theorem NewUser.script_decided (user : NewUser) (hook : Hook) : Decided (user.script hook).run :=
  decided_query fun _ => decided_announce (decided_pure _)

open Script in
theorem Confirmation.script_decided (confirmation : Confirmation) : Decided confirmation.script.run := by
  refine decided_query fun found => decided_clock fun now => ?_
  split
  · exact decided_query fun record => decided_query fun user => decided_pure _
  · exact decided_fail (by simp)

theorem Blamed.ne_commitFailed {body : Script α} {failure : Failure} (h : Blamed body failure)
    (hbody : Script.Decided body.run) (fault : StorageFault) : failure ≠ .commitFailed fault := by
  induction h with
  | frame fault' => exact Failure.ofFault_ne_commitFailed fault' fault
  | script hcourse =>
      obtain ⟨past, hend⟩ := hcourse.keeps (P := fun _ => True) (hbody [])
      exact fun h => hend fault (by rw [h])
  | overdue => simp
  | rollback => simp

/-- Whether a result says of COMMIT what happened: acknowledged, failed with the fault that is
reported, or not asked for. `doubt` tells the errors that report the failure of a COMMIT. -/
def Tells {ε : Type} (doubt : StorageFault → ε) (past : List Event) : Except ε α → Prop
  | .ok _ => ∃ answer, commits past = [.ok answer]
  | .error error =>
      (∃ fault, error = doubt fault ∧ commits past = [.error fault]) ∨
        (∀ fault, error ≠ doubt fault) ∧ commits past = []

/-- A request that has only read so far may go on with anything that tells about its own COMMITs. -/
theorem Tells.behind {ε : Type} {doubt : StorageFault → ε} {earlier : List Event}
    {p : Service (Except ε α)} (hearlier : commits earlier = [])
    (h : p.Keeps (fun _ r => OnlyReads r) (Tells doubt) []) :
    p.Keeps (fun _ r => OnlyReads r) (Tells doubt) earlier := by
  have hbehind := h.behind earlier
  rw [List.append_nil] at hbehind
  refine hbehind.mono (fun _ _ ⟨_, _, hreads⟩ => hreads) ?_
  rintro _ result ⟨past, rfl, htells⟩
  cases result <;> simpa only [Tells, Service.commits_append, hearlier, List.nil_append] using htells

theorem atomically_tells (limit : Nat) {body : Script α} (hbody : Script.Decided body.run) :
    (atomically limit body).Keeps (fun _ r => OnlyReads r) (Tells Failure.commitFailed) [] := by
  refine (atomically_keeps limit body).mono (fun past r h => ?_) fun past result h => ?_
  · cases r with
    | send command => cases command <;> trivial
    | _ => trivial
  · cases result with
    | ok value =>
        obtain ⟨past', answer, rfl, hready⟩ := h
        refine ⟨answer, ?_⟩
        rw [Service.commits_append, hready.uncommitted.commits_eq]
        rfl
    | error failure =>
        rcases h with ⟨hpast, hblame⟩ | ⟨past', fault, value, rfl, hready, rfl⟩
        · exact .inr ⟨hblame.ne_commitFailed hbody, hpast.commits_eq⟩
        · refine .inl ⟨fault, rfl, ?_⟩
          rw [Service.commits_append, hready.uncommitted.commits_eq]
          rfl

end Passbook
