import Passbook.Proofs.Concurrency.Serial
import Passbook.Proofs.Concurrency.Stages
import Passbook.Proofs.Transaction.ConfirmEmail

/-!
# Concurrent confirmations

Any number of confirmations run at the same time, in any order of their steps and with any failures.
Each change of what is stored is one confirmation as a whole: it uses up a record that had not been used,
with the code of the record and before it expired, and marks the user whom the record names. So each
record is used at most once, and what is stored follows from the records that were used. Every
confirmation that was answered with a receipt has taken effect, and none that was answered with a failure
has, unless the failure is that of COMMIT.
-/
namespace Passbook

namespace Database

def Names (db : Database) (ids : List Int) (user : User) : Prop :=
  ∃ record ∈ db.verifications.rows, record.id ∈ ids ∧ record.username = user.username

instance (db : Database) (ids : List Int) (user : User) : Decidable (db.Names ids user) :=
  inferInstanceAs (Decidable (∃ record ∈ db.verifications.rows, _ ∧ _))

theorem names_append {db : Database} {id : Int} {record : Verification}
    (h : db.verifications.find id = some record) {ids : List Int} {user : User} :
    db.Names (ids ++ [id]) user ↔ db.Names ids user ∨ user.username = record.username := by
  obtain ⟨hmem, hid⟩ := Table.find_eq_some.mp h
  constructor
  · rintro ⟨other, hother, hotherId, hname⟩
    rcases List.mem_append.mp hotherId with hold | hnew
    · exact .inl ⟨other, hother, hold, hname⟩
    · -- No other record has that number.
      have hfind := Table.find_of_mem hother
      rw [List.mem_singleton.mp hnew, h] at hfind
      exact .inr (Option.some.inj hfind ▸ hname.symm)
  · rintro (⟨other, hother, hold, hname⟩ | hname)
    · exact ⟨other, hother, List.mem_append_left _ hold, hname⟩
    · exact ⟨record, hmem, List.mem_append_right _ (List.mem_singleton.mpr hid), hname.symm⟩

end Database

/-- How the tables follow from the opening ones by the records that were used, one after the other. -/
structure Consumed (opening db : Database) (ids : List Int) : Prop where
  once : ids.Nodup
  unused : ∀ id ∈ ids, ∃ record, opening.verifications.find id = some record ∧ record.isUsed = false
  verifications : db.verifications.rows = opening.verifications.rows.map fun record =>
    if record.id ∈ ids then record.used else record
  users : db.users.rows = opening.users.rows.map fun user =>
    if opening.Names ids user then user.verified else user
  accounts : db.accounts = opening.accounts
  entries : db.entries = opening.entries
  transfers : db.transfers = opening.transfers
  sessions : db.sessions = opening.sessions

namespace Consumed

variable {opening db db' : Database} {ids : List Int}

theorem nil (opening : Database) : Consumed opening opening [] where
  once := List.nodup_nil
  unused _ hid := absurd hid List.not_mem_nil
  verifications := by simp
  users := by simp [Database.Names]
  accounts := rfl
  entries := rfl
  transfers := rfl
  sessions := rfl

/-- A record that has not been used is as it was in the beginning. -/
theorem find_of_unused (h : Consumed opening db ids) {id : Int} {record : Verification}
    (hfound : db.verifications.find id = some record) (hunused : record.isUsed = false) :
    id ∉ ids ∧ opening.verifications.find id = some record := by
  obtain ⟨hmem, rfl⟩ := Table.find_eq_some.mp hfound
  rw [h.verifications] at hmem
  obtain ⟨old, hold, rfl⟩ := List.mem_map.mp hmem
  by_cases hid : old.id ∈ ids
  · rw [if_pos hid, Verification.isUsed_used] at hunused
    cases hunused
  · rw [if_neg hid]
    exact ⟨hid, Table.find_of_mem hold⟩

/-- One more record is used. -/
theorem snoc {confirmation : Confirmation} {now : Instant} {receipt : ConfirmationReceipt}
    (h : Consumed opening db ids) (huses : confirmation.Uses now receipt db db') :
    Consumed opening db' (ids ++ [confirmation.recordId]) := by
  obtain ⟨record, hfound, hunused, _, _, hreceipt⟩ := huses.record
  obtain ⟨hnew, hopening⟩ := h.find_of_unused hfound hunused
  constructor
  case once => exact List.concat_eq_append ▸ h.once.concat hnew
  case unused =>
    intro id hid
    rcases List.mem_append.mp hid with hid | hid
    · exact h.unused id hid
    · rw [List.mem_singleton] at hid
      exact ⟨record, hid ▸ hopening, hunused⟩
  case verifications =>
    rw [huses.verifications, h.verifications, Table.map_change_change Verification.used_used]
    simp only [List.mem_append, List.mem_singleton]
  case users =>
    rw [huses.users, h.users, Table.map_change_change User.verified_verified, hreceipt]
    refine List.map_congr_left fun user _ => if_congr ?_ rfl rfl
    rw [Database.names_append hopening, Verification.username_used]
  case accounts => exact huses.accounts.trans h.accounts
  case entries => exact huses.entries.trans h.entries
  case transfers => exact huses.transfers.trans h.transfers
  case sessions => exact huses.sessions.trans h.sessions

end Consumed

def ConfirmationReceipt.Stored (receipt : ConfirmationReceipt) (db : Database) : Prop :=
  receipt.record ∈ db.verifications.rows ∧ receipt.user ∈ db.users.rows

/-- The receipt of a confirmation is stored by it. -/
theorem Confirmation.Uses.stored {confirmation : Confirmation} {now : Instant} {db db' : Database}
    {receipt : ConfirmationReceipt} (h : confirmation.Uses now receipt db db') : receipt.Stored db' := by
  obtain ⟨record, hrecord, _, _, _, hused⟩ := h.record
  obtain ⟨user, huser, hverified⟩ := h.user
  obtain ⟨hrecordMem, hid⟩ := Table.find_eq_some.mp hrecord
  obtain ⟨huserMem, hname⟩ := Table.find_eq_some.mp huser
  constructor
  · rw [h.verifications, hused]
    exact List.mem_map.mpr ⟨record, hrecordMem, if_pos hid⟩
  · rw [h.users, hverified]
    exact List.mem_map.mpr ⟨user, huserMem, if_pos hname⟩

/-- What is listed by the receipt of one confirmation stays as it is under any other. -/
theorem ConfirmationReceipt.Stored.of_uses {confirmation confirmation' : Confirmation}
    {now now' : Instant} {receipt receipt' : ConfirmationReceipt} {db₀ db₁ db db' : Database}
    (h : receipt.Stored db) (hown : confirmation.Uses now receipt db₀ db₁)
    (huses : confirmation'.Uses now' receipt' db db') : receipt.Stored db' := by
  obtain ⟨record, _, _, _, _, hused⟩ := hown.record
  obtain ⟨user, _, hverified⟩ := hown.user
  constructor
  · rw [huses.verifications]
    refine List.mem_map.mpr ⟨receipt.record, h.1, ?_⟩
    rw [hused, Verification.used_used, ite_self]
  · rw [huses.users]
    refine List.mem_map.mpr ⟨receipt.user, h.2, ?_⟩
    rw [hverified, User.verified_verified, ite_self]

theorem Service.mem_of_mem_heard {past : List Service.Event} {now : Instant}
    (h : ⟨.clock, now, 0⟩ ∈ Service.heard past) : ⟨.clock, now⟩ ∈ past := by
  obtain ⟨⟨action, answer⟩, hevent, hheard⟩ := List.mem_filterMap.mp h
  cases action with
  | clock =>
      cases hheard
      exact hevent
  | sendWithin statement patience => cases answer <;> cases hheard
  | announce hook user => cases hheard
  | _ => cases hheard

namespace World

variable {ι : Type} {confirmations : ι → Confirmation} {limits : ι → Nat} {opening : Database}
  {w : World fun _ : ι => ConfirmationReceipt}

/-- What took effect for a confirmation uses its record, at a time that its service has read off the
clock, and the receipt, if there is one, is for that. -/
def Confirms (w : World fun _ : ι => ConfirmationReceipt) (confirmations : ι → Confirmation) (i : ι)
    (db db' : Database) : Prop :=
  ∃ now receipt, ⟨.clock, now⟩ ∈ (w.sessions i).past ∧ (confirmations i).Uses now receipt db db' ∧
    ∀ value, (w.sessions i).rest = .done (.ok value) → value = receipt

theorem Successive.consumed {done : List ι} {db : Database}
    (h : Successive (w.Confirms confirmations) opening done db) :
    Consumed opening db (done.map fun i => (confirmations i).recordId) := by
  induction h with
  | nil => exact .nil opening
  | snoc _ hconfirms ih =>
      obtain ⟨_, _, _, huses, _⟩ := hconfirms
      rw [List.map_append, List.map_singleton]
      exact ih.snoc huses

theorem Successive.confirmation_stored {done : List ι} {db : Database}
    (h : Successive (w.Confirms confirmations) opening done db) {i : ι} (hi : i ∈ done)
    {receipt : ConfirmationReceipt} (hrest : (w.sessions i).rest = .done (.ok receipt)) :
    receipt.Stored db ∧ ∃ now db₀ db₁, (confirmations i).Uses now receipt db₀ db₁ := by
  induction h with
  | nil => cases hi
  | snoc _ hconfirms ih =>
      obtain ⟨now, receipt', _, huses, hvalue⟩ := hconfirms
      rcases List.mem_append.mp hi with hi | hi
      · obtain ⟨hstored, _, _, _, hown⟩ := ih hi
        exact ⟨hstored.of_uses hown huses, _, _, _, hown⟩
      · rw [List.mem_singleton] at hi
        subst hi
        obtain rfl := hvalue receipt hrest
        exact ⟨huses.stored, _, _, _, huses⟩

variable [DecidableEq ι]

theorem sound_of_confirmations (h : Reaches opening (fun i => (confirmations i).execute (limits i)) w) :
    w.Sound fun i => (confirmations i).script :=
  .of_reaches (fun i => (confirmations i).script_reliable)
    (fun i => atomically_accounted (limits i) (confirmations i).script_reliable) h

theorem Sound.confirms (h : w.Sound fun i => (confirmations i).script) {i : ι} {draft : Draft}
    {db : Database} (hdraft : draft ∈ w.draftsOf i) (hreplays : draft.Replays db) :
    w.Confirms confirmations i db (db.after draft) := by
  obtain ⟨past, value, hprefix, hready, hexchanges, hvalue⟩ := (h.session i).explains hdraft
  obtain ⟨_, hcourse⟩ := hready.course
  obtain ⟨now, log, hnow, hlog, hanswered⟩ := Confirmation.script_course hcourse
  rw [hexchanges, Option.some.injEq] at hlog
  subst hlog
  exact ⟨now, value, hprefix.subset (Service.mem_of_mem_heard hnow),
    Confirmation.uses_of_replays hanswered hreplays, hvalue⟩

/-- Whatever concurrent confirmations come to: the tables follow from the records that were used, each
of them once; a step changes nothing that is stored, or carries one confirmation out as a whole; and
the answers tell which confirmations took effect, of which there is one at most for each record. -/
theorem confirmations_used_once
    (h : Reaches opening (fun i => (confirmations i).execute (limits i)) w) :
    Consumed opening w.database (w.commits.map fun commit => (confirmations commit.1).recordId) ∧
      (∀ w', Step w w' → w'.commits = w.commits ∧ w'.database = w.database ∨
        ∃ i draft, w'.commits = w.commits ++ [(i, draft)] ∧
          w'.Confirms confirmations i w.database w'.database) ∧
      (∀ i receipt, (w.sessions i).rest = .done (.ok receipt) →
        i ∈ w.commits.map (·.1) ∧ receipt.Stored w.database) ∧
      (∀ i j receipt receipt', (w.sessions i).rest = .done (.ok receipt) →
        (w.sessions j).rest = .done (.ok receipt') →
        (confirmations i).recordId = (confirmations j).recordId → i = j) ∧
      ∀ i failure, (w.sessions i).rest = .done (.error failure) →
        (∀ fault, failure ≠ .commitFailed fault) → i ∉ w.commits.map (·.1) := by
  have hsound := sound_of_confirmations h
  have hsuccessive : Successive (w.Confirms confirmations) opening (w.commits.map (·.1)) w.database :=
    h.origin_eq ▸ hsound.successive hsound.confirms
  have hconsumed := hsuccessive.consumed
  refine ⟨?_, fun w' hstep => ?_, fun i receipt hrest => ?_, fun i j receipt receipt' hi hj hsame => ?_,
    fun i failure hrest hfailure => hsound.not_committed hrest hfailure⟩
  · rw [List.map_map] at hconsumed
    exact hconsumed
  · have hsound' := sound_of_confirmations (h.tail hstep)
    rcases hsound'.of_step hstep with hnothing | ⟨i, draft, hcommits, hdraft, hreplays, hdatabase⟩
    · exact .inl hnothing
    · exact .inr ⟨i, draft, hcommits, hdatabase ▸ hsound'.confirms hdraft hreplays⟩
  · have hi := hsound.committed hrest
    exact ⟨hi, (hsuccessive.confirmation_stored hi hrest).1⟩
  · exact List.inj_on_of_nodup_map hconsumed.once (hsound.committed hi) (hsound.committed hj) hsame

/-- A user with a record that has not been used. -/
def oneRecord : Database where
  users := ⟨[⟨"ann", "digest", "Ann", "ann@example.com", ⟨0⟩, false, ⟨0⟩⟩], by decide⟩
  verifications := ⟨[⟨5, "ann", "ann@example.com", "secret", false, ⟨0⟩, ⟨900⟩⟩], by decide⟩

/-- Two confirmations with the same code, shortly before the record expires. The second one comes to the
record when it has been used. -/
theorem confirmations_used_once_twice :
    ∃ v w : World fun _ : Bool => ConfirmationReceipt,
      Reaches oneRecord (fun _ => (⟨5, "secret"⟩ : Confirmation).execute 1000) v ∧
      (∀ i, ∃ draft, (v.sessions i).standing = .active draft) ∧ v.taken true (.verification 5) ∧
      Relation.ReflTransGen Step v w ∧ Consumed oneRecord w.database [5] ∧
      (∃ receipt, (w.sessions false).rest = .done (.ok receipt) ∧ receipt.Stored w.database) ∧
      (w.sessions true).rest = .done (.error .invalidSecret) ∧ true ∉ w.commits.map (·.1) := by
  have hstart : Leads Step oneRecord _ _ _ :=
    .start (fun _ _ hstep => hstep) oneRecord fun _ : Bool => (⟨5, "secret"⟩ : Confirmation).execute 1000
  have hfirst := (hstart.single false).begins
  have hsecond := (hfirst.single true).begins
  have hlocked := (hsecond.single false).query ⟨0, ⟨7⟩⟩ 2 rfl rfl (by decide)
  obtain ⟨v, hreaches, _, _, hposes, hpaused⟩ := hlocked.pause
  have hchecked := hpaused.clock ⟨899⟩
  rw [if_pos (by decide)] at hchecked
  have hused := hchecked.query ⟨0, ⟨7⟩⟩ 2 rfl rfl (by decide)
  have hverified := (hused.query ⟨0, ⟨7⟩⟩ 2 rfl rfl (by decide)).committed
  have hlocked' := (hverified.single true).query ⟨0, ⟨7⟩⟩ 2 rfl rfl (by decide)
  have hchecked' := hlocked'.clock ⟨899⟩
  rw [if_neg (by decide)] at hchecked'
  obtain ⟨w, hsteps, _, hcommits, hposes', _⟩ := hchecked'.undone.pause
  obtain ⟨hconsumed, _, hreceipts, _, hfailures⟩ := confirmations_used_once (hreaches.trans hsteps)
  rw [hcommits] at hconsumed
  have hstanding : ∀ i, (v.sessions i).standing = _ := fun i => congrArg Prod.snd (hposes i)
  have hrest : ∀ i, (w.sessions i).rest = _ := fun i => congrArg Prod.fst (hposes' i)
  refine ⟨v, w, hreaches, fun i => ?_, ?_, hsteps, hconsumed, ⟨_, hrest false, (hreceipts false _ (hrest false)).2⟩,
    hrest true, hfailures true _ (hrest true) nofun⟩
  · cases i
    · exact ⟨_, hstanding false⟩
    · exact ⟨_, hstanding true⟩
  · refine ⟨false, Bool.false_ne_true, ?_⟩
    rw [hstanding false]
    decide

end World

end Passbook
