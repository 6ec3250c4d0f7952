import Passbook.Proofs.Concurrency.Session
import Passbook.Proofs.Database.Steady

/-!
# What a confirmation does

A confirmation that has come to its end was answered three statements, and read the clock between the
first two. Carried out on the tables they use up one record, whose code was presented before it expired,
and mark the user whom it names; no other row is changed, and no other column.
-/
namespace Passbook

def Verification.used (record : Verification) : Verification := { record with isUsed := true }

@[simp] theorem Verification.username_used (record : Verification) :
    record.used.username = record.username := rfl

@[simp] theorem Verification.isUsed_used (record : Verification) : record.used.isUsed = true := rfl

@[simp] theorem Verification.used_used (record : Verification) : record.used.used = record.used := rfl

def User.verified (user : User) : User := { user with isEmailVerified := true }

@[simp] theorem User.verified_verified (user : User) : user.verified.verified = user.verified := rfl

/-- What a confirmation, with the time at which the code was checked, does to the tables as a whole. -/
structure Confirmation.Uses (confirmation : Confirmation) (now : Instant) (receipt : ConfirmationReceipt)
    (db db' : Database) : Prop where
  record : ∃ record, db.verifications.find confirmation.recordId = some record ∧
    record.isUsed = false ∧ record.secretCode = confirmation.secretCode ∧
    now.micros < record.expiredAt.micros ∧ receipt.record = record.used
  user : ∃ user, db.users.find receipt.record.username = some user ∧ receipt.user = user.verified
  verifications : db'.verifications.rows = db.verifications.rows.map fun other =>
    if other.id = confirmation.recordId then other.used else other
  users : db'.users.rows = db.users.rows.map fun other =>
    if other.username = receipt.record.username then other.verified else other
  accounts : db'.accounts = db.accounts
  entries : db'.entries = db.entries
  transfers : db'.transfers = db.transfers
  sessions : db'.sessions = db.sessions

theorem Verification.accepts_iff {record : Verification} {code : String} {now : Instant} :
    record.accepts code now = true ↔
      record.isUsed = false ∧ record.secretCode = code ∧ now.micros < record.expiredAt.micros := by
  simp only [accepts, Instant.before, Bool.and_eq_true, beq_iff_eq, Bool.not_eq_true', decide_eq_true_eq]
  exact ⟨fun ⟨⟨hcode, hunused⟩, hfresh⟩ => ⟨hunused, hcode, hfresh⟩,
    fun ⟨hunused, hcode, hfresh⟩ => ⟨⟨hcode, hunused⟩, hfresh⟩⟩

namespace Confirmation

open Script (Course Heard exchanges)

/-- What was answered to the statements of a confirmation that has come to its end. -/
structure Answered (confirmation : Confirmation) (now : Instant) (receipt : ConfirmationReceipt)
    (log : List (Statement × Answer)) : Prop where
  answers : ∃ found a₁ a₂ a₃, log = [(.lockVerification confirmation.recordId, a₁),
      (.useVerification found.id, a₂),
      (.updateUser { username := receipt.record.username, isEmailVerified := some true }, a₃)] ∧
    Answer.one Verification.ofRow a₁ = .ok found ∧
    Answer.one Verification.ofRow a₂ = .ok receipt.record ∧ Answer.one User.ofRow a₃ = .ok receipt.user ∧
    found.accepts confirmation.secretCode now = true

theorem script_course {confirmation : Confirmation} {heard : List Heard} {millis : Nat}
    {receipt : ConfirmationReceipt}
    (h : Course confirmation.script.run heard millis (.done (.ok receipt))) :
    ∃ now log, ⟨.clock, now, 0⟩ ∈ heard ∧ exchanges heard = some log ∧
      confirmation.Answered now receipt log := by
  obtain ⟨a₁, found, _, _, _, hread₁, rfl, h₁⟩ := h.of_query
  obtain ⟨now, _, rfl, h₂⟩ := h₁.of_clock
  split at h₂
  · next haccepts =>
      obtain ⟨a₂, record, _, _, _, hread₂, rfl, h₃⟩ := h₂.of_query
      obtain ⟨a₃, user, _, _, _, hread₃, rfl, h₄⟩ := h₃.of_query
      obtain ⟨rfl, hreceipt⟩ := h₄.of_done
      cases hreceipt
      exact ⟨now, _, by simp, rfl, found, a₁, a₂, a₃, rfl, hread₁, hread₂, hread₃, haccepts⟩
  · cases h₂.of_done.2

theorem script_reliable (confirmation : Confirmation) : confirmation.script.Reliable where
  decided := confirmation.script_decided
  steady := by
    refine Script.sends_query (Statement.steady_lockVerification _) fun found => ?_
    refine Script.sends_clock fun now => ?_
    split
    · refine Script.sends_query (Statement.steady_useVerification _) fun record => ?_
      refine Script.sends_query (Statement.steady_updateUser rfl) fun user => ?_
      exact Script.sends_pure _
    · exact Script.sends_fail _
  answered h := by
    obtain ⟨_, log, _, hlog, _⟩ := script_course h
    exact ⟨log, hlog⟩

open Database (lockVerification_eq_ok useVerification_eq_ok updateUser_eq_ok)

theorem uses_of_replays {confirmation : Confirmation} {now : Instant} {receipt : ConfirmationReceipt}
    {draft : Draft} {db : Database} (h : confirmation.Answered now receipt draft.exchanges)
    (hreplays : draft.Replays db) : confirmation.Uses now receipt db (db.after draft) := by
  obtain ⟨found, a₁, a₂, a₃, hlog, hread₁, hread₂, hread₃, haccepts⟩ := h
  have hrows₁ := Answer.rows_ne_nil hread₁
  have hrows₂ := Answer.rows_ne_nil hread₂
  have hrows₃ := Answer.rows_ne_nil hread₃
  obtain ⟨_, _, _, h₁, rfl, hlog, hreplays⟩ := hreplays.uncons hlog hrows₁
  obtain ⟨_, _, _, h₂, rfl, hlog, hreplays⟩ := hreplays.uncons hlog hrows₂
  obtain ⟨_, _, _, h₃, rfl, hlog, _⟩ := hreplays.uncons hlog hrows₃
  obtain rfl := Draft.eq_nil_of_exchanges hlog
  obtain ⟨record, hfound, rfl, rfl⟩ := (lockVerification_eq_ok hrows₁).mp h₁
  obtain rfl := Except.ok.inj ((Verification.ofRow_toRow record).symm.trans hread₁)
  obtain ⟨_, hid⟩ := Table.find_eq_some.mp hfound
  obtain ⟨other, hother, _, rfl, rfl⟩ := (useVerification_eq_ok hrows₂).mp h₂
  -- The record that is marked is the one that is held.
  obtain rfl : record = other := Option.some.inj (hfound.symm.trans (hid ▸ hother))
  have hused : record.used = receipt.record :=
    Except.ok.inj ((Verification.ofRow_toRow record.used).symm.trans hread₂)
  obtain ⟨user, huser, rfl, rfl⟩ := (updateUser_eq_ok rfl hrows₃).mp h₃
  have hverified : user.verified = receipt.user :=
    Except.ok.inj ((User.ofRow_toRow user.verified).symm.trans hread₃)
  obtain ⟨_, hname⟩ := Table.find_eq_some.mp huser
  obtain ⟨hunused, hcode, hfresh⟩ := Verification.accepts_iff.mp haccepts
  constructor
  case record => exact ⟨record, hfound, hunused, hcode, hfresh, hused.symm⟩
  case user => exact ⟨user, huser, hverified.symm⟩
  case verifications => exact Table.rows_put_of_find Verification.used hfound hid
  case users => exact Table.rows_put_of_find User.verified huser hname
  case accounts => rfl
  case entries => rfl
  case transfers => rfl
  case sessions => rfl

end Confirmation

end Passbook
