import Passbook.Proofs.Concurrency.Serial
import Passbook.Proofs.Concurrency.Stages
import Passbook.Proofs.Transaction.MoveMoney

/-!
# Concurrent transfers

Any number of transfers run at the same time, in any order of their steps and with any failures. In
everything that they can come to, each balance is the opening balance with the net of the entries of
its account, no balance is below zero, and the total is what it was. What is stored is one transfer
with its two entries for each order that took effect: every order that was answered with a receipt did,
and no order that was answered with a failure did, unless the failure is that of COMMIT.
-/
namespace Passbook

def Transfer.order (transfer : Transfer) : TransferOrder :=
  ⟨transfer.fromAccount, transfer.toAccount, transfer.amount⟩

/-- The account and the amount of an entry. -/
def Entry.change (entry : Entry) : BalanceChange := ⟨entry.accountId, entry.amount⟩

/-- How the tables follow from the opening ones by the orders that took effect. -/
structure Reconciled (opening db : Database) (orders : List TransferOrder) : Prop where
  accounts : db.accounts.rows = opening.accounts.rows.map fun account =>
    account.plus (db.netOf account.id)
  nonnegative : ∀ account ∈ db.accounts.rows, 0 ≤ account.balance
  total : (db.accounts.rows.map (·.balance)).sum = (opening.accounts.rows.map (·.balance)).sum
  transfers : db.transfers.rows.map Transfer.order = orders
  entries : db.entries.rows.map Entry.change = orders.flatMap fun order => [order.debit, order.credit]
  admitted : ∀ order ∈ orders, 0 < order.amount ∧ order.fromAccount ≠ order.toAccount
  users : db.users = opening.users
  sessions : db.sessions = opening.sessions
  verifications : db.verifications = opening.verifications

/-- Tables in which no money has moved yet. -/
structure Unmoved (opening : Database) : Prop where
  nonnegative : ∀ account ∈ opening.accounts.rows, 0 ≤ account.balance
  entries : opening.entries.rows = []
  transfers : opening.transfers.rows = []

theorem Unmoved.reconciled {opening : Database} (h : Unmoved opening) : Reconciled opening opening [] where
  accounts := by simp [Database.netOf, h.entries]
  nonnegative := h.nonnegative
  total := rfl
  transfers := by rw [h.transfers, List.map_nil]
  entries := by rw [h.entries, List.map_nil, List.flatMap_nil]
  admitted _ horder := absurd horder List.not_mem_nil
  users := rfl
  sessions := rfl
  verifications := rfl

theorem Reconciled.snoc {opening db db' : Database} {orders : List TransferOrder} {order : TransferOrder}
    {receipt : TransferReceipt} (h : Reconciled opening db orders) (hmoves : order.Moves receipt db db')
    (hcheck : order.check = .ok ()) : Reconciled opening db' (orders ++ [order]) where
  accounts := by
    rw [hmoves.accounts_rows, h.accounts, List.map_map]
    refine List.map_congr_left fun account _ => ?_
    rw [Function.comp_apply, Account.id_plus, Account.plus_plus, hmoves.netOf_eq]
  nonnegative := hmoves.nonnegative h.nonnegative
  total := hmoves.total.trans h.total
  transfers := by
    have horder : receipt.transfer.order = order := by
      have htransfer := hmoves.transfer
      simp only [Prod.mk.injEq] at htransfer
      rw [Transfer.order, htransfer.1, htransfer.2.1, htransfer.2.2]
    rw [hmoves.transfers, List.map_append, h.transfers, List.map_singleton, horder]
  entries := by
    have hfrom : receipt.fromEntry.change = order.debit := by
      obtain ⟨haccount, hamount⟩ := Prod.mk.inj hmoves.fromEntry
      rw [Entry.change, haccount, hamount, TransferOrder.debit]
    have hto : receipt.toEntry.change = order.credit := by
      obtain ⟨haccount, hamount⟩ := Prod.mk.inj hmoves.toEntry
      rw [Entry.change, haccount, hamount, TransferOrder.credit]
    rw [hmoves.entries, List.map_append, h.entries, List.flatMap_append, List.flatMap_singleton,
      List.map_cons, List.map_singleton, hfrom, hto]
  admitted other hother := by
    rcases List.mem_append.mp hother with hother | hother
    · exact h.admitted other hother
    · rw [List.mem_singleton.mp hother]
      exact TransferOrder.check_eq_ok.mp hcheck
  users := hmoves.users.trans h.users
  sessions := hmoves.sessions.trans h.sessions
  verifications := hmoves.verifications.trans h.verifications

def TransferReceipt.Stored (receipt : TransferReceipt) (db : Database) : Prop :=
  receipt.transfer ∈ db.transfers.rows ∧ receipt.fromEntry ∈ db.entries.rows ∧
    receipt.toEntry ∈ db.entries.rows

namespace World

variable {ι : Type} {orders : ι → TransferOrder} {limits : ι → Nat} {opening : Database}
  {w : World fun _ : ι => TransferReceipt}

/-- What took effect for an order is a transfer, and the receipt, if there is one, is for that. -/
def Carries (w : World fun _ : ι => TransferReceipt) (orders : ι → TransferOrder) (i : ι)
    (db db' : Database) : Prop :=
  (orders i).check = .ok () ∧ ∃ receipt, (orders i).Moves receipt db db' ∧
    ∀ value, (w.sessions i).rest = .done (.ok value) → value = receipt

theorem Successive.reconciled {done : List ι} {db : Database} (hopening : Unmoved opening)
    (h : Successive (w.Carries orders) opening done db) : Reconciled opening db (done.map orders) := by
  induction h with
  | nil => exact hopening.reconciled
  | snoc _ hcarries ih =>
      obtain ⟨hcheck, receipt, hmoves, _⟩ := hcarries
      rw [List.map_append, List.map_singleton]
      exact ih.snoc hmoves hcheck

theorem Successive.transfer_stored {done : List ι} {db : Database}
    (h : Successive (w.Carries orders) opening done db) {i : ι} (hi : i ∈ done) {receipt : TransferReceipt}
    (hrest : (w.sessions i).rest = .done (.ok receipt)) : receipt.Stored db := by
  induction h with
  | nil => cases hi
  | snoc _ hcarries ih =>
      obtain ⟨_, receipt', hmoves, hvalue⟩ := hcarries
      rw [TransferReceipt.Stored, hmoves.transfers, hmoves.entries]
      rcases List.mem_append.mp hi with hi | hi
      · obtain ⟨htransfer, hfrom, hto⟩ := ih hi
        exact ⟨List.mem_append_left _ htransfer, List.mem_append_left _ hfrom, List.mem_append_left _ hto⟩
      · rw [List.mem_singleton] at hi
        subst hi
        rw [hvalue receipt hrest]
        simp

variable [DecidableEq ι]

theorem sound_of_transfers (h : Reaches opening (fun i => (orders i).execute (limits i)) w) :
    w.Sound fun i => (orders i).admitted :=
  .of_reaches (fun i => (orders i).admitted_reliable) (fun i => (orders i).execute_accounted (limits i)) h

theorem Sound.carries (h : w.Sound fun i => (orders i).admitted) {i : ι} {draft : Draft} {db : Database}
    (hdraft : draft ∈ w.draftsOf i) (hreplays : draft.Replays db) :
    w.Carries orders i db (db.after draft) := by
  obtain ⟨past, value, _, hready, hexchanges, hvalue⟩ := (h.session i).explains hdraft
  obtain ⟨_, hcourse⟩ := hready.course
  obtain ⟨hcheck, log, hlog, hanswered⟩ := TransferOrder.admitted_course hcourse
  rw [hexchanges, Option.some.injEq] at hlog
  subst hlog
  exact ⟨hcheck, value, TransferOrder.moves_of_replays hanswered hreplays, hvalue⟩

/-- Whatever concurrent transfers come to: the tables are reconciled with the orders that took effect,
each of which did so once, and the answers tell which orders those are. -/
theorem transfers_reconciled (hopening : Unmoved opening)
    (h : Reaches opening (fun i => (orders i).execute (limits i)) w) :
    Reconciled opening w.database (w.commits.map fun commit => orders commit.1) ∧
      (w.commits.map (·.1)).Nodup ∧
      (∀ i receipt, (w.sessions i).rest = .done (.ok receipt) →
        i ∈ w.commits.map (·.1) ∧ receipt.Stored w.database) ∧
      ∀ i failure, (w.sessions i).rest = .done (.error failure) →
        (∀ fault, failure ≠ .commitFailed fault) → i ∉ w.commits.map (·.1) := by
  have hsound := sound_of_transfers h
  have hsuccessive : Successive (w.Carries orders) opening (w.commits.map (·.1)) w.database :=
    h.origin_eq ▸ hsound.successive hsound.carries
  refine ⟨?_, hsound.nodup_commits, fun i receipt hrest => ?_,
    fun i failure hrest hfailure => hsound.not_committed hrest hfailure⟩
  · have hreconciled := hsuccessive.reconciled hopening
    rw [List.map_map] at hreconciled
    exact hreconciled
  · have hi := hsound.committed hrest
    exact ⟨hi, hsuccessive.transfer_stored hi hrest⟩

/-- The accounts of two owners before anything was moved. -/
def twoAccounts : Database where
  users := ⟨[⟨"ann", "digest", "Ann", "ann@example.com", ⟨0⟩, true, ⟨0⟩⟩,
    ⟨"bob", "digest", "Bob", "bob@example.com", ⟨0⟩, true, ⟨0⟩⟩], by decide⟩
  accounts := ⟨[⟨1, "ann", 100, "USD", ⟨0⟩⟩, ⟨2, "bob", 50, "USD", ⟨0⟩⟩], by decide⟩

/-- Two orders over the same rows, one in each direction. -/
def opposite : Bool → TransferOrder
  | false => ⟨1, 2, 30⟩
  | true => ⟨2, 1, 20⟩

/-- The first order changes the first account while the second is under way and comes to it afterwards. -/
theorem transfers_reconciled_opposite :
    Unmoved twoAccounts ∧ ∃ v w : World fun _ : Bool => TransferReceipt,
      Reaches twoAccounts (fun i => (opposite i).execute 1000) v ∧
      (∀ i, ∃ draft, (v.sessions i).standing = .active draft ∧ 3 ≤ draft.length) ∧
      v.taken true (.account 1) ∧ Relation.ReflTransGen Step v w ∧
      Reconciled twoAccounts w.database [⟨1, 2, 30⟩, ⟨2, 1, 20⟩] ∧
      ∀ i, ∃ receipt, (w.sessions i).rest = .done (.ok receipt) ∧ receipt.Stored w.database := by
  have hopening : Unmoved twoAccounts := ⟨by decide, rfl, rfl⟩
  have hstart : Leads Step twoAccounts _ _ _ :=
    .start (fun _ _ hstep => hstep) twoAccounts fun i => (opposite i).execute 1000
  have hfirst := (hstart.single false).begins
  have hsecond := (hfirst.single true).begins
  have htransfer := hsecond.query ⟨1, ⟨7⟩⟩ 2 rfl rfl (by decide)
  have hfromEntry := htransfer.query ⟨1, ⟨7⟩⟩ 2 rfl rfl (by decide)
  have htoEntry := hfromEntry.query ⟨2, ⟨7⟩⟩ 2 rfl rfl (by decide)
  have htransfer' := (htoEntry.single false).query ⟨2, ⟨8⟩⟩ 2 rfl rfl (by decide)
  have hfromEntry' := htransfer'.query ⟨3, ⟨8⟩⟩ 2 rfl rfl (by decide)
  have htoEntry' := hfromEntry'.query ⟨4, ⟨8⟩⟩ 2 rfl rfl (by decide)
  have hdebited := htoEntry'.query ⟨0, ⟨8⟩⟩ 2 rfl rfl (by decide)
  obtain ⟨v, hreaches, _, _, hposes, hpaused⟩ := hdebited.pause
  have hcredited := (hpaused.query ⟨0, ⟨8⟩⟩ 2 rfl rfl (by decide)).committed
  have hcredited' := (hcredited.single true).query ⟨0, ⟨9⟩⟩ 2 rfl rfl (by decide)
  have hdebited' := hcredited'.query ⟨0, ⟨9⟩⟩ 2 rfl rfl (by decide)
  obtain ⟨w, hsteps, _, hcommits, hposes', _⟩ := hdebited'.committed.pause
  obtain ⟨hreconciled, _, hreceipts, _⟩ := transfers_reconciled hopening (hreaches.trans hsteps)
  rw [hcommits] at hreconciled
  have hstanding : ∀ i, (v.sessions i).standing = _ := fun i => congrArg Prod.snd (hposes i)
  refine ⟨hopening, v, w, hreaches, fun i => ?_, ?_, hsteps, hreconciled, fun i => ?_⟩
  · cases i
    · exact ⟨_, hstanding false, by decide⟩
    · exact ⟨_, hstanding true, by decide⟩
  · refine ⟨false, Bool.false_ne_true, ?_⟩
    rw [hstanding false]
    decide
  · have hrest := congrArg Prod.fst (hposes' i)
    cases i
    · exact ⟨_, hrest, (hreceipts false _ hrest).2⟩
    · exact ⟨_, hrest, (hreceipts true _ hrest).2⟩

end World

end Passbook
