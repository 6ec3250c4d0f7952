import Passbook.Proofs.Database.Server
import Passbook.Proofs.Transaction.MoveMoney
import Passbook.Rehearsal

/-!
# What becomes of a transfer

On a database of its own a transfer does what it is for, whatever the order of the account numbers. It
succeeds exactly if its amount is positive, its accounts differ and exist, the one that pays holds the
amount, and the one that is paid has room for it. Then two balances have changed, one transfer and two
entries are new, and the receipt shows these very rows. Otherwise the tables are as they were, and the
failure says which of these conditions was not met.

The balances are changed in the order of the account numbers. If the one that pays does not hold the
amount and the one that is paid has no room for it, the change that is tried first decides which of the
two is reported.
-/
namespace Passbook

/-- A server between transactions whose balances are those that the schema allows, and whose sequences
are ahead of the numbers that are in use. -/
structure Server.Ready (s : Server) : Prop where
  idle : s.pending? = none
  balances : ∀ account ∈ s.committed.accounts.rows, 0 ≤ account.balance ∧ account.balance < 2 ^ 63
  transfers : ∀ transfer ∈ s.committed.transfers.rows, transfer.id < s.sequences.transfers
  entries : ∀ entry ∈ s.committed.entries.rows, entry.id < s.sequences.entries

theorem Server.Ready.find_balance {s : Server} (hready : s.Ready) {id : Int} {account : Account}
    (h : s.committed.accounts.find id = some account) :
    0 ≤ account.balance ∧ account.balance < 2 ^ 63 :=
  hready.balances account (Table.find_eq_some.mp h).1

/-- What a transfer changes in the tables, and where the receipt is found in them. -/
structure TransferOrder.Completes (order : TransferOrder) (receipt : TransferReceipt) (db db' : Database) :
    Prop where
  accounts : db'.accounts.rows = db.accounts.rows.map fun account =>
    if account.id = order.fromAccount then account.plus (-order.amount)
    else if account.id = order.toAccount then account.plus order.amount
    else account
  fromAccount : db'.accounts.find order.fromAccount = some receipt.fromAccount
  toAccount : db'.accounts.find order.toAccount = some receipt.toAccount
  transfers : db'.transfers.rows = db.transfers.rows ++ [receipt.transfer]
  transfer : (receipt.transfer.fromAccount, receipt.transfer.toAccount, receipt.transfer.amount) =
    (order.fromAccount, order.toAccount, order.amount)
  entries : db'.entries.rows = db.entries.rows ++ [receipt.fromEntry, receipt.toEntry]
  fromEntry : (receipt.fromEntry.accountId, receipt.fromEntry.amount) = (order.fromAccount, -order.amount)
  toEntry : (receipt.toEntry.accountId, receipt.toEntry.amount) = (order.toAccount, order.amount)
  users : db'.users = db.users
  sessions : db'.sessions = db.sessions
  verifications : db'.verifications = db.verifications

namespace TransferOrder

variable {order : TransferOrder} {receipt : TransferReceipt} {db db' : Database}

namespace Moves

theorem finds (h : order.Moves receipt db db') (hne : order.fromAccount ≠ order.toAccount) :
    db'.accounts.find order.fromAccount = some receipt.fromAccount ∧
      db'.accounts.find order.toAccount = some receipt.toAccount := by
  obtain ⟨first, second, between, hfirst, hsecond, hreceipt⟩ := h.accounts
  obtain ⟨_, _, _, hfirstId⟩ := hfirst.find_id
  obtain ⟨_, _, _, hsecondId⟩ := hsecond.find_id
  have hfinds : first.id ≠ second.id → db'.accounts.find first.id = some first ∧
      db'.accounts.find second.id = some second := by
    intro hids
    rw [hsecond.put, hfirst.put]
    constructor
    · rw [Table.find_put, if_neg hids, Table.find_put, if_pos rfl]
    · rw [Table.find_put, if_pos rfl]
  rcases order.lockOrder_cases with heq | heq
  · have hfrom : first.id = order.fromAccount := hfirstId.trans (by rw [heq]; rfl)
    have hto : second.id = order.toAccount := hsecondId.trans (by rw [heq]; rfl)
    have hfinds := hfinds (by rwa [hfrom, hto])
    rw [hfrom, hto] at hfinds
    rw [if_pos hfrom] at hreceipt
    cases hreceipt
    exact hfinds
  · have hto : first.id = order.toAccount := hfirstId.trans (by rw [heq]; rfl)
    have hfrom : second.id = order.fromAccount := hsecondId.trans (by rw [heq]; rfl)
    have hfinds := hfinds (by rw [hfrom, hto]; exact hne.symm)
    rw [hfrom, hto] at hfinds
    rw [if_neg (by rw [hto]; exact hne.symm)] at hreceipt
    cases hreceipt
    exact hfinds.symm

theorem accounts_eq_map (h : order.Moves receipt db db') (hne : order.fromAccount ≠ order.toAccount) :
    db'.accounts.rows = db.accounts.rows.map fun account =>
      if account.id = order.fromAccount then account.plus (-order.amount)
      else if account.id = order.toAccount then account.plus order.amount
      else account := by
  rw [h.accounts_rows]
  apply List.map_congr_left
  intro account _
  have hdebit : order.debit.on account.id =
      if account.id = order.fromAccount then -order.amount else 0 := rfl
  have hcredit : order.credit.on account.id =
      if account.id = order.toAccount then order.amount else 0 := rfl
  rw [hdebit, hcredit]
  by_cases hfrom : account.id = order.fromAccount
  · have hto : account.id ≠ order.toAccount := fun heq => hne (hfrom.symm.trans heq)
    rw [if_pos hfrom, if_neg hto, if_pos hfrom, Int.add_zero]
  · by_cases hto : account.id = order.toAccount
    · rw [if_neg hfrom, if_pos hto, if_neg hfrom, if_pos hto, Int.zero_add]
    · rw [if_neg hfrom, if_neg hto, if_neg hfrom, if_neg hto, Int.add_zero, Account.plus_zero]

theorem completes (h : order.Moves receipt db db') (hne : order.fromAccount ≠ order.toAccount) :
    order.Completes receipt db db' where
  accounts := h.accounts_eq_map hne
  fromAccount := (h.finds hne).1
  toAccount := (h.finds hne).2
  transfers := h.transfers
  transfer := h.transfer
  entries := h.entries
  fromEntry := h.fromEntry
  toEntry := h.toEntry
  users := h.users
  sessions := h.sessions
  verifications := h.verifications

end Moves

end TransferOrder

namespace Database

variable {db : Database} {stamp : Stamp}

theorem insert_of_refusal {record : Record} {row : Row} {primaryKey : String} {refusal : Refusal}
    (h : db.find record.key = none) : db.insert record row primaryKey (some refusal) = .error refusal := by
  rw [insert, h]
  rfl

theorem demand_of_missing {key : Key} {refusal : Refusal} (h : db.find key = none) :
    db.demand key refusal = some refusal := by
  rw [demand, h]
  rfl

theorem insertTransfer_of_missing {order : TransferOrder} {id : Int} (now : Instant)
    (hpositive : 0 < order.amount) (hfree : db.find (.transfer id) = none)
    (hmissing : db.find (.account order.fromAccount) = none ∨ db.find (.account order.toAccount) = none) :
    ∃ name, db.execute ⟨id, now⟩ (.insertTransfer order) = .error (.foreignKey "transfers" name) := by
  simp only [execute, insertTransfer, if_neg (Int.not_le.mpr hpositive)]
  cases hfrom : db.find (.account order.fromAccount) with
  | none =>
      rw [demand_of_missing hfrom, Option.some_or]
      exact ⟨_, insert_of_refusal hfree⟩
  | some record =>
      have hto := hmissing.resolve_left (by rw [hfrom]; exact Option.some_ne_none record)
      rw [demand_eq_none.mpr (by rw [hfrom]; rfl), demand_of_missing hto, Option.none_or]
      exact ⟨_, insert_of_refusal hfree⟩

theorem addBalance_eq {change : BalanceChange} {account : Account}
    (h : db.accounts.find change.account = some account) :
    db.execute stamp (.addBalance change) = writeBalance account (account.balance + change.amount) := by
  simp only [execute, h]

theorem writeBalance_of_negative {account : Account} {balance : Int} (hbigint : IsBigint balance)
    (hnegative : balance < 0) :
    writeBalance account balance = .error (.check "accounts" Failure.balanceConstraint) := by
  rw [writeBalance, if_neg (not_not.mpr hbigint), if_pos hnegative]

theorem writeBalance_of_outOfRange {account : Account} {balance : Int} (h : ¬IsBigint balance) :
    writeBalance account balance = .error .outOfRange := if_pos h

end Database

namespace TransferOrder

open Server (within_query_of_ok within_query_of_error)

/-- An admitted order with the accounts that it is between. -/
structure Joins (order : TransferOrder) (db : Database) (source target : Account) : Prop where
  positive : 0 < order.amount
  distinct : order.fromAccount ≠ order.toAccount
  source : db.accounts.find order.fromAccount = some source
  target : db.accounts.find order.toAccount = some target

/-- The last part of a transfer, once the transfer and its entries are stored. -/
def adjust (order : TransferOrder) (transfer : Transfer) (fromEntry toEntry : Entry) :
    Script TransferReceipt := do
  let first ← Script.query (.addBalance order.lockOrder.1)
  let second ← Script.query (.addBalance order.lockOrder.2)
  if first.id = order.fromAccount then
    return { transfer, fromAccount := first, toAccount := second, fromEntry, toEntry }
  else
    return { transfer, fromAccount := second, toAccount := first, fromEntry, toEntry }

/-- The receipt of a transfer, by the accounts in the order in which they were changed. -/
def receipt (order : TransferOrder) (transfer : Transfer) (fromEntry toEntry : Entry)
    (first second : Account) : TransferReceipt :=
  let accounts := if first.id = order.fromAccount then (first, second) else (second, first)
  { transfer, fromAccount := accounts.1, toAccount := accounts.2, fromEntry, toEntry }

theorem pure_receipt (order : TransferOrder) (transfer : Transfer) (fromEntry toEntry : Entry)
    (first second : Account) :
    (if first.id = order.fromAccount then
        pure { transfer, fromAccount := first, toAccount := second, fromEntry, toEntry }
      else pure { transfer, fromAccount := second, toAccount := first, fromEntry, toEntry }) =
      (pure (order.receipt transfer fromEntry toEntry first second) : Script TransferReceipt) := by
  unfold receipt
  split
  · rfl
  · rfl

theorem script_eq (order : TransferOrder) :
    order.script = (do
      let transfer ← Script.query (.createTransfer order)
      let fromEntry ← Script.query (.createEntry order.fromAccount (-order.amount))
      let toEntry ← Script.query (.createEntry order.toAccount order.amount)
      order.adjust transfer fromEntry toEntry) := rfl

variable (order : TransferOrder) (s : Server)

def transferOn : Transfer :=
  ⟨s.sequences.transfers, order.fromAccount, order.toAccount, order.amount, s.now⟩

def fromEntryOn : Entry := ⟨s.sequences.entries, order.fromAccount, -order.amount, s.now⟩

def toEntryOn : Entry := ⟨s.sequences.entries + 1, order.toAccount, order.amount, s.now⟩

/-- What has been carried out once the transfer and its entries are stored. -/
def bookings : Draft := [
  ⟨.insertTransfer order, ⟨[(order.transferOn s).toRow], 1⟩, .put (.transfer (order.transferOn s))⟩,
  ⟨.insertEntry order.fromAccount (-order.amount), ⟨[(order.fromEntryOn s).toRow], 1⟩,
    .put (.entry (order.fromEntryOn s))⟩,
  ⟨.insertEntry order.toAccount order.amount, ⟨[(order.toEntryOn s).toRow], 1⟩,
    .put (.entry (order.toEntryOn s))⟩]

/-- The numbers that are next once they are stored. -/
def drawn : Sequences :=
  { s.sequences with transfers := s.sequences.transfers + 1, entries := s.sequences.entries + 1 + 1 }

variable {order s}

theorem find_transfer_of_ready (hready : s.Ready) :
    s.committed.find (.transfer s.sequences.transfers) = none := by
  rw [Database.find, Option.map_eq_none_iff, Table.find_eq_none]
  intro hmem
  obtain ⟨transfer, htransfer, hid⟩ := List.mem_map.mp hmem
  exact absurd (hready.transfers transfer htransfer) (by rw [hid]; exact lt_irrefl _)

theorem find_entry_of_ready (hready : s.Ready) {id : Int} (hid : s.sequences.entries ≤ id) :
    s.committed.find (.entry id) = none := by
  rw [Database.find, Option.map_eq_none_iff, Table.find_eq_none]
  intro hmem
  obtain ⟨entry, hentry, rfl⟩ := List.mem_map.mp hmem
  exact absurd (hready.entries entry hentry) (not_lt.mpr hid)

section
variable (limit : Nat) (outside : (action : Service.Action) → action.Answer)

/-- With both accounts there, the transfer and its entries are stored. -/
theorem run_bookings {source target : Account} (hjoins : order.Joins s.committed source target)
    (hready : s.Ready) :
    Draft.Replays s.committed (order.bookings s) ∧
      (Script.within limit order.script.run).run (Server.surroundings outside)
          (s.working s.committed s.sequences) =
        (Script.within limit
            (order.adjust (order.transferOn s) (order.fromEntryOn s) (order.toEntryOn s)).run).run
          (Server.surroundings outside)
          (s.working (s.committed.after (order.bookings s)) (drawn s)) := by
  have hpositive := hjoins.positive
  have hfrom : (s.committed.find (.account order.fromAccount)).isSome := by
    rw [Database.find, hjoins.source]
    rfl
  have hto : (s.committed.find (.account order.toAccount)).isSome := by
    rw [Database.find, hjoins.target]
    rfl
  have htransfer : s.committed.execute ⟨s.sequences.transfers, s.now⟩ (.insertTransfer order) =
      .ok (⟨[(order.transferOn s).toRow], 1⟩, .put (.transfer (order.transferOn s))) :=
    Database.insertTransfer_eq_ok.mpr ⟨hpositive, find_transfer_of_ready hready, hfrom, hto, rfl, rfl⟩
  have hfromEntry : (s.committed.put (.transfer (order.transferOn s))).execute
        ⟨s.sequences.entries, s.now⟩ (.insertEntry order.fromAccount (-order.amount)) =
      .ok (⟨[(order.fromEntryOn s).toRow], 1⟩, .put (.entry (order.fromEntryOn s))) :=
    Database.insertEntry_eq_ok.mpr ⟨find_entry_of_ready hready le_rfl, hfrom, rfl, rfl⟩
  have hfree : ((s.committed.put (.transfer (order.transferOn s))).put (.entry (order.fromEntryOn s))).find
      (.entry (s.sequences.entries + 1)) = none := by
    rw [Database.find_put, if_neg, Database.find_put, if_neg]
    · exact find_entry_of_ready hready (by omega)
    · simp [Record.key]
    · simp [Record.key, fromEntryOn]
  have htoEntry : ((s.committed.put (.transfer (order.transferOn s))).put
        (.entry (order.fromEntryOn s))).execute ⟨s.sequences.entries + 1, s.now⟩
        (.insertEntry order.toAccount order.amount) =
      .ok (⟨[(order.toEntryOn s).toRow], 1⟩, .put (.entry (order.toEntryOn s))) :=
    Database.insertEntry_eq_ok.mpr ⟨hfree, hto, rfl, rfl⟩
  constructor
  · exact ⟨.inr ⟨_, htransfer⟩, .inr ⟨_, hfromEntry⟩, .inr ⟨_, htoEntry⟩, trivial⟩
  · rw [script_eq]
    refine (within_query_of_ok (.createTransfer order) s.sequences htransfer
      (Transfer.ofRow_toRow _)).trans ?_
    refine (within_query_of_ok (.createEntry order.fromAccount (-order.amount))
      { s.sequences with transfers := s.sequences.transfers + 1 } hfromEntry
      (Entry.ofRow_toRow _)).trans ?_
    exact within_query_of_ok (.createEntry order.toAccount order.amount)
      { s.sequences with
        transfers := s.sequences.transfers + 1
        entries := s.sequences.entries + 1 } htoEntry (Entry.ofRow_toRow _)

variable {limit outside}
variable {tables : Database} {sequences : Sequences} {transfer : Transfer} {fromEntry toEntry : Entry}
  {earlier later : BalanceChange} {first second : Account}

theorem adjust_of_first_refused (hlock : order.lockOrder = (earlier, later)) {refusal : Refusal}
    (hfirst : tables.accounts.find earlier.account = some first)
    (hrefused : Database.writeBalance first (first.balance + earlier.amount) = .error refusal) :
    ((Script.within limit (order.adjust transfer fromEntry toEntry).run).run (Server.surroundings outside)
      (s.working tables sequences)).1 = .error (.ofFault (.refused refusal)) := by
  rw [adjust, hlock]
  exact within_query_of_error (.addBalance earlier) sequences
    ((Database.addBalance_eq hfirst).trans hrefused)

theorem execute_addBalance (hne : earlier.account ≠ later.account)
    (hfirst : tables.accounts.find earlier.account = some first)
    (hsecond : tables.accounts.find later.account = some second)
    (hbalance : IsBigint (first.balance + earlier.amount) ∧ 0 ≤ first.balance + earlier.amount)
    (stamp : Stamp) :
    tables.execute stamp (.addBalance earlier) =
        .ok (⟨[(first.plus earlier.amount).toRow], 1⟩, .put (.account (first.plus earlier.amount))) ∧
      (tables.put (.account (first.plus earlier.amount))).accounts.find later.account = some second := by
  obtain ⟨_, hid⟩ := Table.find_eq_some.mp hfirst
  constructor
  · exact (Database.addBalance_eq_ok (List.cons_ne_nil _ _)).mpr ⟨first, hfirst, hbalance, rfl, rfl⟩
  · simp only [Database.put, Table.find_put, Account.id_plus, hid, if_neg hne.symm, hsecond]

theorem adjust_of_second_refused (hlock : order.lockOrder = (earlier, later))
    (hne : earlier.account ≠ later.account) {refusal : Refusal}
    (hfirst : tables.accounts.find earlier.account = some first)
    (hsecond : tables.accounts.find later.account = some second)
    (hbalance : IsBigint (first.balance + earlier.amount) ∧ 0 ≤ first.balance + earlier.amount)
    (hrefused : Database.writeBalance second (second.balance + later.amount) = .error refusal) :
    ((Script.within limit (order.adjust transfer fromEntry toEntry).run).run (Server.surroundings outside)
      (s.working tables sequences)).1 = .error (.ofFault (.refused refusal)) := by
  obtain ⟨hexecute, hfind⟩ := execute_addBalance hne hfirst hsecond hbalance ⟨0, s.now⟩
  rw [adjust, hlock, within_query_of_ok (.addBalance earlier) sequences hexecute (Account.ofRow_toRow _)]
  exact within_query_of_error (.addBalance later) sequences ((Database.addBalance_eq hfind).trans hrefused)

theorem adjust_of_ok (hlock : order.lockOrder = (earlier, later)) (hne : earlier.account ≠ later.account)
    (hfirst : tables.accounts.find earlier.account = some first)
    (hsecond : tables.accounts.find later.account = some second)
    (hbalance : IsBigint (first.balance + earlier.amount) ∧ 0 ≤ first.balance + earlier.amount)
    (hbalance' : IsBigint (second.balance + later.amount) ∧ 0 ≤ second.balance + later.amount) :
    ∃ receipt draft, draft.Replays tables ∧
      order.Answered receipt ([(.insertTransfer order, ⟨[transfer.toRow], 1⟩),
        (.insertEntry order.fromAccount (-order.amount), ⟨[fromEntry.toRow], 1⟩),
        (.insertEntry order.toAccount order.amount, ⟨[toEntry.toRow], 1⟩)] ++ draft.exchanges) ∧
      (Script.within limit (order.adjust transfer fromEntry toEntry).run).run (Server.surroundings outside)
          (s.working tables sequences) =
        (.ok receipt, s.working (tables.after draft) sequences) := by
  obtain ⟨hexecute, hfind⟩ := execute_addBalance hne hfirst hsecond hbalance ⟨0, s.now⟩
  have hexecute' : (tables.put (.account (first.plus earlier.amount))).execute ⟨0, s.now⟩
        (.addBalance later) =
      .ok (⟨[(second.plus later.amount).toRow], 1⟩, .put (.account (second.plus later.amount))) :=
    (Database.addBalance_eq_ok (List.cons_ne_nil _ _)).mpr ⟨second, hfind, hbalance', rfl, rfl⟩
  have hreplays : Draft.Replays tables
      [⟨.addBalance earlier, _, .put (.account (first.plus earlier.amount))⟩,
        ⟨.addBalance later, _, .put (.account (second.plus later.amount))⟩] :=
    ⟨.inr ⟨_, hexecute⟩, .inr ⟨_, hexecute'⟩, trivial⟩
  rw [adjust, hlock, within_query_of_ok (.addBalance earlier) sequences hexecute (Account.ofRow_toRow _)]
  refine ⟨order.receipt transfer fromEntry toEntry _ _, _, hreplays,
    ⟨_, _, _, _, _, by rw [hlock]; rfl, rfl, rfl, rfl, _, _, rfl, rfl, rfl⟩, ?_⟩
  refine (within_query_of_ok (.addBalance later) sequences hexecute' (Account.ofRow_toRow _)).trans ?_
  rw [pure_receipt]
  rfl

end

section

/-- What a transfer comes to on these tables, case by case: its result, and the tables it leaves. -/
inductive Resolves (order : TransferOrder) (db : Database) :
    Except Failure TransferReceipt → Database → Prop
  | invalid {failure} : order.check = .error failure → Resolves order db (.error failure) db
  | missing : order.check = .ok () →
      db.accounts.find order.fromAccount = none ∨ db.accounts.find order.toAccount = none →
      Resolves order db (.error .notFound) db
  | insufficient {source target} : order.Joins db source target → source.balance < order.amount →
      order.fromAccount < order.toAccount ∨ target.balance + order.amount < 2 ^ 63 →
      Resolves order db (.error .insufficientFunds) db
  | overflow {source target} : order.Joins db source target → 2 ^ 63 ≤ target.balance + order.amount →
      order.toAccount < order.fromAccount ∨ order.amount ≤ source.balance →
      Resolves order db (.error (.storageFailure (.refused .outOfRange))) db
  | completed {source target receipt db'} : order.Joins db source target →
      order.amount ≤ source.balance → target.balance + order.amount < 2 ^ 63 →
      order.Completes receipt db db' → Resolves order db (.ok receipt) db'

theorem writeBalance_debit {source : Account} (hpositive : 0 < order.amount)
    (hamount : IsBigint order.amount) (hsource : 0 ≤ source.balance ∧ source.balance < 2 ^ 63) :
    if order.amount ≤ source.balance then
      IsBigint (source.balance + order.debit.amount) ∧ 0 ≤ source.balance + order.debit.amount
    else
      Database.writeBalance source (source.balance + order.debit.amount) =
        .error (.check "accounts" Failure.balanceConstraint) := by
  have hdebit : order.debit.amount = -order.amount := rfl
  rw [hdebit]
  unfold IsBigint at hamount ⊢
  split
  · omega
  · exact Database.writeBalance_of_negative ⟨by omega, by omega⟩ (by omega)

theorem writeBalance_credit {target : Account} (hpositive : 0 < order.amount)
    (htarget : 0 ≤ target.balance ∧ target.balance < 2 ^ 63) :
    if target.balance + order.amount < 2 ^ 63 then
      IsBigint (target.balance + order.credit.amount) ∧ 0 ≤ target.balance + order.credit.amount
    else
      Database.writeBalance target (target.balance + order.credit.amount) = .error .outOfRange := by
  have hcredit : order.credit.amount = order.amount := rfl
  rw [hcredit]
  split
  · exact ⟨⟨by omega, by omega⟩, by omega⟩
  · exact Database.writeBalance_of_outOfRange fun h => by
      unfold IsBigint at h
      omega

variable (limit : Nat) (outside : (action : Service.Action) → action.Answer)

section
variable {source target : Account}

/-- The accounts are not touched until their balances are changed. -/
theorem Joins.after_bookings (hjoins : order.Joins s.committed source target) :
    order.Joins (s.committed.after (order.bookings s)) source target where
  positive := hjoins.positive
  distinct := hjoins.distinct
  source := hjoins.source
  target := hjoins.target

/-- If one of the changes cannot be made, the script fails with it. -/
theorem script_of_adjust_error (hjoins : order.Joins s.committed source target) (hready : s.Ready)
    {failure : Failure}
    (hadjust : ((Script.within limit
        (order.adjust (order.transferOn s) (order.fromEntryOn s) (order.toEntryOn s)).run).run
      (Server.surroundings outside)
      (s.working (s.committed.after (order.bookings s)) (drawn s))).1 = .error failure) :
    ((Script.within limit order.script.run).run (Server.surroundings outside)
      (s.working s.committed s.sequences)).1 = .error failure := by
  obtain ⟨_, hrun⟩ := run_bookings limit outside hjoins hready
  rw [hrun]
  exact hadjust

/-- If both changes can be made, the whole script is carried out, and the transfer is complete. -/
theorem script_of_adjust_ok (hjoins : order.Joins s.committed source target) (hready : s.Ready)
    {earlier later : BalanceChange} {first second : Account}
    (hlock : order.lockOrder = (earlier, later)) (hchanges : earlier.account ≠ later.account)
    (hfirst : (s.committed.after (order.bookings s)).accounts.find earlier.account = some first)
    (hsecond : (s.committed.after (order.bookings s)).accounts.find later.account = some second)
    (hbalance : IsBigint (first.balance + earlier.amount) ∧ 0 ≤ first.balance + earlier.amount)
    (hbalance' : IsBigint (second.balance + later.amount) ∧ 0 ≤ second.balance + later.amount) :
    ∃ receipt tables, (Script.within limit order.script.run).run (Server.surroundings outside)
        (s.working s.committed s.sequences) = (.ok receipt, s.working tables (drawn s)) ∧
      order.Completes receipt s.committed tables := by
  obtain ⟨hreplays, hrun⟩ := run_bookings limit outside hjoins hready
  obtain ⟨receipt, draft, hreplays', hanswered, hrun'⟩ :=
    adjust_of_ok hlock hchanges hfirst hsecond hbalance hbalance'
  refine ⟨receipt, s.committed.after (order.bookings s ++ draft), ?_, ?_⟩
  · rw [Database.after_append]
    exact hrun.trans hrun'
  · have hwhole : Draft.Replays s.committed (order.bookings s ++ draft) :=
      Draft.replays_append.mpr ⟨hreplays, hreplays'⟩
    exact (moves_of_replays hanswered hwhole).completes hjoins.distinct

/-- A transfer that can be paid and received is carried out, whichever change is made first. -/
theorem script_completes (hjoins : order.Joins s.committed source target)
    (hamount : IsBigint order.amount) (hready : s.Ready) (hfunds : order.amount ≤ source.balance)
    (hroom : target.balance + order.amount < 2 ^ 63) :
    ∃ receipt tables, (Script.within limit order.script.run).run (Server.surroundings outside)
        (s.working s.committed s.sequences) = (.ok receipt, s.working tables (drawn s)) ∧
      order.Completes receipt s.committed tables := by
  have hdebit := writeBalance_debit hjoins.positive hamount (hready.find_balance hjoins.source)
  have hcredit := writeBalance_credit hjoins.positive (hready.find_balance hjoins.target)
  rw [if_pos hfunds] at hdebit
  rw [if_pos hroom] at hcredit
  have ⟨_, hne, hsource, htarget⟩ := hjoins.after_bookings
  by_cases hlt : order.fromAccount < order.toAccount
  · exact script_of_adjust_ok limit outside hjoins hready (if_pos hlt) hne hsource htarget hdebit hcredit
  · exact script_of_adjust_ok limit outside hjoins hready (if_neg hlt) hne.symm htarget hsource
      hcredit hdebit

/-- Without the funds, a transfer fails for this unless the credit has come first and failed. -/
theorem script_of_insufficient (hjoins : order.Joins s.committed source target)
    (hamount : IsBigint order.amount) (hready : s.Ready) (hfunds : source.balance < order.amount)
    (horder : order.fromAccount < order.toAccount ∨ target.balance + order.amount < 2 ^ 63) :
    ((Script.within limit order.script.run).run (Server.surroundings outside)
      (s.working s.committed s.sequences)).1 = .error .insufficientFunds := by
  have hdebit := writeBalance_debit hjoins.positive hamount (hready.find_balance hjoins.source)
  have hcredit := writeBalance_credit hjoins.positive (hready.find_balance hjoins.target)
  rw [if_neg (not_le.mpr hfunds)] at hdebit
  have ⟨_, hne, hsource, htarget⟩ := hjoins.after_bookings
  apply script_of_adjust_error limit outside hjoins hready
  by_cases hlt : order.fromAccount < order.toAccount
  · exact adjust_of_first_refused (if_pos hlt) hsource hdebit
  · rw [if_pos (horder.resolve_left hlt)] at hcredit
    exact adjust_of_second_refused (if_neg hlt) hne.symm htarget hsource hcredit hdebit

theorem script_of_overflow (hjoins : order.Joins s.committed source target)
    (hamount : IsBigint order.amount) (hready : s.Ready)
    (hroom : 2 ^ 63 ≤ target.balance + order.amount)
    (horder : order.toAccount < order.fromAccount ∨ order.amount ≤ source.balance) :
    ((Script.within limit order.script.run).run (Server.surroundings outside)
      (s.working s.committed s.sequences)).1 = .error (.storageFailure (.refused .outOfRange)) := by
  have hdebit := writeBalance_debit hjoins.positive hamount (hready.find_balance hjoins.source)
  have hcredit := writeBalance_credit hjoins.positive (hready.find_balance hjoins.target)
  rw [if_neg (not_lt.mpr hroom)] at hcredit
  have ⟨_, hne, hsource, htarget⟩ := hjoins.after_bookings
  apply script_of_adjust_error limit outside hjoins hready
  by_cases hlt : order.fromAccount < order.toAccount
  · rw [if_pos (horder.resolve_left hlt.not_gt)] at hdebit
    exact adjust_of_second_refused (if_pos hlt) hne hsource htarget hdebit hcredit
  · exact adjust_of_first_refused (if_neg hlt) htarget hcredit

/-- With both accounts there, funds and room decide, in the order in which they are tried. -/
theorem script_resolves (hjoins : order.Joins s.committed source target)
    (hamount : IsBigint order.amount) (hready : s.Ready) :
    (∃ failure, ((Script.within limit order.script.run).run (Server.surroundings outside)
        (s.working s.committed s.sequences)).1 = .error failure ∧
      order.Resolves s.committed (.error failure) s.committed) ∨
    ∃ receipt tables, (Script.within limit order.script.run).run (Server.surroundings outside)
        (s.working s.committed s.sequences) = (.ok receipt, s.working tables (drawn s)) ∧
      order.Resolves s.committed (.ok receipt) tables := by
  have hne := hjoins.distinct
  have insufficient (hfunds : source.balance < order.amount)
      (horder : order.fromAccount < order.toAccount ∨ target.balance + order.amount < 2 ^ 63) :=
    And.intro (script_of_insufficient limit outside hjoins hamount hready hfunds horder)
      (Resolves.insufficient hjoins hfunds horder)
  have overflow (hroom : 2 ^ 63 ≤ target.balance + order.amount)
      (horder : order.toAccount < order.fromAccount ∨ order.amount ≤ source.balance) :=
    And.intro (script_of_overflow limit outside hjoins hamount hready hroom horder)
      (Resolves.overflow hjoins hroom horder)
  by_cases hfunds : order.amount ≤ source.balance
  · by_cases hroom : target.balance + order.amount < 2 ^ 63
    · obtain ⟨receipt, tables, hrun, hcompletes⟩ :=
        script_completes limit outside hjoins hamount hready hfunds hroom
      exact .inr ⟨receipt, tables, hrun, .completed hjoins hfunds hroom hcompletes⟩
    · exact .inl ⟨_, overflow (not_lt.mp hroom) (.inr hfunds)⟩
  · by_cases horder : order.fromAccount < order.toAccount ∨ target.balance + order.amount < 2 ^ 63
    · exact .inl ⟨_, insufficient (not_le.mp hfunds) horder⟩
    · exact .inl ⟨_, overflow (by omega) (.inl (by omega))⟩

end

/-- Without one of its accounts a transfer is not even stored. -/
theorem script_of_missing (hcheck : order.check = .ok ()) (hready : s.Ready)
    (hmissing : s.committed.accounts.find order.fromAccount = none ∨
      s.committed.accounts.find order.toAccount = none) :
    ((Script.within limit order.script.run).run (Server.surroundings outside)
      (s.working s.committed s.sequences)).1 = .error .notFound := by
  obtain ⟨hpositive, _⟩ := check_eq_ok.mp hcheck
  have hrows : s.committed.find (.account order.fromAccount) = none ∨
      s.committed.find (.account order.toAccount) = none :=
    hmissing.imp Option.map_eq_none_iff.mpr Option.map_eq_none_iff.mpr
  have hfree : s.committed.find (.transfer s.sequences.transfers) = none := find_transfer_of_ready hready
  obtain ⟨name, hrefused⟩ := Database.insertTransfer_of_missing s.now hpositive hfree hrows
  rw [script_eq]
  exact within_query_of_error (.createTransfer order) s.sequences hrefused

/-- What a script fails with is what its transaction fails with, and nothing is left of it. -/
theorem atomically_resolves {failure : Failure} (hready : s.Ready)
    (hfailure : ((Script.within limit order.script.run).run (Server.surroundings outside)
      (s.working s.committed s.sequences)).1 = .error failure)
    (hresolves : order.Resolves s.committed (.error failure) s.committed) :
    order.Resolves s.committed ((atomically limit order.script).run (Server.surroundings outside) s).1
        ((atomically limit order.script).run (Server.surroundings outside) s).2.committed ∧
      ((atomically limit order.script).run (Server.surroundings outside) s).2.pending? = none := by
  obtain ⟨hresult, hcommitted, hpending⟩ := Server.run_atomically_of_error hready.idle hfailure
  rw [hresult, hcommitted]
  exact ⟨hresolves, hpending⟩

/-- A transfer resolves, and leaves no transaction open. -/
theorem execute_resolves (hamount : IsBigint order.amount) (hready : s.Ready) :
    order.Resolves s.committed ((order.execute limit).run (Server.surroundings outside) s).1
        ((order.execute limit).run (Server.surroundings outside) s).2.committed ∧
      ((order.execute limit).run (Server.surroundings outside) s).2.pending? = none := by
  cases hcheck : order.check with
  | error failure =>
      rw [execute, hcheck]
      exact ⟨.invalid hcheck, hready.idle⟩
  | ok =>
      have hexecute : order.execute limit = atomically limit order.script := by rw [execute, hcheck]
      rw [hexecute]
      cases hsource : s.committed.accounts.find order.fromAccount with
      | none =>
          have hfailure := script_of_missing limit outside hcheck hready (.inl hsource)
          exact atomically_resolves limit outside hready hfailure (.missing hcheck (.inl hsource))
      | some source =>
          cases htarget : s.committed.accounts.find order.toAccount with
          | none =>
              have hfailure := script_of_missing limit outside hcheck hready (.inr htarget)
              exact atomically_resolves limit outside hready hfailure (.missing hcheck (.inr htarget))
          | some target =>
              obtain ⟨hpositive, hne⟩ := check_eq_ok.mp hcheck
              have hjoins : order.Joins s.committed source target := ⟨hpositive, hne, hsource, htarget⟩
              rcases script_resolves limit outside hjoins hamount hready with
                ⟨failure, hfailure, hresolves⟩ | ⟨receipt, tables, hrun, hresolves⟩
              · exact atomically_resolves limit outside hready hfailure hresolves
              · obtain ⟨hresult, hcommitted, hpending⟩ := Server.run_atomically_of_ok hready.idle hrun
                rw [hresult, hcommitted]
                exact ⟨hresolves, hpending⟩

end

/-- What a transfer is to come to: when it succeeds and when it fails, with what, and what it leaves. -/
structure Meets (order : TransferOrder) (db db' : Database) (result : Except Failure TransferReceipt) :
    Prop where
  succeeds : (∃ receipt, result = .ok receipt) ↔ ∃ source target, order.Joins db source target ∧
    order.amount ≤ source.balance ∧ target.balance + order.amount < 2 ^ 63
  completes : ∀ receipt, result = .ok receipt → order.Completes receipt db db'
  unchanged : ∀ failure, result = .error failure → db' = db
  invalid : (∃ reason, result = .error (.invalidTransfer reason)) ↔
    order.amount ≤ 0 ∨ order.fromAccount = order.toAccount
  missing : result = .error .notFound ↔ (0 < order.amount ∧ order.fromAccount ≠ order.toAccount) ∧
    (db.accounts.find order.fromAccount = none ∨ db.accounts.find order.toAccount = none)
  insufficient : result = .error .insufficientFunds ↔ ∃ source target, order.Joins db source target ∧
    source.balance < order.amount ∧
    (order.fromAccount < order.toAccount ∨ target.balance + order.amount < 2 ^ 63)
  overflow : result = .error (.storageFailure (.refused .outOfRange)) ↔
    ∃ source target, order.Joins db source target ∧ 2 ^ 63 ≤ target.balance + order.amount ∧
      (order.toAccount < order.fromAccount ∨ order.amount ≤ source.balance)
  failures : ∀ failure, result = .error failure → (∃ reason, failure = .invalidTransfer reason) ∨
    failure ∈ [.notFound, .insufficientFunds, .storageFailure (.refused .outOfRange)]

variable {db db' : Database} {source target : Account}

namespace Joins

theorem exists_iff (h : order.Joins db source target) {p : Account → Account → Prop} :
    (∃ source target, order.Joins db source target ∧ p source target) ↔ p source target := by
  constructor
  · rintro ⟨source', target', h', hp⟩
    cases h.source.symm.trans h'.source
    cases h.target.symm.trans h'.target
    exact hp
  · exact fun hp => ⟨source, target, h, hp⟩

theorem not_invalid (h : order.Joins db source target) :
    ¬(order.amount ≤ 0 ∨ order.fromAccount = order.toAccount) := by
  rintro (hamount | heq)
  · exact absurd h.positive (not_lt.mpr hamount)
  · exact h.distinct heq

theorem not_missing (h : order.Joins db source target) :
    ¬(db.accounts.find order.fromAccount = none ∨ db.accounts.find order.toAccount = none) := by
  rw [h.source, h.target]
  rintro (hnone | hnone) <;> cases hnone

theorem not_exists (h : ∀ source target, ¬order.Joins db source target) {p : Account → Account → Prop} :
    ¬∃ source target, order.Joins db source target ∧ p source target :=
  fun ⟨source, target, hjoins, _⟩ => h source target hjoins

end Joins

theorem Resolves.meets {result : Except Failure TransferReceipt} (h : order.Resolves db result db') :
    order.Meets db db' result := by
  cases h with
  | @invalid failure hcheck =>
      obtain ⟨reason, rfl⟩ := check_eq_error hcheck
      have hinvalid : ¬(0 < order.amount ∧ order.fromAccount ≠ order.toAccount) := fun hvalid => by
        rw [check_eq_ok.mpr hvalid] at hcheck
        cases hcheck
      have hapart : ∀ source target, ¬order.Joins db source target := fun source target hjoins =>
        hinvalid ⟨hjoins.positive, hjoins.distinct⟩
      constructor
      case succeeds => exact iff_of_false (by simp) (Joins.not_exists hapart)
      case completes => simp
      case unchanged => exact fun _ _ => rfl
      case invalid => exact iff_of_true ⟨reason, rfl⟩ (by omega)
      case missing => exact iff_of_false (by simp) fun hmissing => hinvalid hmissing.1
      case insufficient => exact iff_of_false (by simp) (Joins.not_exists hapart)
      case overflow => exact iff_of_false (by simp) (Joins.not_exists hapart)
      case failures => exact fun _ heq => .inl ⟨reason, (Except.error.inj heq).symm⟩
  | missing hcheck hmissing =>
      have hvalid := check_eq_ok.mp hcheck
      have hapart : ∀ source target, ¬order.Joins db source target := fun source target hjoins =>
        hjoins.not_missing hmissing
      constructor
      case succeeds => exact iff_of_false (by simp) (Joins.not_exists hapart)
      case completes => simp
      case unchanged => exact fun _ _ => rfl
      case invalid => exact iff_of_false (by simp) (by omega)
      case missing => exact iff_of_true rfl ⟨hvalid, hmissing⟩
      case insufficient => exact iff_of_false (by simp) (Joins.not_exists hapart)
      case overflow => exact iff_of_false (by simp) (Joins.not_exists hapart)
      case failures => simp
  | insufficient hjoins hfunds horder =>
      constructor
      case succeeds => exact iff_of_false (by simp) (by rw [hjoins.exists_iff]; omega)
      case completes => simp
      case unchanged => exact fun _ _ => rfl
      case invalid => exact iff_of_false (by simp) hjoins.not_invalid
      case missing => exact iff_of_false (by simp) fun hmissing => hjoins.not_missing hmissing.2
      case insufficient => exact iff_of_true rfl ⟨_, _, hjoins, hfunds, horder⟩
      case overflow => exact iff_of_false (by simp) (by rw [hjoins.exists_iff]; omega)
      case failures => simp
  | overflow hjoins hroom horder =>
      constructor
      case succeeds => exact iff_of_false (by simp) (by rw [hjoins.exists_iff]; omega)
      case completes => simp
      case unchanged => exact fun _ _ => rfl
      case invalid => exact iff_of_false (by simp) hjoins.not_invalid
      case missing => exact iff_of_false (by simp) fun hmissing => hjoins.not_missing hmissing.2
      case insufficient => exact iff_of_false (by simp) (by rw [hjoins.exists_iff]; omega)
      case overflow => exact iff_of_true rfl ⟨_, _, hjoins, hroom, horder⟩
      case failures => simp
  | completed hjoins hfunds hroom hcompletes =>
      constructor
      case succeeds => exact iff_of_true ⟨_, rfl⟩ ⟨_, _, hjoins, hfunds, hroom⟩
      case completes => exact fun _ heq => Except.ok.inj heq ▸ hcompletes
      case unchanged => simp
      case invalid => exact iff_of_false (by simp) hjoins.not_invalid
      case missing => exact iff_of_false (by simp) fun hmissing => hjoins.not_missing hmissing.2
      case insufficient => exact iff_of_false (by simp) (by rw [hjoins.exists_iff]; omega)
      case overflow => exact iff_of_false (by simp) (by rw [hjoins.exists_iff]; omega)
      case failures => simp

/-- Whatever the order of its account numbers, a transfer comes to what it is to come to. It asks for
nothing at all if and only if its order is not admitted. -/
theorem execute_meets (order : TransferOrder) (limit : Nat)
    (outside : (action : Service.Action) → action.Answer) {s : Server} (hamount : IsBigint order.amount)
    (hready : s.Ready) :
    order.Meets s.committed ((order.execute limit).run (Server.surroundings outside) s).2.committed
        ((order.execute limit).run (Server.surroundings outside) s).1 ∧
      ((order.execute limit).run (Server.surroundings outside) s).2.pending? = none ∧
      ((order.execute limit).history (Server.surroundings outside) s = [] ↔
        order.amount ≤ 0 ∨ order.fromAccount = order.toAccount) := by
  obtain ⟨hresolves, hpending⟩ := execute_resolves limit outside hamount hready
  refine ⟨hresolves.meets, hpending, ?_⟩
  cases hcheck : order.check with
  | error failure =>
      have hinvalid : ¬(0 < order.amount ∧ order.fromAccount ≠ order.toAccount) := fun hvalid => by
        rw [check_eq_ok.mpr hvalid] at hcheck
        cases hcheck
      rw [execute, hcheck]
      exact iff_of_true rfl (by omega)
  | ok =>
      have hvalid := check_eq_ok.mp hcheck
      rw [execute, hcheck]
      exact iff_of_false (List.cons_ne_nil _ _) (by omega)

/-- The accounts of two owners. -/
def twoOwners : Server where
  committed := { accounts := ⟨[⟨1, "ann", 100, "USD", ⟨0⟩⟩, ⟨2, "bob", 50, "USD", ⟨0⟩⟩],
    (by decide : [(1 : Int), 2].Nodup)⟩ }
  sequences := { accounts := 3 }

/-- The account with the larger number pays, and cannot pay more than it holds. -/
theorem execute_meets_twoOwners :
    twoOwners.Ready ∧ IsBigint 50 ∧ IsBigint 51 ∧ ∃ outside,
      (∃ receipt, ((execute 1000 ⟨2, 1, 50⟩).run (Server.surroundings outside) twoOwners).1 =
          .ok receipt ∧
        Completes ⟨2, 1, 50⟩ receipt twoOwners.committed
          ((execute 1000 ⟨2, 1, 50⟩).run (Server.surroundings outside) twoOwners).2.committed) ∧
      ((execute 1000 ⟨2, 1, 51⟩).run (Server.surroundings outside) twoOwners).1 =
        .error .insufficientFunds := by
  have hready : twoOwners.Ready := ⟨rfl, by decide, nofun, nofun⟩
  have hdistinct : (2 : Int) ≠ 1 := by decide
  have hjoins : ∀ amount, 0 < amount → Joins ⟨2, 1, amount⟩ twoOwners.committed
      ⟨2, "bob", 50, "USD", ⟨0⟩⟩ ⟨1, "ann", 100, "USD", ⟨0⟩⟩ := fun amount hpositive =>
    ⟨hpositive, hdistinct, rfl, rfl⟩
  let rehearsal : Rehearsal := {
    queue := { capacity := 1, pending := [], pending_le := Nat.zero_le 1 }
    linkBase := "" }
  let outside (action : Service.Action) : action.Answer := (Rehearsal.surroundings action rehearsal).1
  have hpaid := execute_meets ⟨2, 1, 50⟩ 1000 outside (by decide) hready
  have hrefused := execute_meets ⟨2, 1, 51⟩ 1000 outside (by decide) hready
  obtain ⟨receipt, hreceipt⟩ := hpaid.1.succeeds.mpr ⟨_, _, hjoins 50 (by decide), by decide, by decide⟩
  refine ⟨hready, by decide, by decide, outside, ⟨receipt, hreceipt, ?_⟩, ?_⟩
  · exact hpaid.1.completes receipt hreceipt
  · exact hrefused.1.insufficient.mpr ⟨_, _, hjoins 51 (by decide), by decide, .inr (by decide)⟩

end TransferOrder

end Passbook
