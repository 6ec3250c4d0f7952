import Passbook.Proofs.Concurrency.Session
import Passbook.Proofs.Database.Steady

/-!
# What a transfer does

A transfer that has come to its end was answered five statements. Carried out on the tables they are
one change of the whole: one transfer and two entries are added, and two balances move by the same
amount in opposite directions.
-/
namespace Passbook

/-- An account with another amount on it. -/
def Account.plus (account : Account) (amount : Int) : Account :=
  { account with balance := account.balance + amount }

@[simp] theorem Account.plus_zero (account : Account) : account.plus 0 = account := by simp [plus]

@[simp] theorem Account.plus_plus (account : Account) (a b : Int) :
    (account.plus a).plus b = account.plus (a + b) := by simp [plus, Int.add_assoc]

@[simp] theorem Account.id_plus (account : Account) (amount : Int) :
    (account.plus amount).id = account.id := rfl

def BalanceChange.on (change : BalanceChange) (id : Int) : Int :=
  if id = change.account then change.amount else 0

/-- A change of one balance in a table: the account is there, and its new balance is none below zero. -/
structure BalanceChange.Adjusts (change : BalanceChange) (account : Account)
    (accounts accounts' : Table Account.id) : Prop where
  found : ∃ old, accounts.find change.account = some old ∧ account = old.plus change.amount
  isBigint : IsBigint account.balance
  nonnegative : 0 ≤ account.balance
  put : accounts' = accounts.put account

/-- What a transfer does to the tables as a whole. -/
structure TransferOrder.Moves (order : TransferOrder) (receipt : TransferReceipt) (db db' : Database) :
    Prop where
  positive : 0 < order.amount
  transfer : (receipt.transfer.fromAccount, receipt.transfer.toAccount, receipt.transfer.amount) =
    (order.fromAccount, order.toAccount, order.amount)
  transfers : db'.transfers.rows = db.transfers.rows ++ [receipt.transfer]
  fromEntry : (receipt.fromEntry.accountId, receipt.fromEntry.amount) = (order.fromAccount, -order.amount)
  toEntry : (receipt.toEntry.accountId, receipt.toEntry.amount) = (order.toAccount, order.amount)
  entries : db'.entries.rows = db.entries.rows ++ [receipt.fromEntry, receipt.toEntry]
  accounts : ∃ first second between, order.lockOrder.1.Adjusts first db.accounts between ∧
    order.lockOrder.2.Adjusts second between db'.accounts ∧
    (receipt.fromAccount, receipt.toAccount) =
      if first.id = order.fromAccount then (first, second) else (second, first)
  users : db'.users = db.users
  sessions : db'.sessions = db.sessions
  verifications : db'.verifications = db.verifications

namespace BalanceChange.Adjusts

variable {change : BalanceChange} {account : Account} {accounts accounts' : Table Account.id}

theorem find_id (h : change.Adjusts account accounts accounts') :
    ∃ old, accounts.find account.id = some old ∧ account = old.plus change.amount ∧
      account.id = change.account := by
  obtain ⟨old, hfound, rfl⟩ := h.found
  obtain ⟨_, hid⟩ := Table.find_eq_some.mp hfound
  exact ⟨old, by rw [Account.id_plus, hid]; exact hfound, rfl, hid⟩

theorem rows_eq (h : change.Adjusts account accounts accounts') :
    accounts'.rows = accounts.rows.map fun other => other.plus (change.on other.id) := by
  obtain ⟨old, hfound, rfl⟩ := h.found
  obtain ⟨_, hid⟩ := Table.find_eq_some.mp hfound
  rw [h.put, Table.rows_put_of_find (fun account => account.plus change.amount) hfound hid]
  refine List.map_congr_left fun other _ => ?_
  split
  · next hsame => rw [BalanceChange.on, if_pos hsame]
  · next hne => rw [BalanceChange.on, if_neg hne, Account.plus_zero]

theorem sum_eq (h : change.Adjusts account accounts accounts') :
    (accounts'.rows.map (·.balance)).sum = (accounts.rows.map (·.balance)).sum + change.amount := by
  obtain ⟨old, hold, heq, _⟩ := h.find_id
  rw [h.put, Table.sum_put_of_old hold, heq, Account.plus]
  dsimp only
  omega

theorem nonnegative_of (h : change.Adjusts account accounts accounts')
    (haccounts : ∀ other ∈ accounts.rows, 0 ≤ other.balance) :
    ∀ other ∈ accounts'.rows, 0 ≤ other.balance := by
  obtain ⟨old, hold, _, _⟩ := h.find_id
  rw [h.put, Table.rows_put_of_old hold]
  intro other hother
  obtain ⟨before, hbefore, rfl⟩ := List.mem_map.mp hother
  split
  · exact h.nonnegative
  · exact haccounts before hbefore

end BalanceChange.Adjusts

namespace TransferOrder

open Script (Course Heard exchanges)

theorem lockOrder_cases (order : TransferOrder) :
    order.lockOrder = (order.debit, order.credit) ∨ order.lockOrder = (order.credit, order.debit) := by
  unfold lockOrder
  split
  · exact .inl rfl
  · exact .inr rfl

namespace Moves

variable {order : TransferOrder} {receipt : TransferReceipt} {db db' : Database}

/-- Every account gets what the two changes amount to for it, whichever is made first. -/
theorem accounts_rows (h : order.Moves receipt db db') :
    db'.accounts.rows = db.accounts.rows.map fun account =>
      account.plus (order.debit.on account.id + order.credit.on account.id) := by
  obtain ⟨first, second, between, hfirst, hsecond, _⟩ := h.accounts
  rw [hsecond.rows_eq, hfirst.rows_eq, List.map_map]
  refine List.map_congr_left fun account _ => ?_
  rw [Function.comp_apply, Account.id_plus, Account.plus_plus]
  rcases order.lockOrder_cases with heq | heq
  · rw [heq]
  · rw [heq, Int.add_comm]

theorem total (h : order.Moves receipt db db') :
    (db'.accounts.rows.map (·.balance)).sum = (db.accounts.rows.map (·.balance)).sum := by
  obtain ⟨first, second, between, hfirst, hsecond, _⟩ := h.accounts
  have hnet : order.lockOrder.1.amount + order.lockOrder.2.amount = 0 := by
    rcases order.lockOrder_cases with heq | heq
    · rw [heq]
      exact Int.add_left_neg order.amount
    · rw [heq]
      exact Int.add_right_neg order.amount
  rw [hsecond.sum_eq, hfirst.sum_eq]
  omega

theorem nonnegative (h : order.Moves receipt db db')
    (haccounts : ∀ account ∈ db.accounts.rows, 0 ≤ account.balance) :
    ∀ account ∈ db'.accounts.rows, 0 ≤ account.balance := by
  obtain ⟨first, second, between, hfirst, hsecond, _⟩ := h.accounts
  exact hsecond.nonnegative_of (hfirst.nonnegative_of haccounts)

theorem netOf_eq (h : order.Moves receipt db db') (id : Int) :
    db'.netOf id = db.netOf id + (order.debit.on id + order.credit.on id) := by
  obtain ⟨hfrom, hfromAmount⟩ := Prod.mk.inj h.fromEntry
  obtain ⟨hto, htoAmount⟩ := Prod.mk.inj h.toEntry
  have hone : ∀ (entry : Entry) (change : BalanceChange), entry.accountId = change.account →
      entry.amount = change.amount →
      (([entry].filter fun entry => entry.accountId = id).map (·.amount)).sum = change.on id := by
    intro entry change haccount hamount
    by_cases hid : id = change.account
    · simp [BalanceChange.on, haccount, hamount, hid]
    · simp [BalanceChange.on, haccount, hid, Ne.symm hid]
  have hpair : [receipt.fromEntry, receipt.toEntry] = [receipt.fromEntry] ++ [receipt.toEntry] := rfl
  rw [Database.netOf, h.entries, hpair, List.filter_append, List.filter_append, List.map_append,
    List.map_append, List.sum_append, List.sum_append, hone _ order.debit hfrom hfromAmount,
    hone _ order.credit hto htoAmount, Database.netOf]

end Moves

/-- What was answered to the statements of a transfer that has come to its end. -/
structure Answered (order : TransferOrder) (receipt : TransferReceipt)
    (log : List (Statement × Answer)) : Prop where
  answers : ∃ a₁ a₂ a₃ a₄ a₅, log = [(.insertTransfer order, a₁),
      (.insertEntry order.fromAccount (-order.amount), a₂), (.insertEntry order.toAccount order.amount, a₃),
      (.addBalance order.lockOrder.1, a₄), (.addBalance order.lockOrder.2, a₅)] ∧
    Answer.one Transfer.ofRow a₁ = .ok receipt.transfer ∧
    Answer.one Entry.ofRow a₂ = .ok receipt.fromEntry ∧ Answer.one Entry.ofRow a₃ = .ok receipt.toEntry ∧
    ∃ first second, Answer.one Account.ofRow a₄ = .ok first ∧ Answer.one Account.ofRow a₅ = .ok second ∧
      (receipt.fromAccount, receipt.toAccount) =
        if first.id = order.fromAccount then (first, second) else (second, first)

theorem script_course {order : TransferOrder} {heard : List Heard} {millis : Nat}
    {receipt : TransferReceipt} (h : Course order.script.run heard millis (.done (.ok receipt))) :
    ∃ log, exchanges heard = some log ∧ order.Answered receipt log := by
  obtain ⟨a₁, transfer, _, _, _, hread₁, rfl, h₁⟩ := h.of_query
  obtain ⟨a₂, fromEntry, _, _, _, hread₂, rfl, h₂⟩ := h₁.of_query
  obtain ⟨a₃, toEntry, _, _, _, hread₃, rfl, h₃⟩ := h₂.of_query
  obtain ⟨a₄, first, _, _, _, hread₄, rfl, h₄⟩ := h₃.of_query
  obtain ⟨a₅, second, _, _, _, hread₅, rfl, h₅⟩ := h₄.of_query
  split at h₅
  · next hfirst =>
      obtain ⟨rfl, hreceipt⟩ := h₅.of_done
      cases hreceipt
      exact ⟨_, rfl, a₁, a₂, a₃, a₄, a₅, rfl, hread₁, hread₂, hread₃, first, second, hread₄, hread₅,
        (if_pos hfirst).symm⟩
  · next hfirst =>
      obtain ⟨rfl, hreceipt⟩ := h₅.of_done
      cases hreceipt
      exact ⟨_, rfl, a₁, a₂, a₃, a₄, a₅, rfl, hread₁, hread₂, hread₃, first, second, hread₄, hread₅,
        (if_neg hfirst).symm⟩

theorem check_eq_error {order : TransferOrder} {failure : Failure} (h : order.check = .error failure) :
    ∃ reason, failure = .invalidTransfer reason := by
  unfold check at h
  split at h
  · exact ⟨_, (Except.error.inj h).symm⟩
  · split at h
    · exact ⟨_, (Except.error.inj h).symm⟩
    · cases h

theorem check_eq_ok {order : TransferOrder} :
    order.check = .ok () ↔ 0 < order.amount ∧ order.fromAccount ≠ order.toAccount := by
  unfold check
  split
  · exact iff_of_false nofun fun h => by omega
  · split
    · next heq => exact iff_of_false nofun fun h => h.2 heq
    · next hamount hne => exact iff_of_true rfl ⟨by omega, hne⟩

/-- The script of an order as far as it is carried out at all. -/
def admitted (order : TransferOrder) : Script TransferReceipt :=
  match order.check with
  | .error failure => Script.fail failure
  | .ok () => order.script

theorem admitted_of_ok {order : TransferOrder} (h : order.check = .ok ()) :
    order.admitted = order.script := by
  rw [admitted, h]

theorem admitted_of_error {order : TransferOrder} {failure : Failure} (h : order.check = .error failure) :
    order.admitted = Script.fail failure := by
  rw [admitted, h]

theorem admitted_course {order : TransferOrder} {heard : List Heard} {millis : Nat}
    {receipt : TransferReceipt} (h : Course order.admitted.run heard millis (.done (.ok receipt))) :
    order.check = .ok () ∧ ∃ log, exchanges heard = some log ∧ order.Answered receipt log := by
  cases hcheck : order.check with
  | error failure =>
      rw [admitted_of_error hcheck] at h
      cases h.of_done.2
  | ok =>
      rw [admitted_of_ok hcheck] at h
      exact ⟨rfl, script_course h⟩

theorem admitted_reliable (order : TransferOrder) : order.admitted.Reliable where
  decided := by
    cases hcheck : order.check with
    | error failure =>
        obtain ⟨reason, rfl⟩ := check_eq_error hcheck
        rw [admitted_of_error hcheck]
        exact Script.decided_fail (by simp)
    | ok =>
        rw [admitted_of_ok hcheck]
        exact order.script_decided
  steady := by
    cases hcheck : order.check with
    | error failure =>
        rw [admitted_of_error hcheck]
        exact Script.sends_fail failure
    | ok =>
        rw [admitted_of_ok hcheck]
        refine Script.sends_query (Statement.steady_insertTransfer _) fun transfer => ?_
        refine Script.sends_query (Statement.steady_insertEntry _ _) fun fromEntry => ?_
        refine Script.sends_query (Statement.steady_insertEntry _ _) fun toEntry => ?_
        refine Script.sends_query (Statement.steady_addBalance _) fun first => ?_
        refine Script.sends_query (Statement.steady_addBalance _) fun second => ?_
        split <;> exact Script.sends_pure _
  answered h := by
    obtain ⟨_, log, hlog, _⟩ := admitted_course h
    exact ⟨log, hlog⟩

theorem execute_accounted (limit : Nat) (order : TransferOrder) :
    (order.execute limit).Keeps (AskedInOrder order.admitted) (Accounted order.admitted) [] := by
  cases hcheck : order.check with
  | error failure =>
      obtain ⟨reason, rfl⟩ := check_eq_error hcheck
      rw [execute, hcheck]
      exact (Program.keeps_done _).mpr ⟨.inr ⟨nofun, rfl⟩, fun value h => by cases h⟩
  | ok =>
      have hadmitted := admitted_of_ok hcheck
      rw [execute, hcheck]
      rw [← hadmitted]
      exact atomically_accounted limit order.admitted_reliable

open Database (insertTransfer_eq_ok insertEntry_eq_ok addBalance_eq_ok)

theorem adjusts_of_execute {db : Database} {stamp : Stamp} {change : BalanceChange} {answer : Answer}
    {effect : Effect} {account : Account}
    (h : db.execute stamp (.addBalance change) = .ok (answer, effect))
    (hread : Answer.one Account.ofRow answer = .ok account) :
    change.Adjusts account db.accounts (effect.apply db).accounts ∧ effect = .put (.account account) := by
  obtain ⟨old, hfound, ⟨hbigint, hnonnegative⟩, rfl, rfl⟩ :=
    (addBalance_eq_ok (Answer.rows_ne_nil hread)).mp h
  cases (Account.ofRow_toRow _).symm.trans hread
  exact ⟨⟨⟨old, hfound, rfl⟩, hbigint, hnonnegative, rfl⟩, rfl⟩

theorem moves_of_replays {order : TransferOrder} {receipt : TransferReceipt} {draft : Draft} {db : Database}
    (h : order.Answered receipt draft.exchanges) (hreplays : draft.Replays db) :
    order.Moves receipt db (db.after draft) := by
  obtain ⟨a₁, a₂, a₃, a₄, a₅, hlog, hread₁, hread₂, hread₃, first, second, hread₄, hread₅, haccounts⟩ := h
  obtain ⟨_, _, _, h₁, rfl, hlog, hreplays⟩ := hreplays.uncons hlog (Answer.rows_ne_nil hread₁)
  obtain ⟨_, _, _, h₂, rfl, hlog, hreplays⟩ := hreplays.uncons hlog (Answer.rows_ne_nil hread₂)
  obtain ⟨_, _, _, h₃, rfl, hlog, hreplays⟩ := hreplays.uncons hlog (Answer.rows_ne_nil hread₃)
  obtain ⟨_, _, _, h₄, rfl, hlog, hreplays⟩ := hreplays.uncons hlog (Answer.rows_ne_nil hread₄)
  obtain ⟨_, _, _, h₅, rfl, hlog, _⟩ := hreplays.uncons hlog (Answer.rows_ne_nil hread₅)
  obtain rfl := Draft.eq_nil_of_exchanges hlog
  obtain ⟨hpositive, hfree₁, _, _, rfl, rfl⟩ := insertTransfer_eq_ok.mp h₁
  obtain ⟨hfree₂, _, rfl, rfl⟩ := insertEntry_eq_ok.mp h₂
  obtain ⟨hfree₃, _, rfl, rfl⟩ := insertEntry_eq_ok.mp h₃
  obtain ⟨hadjusts₄, rfl⟩ := adjusts_of_execute h₄ hread₄
  obtain ⟨hadjusts₅, rfl⟩ := adjusts_of_execute h₅ hread₅
  have htransfer := Except.ok.inj ((Transfer.ofRow_toRow _).symm.trans hread₁)
  have hfromEntry := Except.ok.inj ((Entry.ofRow_toRow _).symm.trans hread₂)
  have htoEntry := Except.ok.inj ((Entry.ofRow_toRow _).symm.trans hread₃)
  constructor
  case positive => exact hpositive
  case transfer => rw [← htransfer]
  case transfers =>
    rw [← htransfer]
    exact Table.rows_put_of_new (Option.map_eq_none_iff.mp hfree₁)
  case fromEntry => rw [← hfromEntry]
  case toEntry => rw [← htoEntry]
  case entries =>
    have hnew₂ : db.entries.find receipt.fromEntry.id = none := by
      rw [← hfromEntry]
      exact Option.map_eq_none_iff.mp hfree₂
    have hnew₃ : (db.entries.put receipt.fromEntry).find receipt.toEntry.id = none := by
      rw [← hfromEntry, ← htoEntry]
      exact Option.map_eq_none_iff.mp hfree₃
    have hentries : ((db.entries.put receipt.fromEntry).put receipt.toEntry).rows =
        db.entries.rows ++ [receipt.fromEntry, receipt.toEntry] := by
      rw [Table.rows_put_of_new hnew₃, Table.rows_put_of_new hnew₂, List.append_assoc]
      rfl
    rw [← hentries, ← hfromEntry, ← htoEntry]
    rfl
  case accounts => exact ⟨first, second, _, hadjusts₄, hadjusts₅, haccounts⟩
  case users => rfl
  case sessions => rfl
  case verifications => rfl

end TransferOrder

end Passbook
