import Passbook.Proofs.Transaction.MoveMoney

/-!
# What is kept in one currency

The accounts that hold one currency have a total of their own. A new account adds its opening balance to
the total of its currency. A transfer between two accounts of the same currency leaves every total as it
is; between accounts of different currencies it would not.

Neither changes which accounts there are, whose they are and what they hold: this is never written again
after an account was stored.
-/
namespace Passbook

structure Account.Title where
  id : Int
  owner : String
  currency : String
deriving DecidableEq, Repr

def Account.title (account : Account) : Account.Title := ⟨account.id, account.owner, account.currency⟩

@[simp] theorem Account.title_plus (account : Account) (amount : Int) :
    (account.plus amount).title = account.title := rfl

def totalIn (currency : String) (accounts : List Account) : Int :=
  ((accounts.filter fun account => account.currency = currency).map (·.balance)).sum

theorem totalIn_append (currency : String) (accounts accounts' : List Account) :
    totalIn currency (accounts ++ accounts') = totalIn currency accounts + totalIn currency accounts' := by
  rw [totalIn, List.filter_append, List.map_append, List.sum_append, totalIn, totalIn]

theorem totalIn_eq_sum (currency : String) (accounts : List Account) :
    totalIn currency accounts =
      (accounts.map fun account => if account.currency = currency then account.balance else 0).sum := by
  induction accounts with
  | nil => rfl
  | cons account rest ih =>
      rw [List.map_cons, List.sum_cons, ← ih]
      by_cases h : account.currency = currency
      · simp [totalIn, h]
      · simp [totalIn, h]

namespace Database

def titles (db : Database) : List Account.Title := db.accounts.rows.map Account.title

/-- What becomes of the tables if accounts are opened: they come behind the others with their opening
balances, and otherwise each currency keeps its total and each account its title. -/
structure Opens (opened : List Account) (db db' : Database) : Prop where
  totals : ∀ currency, totalIn currency db'.accounts.rows =
    totalIn currency db.accounts.rows + totalIn currency opened
  titles : db'.titles = db.titles ++ opened.map Account.title

theorem Opens.of_same {db db' : Database} (h : db'.accounts = db.accounts) : Opens [] db db' where
  totals currency := by rw [h, totalIn, totalIn, List.filter_nil, List.map_nil, List.sum_nil, Int.add_zero]
  titles := by rw [Database.titles, h, List.map_nil, List.append_nil, Database.titles]

theorem Opens.trans {opened opened' : List Account} {db db' db'' : Database} (h : Opens opened db db')
    (h' : Opens opened' db' db'') : Opens (opened ++ opened') db db'' where
  totals currency := by rw [h'.totals, h.totals, totalIn_append, Int.add_assoc]
  titles := by rw [h'.titles, h.titles, List.map_append, List.append_assoc]

theorem Opens.mem_titles {opened : List Account} {db db' : Database} (h : Opens opened db db')
    {title : Account.Title} (htitle : title ∈ db.titles) : title ∈ db'.titles := by
  rw [h.titles]
  exact List.mem_append_left _ htitle

variable {db : Database} {stamp : Stamp} {answer : Answer} {effect : Effect}

theorem execute_insertAccount {owner currency : String} {balance : Int}
    (h : db.execute stamp (.insertAccount owner balance currency) = .ok (answer, effect)) :
    ∃ account : Account, db.accounts.find account.id = none ∧ effect = .put (.account account) ∧
      (account.owner, account.balance, account.currency) = (owner, balance, currency) := by
  simp only [execute, insertAccount] at h
  split at h
  · cases h
  · obtain ⟨hfree, _, _, rfl⟩ := insert_eq_ok.mp h
    exact ⟨_, Option.map_eq_none_iff.mp hfree, rfl, rfl⟩

theorem opens_put {account : Account} (hfree : db.accounts.find account.id = none) :
    Opens [account] db (db.put (.account account)) where
  totals currency := by
    rw [← totalIn_append, ← Table.rows_put_of_new hfree]
    rfl
  titles := by
    have hrows : (db.put (.account account)).accounts.rows = db.accounts.rows ++ [account] :=
      Table.rows_put_of_new hfree
    rw [titles, hrows, List.map_append, titles]

/-- A look at an account changes nothing, and what it shows is there. -/
theorem execute_selectAccount {id : Int}
    (h : db.execute stamp (.selectAccount id) = .ok (answer, effect)) :
    effect = .none ∧ ∀ account, Answer.one Account.ofRow answer = .ok account →
      db.accounts.find id = some account := by
  simp only [execute, readsOne, reads, Except.ok.injEq, Prod.mk.injEq] at h
  obtain ⟨rfl, rfl⟩ := h
  refine ⟨rfl, fun account hread => ?_⟩
  cases hfind : db.accounts.find id with
  | none =>
      rw [hfind] at hread
      cases hread
  | some stored =>
      rw [hfind] at hread
      cases (Account.ofRow_toRow stored).symm.trans hread
      rfl

end Database

namespace BalanceChange.Adjusts

variable {change : BalanceChange} {account : Account} {accounts accounts' : Table Account.id}

theorem titles (h : change.Adjusts account accounts accounts') :
    accounts'.rows.map Account.title = accounts.rows.map Account.title := by
  rw [h.rows_eq, List.map_map]
  exact List.map_congr_left fun other _ => Account.title_plus other _

theorem totalIn_eq (h : change.Adjusts account accounts accounts') {title : Account.Title}
    (htitle : title ∈ accounts.rows.map Account.title) (hid : title.id = change.account)
    (currency : String) :
    totalIn currency accounts'.rows = totalIn currency accounts.rows +
      if title.currency = currency then change.amount else 0 := by
  obtain ⟨old, hold, rfl, hchange⟩ := h.find_id
  obtain ⟨row, hrow, rfl⟩ := List.mem_map.mp htitle
  have hsame : row = old := by
    have hfind : accounts.find row.id = some row := Table.find_of_mem hrow
    have hids : row.id = (old.plus change.amount).id := hid.trans hchange.symm
    rw [hids, hold] at hfind
    exact (Option.some.inj hfind).symm
  subst hsame
  rw [totalIn_eq_sum, totalIn_eq_sum, h.put, Table.sum_put_of_old hold]
  have hcurrency : row.title.currency = row.currency := rfl
  have hplus : (row.plus change.amount).currency = row.currency := rfl
  have hbalance : (row.plus change.amount).balance = row.balance + change.amount := rfl
  rw [hcurrency, hplus, hbalance]
  split <;> omega

end BalanceChange.Adjusts

theorem TransferOrder.Moves.opens {order : TransferOrder} {receipt : TransferReceipt} {db db' : Database}
    (h : order.Moves receipt db db') {source target : Account.Title} (hsource : source ∈ db.titles)
    (htarget : target ∈ db.titles) (hfrom : source.id = order.fromAccount)
    (hto : target.id = order.toAccount) (hcurrency : source.currency = target.currency) :
    Database.Opens [] db db' := by
  obtain ⟨first, second, between, hfirst, hsecond, _⟩ := h.accounts
  have htitles : between.rows.map Account.title = db.titles := hfirst.titles
  constructor
  case titles =>
    rw [List.map_nil, List.append_nil]
    exact hsecond.titles.trans htitles
  case totals =>
    intro currency
    have hnothing : totalIn currency [] = 0 := rfl
    have hdebit : order.debit.amount = -order.amount := rfl
    have hcredit : order.credit.amount = order.amount := rfl
    rw [hnothing, Int.add_zero]
    rcases order.lockOrder_cases with heq | heq
    · rw [heq] at hfirst hsecond
      rw [hsecond.totalIn_eq (htitles ▸ htarget) hto, hfirst.totalIn_eq hsource hfrom, hcurrency,
        hdebit, hcredit]
      split <;> omega
    · rw [heq] at hfirst hsecond
      rw [hsecond.totalIn_eq (htitles ▸ hsource) hfrom, hfirst.totalIn_eq htarget hto, hcurrency,
        hdebit, hcredit]
      split <;> omega

end Passbook
