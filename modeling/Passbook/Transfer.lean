import Passbook.Account
import Passbook.Entry

/-!
# Transfers

A transfer moves an amount from one account to another. An order is admitted if its amount is
positive and its accounts differ. The two balances are changed in ascending order of the account
numbers, whichever of them pays, so that transfers in opposite directions wait for each other in the
same order.
-/
namespace Passbook

structure Transfer where
  id : Int
  fromAccount : Int
  toAccount : Int
  amount : Int
  createdAt : Instant
deriving DecidableEq, Repr

namespace Transfer

def ofRow (row : Row) : Except StorageFault Transfer := do
  let id ← row.int "id"
  let fromAccount ← row.int "from_account_id"
  let toAccount ← row.int "to_account_id"
  let amount ← row.int "amount"
  let createdAt ← row.instant "created_at"
  pure { id, fromAccount, toAccount, amount, createdAt }

def json (transfer : Transfer) : Json.Value :=
  .object [
    ("id", .int transfer.id),
    ("from_account_id", .int transfer.fromAccount),
    ("to_account_id", .int transfer.toAccount),
    ("amount", .int transfer.amount),
    ("created_at", .text transfer.createdAt.chars)]

end Transfer

/-- What is asked of the ledger when money is to be moved. -/
structure TransferOrder where
  fromAccount : Int
  toAccount : Int
  amount : Int
deriving DecidableEq, Repr

/-- A change of one balance by a signed amount. -/
structure BalanceChange where
  account : Int
  amount : Int
deriving DecidableEq, Repr

namespace TransferOrder

/-- Admits an order before any statement is sent. -/
def check (order : TransferOrder) : Except Failure Unit :=
  if order.amount ≤ 0 then .error (.invalidTransfer "amount must be positive")
  else if order.fromAccount = order.toAccount then
    .error (.invalidTransfer "cannot transfer to the same account")
  else .ok ()

def debit (order : TransferOrder) : BalanceChange := ⟨order.fromAccount, -order.amount⟩

def credit (order : TransferOrder) : BalanceChange := ⟨order.toAccount, order.amount⟩

/-- The two changes, the smaller account number first. -/
def lockOrder (order : TransferOrder) : BalanceChange × BalanceChange :=
  if order.fromAccount < order.toAccount then (order.debit, order.credit)
  else (order.credit, order.debit)

end TransferOrder

structure TransferReceipt where
  transfer : Transfer
  fromAccount : Account
  toAccount : Account
  fromEntry : Entry
  toEntry : Entry
deriving DecidableEq, Repr

def TransferReceipt.json (receipt : TransferReceipt) : Json.Value :=
  .object [
    ("transfer", receipt.transfer.json),
    ("from_account", receipt.fromAccount.json),
    ("to_account", receipt.toAccount.json),
    ("from_entry", receipt.fromEntry.json),
    ("to_entry", receipt.toEntry.json)]

end Passbook
