import Passbook.Atomic

/-!
# Moving money

The transaction of a transfer stores the transfer, the entry of either account, and the change of
either balance, the smaller account number first.
-/
namespace Passbook

namespace TransferOrder

/-- The five statements of a transfer. -/
def script (order : TransferOrder) : Script TransferReceipt := do
  let transfer ← Script.query (.createTransfer order)
  let fromEntry ← Script.query (.createEntry order.fromAccount (-order.amount))
  let toEntry ← Script.query (.createEntry order.toAccount order.amount)
  let changes := order.lockOrder
  let first ← Script.query (.addBalance changes.1)
  let second ← Script.query (.addBalance changes.2)
  if first.id = order.fromAccount then
    return { transfer, fromAccount := first, toAccount := second, fromEntry, toEntry }
  else
    return { transfer, fromAccount := second, toAccount := first, fromEntry, toEntry }

/-- Carries an admitted order out in one transaction. Any other order sends nothing. -/
def execute (limit : Nat) (order : TransferOrder) : Service (Except Failure TransferReceipt) :=
  match order.check with
  | .error failure => .done (.error failure)
  | .ok () => atomically limit order.script

end TransferOrder
end Passbook
