import Passbook.Json.Value
import Passbook.Row

/-!
# Ledger entries

An entry records what one account gained or lost. Entries are only ever added: each transfer writes
two of them, a negative one for the account that pays and a positive one for the account that is
paid.
-/
namespace Passbook

structure Entry where
  id : Int
  accountId : Int
  /-- negative for money that leaves the account -/
  amount : Int
  createdAt : Instant
deriving DecidableEq, Repr

namespace Entry

def ofRow (row : Row) : Except StorageFault Entry := do
  let id ← row.int "id"
  let accountId ← row.int "account_id"
  let amount ← row.int "amount"
  let createdAt ← row.instant "created_at"
  pure { id, accountId, amount, createdAt }

def json (entry : Entry) : Json.Value :=
  .object [
    ("id", .int entry.id),
    ("account_id", .int entry.accountId),
    ("amount", .int entry.amount),
    ("created_at", .text entry.createdAt.chars)]

end Entry
end Passbook
