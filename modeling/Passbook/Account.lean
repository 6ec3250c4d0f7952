import Passbook.Json.Value
import Passbook.Row

/-!
# Accounts

An account belongs to one user and holds one currency. Its balance is kept in minor units and moves
only with transfers, apart from the opening balance and administrative corrections.
-/
namespace Passbook

structure Account where
  id : Int
  owner : String
  /-- in minor units -/
  balance : Int
  currency : String
  createdAt : Instant
deriving DecidableEq, Repr

namespace Account

def currencies : List String := ["USD", "EUR", "CAD"]

def ofRow (row : Row) : Except StorageFault Account := do
  let id ← row.int "id"
  let owner ← row.text "owner"
  let balance ← row.int "balance"
  let currency ← row.text "currency"
  let createdAt ← row.instant "created_at"
  pure { id, owner, balance, currency, createdAt }

def json (account : Account) : Json.Value :=
  .object [
    ("id", .int account.id),
    ("owner", .ofString account.owner),
    ("balance", .int account.balance),
    ("currency", .ofString account.currency),
    ("created_at", .text account.createdAt.chars)]

end Account
end Passbook
