import Passbook.Field
import Passbook.Store.Statement

/-!
# Pages of accounts

A list of accounts is shown page by page. Page `n` of size `s` leaves out the first `(n - 1) * s`
accounts; that product has to be a number the database can take.
-/
namespace Passbook

structure AccountPage where
  owner : String
  number : Int
  size : Int
deriving DecidableEq, Repr

namespace AccountPage

/-- The section of the ordered list that the page shows. -/
def window (page : AccountPage) : Except FieldFault Window :=
  let skippedPages := page.number - 1
  let offset := skippedPages * page.size
  if IntegerRange.signed64.holds skippedPages && IntegerRange.signed64.holds offset then
    .ok { limit := page.size, offset := offset }
  else .error (.pageOutOfRange page.number)

end AccountPage
end Passbook
