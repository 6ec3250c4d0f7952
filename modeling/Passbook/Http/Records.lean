import Passbook.Page
import Passbook.Record.Shape
import Passbook.Transaction.ConfirmEmail

/-!
# What operations are given

The records that clients send, and the rules that their fields have to keep. The first rule that is
broken is the one that is reported.
-/
namespace Passbook

structure AccountOpening where
  owner : String
  currency : String
  /-- in minor units -/
  balance : Int
deriving DecidableEq, Repr

namespace AccountOpening

/-- The opening balance is zero if it is not given. -/
def shape : RecordShape AccountOpening where
  name := "CreateAccountRequest"
  members := [⟨"owner", .text, false⟩, ⟨"currency", .text, false⟩, ⟨"initial_balance", .int, true⟩]
  build found := do
    let owner ← found.text "owner"
    let currency ← found.text "currency"
    return { owner, currency, balance := found.intD "initial_balance" 0 }

def check (opening : AccountOpening) : Except FieldFault Unit := do
  Field.currency opening.currency
  Field.openingBalance opening.balance

end AccountOpening

structure Registration where
  username : String
  password : String
  fullName : String
  email : String
deriving DecidableEq, Repr

namespace Registration

def shape : RecordShape Registration where
  name := "CreateUserRequest"
  members := [⟨"username", .text, false⟩, ⟨"password", .text, false⟩, ⟨"full_name", .text, false⟩,
    ⟨"email", .text, false⟩]
  build found := do
    let username ← found.text "username"
    let password ← found.text "password"
    let fullName ← found.text "full_name"
    let email ← found.text "email"
    return { username, password, fullName, email }

def check (registration : Registration) : Except FieldFault Unit := do
  Field.username registration.username
  Field.password registration.password
  Field.fullName registration.fullName
  Field.email registration.email

/-- The user to be stored, with the digest of the password. -/
def user (registration : Registration) (digest : String) : NewUser :=
  { username := registration.username
    passwordDigest := digest
    fullName := registration.fullName
    email := registration.email }

end Registration

/-- A request to move money in a currency that both accounts hold. -/
structure Payment where
  order : TransferOrder
  currency : String
deriving DecidableEq, Repr

namespace Payment

def shape : RecordShape Payment where
  name := "TransferRequest"
  members := [⟨"from_account_id", .int, false⟩, ⟨"to_account_id", .int, false⟩,
    ⟨"amount", .int, false⟩, ⟨"currency", .text, false⟩]
  build found := do
    let fromAccount ← found.int "from_account_id"
    let toAccount ← found.int "to_account_id"
    let amount ← found.int "amount"
    let currency ← found.text "currency"
    return { order := { fromAccount, toAccount, amount }, currency }

end Payment

namespace AccountPage

def shape : RecordShape AccountPage where
  name := "ListAccountsQuery"
  members := [⟨"owner", .text, false⟩, ⟨"page_id", .int, false⟩, ⟨"page_size", .int, false⟩]
  build found := do
    let owner ← found.text "owner"
    let number ← found.int "page_id"
    let size ← found.int "page_size"
    return { owner, number, size }

/-- The section that an admitted page shows. -/
def checkedWindow (page : AccountPage) : Except FieldFault Window := do
  Field.page page.number page.size
  page.window

end AccountPage

namespace Confirmation

def shape : RecordShape Confirmation where
  name := "VerifyEmailQuery"
  members := [⟨"email_id", .int, false⟩, ⟨"secret_code", .text, false⟩]
  build found := do
    let recordId ← found.int "email_id"
    let secretCode ← found.text "secret_code"
    return { recordId, secretCode }

def check (confirmation : Confirmation) : Except FieldFault Unit := do
  Field.recordId confirmation.recordId
  Field.secretCode confirmation.secretCode

end Confirmation
end Passbook
