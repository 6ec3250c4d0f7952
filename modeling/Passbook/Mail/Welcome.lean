import Passbook.Mail.Message
import Passbook.Url.Reader
import Passbook.User
import Passbook.Verification

/-!
# The welcome message

After registration a user is mailed a link that confirms the address. The link is a base URL with two
more pairs in its query: the number of the verification record and its code.
-/
namespace Passbook.Mail

def linkPairs (record : Verification) : List (List Char × List Char) := [
  ("email_id".toList, Decimal.ofInt record.id),
  ("secret_code".toList, record.secretCode.toList)]

/-- The link for a record. -/
def link (base : String) (record : Verification) : Except UrlFault (List Char) :=
  (Url.read base.toList).map fun url => (url.withPairs (linkPairs record)).chars

/-- The message about a link. -/
def welcomeContent (fullName : String) (link : List Char) : String :=
  "Hello " ++ fullName ++ ", <br/>Thank you for registering with us! <br/>Please <a href=\"" ++
    String.ofList link ++ "\">click here</a> to verify your email address.<br/>"

/-- The message that is mailed to the address of a record. -/
def welcome (user : User) (record : Verification) (base : String) : Except UrlFault Message :=
  (link base record).map fun link =>
    { subject := "Welcome to Bank Ledger"
      content := welcomeContent user.fullName link
      recipients := [record.email] }

end Passbook.Mail
