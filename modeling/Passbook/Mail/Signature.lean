import Passbook.Digest.Hmac
import Passbook.Text.Hex
import Passbook.Text.Utf8

/-!
# Signatures

The relay recognises a request by a keyed digest of its body, in lower-case hexadecimal digits.
-/
namespace Passbook.Mail

def signature (secret payload : String) : String :=
  "sha256=" ++ String.ofList (Hex.encode (Hmac.code (Utf8.encode secret.toList)
    (Utf8.encode payload.toList)))

end Passbook.Mail
