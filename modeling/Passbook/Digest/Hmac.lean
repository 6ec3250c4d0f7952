import Passbook.Digest.Sha256

/-!
# Keyed digests

HMAC over SHA-256. The key fills one block of 64 bytes; a longer key is replaced by its digest
first. The message is digested behind the key mixed with one byte, and the result again behind the
key mixed with another.
-/
namespace Passbook.Hmac

def keyBlock (key : List UInt8) : List UInt8 :=
  let short := if key.length ≤ 64 then key else Sha256.digest key
  short ++ List.replicate (64 - short.length) 0

def code (key message : List UInt8) : List UInt8 :=
  let block := keyBlock key
  let inner := Sha256.digest (block.map (· ^^^ 0x36) ++ message)
  Sha256.digest (block.map (· ^^^ 0x5c) ++ inner)

@[simp] theorem length_code (key message : List UInt8) : (code key message).length = 32 := by
  simp [code]

end Passbook.Hmac
