import Passbook.Verification

/-!
# Secret codes

A code is made of letters of both cases and digits, one random choice for each place.
-/
namespace Passbook.SecretCode

/-- The 62 characters of a code: capital letters, small letters, digits. -/
def character (n : Fin 62) : Char :=
  Char.ofNat (if n.val < 26 then 65 + n.val else if n.val < 52 then 71 + n.val else n.val - 4)

/-- The code that follows from the choices for its places. -/
def ofDraws (draws : List (Fin 62)) : String := String.ofList (draws.map character)

end Passbook.SecretCode
