import Passbook.Atomic

/-!
# Registration

A user is stored and handed to the step that follows, in one transaction: if that step refuses, there
is no such user.
-/
namespace Passbook.NewUser

def script (user : NewUser) (hook : Hook) : Script User := do
  let stored ← Script.query (.createUser user)
  Script.announce hook stored
  return stored

def register (limit : Nat) (user : NewUser) (hook : Hook) : Service (Except Failure User) :=
  atomically limit (user.script hook)

end Passbook.NewUser
