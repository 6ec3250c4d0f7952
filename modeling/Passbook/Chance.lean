/-!
# Chance

A source of numbers that look random, for salts and codes in rehearsals. The state advances by a
fixed odd step, and each number is the state with its bits stirred, so no state repeats before all
have been seen.
-/
namespace Passbook

structure Chance where
  state : UInt64
deriving DecidableEq, Repr, Inhabited

namespace Chance

def next (chance : Chance) : UInt64 × Chance :=
  let state := chance.state + 0x9e3779b97f4a7c15
  let z := (state ^^^ (state >>> 30)) * 0xbf58476d1ce4e5b9
  let z := (z ^^^ (z >>> 27)) * 0x94d049bb133111eb
  (z ^^^ (z >>> 31), ⟨state⟩)

/-- Draws `count` values, each made from one number. -/
def draw {α : Type} (make : UInt64 → α) : Nat → Chance → List α × Chance
  | 0, chance => ([], chance)
  | count + 1, chance =>
      let (n, chance) := chance.next
      let (rest, chance) := draw make count chance
      (make n :: rest, chance)

theorem length_draw {α : Type} (make : UInt64 → α) (count : Nat) (chance : Chance) :
    (draw make count chance).1.length = count := by
  induction count generalizing chance with
  | zero => rfl
  | succ count ih => exact congrArg (· + 1) (ih _)

def bytes (count : Nat) (chance : Chance) : List UInt8 × Chance :=
  draw UInt64.toUInt8 count chance

/-- Choices among 62 characters. -/
def codeDraws (count : Nat) (chance : Chance) : List (Fin 62) × Chance :=
  draw (fun n => Fin.ofNat 62 n.toNat) count chance

end Chance
end Passbook
