/-!
# Splitting at a mark

A sequence is split at the first occurrence of a mark or at every one. Splitting at every mark gives
one piece more than there are marks; pieces may be empty.
-/
namespace Passbook.Split

variable {α : Type} [DecidableEq α]

/-- The part before the first `mark` and the part behind it; without one, everything is in front. -/
def first (mark : α) : List α → List α × List α
  | [] => ([], [])
  | a :: rest =>
      if a = mark then ([], rest)
      else
        let (front, back) := first mark rest
        (a :: front, back)

/-- The two parts around the first `mark`, if there is one. -/
def first? (mark : α) (s : List α) : Option (List α × List α) :=
  if mark ∈ s then some (first mark s) else none

def all (mark : α) : List α → List (List α)
  | [] => [[]]
  | a :: rest =>
      if a = mark then [] :: all mark rest
      else
        match all mark rest with
        | [] => [[a]]
        | piece :: pieces => (a :: piece) :: pieces

theorem all_ne_nil (mark : α) (s : List α) : all mark s ≠ [] := by
  cases s with
  | nil => simp [all]
  | cons a rest =>
      unfold all
      split
      · simp
      · split <;> simp

end Passbook.Split
