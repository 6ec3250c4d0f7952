/-!
# Range tables

A set of characters outside ASCII, given by inclusive ranges of code points in ascending order.
-/
namespace Passbook

abbrev RangeTable := List (Nat × Nat)

namespace RangeTable

/-- Whether a code point lies in one of the ranges. -/
def holds (table : RangeTable) (n : Nat) : Bool :=
  table.any fun (low, high) => low ≤ n && n ≤ high

end RangeTable
end Passbook
