/-!
Classes of characters given as lists of code point ranges.
-/

namespace TwoWay.Text

/-- Some range of the table, ends included, holds the character's code point. -/
def inRanges (table : List (Nat × Nat)) (c : Char) : Bool :=
  table.any fun range => range.1 ≤ c.toNat && c.toNat ≤ range.2

/-- The ranges of a table do not meet and come in increasing order, from `least` on. -/
def rangesIncrease : Nat → List (Nat × Nat) → Bool
  | _, [] => true
  | least, (low, high) :: rest => least ≤ low && low ≤ high && rangesIncrease (high + 2) rest

end TwoWay.Text
