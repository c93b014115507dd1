import TwoWay.Text.Ranges

/-!
Characters that are white space and nothing else.
-/

namespace TwoWay.Text

/-- Code points of white space, in increasing order. -/
def blankRanges : List (Nat × Nat) :=
  [(0x9, 0xd), (0x20, 0x20), (0x85, 0x85), (0xa0, 0xa0), (0x1680, 0x1680), (0x2000, 0x200a),
   (0x2028, 0x2029), (0x202f, 0x202f), (0x205f, 0x205f), (0x3000, 0x3000)]

example : rangesIncrease 0 blankRanges = true := by
  decide

def isBlank (c : Char) : Bool :=
  inRanges blankRanges c

end TwoWay.Text
