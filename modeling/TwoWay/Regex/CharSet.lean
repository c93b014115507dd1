import TwoWay.Text.Ranges

/-!
Sets of characters that one step of a regular expression accepts, given by their code points.
-/

namespace TwoWay.Regex

/-- Ranges with their ends, in increasing order and with a gap between any two of them, so that
equal sets have equal ranges. -/
structure CharSet where
  ranges : List (Nat × Nat)
deriving DecidableEq, Repr

namespace CharSet

def contains (chars : CharSet) (c : Char) : Bool :=
  Text.inRanges chars.ranges c

/-- Puts a range among others. It grows to cover all that it meets or touches. -/
def insertRange : Nat × Nat → List (Nat × Nat) → List (Nat × Nat)
  | range, [] => [range]
  | (low, high), (first, last) :: rest =>
      if high + 1 < first then (low, high) :: (first, last) :: rest
      else if last + 1 < low then (first, last) :: insertRange (low, high) rest
      else insertRange (min low first, max high last) rest

def ofRanges (ranges : List (Nat × Nat)) : CharSet :=
  ⟨ranges.foldr insertRange []⟩

def ofChars (chars : List Char) : CharSet :=
  ofRanges (chars.map fun c => (c.toNat, c.toNat))

def single (c : Char) : CharSet :=
  ofChars [c]

def between (low high : Char) : CharSet :=
  ofRanges [(low.toNat, high.toNat)]

def union (first second : CharSet) : CharSet :=
  ⟨first.ranges.foldr insertRange second.ranges⟩

def lastCodePoint : Nat :=
  0x10ffff

/-- The code points from `next` on that lie in none of the ranges. -/
def gapsFrom (next : Nat) : List (Nat × Nat) → List (Nat × Nat)
  | [] => if next ≤ lastCodePoint then [(next, lastCodePoint)] else []
  | (low, high) :: rest =>
      if next < low then (next, low - 1) :: gapsFrom (high + 1) rest else gapsFrom (high + 1) rest

def complement (chars : CharSet) : CharSet :=
  ⟨gapsFrom 0 chars.ranges⟩

/-- Every character but the line feed. -/
def notNewline : CharSet :=
  (single '\n').complement

/-- The letters of the alphabet with what differs from them by case only. Outside ASCII these are
the Kelvin sign, a spelling of `k`, and the long s. -/
def caseClasses : List (List Char) :=
  ("abcdefghijklmnopqrstuvwxyz".toList).map fun letter =>
    if letter = 'k' then ['k', 'K', '\u212a']
    else if letter = 's' then ['s', 'S', '\u017f']
    else [letter, letter.toUpper]

/-- Adds to each letter the letters that differ from it by case only. The case of letters outside
ASCII is not known here, so a set that holds characters from there is refused. -/
def ignoringCase? (chars : CharSet) : Option CharSet :=
  if chars.ranges.all fun range => range.2 < 0x80 then
    some ((caseClasses.filter fun letters => letters.any chars.contains).foldl
      (fun grown letters => grown.union (ofChars letters)) chars)
  else none

end CharSet

end TwoWay.Regex
