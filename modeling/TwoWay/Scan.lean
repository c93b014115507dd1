import TwoWay.Text.Bytes

/-!
Scanning functions, for patterns that are not regular expressions. Each gets the text that is left
and tells how many of its bytes it takes. An answer need not fit the text: a pattern drops those
that run past its end or fall inside a character.
-/

namespace TwoWay

namespace Scan

def digits (text : List Char) : Option Nat :=
  match text.takeWhile Char.isDigit with
  | [] => none
  | run => some (Text.byteLength run)

def rest (text : List Char) : Option Nat :=
  some (Text.byteLength text)

def never (_ : List Char) : Option Nat :=
  none

def bytes (count : Nat) (_ : List Char) : Option Nat :=
  some count

/-- All that comes before the first occurrence of a word. -/
def upTo (word : String) (text : List Char) : Option Nat :=
  Text.indexOf? word.toList text

end Scan

end TwoWay
