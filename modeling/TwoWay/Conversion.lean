import TwoWay.Text.Numeral

/-!
Conversions between matched text and values. Nothing makes the two directions agree: that is left
to rendering, which reads back what it has written. Some conversions here are one-sided on
purpose, so that there is something for that check to find.
-/

namespace TwoWay

/-- A reading of texts as values, which may fail with a message, and a printing of values. -/
structure Conversion (α : Type) where
  read : String → Except String α
  print : α → String

namespace Conversion

def text : Conversion String :=
  ⟨.ok, id⟩

/-- Capitals as values, small letters in the text. Only ASCII letters change. -/
def upper : Conversion String :=
  ⟨fun text => .ok (text.map Char.toUpper), fun text => text.map Char.toLower⟩

def reject : Conversion String :=
  ⟨fun text => .error ("rejected " ++ text), id⟩

def readInteger (text : String) : Except String Int64 :=
  (Text.readInt64 text).mapError Text.NumeralError.message

def integer : Conversion Int64 :=
  ⟨readInteger, fun n => Text.numeral n.toInt⟩

def zero : Conversion Int64 :=
  ⟨readInteger, fun _ => "0"⟩

/-- Integers are written behind a hash sign that reading does not know. -/
def hash : Conversion Int64 :=
  ⟨readInteger, fun n => "#" ++ Text.numeral n.toInt⟩

def bigInteger : Conversion Int :=
  ⟨fun text => (Text.readInteger text).mapError Text.NumeralError.message, Text.numeral⟩

end Conversion

end TwoWay
