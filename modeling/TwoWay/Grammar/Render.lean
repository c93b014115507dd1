import TwoWay.Grammar.Decode
import TwoWay.Grammar.Normalize
import TwoWay.Grammar.Write

/-!
Whole texts: parsing one, and rendering a value to one that parses to it again.
-/

namespace TwoWay.Grammar

variable {shape : Shape}

def parse (grammar : Grammar shape) (text : String) :
    Except (Fault DecodeError) shape.Carrier :=
  match grammar.decode (.start text) with
  | .error fault => .error fault
  | .ok decoded =>
      if decoded.cursor.atEnd then .ok decoded.value
      else
        .error (.error (.trailingInput decoded.cursor.offset decoded.cursor.remainingLength))

/-- Writes a value, and makes sure that the text parses to the value's normal form. -/
def render (grammar : Grammar shape) (content : shape.Carrier) :
    Except (Fault EncodeError) String := do
  let text ← (grammar.encode content).mapError .error
  let expected ← (grammar.normalize content).mapError .error
  match grammar.parse text with
  | .ok decoded =>
      if shape.same decoded expected then .ok text
      else .error (.error (.roundTripMismatch text))
  | .error (.error source) => .error (.error (.roundTrip text source))
  | .error (.overrun overrun) => .error (.overrun overrun)

end TwoWay.Grammar
