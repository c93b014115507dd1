import TwoWay.Conversion
import TwoWay.Outcome
import TwoWay.Pattern

/-!
Terminals recognise a piece of text by a pattern and convert it to a value. They are the only
grammars that look at the text themselves.
-/

namespace TwoWay

/-- The label replaces the pattern in messages. The canonical text is written where there is no
value to write. -/
structure Terminal (α : Type) where
  pattern : Pattern
  conversion : Conversion α
  label : Option String := none
  canonical : Option String := none

namespace Terminal

variable {α : Type}

def describe (terminal : Terminal α) : String :=
  terminal.label.getD terminal.pattern.describe

def inspectOption : Option String → String
  | none => "None"
  | some text => "Some(" ++ Text.quoted text ++ ")"

def inspect (terminal : Terminal α) : String :=
  "Terminal \x7b pattern: " ++ Text.quoted terminal.pattern.describe ++
    ", label: " ++ inspectOption terminal.label ++
    ", canonical: " ++ inspectOption terminal.canonical ++ ", .. \x7d"

/-- Moves behind the text that the pattern matches, looks back at it and reads it. -/
def decode (terminal : Terminal α) (cursor : Cursor) : Outcome α :=
  match terminal.pattern.matchAt cursor with
  | none => .fail (.patternMismatch cursor.offset terminal.describe)
  | some count =>
      match cursor.advance count with
      | .error overrun => .error (.overrun overrun)
      | .ok next =>
          match next.consumedSince? cursor with
          | none => .error (.overrun .lookBack)
          | some text =>
              match terminal.conversion.read text with
              | .ok value => .ok ⟨value, next⟩
              | .error message => .fail (.conversion cursor.offset text message)

/-- A match is read whole, and the cursor moves behind it. -/
theorem decode_of_matchAt {terminal : Terminal α} {cursor : Cursor} {front back : List Char}
    (hafter : cursor.after = front ++ back)
    (hmatch : terminal.pattern.matchAt cursor = some (Text.byteLength front)) :
    terminal.decode cursor =
      match terminal.conversion.read (String.ofList front) with
      | .ok value => .ok ⟨value, cursor.pass front back⟩
      | .error message => .fail (.conversion cursor.offset (String.ofList front) message) := by
  simp only [decode, hmatch, Cursor.advance_byteLength hafter, Cursor.consumedSince?_pass]

def regex (source : String) (conversion : Conversion α) : Except GrammarError (Terminal α) := do
  let pattern ← Pattern.anchored source
  return { pattern, conversion }

def token (source : String) : Except GrammarError (Terminal String) :=
  regex source .text

end Terminal

end TwoWay
