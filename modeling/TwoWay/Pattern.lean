import TwoWay.Cursor
import TwoWay.Error
import TwoWay.Regex.Match
import TwoWay.Regex.Syntax

/-!
Patterns answer one question: how many bytes of a text, from a given offset on, belong together.
-/

namespace TwoWay

/-- A regular expression sees the text from the offset on, and so does a scanning function, whose
answer is dropped when it does not end between characters of that text. A custom measure sees the
whole text, and its answer stands. -/
inductive Pattern
  | regex (source : String) (program : Regex.Program)
  | scan (label : String) (measure : List Char → Option Nat)
  | custom (label : String) (measure : String → Nat → Option Nat)

namespace Pattern

def describe : Pattern → String
  | .regex source _ => "/" ++ source ++ "/"
  | .scan label _ => label
  | .custom label _ => label

def matchAt (pattern : Pattern) (cursor : Cursor) : Option Nat :=
  match pattern with
  | .regex _ program => program.prefixLength? cursor.after
  | .scan _ measure =>
      (measure cursor.after).filter fun count => (Text.splitBytes? count cursor.after).isSome
  | .custom _ measure => measure cursor.source cursor.offset

def matchLength (pattern : Pattern) (text : String) (offset : Nat) : Option Nat :=
  match pattern with
  | .custom _ measure => measure text offset
  | .regex .. | .scan .. => (Cursor.at? text offset).bind pattern.matchAt

/-- The pattern of a regular expression as it is written. -/
def ofSourceWithin (limits : Regex.Limits) (source : String) : Except GrammarError Pattern :=
  match Regex.parseWithin? limits source with
  | some expression => .ok (.regex source expression.compile)
  | none => .error .invalidPattern

def ofSource (source : String) : Except GrammarError Pattern :=
  ofSourceWithin .standard source

theorem ofSourceWithin_eq_ok_iff {limits : Regex.Limits} {source : String} {pattern : Pattern} :
    ofSourceWithin limits source = .ok pattern ↔
      ∃ expression, Regex.parseWithin? limits source = some expression ∧
        pattern = .regex source expression.compile := by
  rw [ofSourceWithin]
  cases Regex.parseWithin? limits source with
  | none => simp
  | some expression => simp [eq_comm]

/-- The source in a group behind an anchor. It is put there as text, so it may close the group and
go on with a branch that is not anchored. -/
def anchoredSource (source : String) : String :=
  "\\A(?:" ++ source ++ ")"

/-- The pattern of a regular expression that is tried at the start of its text only. -/
def anchoredWithin (limits : Regex.Limits) (source : String) : Except GrammarError Pattern :=
  ofSourceWithin limits (anchoredSource source)

def anchored (source : String) : Except GrammarError Pattern :=
  anchoredWithin .standard source

/-- Takes `count` bytes, whatever they are and whether they are there or not. -/
def unchecked (count : Nat) : Pattern :=
  .custom s!"unchecked {count}" fun _ _ => some count

end Pattern

end TwoWay
