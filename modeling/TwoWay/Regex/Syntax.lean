import TwoWay.Regex.Storage
import TwoWay.Regex.Token

/-!
Regular expressions from their tokens. The groups that are open at a token form a stack of
frames, and each frame holds what its group has read so far. How deep an expression may be nested
and how large it may get is a matter of the limits that it is read within.
-/

namespace TwoWay.Regex

/-- A part of the source that has been read, and how deep its constructs are nested. -/
structure Part where
  regex : Regex
  depth : Nat
deriving DecidableEq, Repr

/-- Several parts side by side are one level deeper than the deepest of them. -/
def sideBySide : List Part → Nat
  | [] => 0
  | [part] => part.depth
  | parts => 1 + parts.foldl (fun deepest part => max deepest part.depth) 0

/-- An open group: its number, if it has one, its finished branches, the items of the branch being
read, and the item that a repetition would apply to. -/
structure Frame where
  number : Option Nat := none
  branches : List Part := []
  items : List Part := []
  last : Option Part := none
  ignoreCase : Bool := false
deriving DecidableEq, Repr

namespace Frame

def branch (frame : Frame) : Part :=
  let parts := frame.items ++ frame.last.toList
  ⟨concat (parts.map Part.regex), sideBySide parts⟩

def content (frame : Frame) : Part :=
  let parts := frame.branches ++ [frame.branch]
  ⟨firstOf (parts.map Part.regex), sideBySide parts⟩

def group (frame : Frame) : Part :=
  let content := frame.content
  ⟨frame.number.elim content.regex fun number => .group number content.regex, content.depth + 1⟩

def push (frame : Frame) (item : Part) : Frame :=
  { frame with items := frame.items ++ frame.last.toList, last := some item }

def nextBranch (frame : Frame) : Frame :=
  { frame with branches := frame.branches ++ [frame.branch], items := [], last := none }

/-- Ignores case until the group closes. The words that say so are an item that cannot be
repeated. -/
def ignoringCase (frame : Frame) : Frame :=
  { frame with
    items := frame.items ++ frame.last.toList ++ [⟨.empty, 0⟩]
    last := none
    ignoreCase := true }

def charSet? (frame : Frame) (chars : CharSet) : Option CharSet :=
  if frame.ignoreCase then chars.ignoringCase? else some chars

def repeating? (frame : Frame) (min : Nat) (max : Option Nat) (greedy : Bool) : Option Frame :=
  frame.last.map fun item =>
    { frame with last := some ⟨repeated item.regex min max greedy, item.depth + 1⟩ }

end Frame

structure Reading where
  top : Frame := {}
  outer : List Frame := []
  numbered : Nat := 0
deriving DecidableEq, Repr

namespace Reading

def push (reading : Reading) (item : Part) : Reading :=
  { reading with top := reading.top.push item }

/-- A class is one level deep, and two when it has several members. -/
def classDepth (members : List (Nat × Nat)) : Nat :=
  if members.length = 1 then 1 else 2

def step? (reading : Reading) : Token → Option Reading
  | .char c => do
      let chars ← reading.top.charSet? (.single c)
      return reading.push ⟨.set chars, 0⟩
  | .anyChar => some (reading.push ⟨.set .notNewline, 0⟩)
  | .charClass members negated => do
      let chars ← reading.top.charSet? (.ofRanges members)
      return reading.push ⟨.set (if negated then chars.complement else chars), classDepth members⟩
  | .assertion condition => some (reading.push ⟨.assertion condition, 0⟩)
  | .openGroup isNumbered =>
      let numbered := if isNumbered then reading.numbered + 1 else reading.numbered
      let frame : Frame :=
        { number := if isNumbered then some numbered else none
          ignoreCase := reading.top.ignoreCase }
      some ⟨frame, reading.top :: reading.outer, numbered⟩
  | .closeGroup =>
      match reading.outer with
      | [] => none
      | frame :: outer => some { reading with top := frame.push reading.top.group, outer }
  | .bar => some { reading with top := reading.top.nextBranch }
  | .ignoreCase => some { reading with top := reading.top.ignoringCase }
  | .repetition min max greedy => do
      let top ← reading.top.repeating? min max greedy
      return { reading with top }

end Reading

/-- How deep groups, classes, repetitions, sequences and alternatives may be nested, and which
expressions there is room for. -/
structure Limits where
  depth : Nat
  hasRoom : Regex → Bool

namespace Limits

def standard : Limits :=
  ⟨250, fits⟩

def finish? (limits : Limits) (reading : Reading) : Option Regex :=
  let content := reading.top.content
  if reading.outer.isEmpty && content.depth ≤ limits.depth && limits.hasRoom content.regex then
    some content.regex
  else none

end Limits

def parseWithin? (limits : Limits) (source : String) : Option Regex := do
  let tokens ← tokens? source.toList
  let reading ← tokens.foldlM Reading.step? {}
  limits.finish? reading

def parse? (source : String) : Option Regex :=
  parseWithin? .standard source

-- An operator between classes is refused, and so is a letter outside ASCII whose case is ignored.
example : parse? "[a-y&&xyz]" = none ∧ parse? "[a-y--x]" = none ∧ parse? "(?i)é" = none := by
  decide

end TwoWay.Regex
