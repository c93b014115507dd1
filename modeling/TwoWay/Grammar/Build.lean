import TwoWay.Grammar.Basic

/-!
Building grammars from parts, with the checks that keep them usable in both directions: names
are there and differ, and what is written without a value has a canonical text.
-/

namespace TwoWay

def checkName (used : List String) (name : String) : Except GrammarError Unit :=
  if name.isEmpty then .error .emptyFieldName
  else if used.contains name then .error (.duplicateFieldName name)
  else .ok ()

/-- Checks elements from `index` on and reports the first one at fault. -/
def Element.check (used : List String) (index : Nat) : List Element → Except GrammarError Unit
  | [] => .ok ()
  | .literal _ :: rest => check used (index + 1) rest
  | .field name _ :: rest => do
      checkName used name
      check (name :: used) (index + 1) rest
  | .skip part :: rest =>
      if part.canonical.isSome then check used (index + 1) rest
      else .error (.unrenderableElement index part.describe)

def Branch.check (used : List String) : List Branch → Except GrammarError Unit
  | [] => .ok ()
  | .mk name _ :: rest => do
      checkName used name
      check (name :: used) rest

namespace Grammar

def buildTemplate (elements : List Element) : Except GrammarError (Grammar .record) := do
  Element.check [] 0 elements
  return .template elements

def buildChoice (branches : List Branch) : Except GrammarError (Grammar .tagged) := do
  if branches.isEmpty then .error .emptyAlternation
  Branch.check [] branches
  return .choice branches

def buildSeparated {shape gap : Shape} (nonEmpty : Bool) (item : Grammar shape)
    (separator : Grammar gap) : Except GrammarError (Grammar (.list shape)) :=
  if separator.canonical.isSome then .ok (.separated nonEmpty item separator)
  else .error (.unrenderableSeparator separator.describe)

end Grammar

end TwoWay
