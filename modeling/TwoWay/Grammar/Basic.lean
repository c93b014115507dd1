import TwoWay.Shape
import TwoWay.Terminal

/-!
Grammars describe a textual format for both directions. The index of a grammar is the shape of
its values. Templates and choices hold parts of different shapes, and an erased grammar has its
values freed from their shape.
-/

namespace TwoWay

mutual

inductive Grammar : Shape → Type
  | terminal {kind : Scalar} (leaf : Terminal kind.Carrier) : Grammar (.scalar kind)
  | named {shape : Shape} (name : String) (inner : Grammar shape) : Grammar shape
  | optional {shape : Shape} (inner : Grammar shape) : Grammar (.optional shape)
  | repeated {shape : Shape} (nonEmpty : Bool) (item : Grammar shape) : Grammar (.list shape)
  | separated {shape gap : Shape} (nonEmpty : Bool) (item : Grammar shape)
      (separator : Grammar gap) : Grammar (.list shape)
  | template (elements : List Element) : Grammar .record
  | choice (branches : List Branch) : Grammar .tagged
  | erased {shape : Shape} (inner : Grammar shape) : Grammar .any

/-- A part of a template. The value of a field is kept under its name, and that of a skipped part
is dropped. -/
inductive Element : Type
  | literal (text : String)
  | field {shape : Shape} (name : String) (part : Grammar shape)
  | skip {shape : Shape} (part : Grammar shape)

inductive Branch : Type
  | mk {shape : Shape} (name : String) (body : Grammar shape)

end

def Element.fieldName? : Element → Option String
  | .field name _ => some name
  | .literal _ | .skip _ => none

def Element.fieldNames (elements : List Element) : List String :=
  elements.filterMap Element.fieldName?

def Branch.name : Branch → String
  | .mk name _ => name

def Branch.names (branches : List Branch) : List String :=
  branches.map Branch.name

namespace Grammar

def describeNamed (description name : String) : String :=
  description ++ "(" ++ name ++ ")"

def describeRepeated (nonEmpty : Bool) (item : String) : String :=
  (if nonEmpty then "non_empty_sequence(" else "sequence(") ++ item ++ ")"

mutual

def describe : {shape : Shape} → Grammar shape → String
  | _, .terminal leaf => leaf.describe
  | _, .named name inner => describeNamed inner.describe name
  | _, .optional inner => "maybe(" ++ inner.describe ++ ")"
  | _, .repeated nonEmpty item => describeRepeated nonEmpty item.describe
  | _, .separated nonEmpty item _ => describeRepeated nonEmpty item.describe
  | _, .template elements => "template(" ++ " ".intercalate (describeElements elements) ++ ")"
  | _, .choice branches => "either(" ++ " | ".intercalate (describeBranches branches) ++ ")"
  | _, .erased inner => inner.describe

def describeElements : List Element → List String
  | [] => []
  | .literal text :: rest => Text.quoted text :: describeElements rest
  | .field name part :: rest => describeNamed part.describe name :: describeElements rest
  | .skip part :: rest => part.describe :: describeElements rest

def describeBranches : List Branch → List String
  | [] => []
  | .mk name body :: rest => describeNamed body.describe name :: describeBranches rest

end

mutual

/-- The text to write where there is no value, if the grammar has such a text. -/
def canonical : {shape : Shape} → Grammar shape → Option String
  | _, .terminal leaf => leaf.canonical
  | _, .named _ inner => inner.canonical
  | _, .optional _ => some ""
  | _, .repeated nonEmpty item => if nonEmpty then item.canonical else some ""
  | _, .separated nonEmpty item _ => if nonEmpty then item.canonical else some ""
  | _, .template elements => canonicalElements elements
  | _, .choice branches => canonicalBranch branches
  | _, .erased inner => inner.canonical

def canonicalElements : List Element → Option String
  | [] => some ""
  | .literal text :: rest => (text ++ ·) <$> canonicalElements rest
  | .field _ part :: rest => do return (← part.canonical) ++ (← canonicalElements rest)
  | .skip part :: rest => do return (← part.canonical) ++ (← canonicalElements rest)

/-- The first branch speaks for all. -/
def canonicalBranch : List Branch → Option String
  | [] => none
  | .mk _ body :: _ => body.canonical

end

end Grammar

end TwoWay
