import TwoWay.Grammar.Basic
import TwoWay.Value.Record

/-!
The normal form of a value: what decoding its written text yields. A value may be written from
more than one form, since a small integer stands for an unlimited one, a record with one field
for a tagged value, and fields may come in any order.
-/

namespace TwoWay

/-- Normalises a value of any shape that the given shape can take in. -/
def Shape.normalizeValue {shape : Shape}
    (normalize : shape.Carrier → Except EncodeError shape.Carrier) (value : Value) :
    Except EncodeError Value := do
  return shape.toValue (← normalize (← shape.ofValue value))

namespace Grammar

mutual

def normalize : {shape : Shape} → Grammar shape → shape.Carrier →
    Except EncodeError shape.Carrier
  | _, .terminal _, content => .ok content
  | _, .named _ inner, content => inner.normalize content
  | _, .optional _, none => .ok none
  | _, .optional inner, some content => some <$> inner.normalize content
  | _, .repeated _ item, content => content.mapM item.normalize
  | _, .separated _ item _, content => content.mapM item.normalize
  | _, .template elements, record => normalizeElements elements record .empty
  | _, .choice branches, tagged => normalizeBranch branches (Branch.names branches) tagged
  | _, .erased inner, value => Shape.normalizeValue inner.normalize value

/-- The declared fields in order, behind those in `normal`. -/
def normalizeElements : List Element → Record → Record → Except EncodeError Record
  | [], _, normal => .ok normal
  | .field name part :: rest, record, normal =>
      match record.get? name with
      | some value => do
          let value ← Shape.normalizeValue part.normalize value
          normalizeElements rest record (normal.set name value)
      | none => .error (.missingField name)
  | .literal _ :: rest, record, normal => normalizeElements rest record normal
  | .skip _ :: rest, record, normal => normalizeElements rest record normal

def normalizeBranch : List Branch → List String → Tagged → Except EncodeError Tagged
  | [], names, _ => .error (.tagMissing names)
  | .mk name body :: rest, names, tagged =>
      if name = tagged.tag then do
        let content ← Shape.normalizeValue body.normalize tagged.content
        return ⟨tagged.tag, content⟩
      else normalizeBranch rest names tagged

end

def normalizeValue {shape : Shape} (grammar : Grammar shape) (value : Value) :
    Except EncodeError Value :=
  Shape.normalizeValue grammar.normalize value

end Grammar

end TwoWay
