import TwoWay.Error
import TwoWay.Value.Equality
import TwoWay.Value.Inspect

/-!
Shapes are the types of the values that grammars yield. A grammar works on the carrier of its
shape; values without a fixed type enter a carrier through `ofValue` and leave it by `toValue`.
-/

namespace TwoWay

/-- Types of the values of terminals. -/
inductive Scalar
  | integer
  | bigInteger
  | text
deriving DecidableEq, Repr

@[reducible]
def Scalar.Carrier : Scalar → Type
  | .integer => Int64
  | .bigInteger => Int
  | .text => String

inductive Shape
  | scalar (kind : Scalar)
  | record
  | tagged
  | any
  | list (item : Shape)
  | optional (content : Shape)
deriving DecidableEq, Repr

@[reducible]
def Shape.Carrier : Shape → Type
  | .scalar kind => kind.Carrier
  | .record => Record
  | .tagged => Tagged
  | .any => Value
  | .list item => List item.Carrier
  | .optional content => Option content.Carrier

def EncodeError.mismatch (expected : Kind) (found : Value) : EncodeError :=
  .typeMismatch expected.name found.kind.name

namespace Scalar

def toValue : (kind : Scalar) → kind.Carrier → Value
  | .integer, n => .int n
  | .bigInteger, n => .big n
  | .text, content => .str content

/-- A 64-bit integer is also taken for an unlimited one. -/
def ofValue : (kind : Scalar) → Value → Except EncodeError kind.Carrier
  | .integer, .int n => .ok n
  | .integer, value => .error (.mismatch .integer value)
  | .bigInteger, .big n => .ok n
  | .bigInteger, .int n => .ok n.toInt
  | .bigInteger, value => .error (.mismatch .bigInteger value)
  | .text, .str content => .ok content
  | .text, value => .error (.mismatch .string value)

def inspect : (kind : Scalar) → kind.Carrier → String
  | .integer, n => Text.numeral n.toInt
  | .bigInteger, n => Text.numeral n
  | .text, content => Text.quoted content

end Scalar

/-- A record with one field is also taken for a tagged value. -/
def Tagged.ofValue : Value → Except EncodeError Tagged
  | .tagged tag content => .ok ⟨tag, content⟩
  | .record [] => .error (.tagMissing [])
  | .record [(tag, content)] => .ok ⟨tag, content⟩
  | .record fields => .error (.tagAmbiguous (fields.map Prod.fst))
  | value => .error (.mismatch .tagged value)

namespace Shape

def toValue : (shape : Shape) → shape.Carrier → Value
  | .scalar kind, content => kind.toValue content
  | .record, content => content.toValue
  | .tagged, content => content.toValue
  | .any, value => value
  | .list item, items => .list (items.map item.toValue)
  | .optional inner, content => .optional (content.map inner.toValue)

def ofValue : (shape : Shape) → Value → Except EncodeError shape.Carrier
  | .scalar kind, value => kind.ofValue value
  | .record, .record fields => .ok ⟨fields⟩
  | .record, value => .error (.mismatch .record value)
  | .tagged, value => Tagged.ofValue value
  | .any, value => .ok value
  | .list item, .list items => items.mapM item.ofValue
  | .list _, value => .error (.mismatch .list value)
  | .optional _, .optional none => .ok none
  | .optional inner, .optional (some content) => some <$> inner.ofValue content
  | .optional _, value => .error (.mismatch .optional value)

/-- Equality of the values, which ignores the order of fields in records. -/
def same (shape : Shape) (left right : shape.Carrier) : Bool :=
  (shape.toValue left).same (shape.toValue right)

def inspect : (shape : Shape) → shape.Carrier → String
  | .scalar kind, content => kind.inspect content
  | .record, content => content.inspect
  | .tagged, content => content.inspect
  | .any, value => value.inspect
  | .list item, items => inspectList (items.map item.inspect)
  | .optional _, none => "None"
  | .optional inner, some content => inspectSome (inner.inspect content)

end Shape

end TwoWay
