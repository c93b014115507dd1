/-!
Values that decoding yields when a grammar's parts differ in type: numbers, texts, lists, options,
records of named fields, and values tagged with the name of the alternative that produced them.
-/

namespace TwoWay

inductive Value
  | int (n : Int64)
  | big (n : Int)
  | str (text : String)
  | list (items : List Value)
  | optional (content : Option Value)
  | record (fields : List (String × Value))
  | tagged (tag : String) (content : Value)

/-- Fields in the order in which their names first came up. -/
structure Record where
  fields : List (String × Value) := []

/-- A value with the name of the alternative it belongs to. -/
structure Tagged where
  tag : String
  content : Value

/-- Kinds of values, as messages call them. -/
inductive Kind
  | integer
  | bigInteger
  | string
  | list
  | optional
  | record
  | tagged
deriving DecidableEq, Repr

def Kind.name : Kind → String
  | .integer => "integer"
  | .bigInteger => "big integer"
  | .string => "string"
  | .list => "list"
  | .optional => "optional"
  | .record => "record"
  | .tagged => "tagged"

namespace Value

def kind : Value → Kind
  | .int _ => .integer
  | .big _ => .bigInteger
  | .str _ => .string
  | .list _ => .list
  | .optional _ => .optional
  | .record _ => .record
  | .tagged _ _ => .tagged

def asRecord? : Value → Option Record
  | .record fields => some ⟨fields⟩
  | _ => none

end Value

def Record.toValue (record : Record) : Value :=
  .record record.fields

def Tagged.toValue (tagged : Tagged) : Value :=
  .tagged tagged.tag tagged.content

end TwoWay
