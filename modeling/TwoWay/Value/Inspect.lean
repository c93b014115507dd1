import TwoWay.Text.Numeral
import TwoWay.Text.Quoted
import TwoWay.Value.Basic

/-!
Values in full, as diagnostics print them.
-/

namespace TwoWay

def inspectSome (content : String) : String :=
  "Some(" ++ content ++ ")"

def inspectList (items : List String) : String :=
  "[" ++ ", ".intercalate items ++ "]"

def inspectRecord (fields : List String) : String :=
  "Record \x7b fields: " ++ inspectList fields ++ " \x7d"

def inspectTagged (tag content : String) : String :=
  "Tagged \x7b tag: " ++ Text.quoted tag ++ ", value: " ++ content ++ " \x7d"

namespace Value

mutual

def inspect : Value → String
  | .int n => "Int(" ++ Text.numeral n.toInt ++ ")"
  | .big n => "BigInt(" ++ Text.numeral n ++ ")"
  | .str text => "Str(" ++ Text.quoted text ++ ")"
  | .list items => "List(" ++ inspectList (inspectItems items) ++ ")"
  | .optional none => "Optional(None)"
  | .optional (some content) => "Optional(" ++ inspectSome content.inspect ++ ")"
  | .record fields => "Record(" ++ inspectRecord (inspectFields fields) ++ ")"
  | .tagged tag content => "Tagged(" ++ inspectTagged tag content.inspect ++ ")"

def inspectItems : List Value → List String
  | [] => []
  | item :: items => item.inspect :: inspectItems items

def inspectFields : List (String × Value) → List String
  | [] => []
  | (name, value) :: fields =>
      ("(" ++ Text.quoted name ++ ", " ++ value.inspect ++ ")") :: inspectFields fields

end

end Value

def Record.inspect (record : Record) : String :=
  inspectRecord (Value.inspectFields record.fields)

def Tagged.inspect (tagged : Tagged) : String :=
  inspectTagged tagged.tag tagged.content.inspect

end TwoWay
