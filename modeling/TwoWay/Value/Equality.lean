import TwoWay.Value.Basic

/-!
Equality of values. It looks at the fields of records by name and not by position.
-/

namespace TwoWay.Value

mutual

/-- Decides whether `left` equals `right` or, when swapped, whether `right` equals `left`. Two
records are equal when they have as many fields and each field of the first is found in the
second; a value found by name stands on the left of its comparison. Where no name occurs twice,
the sides do not matter. -/
def agree (left right : Value) (swapped : Bool) : Bool :=
  match left, right with
  | .int n, .int m => n == m
  | .big n, .big m => n == m
  | .str text, .str other => text == other
  | .list items, .list others => agreeItems items others swapped
  | .optional none, .optional none => true
  | .optional (some content), .optional (some other) => agree content other swapped
  | .record fields, .record others =>
      fields.length == others.length &&
        if swapped then others.all fun other => agreeFound fields other.1 other.2
        else agreeFields fields others
  | .tagged tag content, .tagged other content' => tag == other && agree content content' swapped
  | _, _ => false
termination_by structural left

def agreeItems (left right : List Value) (swapped : Bool) : Bool :=
  match left, right with
  | [], [] => true
  | item :: items, other :: others => agree item other swapped && agreeItems items others swapped
  | _, _ => false
termination_by structural left

def agreeFields (left right : List (String × Value)) : Bool :=
  match left with
  | [] => true
  | (name, value) :: fields =>
      (match right.lookup name with
        | some found => agree value found true
        | none => false) && agreeFields fields right
termination_by structural left

def agreeFound (left : List (String × Value)) (name : String) (value : Value) : Bool :=
  match left with
  | [] => false
  | (other, found) :: fields =>
      if other = name then agree found value false else agreeFound fields name value
termination_by structural left

end

/-- Equality that ignores the order of fields. -/
def same (left right : Value) : Bool :=
  agree left right false

end TwoWay.Value

namespace TwoWay

def Record.same (left right : Record) : Bool :=
  left.toValue.same right.toValue

end TwoWay
