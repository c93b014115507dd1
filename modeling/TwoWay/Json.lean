/-!
Trees in which values are exchanged with other programs.
-/

namespace TwoWay

/-- A number is its mantissa divided by ten as often as it has places after the point. -/
inductive Json
  | null
  | bool (truth : Bool)
  | number (mantissa : Int) (places : Nat)
  | string (text : String)
  | array (items : List Json)
  | object (members : List (String × Json))

namespace Json

/-- No object in the tree has two members of one name. -/
inductive WellFormed : Json → Prop
  | null : WellFormed .null
  | bool (truth : Bool) : WellFormed (.bool truth)
  | number (mantissa : Int) (places : Nat) : WellFormed (.number mantissa places)
  | string (text : String) : WellFormed (.string text)
  | array {items : List Json} (hitems : ∀ item ∈ items, WellFormed item) :
      WellFormed (.array items)
  | object {members : List (String × Json)} (hnames : (members.map Prod.fst).Nodup)
      (hmembers : ∀ member ∈ members, WellFormed member.2) : WellFormed (.object members)

def int (n : Int) : Json :=
  .number n 0

/-- The integer that is written without places after the point. -/
def asInt? : Json → Option Int
  | .number mantissa 0 => some mantissa
  | _ => none

def asString? : Json → Option String
  | .string text => some text
  | _ => none

def asArray? : Json → Option (List Json)
  | .array items => some items
  | _ => none

def isNull : Json → Bool
  | .null => true
  | _ => false

end Json

end TwoWay
