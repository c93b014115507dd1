import TwoWay.Json
import TwoWay.Value.Basic

/-!
The serial form of values. Every value is an object with one member, named for the kind of the
value. Reading does not look for repeated names of fields, so a record that is read may have them.
-/

namespace TwoWay

/-- Digits of unlimited integers have 32 bits each. -/
def limbBase : Nat :=
  4294967296

/-- Digits of a number, the lowest first and no zero last. -/
def limbs (n : Nat) : List Nat :=
  if n = 0 then [] else n % limbBase :: limbs (n / limbBase)
termination_by n
decreasing_by exact Nat.div_lt_self (by omega) (by decide)

/-- The number with the given digits, the lowest first. -/
def ofLimbs : List Nat → Nat
  | [] => 0
  | limb :: rest => limb + limbBase * ofLimbs rest

namespace Value

/-- The sign and the digits of the absolute value. -/
def bigToJson (n : Int) : Json :=
  .array [.int n.sign, .array ((limbs n.natAbs).map fun limb => .int (Int.ofNat limb))]

/-- Sign zero makes the number zero, whatever the digits. -/
def bigOfJson? : Json → Option Int
  | .array [sign, digits] => do
      let sign ← sign.asInt?
      let digits ← digits.asArray?
      let digits ← digits.mapM Json.asInt?
      if digits.all (fun digit => 0 ≤ digit && digit < limbBase) && -1 ≤ sign && sign ≤ 1 then
        return sign * ofLimbs (digits.map Int.toNat)
      else none
  | _ => none

def intOfJson? (json : Json) : Option Int64 := do
  let n ← json.asInt?
  if Int64.minValue.toInt ≤ n && n ≤ Int64.maxValue.toInt then return Int64.ofInt n else none

mutual

def toJson : Value → Json
  | .int n => .object [("Int", .int n.toInt)]
  | .big n => .object [("BigInt", bigToJson n)]
  | .str text => .object [("Str", .string text)]
  | .list items => .object [("List", .array (itemsToJson items))]
  | .optional none => .object [("Optional", .null)]
  | .optional (some content) => .object [("Optional", content.toJson)]
  | .record fields => .object [("Record", .object [("fields", .array (fieldsToJson fields))])]
  | .tagged tag content =>
      .object [("Tagged", .object [("tag", .string tag), ("value", content.toJson)])]

def itemsToJson : List Value → List Json
  | [] => []
  | item :: rest => item.toJson :: itemsToJson rest

def fieldsToJson : List (String × Value) → List Json
  | [] => []
  | (name, value) :: rest => .array [.string name, value.toJson] :: fieldsToJson rest

end

mutual

/-- Reads a value, which must be an object with one member of a known name. -/
def ofJson? : Json → Option Value
  | .object [(variant, body)] =>
      if variant = "Int" then .int <$> intOfJson? body
      else if variant = "BigInt" then .big <$> bigOfJson? body
      else if variant = "Str" then .str <$> body.asString?
      else if variant = "List" then .list <$> itemsOfJson? body
      else if variant = "Optional" then
        if body.isNull then some (.optional none) else (.optional ∘ some) <$> ofJson? body
      else if variant = "Record" then .record <$> recordOfJson? body
      else if variant = "Tagged" then taggedOfJson? body
      else none
  | _ => none

def itemsOfJson? : Json → Option (List Value)
  | .array items => itemListOfJson? items
  | _ => none

def itemListOfJson? : List Json → Option (List Value)
  | [] => some []
  | item :: rest => do return (← ofJson? item) :: (← itemListOfJson? rest)

/-- An object with a member for the fields, or an array with the fields alone. -/
def recordOfJson? : Json → Option (List (String × Value))
  | .object members => recordMember? members
  | .array [fields] => fieldsOfJson? fields
  | _ => none

def recordMember? : List (String × Json) → Option (List (String × Value))
  | [] => none
  | (name, member) :: rest =>
      if name = "fields" then fieldsOfJson? member else recordMember? rest

def fieldsOfJson? : Json → Option (List (String × Value))
  | .array fields => fieldListOfJson? fields
  | _ => none

def fieldListOfJson? : List Json → Option (List (String × Value))
  | [] => some []
  | .array [.string name, value] :: rest => do
      return (name, ← ofJson? value) :: (← fieldListOfJson? rest)
  | _ :: _ => none

/-- An object with a member for the tag and one for the content, or an array of the two. -/
def taggedOfJson? : Json → Option Value
  | .object members => do
      let tag ← (members.lookup "tag").bind Json.asString?
      return .tagged tag (← contentMember? members)
  | .array [.string tag, content] => .tagged tag <$> ofJson? content
  | _ => none

def contentMember? : List (String × Json) → Option Value
  | [] => none
  | (name, member) :: rest => if name = "value" then ofJson? member else contentMember? rest

end

end Value

end TwoWay
