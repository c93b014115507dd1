/-!
Decimal numerals: how integers are printed, and how they are read back within 64 bits or without
limit.
-/

namespace TwoWay.Text

def numeral (n : Int) : String :=
  String.ofList <|
    if n < 0 then '-' :: Nat.toDigits 10 n.natAbs else Nat.toDigits 10 n.natAbs

inductive NumeralError
  | empty
  | invalidDigit
  | tooLarge
  | tooSmall
deriving DecidableEq, Repr

def NumeralError.message : NumeralError → String
  | .empty => "cannot parse integer from empty string"
  | .invalidDigit => "invalid digit found in string"
  | .tooLarge => "number too large to fit in target type"
  | .tooSmall => "number too small to fit in target type"

def digitValue (c : Char) : Int :=
  c.toNat - '0'.toNat

/-- Takes digits from the left, away from zero in the sign's direction. The first fault counts:
a character that is no digit, or a digit that takes the number out of 64 bits. -/
def accumulate64 (negative : Bool) : Int → List Char → Except NumeralError Int
  | value, [] => .ok value
  | value, c :: rest =>
      if c.isDigit then
        let next := if negative then value * 10 - digitValue c else value * 10 + digitValue c
        if next < Int64.minValue.toInt then .error .tooSmall
        else if Int64.maxValue.toInt < next then .error .tooLarge
        else accumulate64 negative next rest
      else .error .invalidDigit

/-- Reads a 64-bit integer: an optional sign and at least one digit. -/
def readInt64 (text : String) : Except NumeralError Int64 :=
  Int64.ofInt <$>
    match text.toList with
    | [] => .error .empty
    | ['+'] => .error .invalidDigit
    | ['-'] => .error .invalidDigit
    | '+' :: digits => accumulate64 false 0 digits
    | '-' :: digits => accumulate64 true 0 digits
    | digits => accumulate64 false 0 digits

/-- Digits of an unlimited natural number. An underscore is skipped, but may not come first. -/
def readDigits (digits : List Char) : Except NumeralError Nat :=
  match digits with
  | [] => .error .empty
  | '_' :: _ => .error .invalidDigit
  | _ =>
    let bare := digits.filter (· ≠ '_')
    if bare.all Char.isDigit then .ok (Nat.ofDigitChars 10 bare 0) else .error .invalidDigit

def readNatural : List Char → Except NumeralError Nat
  | '+' :: digits => readDigits digits
  | digits => readDigits digits

def readInteger (text : String) : Except NumeralError Int :=
  match text.toList with
  | '-' :: '+' :: _ => .error .invalidDigit
  | '-' :: digits => (fun n => -Int.ofNat n) <$> readDigits digits
  | digits => Int.ofNat <$> readNatural digits

end TwoWay.Text
