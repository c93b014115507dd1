import TwoWay.Cursor
import TwoWay.Text.Quoted

/-!
What can go wrong: decoding a text, writing a value, and building a grammar.
-/

namespace TwoWay

def commaList (names : List String) : String :=
  ", ".intercalate names

inductive DecodeError
  | patternMismatch (offset : Nat) (expected : String)
  | conversion (offset : Nat) (text message : String)
  | literalMismatch (literal : String) (offset : Nat)
  | alternativesExhausted (offset furthest : Nat) (tried : List String)
  | repetitionTooFew (offset : Nat) (source : DecodeError)
  | zeroWidthRepetition (offset : Nat)
  | trailingInput (offset remaining : Nat)
deriving DecidableEq, Repr

namespace DecodeError

/-- How far the failed attempt got. -/
def offset : DecodeError → Nat
  | .patternMismatch offset _ => offset
  | .conversion offset _ _ => offset
  | .literalMismatch _ offset => offset
  | .alternativesExhausted _ furthest _ => furthest
  | .repetitionTooFew _ source => source.offset
  | .zeroWidthRepetition offset => offset
  | .trailingInput offset _ => offset

/-- A fault of the grammar and not of the text. No grammar absorbs such an error of its parts. -/
def isFatal : DecodeError → Bool
  | .zeroWidthRepetition _ => true
  | _ => false

def message : DecodeError → String
  | .patternMismatch offset _ => s!"pattern mismatch at offset {offset}"
  | .conversion offset text message =>
      s!"cannot convert {Text.quoted text} at offset {offset}: {message}"
  | .literalMismatch literal offset => s!"expected literal '{literal}' at offset {offset}"
  | .alternativesExhausted offset furthest tried =>
      s!"no alternative of [{commaList tried}] matched at offset {offset} " ++
        s!"(furthest offset reached: {furthest})"
  | .repetitionTooFew offset source =>
      s!"expected at least one repetition at offset {offset}: {source.message}"
  | .zeroWidthRepetition offset => s!"zero-width repetition at offset {offset}"
  | .trailingInput offset remaining =>
      s!"trailing input at offset {offset}: {remaining} unconsumed bytes"

end DecodeError

/-- Failures of writing: the value is not one that the grammar yields. -/
inductive EncodeError
  | missingField (name : String)
  | unknownField (name : String)
  | tagMissing (alternatives : List String)
  | tagAmbiguous (tags : List String)
  | tooFewElements (min count : Nat)
  | typeMismatch (expected found : String)
  | roundTrip (text : String) (source : DecodeError)
  | roundTripMismatch (text : String)
deriving DecidableEq, Repr

def EncodeError.message : EncodeError → String
  | .missingField name => s!"record has no field `{name}`"
  | .unknownField name => s!"record field `{name}` is not declared by the template"
  | .tagMissing alternatives =>
      s!"value selects none of the alternatives [{commaList alternatives}]"
  | .tagAmbiguous tags =>
      s!"value selects more than one alternative: [{commaList tags}]"
  | .tooFewElements min count =>
      s!"expected at least {min} repeated elements, found {count}"
  | .typeMismatch expected found => s!"expected {expected} value, found {found}"
  | .roundTrip text source =>
      s!"rendered text {Text.quoted text} does not decode: {source.message}"
  | .roundTripMismatch text =>
      s!"rendered text {Text.quoted text} decodes to a different value"

/-- Faults in a grammar that are found while it is built. -/
inductive GrammarError
  | duplicateFieldName (name : String)
  | emptyFieldName
  | unrenderableElement (index : Nat) (description : String)
  | unrenderableSeparator (description : String)
  | emptyAlternation
  | invalidPattern
deriving DecidableEq, Repr

def GrammarError.message : GrammarError → String
  | .duplicateFieldName name => s!"duplicate field name `{name}`"
  | .emptyFieldName => "field names must be non-empty"
  | .unrenderableElement index description =>
      s!"element {index} ({description}) is unnamed and has no canonical rendering"
  | .unrenderableSeparator description =>
      s!"separator {description} has no canonical rendering"
  | .emptyAlternation => "alternation requires at least one alternative"
  | .invalidPattern => "invalid recognition pattern"

inductive AnyError
  | grammar (error : GrammarError)
  | decode (error : DecodeError)
  | encode (error : EncodeError)
deriving DecidableEq, Repr

def AnyError.message : AnyError → String
  | .grammar error => error.message
  | .decode error => error.message
  | .encode error => error.message

/-- An operation fails with an error of its own, or a pattern claimed more text than there is. -/
inductive Fault (ε : Type)
  | error (e : ε)
  | overrun (step : Overrun)
deriving DecidableEq, Repr

def Fault.map {ε δ : Type} (f : ε → δ) : Fault ε → Fault δ
  | .error e => .error (f e)
  | .overrun step => .overrun step

/-- The error of an attempt that another attempt may follow. -/
def Fault.recoverable? : Fault DecodeError → Option DecodeError
  | .error e => if e.isFatal then none else some e
  | .overrun _ => none

theorem Fault.recoverable?_eq_some_iff {fault : Fault DecodeError} {error : DecodeError} :
    fault.recoverable? = some error ↔ fault = .error error ∧ error.isFatal = false := by
  cases fault with
  | overrun step => simp [recoverable?]
  | error other =>
      simp only [recoverable?, Fault.error.injEq]
      constructor
      · intro hrecover
        split at hrecover
        · cases hrecover
        · rename_i hfatal
          cases hrecover
          exact ⟨rfl, by simpa using hfatal⟩
      · rintro ⟨rfl, hfatal⟩
        simp [hfatal]

end TwoWay
