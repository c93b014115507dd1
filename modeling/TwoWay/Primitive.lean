import TwoWay.Grammar.Basic
import TwoWay.Text.Escaped

/-!
Terminals of small textual languages: integers, string literals, identifiers and white space.
Each pattern is kept with its written form, and the examples check that one is read as the other.
-/

namespace TwoWay.Primitive

open Regex

/-- The pattern of an expression at the start of its text, with its written form. -/
def pattern (source : String) (body : Regex) : Pattern :=
  .regex (Pattern.anchoredSource source) (Regex.compile (.seq (.assertion .textStart) body))

def digit : CharSet :=
  .between '0' '9'

def nonZeroDigit : CharSet :=
  .between '1' '9'

def integerSource : String :=
  "-?(?:[1-9][0-9]*|0)"

/-- A minus sign or none, then zero or digits that do not start with zero. -/
def integerRegex : Regex :=
  .seq (.between (.set (.single '-')) 0 1 true)
    (.alt (.seq (.set nonZeroDigit) (.atLeast (.set digit) 0 true)) (.set (.single '0')))

def unescaped : CharSet :=
  (CharSet.ofChars ['"', '\\']).complement

def stringSource : String :=
  "\"(?:[^\"\\\\]|\\\\.)*\""

/-- A quote, characters or escapes, a quote. Any character but a line feed may be escaped. -/
def stringRegex : Regex :=
  .seq (.set (.single '"'))
    (.seq
      (.atLeast
        (.alt (.set unescaped)
          (.seq (.set (.single '\\')) (.set .notNewline))) 0 true)
      (.set (.single '"')))

def identifierSource : String :=
  "[A-Za-z_][A-Za-z0-9_]*"

def identifierStart : CharSet :=
  ((CharSet.between 'A' 'Z').union (.between 'a' 'z')).union (.single '_')

def identifierPart : CharSet :=
  identifierStart.union digit

/-- A letter or underscore, then letters, digits and underscores, all of them ASCII. -/
def identifierRegex : Regex :=
  .seq (.set identifierStart) (.atLeast (.set identifierPart) 0 true)

def whitespaceSource : String :=
  "[ \\t\\r\\n]+"

def blank : CharSet :=
  .ofChars [' ', '\t', '\r', '\n']

def whitespaceRegex : Regex :=
  .atLeast (.set blank) 1 true

example : Regex.parse? (Pattern.anchoredSource integerSource) =
    some (.seq (.assertion .textStart) integerRegex) := by
  decide

example : Regex.parse? (Pattern.anchoredSource stringSource) =
    some (.seq (.assertion .textStart) stringRegex) := by
  decide

example : Regex.parse? (Pattern.anchoredSource identifierSource) =
    some (.seq (.assertion .textStart) identifierRegex) := by
  decide

example : Regex.parse? (Pattern.anchoredSource whitespaceSource) =
    some (.seq (.assertion .textStart) whitespaceRegex) := by
  decide

def integer : Terminal Int64 :=
  { pattern := pattern integerSource integerRegex
    conversion := .integer
    label := some "integer" }

def bigInteger : Terminal Int :=
  { pattern := pattern integerSource integerRegex
    conversion := .bigInteger
    label := some "big integer" }

/-- A string literal; the value is the text it stands for. -/
def stringLiteral : Terminal String :=
  { pattern := pattern stringSource stringRegex
    conversion :=
      ⟨fun literal => (Text.unescape literal).mapError Text.EscapeError.message, Text.escaped⟩
    label := some "string literal" }

def identifier : Terminal String :=
  { pattern := pattern identifierSource identifierRegex
    conversion := .text
    label := some "identifier" }

/-- White space; without a value it is written as one space. -/
def whitespace : Terminal String :=
  { pattern := pattern whitespaceSource whitespaceRegex
    conversion := .text
    label := some "whitespace"
    canonical := some " " }

def maybeWhitespace : Grammar (.optional (.scalar .text)) :=
  .optional (.terminal whitespace)

end TwoWay.Primitive
