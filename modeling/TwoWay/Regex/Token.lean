import TwoWay.Regex.Basic
import TwoWay.Text.Blank

/-!
The written form of regular expressions, cut into tokens. First every backslash is joined with
the character after it, so that from then on a plain character means what it looks like.

The syntax is this, and every other source is refused.
* A character stands for itself, and so does an ASCII character behind a backslash that is neither
  a letter, a digit nor an angle bracket. `\n`, `\t` and `\r` are control characters, and `.` is any
  character but the line feed.
* A class in square brackets lists characters, escapes and ranges; a caret at its front turns it
  over. Dashes at the front, a closing bracket that comes first and a dash before the bracket that
  closes are members. A class inside a class, and `&&`, `--` and `~~` where a member would begin,
  would put classes together and are refused.
* `^` and `\A` hold at the start of the text, `$` at its end, `\b` at a word boundary.
* `(..)` is a numbered group, `(?:..)` a mere bracket, `|` parts branches.
* `*`, `+`, `?`, `{n}`, `{n,}` and `{n,m}` repeat what stands before them, with blanks around the
  counts or not. A `?` behind them makes them prefer fewer turns.
* `(?i)` ignores case to the end of its group, where only ASCII characters may be listed then.
-/

namespace TwoWay.Regex

inductive Symbol
  | plain (c : Char)
  | escaped (c : Char)
deriving DecidableEq, Repr

/-- A backslash at the end escapes nothing and is refused. -/
def symbols? : List Char → Option (List Symbol)
  | [] => some []
  | ['\\'] => none
  | '\\' :: c :: rest => (.escaped c :: ·) <$> symbols? rest
  | c :: rest => (.plain c :: ·) <$> symbols? rest

/-- A class lists ranges with their ends, or what it leaves out. Groups are numbered or mere
brackets. A repetition has a least number of turns and perhaps a greatest one. -/
inductive Token
  | char (c : Char)
  | anyChar
  | charClass (members : List (Nat × Nat)) (negated : Bool)
  | assertion (condition : Assertion)
  | openGroup (numbered : Bool)
  | closeGroup
  | bar
  | ignoreCase
  | repetition (min : Nat) (max : Option Nat) (greedy : Bool)
deriving DecidableEq, Repr

def escapeChar? (c : Char) : Option Char :=
  if c = 'n' then some '\n'
  else if c = 't' then some '\t'
  else if c = 'r' then some '\r'
  else if c.toNat < 128 && !c.isAlphanum && c ≠ '<' && c ≠ '>' then some c
  else none

def escapeToken? (c : Char) : Option Token :=
  if c = 'A' then some (.assertion .textStart)
  else if c = 'b' then some (.assertion .wordBoundary)
  else (escapeChar? c).map .char

def Symbol.inClass? : Symbol → Option Char
  | .plain c => some c
  | .escaped c => escapeChar? c

def memberRange (low high : Char) : Nat × Nat :=
  (low.toNat, high.toNat)

def classMembers? : List Symbol → Option (List (Nat × Nat) × List Symbol)
  | [] => none
  | .plain ']' :: rest => some ([], rest)
  -- Here a class inside the class would begin, or an operator between two classes.
  | .plain '[' :: _ => none
  | .plain '&' :: .plain '&' :: _ => none
  | .plain '-' :: .plain '-' :: _ => none
  | .plain '~' :: .plain '~' :: _ => none
  -- A dash before the closing bracket is a member.
  | low :: .plain '-' :: .plain ']' :: rest => do
      let c ← low.inClass?
      return ([memberRange c c, memberRange '-' '-'], rest)
  -- The member is followed by an operator.
  | _ :: .plain '-' :: .plain '-' :: _ => none
  | low :: .plain '-' :: high :: rest => do
      let lowest ← low.inClass?
      let highest ← high.inClass?
      if highest < lowest then none
      else
        let (members, rest) ← classMembers? rest
        return (memberRange lowest highest :: members, rest)
  | symbol :: rest => do
      let c ← symbol.inClass?
      let (members, rest) ← classMembers? rest
      return (memberRange c c :: members, rest)

/-- A class after its opening bracket and its caret, if any. Dashes at the front are members, and
so is a closing bracket that comes first. -/
def classBody? (source : List Symbol) : Option (List (Nat × Nat) × List Symbol) :=
  let dashes := source.takeWhile (· == .plain '-')
  match dashes, source.dropWhile (· == .plain '-') with
  | [], .plain ']' :: rest => do
      let (members, rest) ← classMembers? rest
      return (memberRange ']' ']' :: members, rest)
  | dashes, rest => do
      let (members, rest) ← classMembers? rest
      return (dashes.map (fun _ => memberRange '-' '-') ++ members, rest)

def charClass? : List Symbol → Option (Token × List Symbol)
  | .plain '^' :: rest => do
      let (members, rest) ← classBody? rest
      return (.charClass members true, rest)
  | source => do
      let (members, rest) ← classBody? source
      return (.charClass members false, rest)

def greediness : List Symbol → Bool × List Symbol
  | .plain '?' :: rest => (false, rest)
  | rest => (true, rest)

def Symbol.digit? : Symbol → Option Char
  | .plain c => if c.isDigit then some c else none
  | .escaped _ => none

def Symbol.isBlank : Symbol → Bool
  | .plain c => Text.isBlank c
  | .escaped _ => false

/-- Counts of turns lie below this. -/
def countBound : Nat :=
  0x100000000

def count? (source : List Symbol) : Option (Nat × List Symbol) :=
  let source := source.dropWhile Symbol.isBlank
  let rest := source.dropWhile fun symbol => symbol.digit?.isSome
  match (source.takeWhile fun symbol => symbol.digit?.isSome).filterMap Symbol.digit? with
  | [] => none
  | digits =>
      let count := Nat.ofDigitChars 10 digits 0
      if count < countBound then some (count, rest.dropWhile Symbol.isBlank) else none

def closeBounds? (min : Nat) (max : Option Nat) : List Symbol → Option (Token × List Symbol)
  | .plain '\x7d' :: rest =>
      if max.any (· < min) then none
      else some (.repetition min max (greediness rest).1, (greediness rest).2)
  | _ => none

def bounds? (source : List Symbol) : Option (Token × List Symbol) := do
  let (min, rest) ← count? source
  match rest with
  | .plain ',' :: .plain '\x7d' :: rest => closeBounds? min none (.plain '\x7d' :: rest)
  | .plain ',' :: rest =>
      let (max, rest) ← count? rest
      closeBounds? min (some max) rest
  | rest => closeBounds? min (some min) rest

def groupStart? : List Symbol → Option (Token × List Symbol)
  | .plain '?' :: .plain ':' :: rest => some (.openGroup false, rest)
  | .plain '?' :: .plain 'i' :: .plain ')' :: rest => some (.ignoreCase, rest)
  | .plain '?' :: _ => none
  | rest => some (.openGroup true, rest)

def token? (symbol : Symbol) (rest : List Symbol) : Option (Token × List Symbol) :=
  match symbol with
  | .escaped c => (escapeToken? c).map fun token => (token, rest)
  | .plain '.' => some (.anyChar, rest)
  | .plain '^' => some (.assertion .textStart, rest)
  | .plain '$' => some (.assertion .textEnd, rest)
  | .plain '|' => some (.bar, rest)
  | .plain '(' => groupStart? rest
  | .plain ')' => some (.closeGroup, rest)
  | .plain '[' => charClass? rest
  | .plain '*' => some (.repetition 0 none (greediness rest).1, (greediness rest).2)
  | .plain '+' => some (.repetition 1 none (greediness rest).1, (greediness rest).2)
  | .plain '?' => some (.repetition 0 (some 1) (greediness rest).1, (greediness rest).2)
  | .plain '\x7b' => bounds? rest
  | .plain c => some (.char c, rest)

/-- Every token takes a symbol at least, so the number of symbols is fuel enough. -/
def tokensWithin? : Nat → List Symbol → Option (List Token)
  | _, [] => some []
  | 0, _ :: _ => none
  | fuel + 1, symbol :: rest => do
      let (token, rest) ← token? symbol rest
      let tokens ← tokensWithin? fuel rest
      return token :: tokens

def tokens? (source : List Char) : Option (List Token) := do
  let symbols ← symbols? source
  tokensWithin? symbols.length symbols

end TwoWay.Regex
