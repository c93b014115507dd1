import TwoWay.Regex.CharSet
import TwoWay.Text.Word

/-!
Regular expressions in normal form. Expressions are put together by `concat`, `firstOf` and
`repeated`, which drop what has no effect and join what begins alike.
-/

namespace TwoWay

namespace Regex

/-- A place in the text being searched: the character just before it and what follows. -/
structure Place where
  last : Option Char
  rest : List Char
deriving DecidableEq, Repr

inductive Assertion
  | textStart
  | textEnd
  | wordBoundary
deriving DecidableEq, Repr

def Assertion.holds : Assertion → Place → Bool
  | .textStart, place => place.last.isNone
  | .textEnd, place => place.rest.isEmpty
  | .wordBoundary, place =>
      place.last.any Text.isWordChar != place.rest.head?.any Text.isWordChar

end Regex

/-- Expressions are ordered by preference: a branch before the next one, and one more turn of a
loop before or after leaving it, as the loop is greedy or not. A numbered group matches what its
body matches; its number tells it from every other group. -/
inductive Regex
  | empty
  | set (chars : Regex.CharSet)
  | assertion (condition : Regex.Assertion)
  | group (number : Nat) (body : Regex)
  | seq (first second : Regex)
  | alt (first second : Regex)
  | atLeast (body : Regex) (min : Nat) (greedy : Bool)
  | between (body : Regex) (min max : Nat) (greedy : Bool)
deriving DecidableEq, Repr

namespace Regex

/-- No match of the expression holds a character. -/
def isZeroWidth : Regex → Bool
  | .empty | .assertion _ => true
  | .set _ | .atLeast .. => false
  | .group _ body => body.isZeroWidth
  | .seq first second | .alt first second => first.isZeroWidth && second.isZeroWidth
  | .between body _ max _ => max == 0 || body.isZeroWidth

def isNullable : Regex → Bool
  | .empty | .assertion _ => true
  | .set _ => false
  | .group _ body => body.isNullable
  | .seq first second => first.isNullable && second.isNullable
  | .alt first second => first.isNullable || second.isNullable
  | .atLeast body min _ | .between body min _ _ => min == 0 || body.isNullable

def items : Regex → List Regex
  | .empty => []
  | .seq first second => first.items ++ second.items
  | regex => [regex]

def branches : Regex → List Regex
  | .alt first second => first.branches ++ second.branches
  | regex => [regex]

def chainSeq : List Regex → Regex
  | [] => .empty
  | [item] => item
  | item :: rest => .seq item (chainSeq rest)

def chainAlt : List Regex → Regex
  | [] => .empty
  | [branch] => branch
  | branch :: rest => .alt branch (chainAlt rest)

def concat (parts : List Regex) : Regex :=
  chainSeq (parts.flatMap items)

def charSet? : Regex → Option CharSet
  | .set chars => some chars
  | _ => none

/-- Branches in order. Single characters are one set, whatever their order. -/
def choice (parts : List Regex) : Regex :=
  let all := parts.flatMap branches
  match all.mapM charSet? with
  | some (first :: rest) => .set (rest.foldl CharSet.union first)
  | _ => chainAlt all

def commonFront : List Regex → List Regex → List Regex
  | first :: rest, first' :: rest' => if first = first' then first :: commonFront rest rest' else []
  | _, _ => []

/-- What all branches begin with, provided that each of them is a sequence. -/
def sharedFront : List Regex → List Regex
  | first :: second :: rest =>
      if (first :: second :: rest).all fun branch => 1 < branch.items.length then
        (second :: rest).foldl (fun front branch => commonFront front branch.items) first.items
      else []
  | _ => []

/-- The first of the expressions that leads to a match. Sequences that begin alike share their
beginning: their branches part behind it, so the beginning is preferred before the branch. -/
def firstOf (parts : List Regex) : Regex :=
  let all := parts.flatMap branches
  let shared := sharedFront all
  if shared.isEmpty then choice all
  else concat (shared ++ [choice (all.map fun branch => concat (branch.items.drop shared.length))])

/-- The bounds of a repetition. What reads nothing need not be tried more than once. -/
def turns (body : Regex) (least : Nat) (most : Option Nat) : Nat × Option Nat :=
  if body.isZeroWidth then (min least 1, some (min (most.getD 1) 1)) else (least, most)

def repeated (body : Regex) (least : Nat) (most : Option Nat) (greedy : Bool) : Regex :=
  match body.turns least most with
  | (0, some 0) => .empty
  | (1, some 1) => body
  | (least, some most) => .between body least most greedy
  | (least, none) => .atLeast body least greedy

end Regex

end TwoWay
