import TwoWay.Regex.Program

/-!
Matching a program against a text, one character at a time. All the steps that may come next are
kept in order of preference, each of them once, so a text is read only once.
-/

namespace TwoWay.Regex

def Step.ways (place : Place) (index : Nat) : Step → List Nat
  | .read _ => []
  | .check condition => if condition.holds place then [index + 1] else []
  | .jump distance => [(index + distance).toNat]
  | .fork preferred other => [(index + preferred).toNat, (index + other).toNat]

/-- What a place offers: the sets of characters that would be read there, the preferred one
first, each with the index behind it, and whether the program ends there. Nothing is kept that is
less preferred than the end. -/
structure Frontier where
  waiting : List (CharSet × Nat)
  finished : Bool
deriving DecidableEq, Repr

namespace Program

/-- Follows the steps to do, the preferred one first, up to those that read. The indices met at
this place are marked; to meet one again leads nowhere. Every step adds two to do at most, so twice
the length of the program and the number of steps to do is fuel enough. -/
def explore (program : Program) (place : Place) :
    Nat → Array Bool → List (CharSet × Nat) → List Nat → Frontier
  | 0, _, waiting, _ | _ + 1, _, waiting, [] => ⟨waiting.reverse, false⟩
  | fuel + 1, met, waiting, index :: todo =>
      match program.code[index]? with
      | none => ⟨waiting.reverse, true⟩
      | some step =>
          if met.getD index false then explore program place fuel met waiting todo
          else
            let met := met.setIfInBounds index true
            match step with
            | .read chars => explore program place fuel met ((chars, index + 1) :: waiting) todo
            | step => explore program place fuel met waiting (step.ways place index ++ todo)

def frontier (program : Program) (place : Place) (todo : List Nat) : Frontier :=
  let size := program.code.size
  program.explore place (2 * size + todo.length + 1) (Array.replicate size false) [] todo

end Program

def Frontier.behind (frontier : Frontier) (c : Char) : List Nat :=
  frontier.waiting.filterMap fun (chars, index) => if chars.contains c then some index else none

namespace Program

/-- Bytes from a place to the preferred end of a match. What still reads is preferred to ending
here, since a frontier holds nothing less preferred than its end. -/
def lengthFrom? (program : Program) : List Char → Option Char → List Nat → Option Nat
  | [], last, todo => if (program.frontier ⟨last, []⟩ todo).finished then some 0 else none
  | c :: rest, last, todo =>
      let frontier := program.frontier ⟨last, c :: rest⟩ todo
      let further :=
        match frontier.behind c with
        | [] => none
        | next => (program.lengthFrom? rest (some c) next).map (c.utf8Size + ·)
      further.orElse fun _ => if frontier.finished then some 0 else none

/-- A match in a text: bytes before it and bytes in it. -/
structure Found where
  start : Nat
  length : Nat
deriving DecidableEq, Repr

def findFrom? (program : Program) : List Char → Option Char → Option Found
  | [], last => (program.lengthFrom? [] last [0]).map (⟨0, ·⟩)
  | c :: rest, last =>
      match program.lengthFrom? (c :: rest) last [0] with
      | some length => some ⟨0, length⟩
      | none =>
          (program.findFrom? rest (some c)).map fun found =>
            { found with start := c.utf8Size + found.start }

def find? (program : Program) (text : List Char) : Option Found :=
  program.findFrom? text none

def prefixLength? (program : Program) (text : List Char) : Option Nat :=
  program.lengthFrom? text none [0]

end Program

end TwoWay.Regex
