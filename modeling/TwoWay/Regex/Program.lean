import TwoWay.Regex.Basic

/-!
Programs of small steps that carry out regular expressions. The program of a part of an expression
is a section of the whole program; it is left by running past its last step.
-/

namespace TwoWay.Regex

/-- Reading and checking go on with the next step. Jumps are given by their distance from the
step itself, and a fork has a preferred way and another one. -/
inductive Step
  | read (chars : CharSet)
  | check (condition : Assertion)
  | jump (distance : Int)
  | fork (preferred other : Int)
deriving DecidableEq, Repr

def Step.choose (greedy : Bool) (first second : Int) : Step :=
  if greedy then .fork first second else .fork second first

def loop (greedy : Bool) (body : List Step) : List Step :=
  body ++ [.choose greedy (-body.length) 1]

def optional (greedy : Bool) (body : List Step) : List Step :=
  .choose greedy 1 (body.length + 1) :: body

/-- A section carried out any number of times by going back to the fork before it. -/
def cycle (greedy : Bool) (body : List Step) : List Step :=
  .choose greedy 1 (body.length + 2) :: body ++ [.jump (-(body.length + 1))]

def copies (count : Nat) (body : List Step) : List Step :=
  (List.replicate count body).flatten

/-- At most `count` copies. Each may be the first that is left out, together with all behind it. -/
def optionalCopies (greedy : Bool) (count : Nat) (body : List Step) : List Step :=
  (List.range count).flatMap fun index =>
    .choose greedy 1 ((count - index) * (body.length + 1) : Nat) :: body

/-- The section of an expression. Where the body of a loop may read nothing, the fork in front of
the loop is not the one behind it, so a first turn that reads nothing can still leave the loop. -/
def steps : Regex → List Step
  | .empty => []
  | .set chars => [.read chars]
  | .assertion condition => [.check condition]
  | .group _ body => steps body
  | .seq first second => steps first ++ steps second
  | .alt first second =>
      let left := steps first
      let right := steps second
      .fork 1 (left.length + 2) :: left ++ .jump (right.length + 1) :: right
  | .atLeast body 0 greedy =>
      if body.isNullable then optional greedy (loop greedy (steps body))
      else cycle greedy (steps body)
  | .atLeast body (min + 1) greedy => copies min (steps body) ++ loop greedy (steps body)
  | .between body min max greedy =>
      copies min (steps body) ++ optionalCopies greedy (max - min) (steps body)

structure Program where
  code : Array Step
deriving DecidableEq, Repr

def compile (regex : Regex) : Program :=
  ⟨regex.steps.toArray⟩

end TwoWay.Regex
