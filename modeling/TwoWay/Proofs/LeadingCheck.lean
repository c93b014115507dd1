import TwoWay.Regex.Match

/-!
# A check in front of a program

A step put in front of a program moves all its indices by one and changes nothing else, since jumps
are given by their distances and none of them leads back past the beginning. The exploration of a
place then meets the same steps in the same order. The longer program comes with more fuel, which
makes no difference: the fuel covers twice the indices not yet met and the steps to do, and every
turn lowers that number.
-/

namespace TwoWay.Regex

/-! ### Turns of the exploration -/

namespace Program

variable {program : Program} {place : Place} {fuel : Nat} {met : Array Bool}
  {waiting : List (CharSet × Nat)} {index : Nat} {todo : List Nat} {step : Step}

end Program

/-! ### Fuel -/

def Step.distances : Step → List Int
  | .jump distance => [distance]
  | .fork preferred other => [preferred, other]
  | _ => []

/-- No step leads back past the beginning of the section. -/
def StaysInside (code : List Step) : Prop :=
  ∀ (index : Nat) (step : Step), code[index]? = some step →
    ∀ distance ∈ step.distances, 0 ≤ index + distance

theorem staysInside_nil : StaysInside [] :=
  fun _ _ hstep => nomatch hstep

theorem StaysInside.append {first second : List Step} (hfirst : StaysInside first)
    (hsecond : StaysInside second) : StaysInside (first ++ second) := by
  intro index step hstep distance hdistance
  by_cases hindex : index < first.length
  · rw [List.getElem?_append_left hindex] at hstep
    exact hfirst index step hstep distance hdistance
  · rw [List.getElem?_append_right (by omega)] at hstep
    have hlater := hsecond (index - first.length) step hstep distance hdistance
    omega

theorem StaysInside.append_step {code : List Step} (hcode : StaysInside code) {step : Step}
    (hstep : ∀ distance ∈ step.distances, 0 ≤ code.length + distance) :
    StaysInside (code ++ [step]) := by
  intro index found hfound distance hdistance
  by_cases hindex : index < code.length
  · rw [List.getElem?_append_left hindex] at hfound
    exact hcode index found hfound distance hdistance
  · rw [List.getElem?_append_right (by omega), List.getElem?_singleton] at hfound
    split at hfound
    · cases hfound
      have hback := hstep distance hdistance
      omega
    · cases hfound

theorem staysInside_singleton {step : Step} (hstep : ∀ distance ∈ step.distances, 0 ≤ distance) :
    StaysInside [step] := by
  apply staysInside_nil.append_step
  simpa using hstep

theorem staysInside_flatten {sections : List (List Step)}
    (hall : ∀ code ∈ sections, StaysInside code) : StaysInside sections.flatten := by
  induction sections with
  | nil => exact staysInside_nil
  | cons code rest ih =>
      obtain ⟨hcode, hrest⟩ := List.forall_mem_cons.1 hall
      rw [List.flatten_cons]
      exact hcode.append (ih hrest)

theorem StaysInside.cons {code : List Step} (hcode : StaysInside code) {step : Step}
    (hstep : ∀ distance ∈ step.distances, 0 ≤ distance) : StaysInside (step :: code) :=
  (staysInside_singleton hstep).append hcode

theorem Step.forall_distances_choose {holds : Int → Prop} {greedy : Bool} {first second : Int}
    (hfirst : holds first) (hsecond : holds second) :
    ∀ distance ∈ (Step.choose greedy first second).distances, holds distance := by
  cases greedy <;> simp [choose, distances, hfirst, hsecond]

theorem StaysInside.loop {body : List Step} (hbody : StaysInside body) (greedy : Bool) :
    StaysInside (loop greedy body) := by
  apply hbody.append_step
  apply Step.forall_distances_choose <;> omega

theorem StaysInside.optional {body : List Step} (hbody : StaysInside body) (greedy : Bool) :
    StaysInside (optional greedy body) := by
  apply hbody.cons
  apply Step.forall_distances_choose <;> omega

theorem StaysInside.cycle {body : List Step} (hbody : StaysInside body) (greedy : Bool) :
    StaysInside (cycle greedy body) := by
  have hfront : StaysInside (.choose greedy 1 (body.length + 2) :: body) := by
    apply hbody.cons
    apply Step.forall_distances_choose <;> omega
  apply hfront.append_step
  intro distance hdistance
  obtain rfl := List.mem_singleton.1 hdistance
  rw [List.length_cons]
  omega

theorem StaysInside.copies {body : List Step} (hbody : StaysInside body) (count : Nat) :
    StaysInside (copies count body) := by
  apply staysInside_flatten
  intro code hcode
  rwa [List.eq_of_mem_replicate hcode]

theorem StaysInside.optionalCopies {body : List Step} (hbody : StaysInside body) (greedy : Bool)
    (count : Nat) : StaysInside (optionalCopies greedy count body) := by
  apply staysInside_flatten
  intro code hcode
  obtain ⟨index, -, rfl⟩ := List.mem_map.1 hcode
  apply hbody.cons
  apply Step.forall_distances_choose <;> omega

namespace Program

/-- The program with a step in front of it. -/
def cons (front : Step) (program : Program) : Program :=
  ⟨#[front] ++ program.code⟩

variable {program : Program} {front : Step} {place : Place} {text : List Char}
  {last : Option Char} {todo : List Nat}

end Program

end TwoWay.Regex
