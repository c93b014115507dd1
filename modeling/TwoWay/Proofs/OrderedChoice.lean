import Mathlib.Order.Bounds.Basic
import TwoWay.Proofs.FurthestPoint
import TwoWay.Proofs.Piecewise

/-!
# Choices are ordered

All branches of a choice are tried at the same cursor, one after another. Three outcomes compete for
the answer: a value, a fault that nothing absorbs, and failures that let the next branch have its
turn. The first branch that does not merely fail decides alone, with a value or with a fault, and the
branches behind it are never seen. If there is none, the choice reports every branch and the furthest
point that any of them has got to.
-/

namespace TwoWay

namespace Branch

/-- What the branch decodes to at the cursor, under its name. -/
def decode (cursor : Cursor) : Branch → Outcome Tagged
  | .mk name body => (body.decodeValue cursor).mapValue (Tagged.mk name)

/-- The branch comes to be tried, since all those before it fail. -/
def IsTried (branches : List Branch) (cursor : Cursor) (branch : Branch) : Prop :=
  ∃ front back, branches = front ++ branch :: back ∧ ∀ earlier ∈ front, earlier.Fails cursor

/-- The cursor itself and the points at which branches report to have failed. -/
def pointsReached (branches : List Branch) (cursor : Cursor) : Set Nat :=
  {offset | offset = cursor.offset ∨
    ∃ branch ∈ branches, ∃ error, branch.decode cursor = .fail error ∧ error.offset = offset}

variable {branches : List Branch} {branch : Branch} {cursor : Cursor}

theorem decode_eq_fail_iff {shape : Shape} {name : String} {body : Grammar shape}
    {error : DecodeError} :
    (Branch.mk name body).decode cursor = .fail error ↔ body.decode cursor = .fail error := by
  rw [decode, Grammar.decodeValue]
  cases body.decode cursor with
  | ok decoded => simp [Outcome.mapValue, Outcome.fail, Except.map]
  | error fault => simp [Outcome.fail]

theorem fails_iff : branch.Fails cursor ↔ (branch.decode cursor).IsAbsorbed := by
  obtain ⟨name, body⟩ := branch
  simp only [Outcome.IsAbsorbed, decode_eq_fail_iff]
  rfl

theorem exists_isTried_of_not_all_fail (hsome : ¬ ∀ branch ∈ branches, branch.Fails cursor) :
    ∃ branch, IsTried branches cursor branch ∧ ¬ branch.Fails cursor := by
  induction branches with
  | nil => exact absurd (List.forall_mem_nil _) hsome
  | cons first rest ih =>
      by_cases hfirst : first.Fails cursor
      · have hrest : ¬ ∀ branch ∈ rest, branch.Fails cursor := by
          intro hall
          exact hsome (List.forall_mem_cons.2 ⟨hfirst, hall⟩)
        obtain ⟨branch, ⟨front, back, rfl, hfront⟩, hbranch⟩ := ih hrest
        exact ⟨branch, ⟨first :: front, back, rfl, List.forall_mem_cons.2 ⟨hfirst, hfront⟩⟩,
          hbranch⟩
      · exact ⟨first, ⟨[], rest, rfl, List.forall_mem_nil _⟩, hfirst⟩

theorem IsTried.append (htried : IsTried branches cursor branch) (more : List Branch) :
    IsTried (branches ++ more) cursor branch := by
  obtain ⟨front, back, rfl, hfront⟩ := htried
  exact ⟨front, back ++ more, by simp, hfront⟩

end Branch

namespace Grammar

variable {branches : List Branch} {cursor : Cursor}

/-- The first branch that does not fail decides, whatever stands behind it. -/
theorem decode_choice_of_isTried {branch : Branch} (htried : Branch.IsTried branches cursor branch)
    (hbranch : ¬ branch.Fails cursor) :
    (choice branches).decode cursor = branch.decode cursor := by
  obtain ⟨front, back, rfl, hfront⟩ := htried
  obtain ⟨name, body⟩ := branch
  obtain ⟨furthest, hdecode⟩ := decodeBranches_append hfront (.mk name body :: back)
    (Branch.names (front ++ .mk name body :: back)) cursor.offset
  rw [decode, hdecode, decodeBranches_of_not_fails hbranch, Branch.decode, decodeValue,
    Outcome.mapValue_mapValue]
  rfl

theorem decode_choice_of_all_fail (hall : ∀ branch ∈ branches, branch.Fails cursor) :
    ∃ furthest, (choice branches).decode cursor =
      .fail (.alternativesExhausted cursor.offset furthest (Branch.names branches)) := by
  obtain ⟨furthest, hdecode⟩ :=
    decodeBranches_append hall [] (Branch.names branches) cursor.offset
  rw [List.append_nil] at hdecode
  exact ⟨furthest, hdecode⟩

theorem all_fail_of_isAbsorbed (habsorbed : ((choice branches).decode cursor).IsAbsorbed) :
    ∀ branch ∈ branches, branch.Fails cursor := by
  by_contra hsome
  obtain ⟨branch, htried, hbranch⟩ := Branch.exists_isTried_of_not_all_fail hsome
  rw [decode_choice_of_isTried htried hbranch] at habsorbed
  exact hbranch (Branch.fails_iff.2 habsorbed)

/-- An outcome that does not let others have a turn is that of the branch that decides. -/
theorem decode_choice_eq_iff {outcome : Outcome Tagged} (houtcome : ¬ outcome.IsAbsorbed) :
    (choice branches).decode cursor = outcome ↔
      ∃ branch, Branch.IsTried branches cursor branch ∧ branch.decode cursor = outcome := by
  constructor
  · intro hdecode
    by_cases hall : ∀ branch ∈ branches, branch.Fails cursor
    · obtain ⟨furthest, hexhausted⟩ := decode_choice_of_all_fail hall
      rw [← hdecode, hexhausted] at houtcome
      exact absurd ⟨_, rfl, rfl⟩ houtcome
    · obtain ⟨branch, htried, hbranch⟩ := Branch.exists_isTried_of_not_all_fail hall
      exact ⟨branch, htried, (decode_choice_of_isTried htried hbranch).symm.trans hdecode⟩
  · rintro ⟨branch, htried, rfl⟩
    apply decode_choice_of_isTried htried
    rwa [Branch.fails_iff]

theorem decode_choice_append (hdecides : ¬ ((choice branches).decode cursor).IsAbsorbed)
    (more : List Branch) :
    (choice (branches ++ more)).decode cursor = (choice branches).decode cursor := by
  obtain ⟨branch, htried, hbranch⟩ := (decode_choice_eq_iff hdecides).1 rfl
  exact (decode_choice_eq_iff hdecides).2 ⟨branch, htried.append more, hbranch⟩

/-! ### The report of a choice that fails -/

theorem isGreatest_pointsReached {error : DecodeError}
    (hdecode : (choice branches).decode cursor = .fail error) (hmild : error.isFatal = false) :
    IsGreatest (Branch.pointsReached branches cursor) error.offset := by
  rw [decode] at hdecode
  obtain ⟨hstart, hbranches⟩ := le_offset_of_decodeBranches hmild hdecode
  constructor
  · rcases offset_of_decodeBranches hmild hdecode with hoffset | ⟨branch, hmem, hreached⟩
    · exact .inl hoffset
    · obtain ⟨name, body⟩ := branch
      obtain ⟨failure, hbody, -, hoffset⟩ := hreached
      exact .inr ⟨_, hmem, failure, Branch.decode_eq_fail_iff.2 hbody, hoffset⟩
  · rintro offset (rfl | ⟨branch, hmem, failure, hfailure, rfl⟩)
    · exact hstart
    · obtain ⟨name, body⟩ := branch
      obtain ⟨reached, hbody, -, hle⟩ := hbranches _ hmem
      have hsame := (Branch.decode_eq_fail_iff.1 hfailure).symm.trans hbody
      cases hsame
      exact hle

theorem decode_choice_eq_fail_iff {error : DecodeError} (hmild : error.isFatal = false) :
    (choice branches).decode cursor = .fail error ↔
      (∀ branch ∈ branches, branch.Fails cursor) ∧
        ∃ furthest, IsGreatest (Branch.pointsReached branches cursor) furthest ∧
          error = .alternativesExhausted cursor.offset furthest (Branch.names branches) := by
  constructor
  · intro hdecode
    have hall := all_fail_of_isAbsorbed ⟨error, hdecode, hmild⟩
    obtain ⟨furthest, hexhausted⟩ := decode_choice_of_all_fail hall
    have hgreatest := isGreatest_pointsReached hexhausted rfl
    rw [hexhausted] at hdecode
    cases hdecode
    exact ⟨hall, furthest, hgreatest, rfl⟩
  · rintro ⟨hall, furthest, hgreatest, rfl⟩
    obtain ⟨reached, hexhausted⟩ := decode_choice_of_all_fail hall
    have hsame : reached = furthest := (isGreatest_pointsReached hexhausted rfl).unique hgreatest
    rw [hexhausted, hsame]

/-- **A choice is ordered, and its report is exact.** A value comes from the first branch that does
not fail, and so does a fault that nothing absorbs, unchanged. Otherwise all branches fail, and the
choice reports where it stands, the names of all branches in order, and the furthest of the cursor
and the points that they have got to. More branches at the end change neither a value nor such a
fault. -/
theorem decode_choice_ordered (branches : List Branch) (cursor : Cursor) :
    (∀ tagged next, (choice branches).decode cursor = .ok ⟨tagged, next⟩ ↔
      ∃ branch, Branch.IsTried branches cursor branch ∧
        branch.decode cursor = .ok ⟨tagged, next⟩) ∧
    (∀ fault : Fault DecodeError, fault.recoverable? = none →
      ((choice branches).decode cursor = .error fault ↔
        ∃ branch, Branch.IsTried branches cursor branch ∧
          branch.decode cursor = .error fault)) ∧
    (∀ error : DecodeError, error.isFatal = false →
      ((choice branches).decode cursor = .fail error ↔
        (∀ branch ∈ branches, branch.Fails cursor) ∧
          ∃ furthest, IsGreatest (Branch.pointsReached branches cursor) furthest ∧
            error = .alternativesExhausted cursor.offset furthest (Branch.names branches))) ∧
    ∀ more, ((∃ decoded, (choice branches).decode cursor = .ok decoded) ∨
        ∃ fault, (choice branches).decode cursor = .error fault ∧ fault.recoverable? = none) →
      (choice (branches ++ more)).decode cursor = (choice branches).decode cursor := by
  refine ⟨?_, ?_, fun _ => decode_choice_eq_fail_iff, ?_⟩
  · intro tagged next
    apply decode_choice_eq_iff
    rintro ⟨error, hfail, -⟩
    cases hfail
  · intro fault hfatal
    apply decode_choice_eq_iff
    intro habsorbed
    exact habsorbed.ne_fault hfatal rfl
  · rintro more (⟨decoded, hdecode⟩ | ⟨fault, hdecode, hfatal⟩)
    · apply decode_choice_append
      rintro ⟨error, hfail, -⟩
      rw [hdecode] at hfail
      cases hfail
    · apply decode_choice_append
      intro habsorbed
      exact habsorbed.ne_fault hfatal hdecode

/-- A repetition that stands still comes before the numbers and behind the words. -/
def marks : List Branch :=
  [.mk "word" Statement.identifierLeaf, .mk "gaps" (.repeated false Primitive.maybeWhitespace),
    .mk "number" Statement.integerLeaf]

/-- At a digit the fault of the second branch wins over the number, and more branches change
nothing. At a letter the same fault is not seen. Where a declaration is broken off, the report goes
as far as the equals sign that the declaration lacks, beyond the one that the assignment lacks. -/
theorem decode_choice_ordered_marks :
    (∀ more, (choice (marks ++ more)).decode (.start "7") = .fail (.zeroWidthRepetition 0)) ∧
      (∃ branch, Branch.IsTried marks (.start "a7") branch ∧
        branch.decode (.start "a7") = .ok ⟨⟨"word", .str "a7"⟩, .between ['a', '7'] []⟩) ∧
      Statement.statement.decode (.start "let x;") =
        .fail (.alternativesExhausted 0 5 ["let", "set"]) ∧
      IsGreatest (Branch.pointsReached Statement.statementBranches (.start "let x;")) 5 := by
  have hdigit : (choice marks).decode (.start "7") = .fail (.zeroWidthRepetition 0) := rfl
  have hbroken : (choice Statement.statementBranches).decode (.start "let x;") =
      .fail (.alternativesExhausted 0 5 ["let", "set"]) := rfl
  refine ⟨fun more => ?_, ?_, hbroken, ?_⟩
  · exact ((decode_choice_ordered marks _).2.2.2 more (.inr ⟨_, hdigit, rfl⟩)).trans hdigit
  · exact ((decode_choice_ordered marks _).1 _ _).1 rfl
  · obtain ⟨-, furthest, hgreatest, hreport⟩ :=
      ((decode_choice_ordered _ _).2.2.1 _ rfl).1 hbroken
    cases hreport
    exact hgreatest

end Grammar

end TwoWay
