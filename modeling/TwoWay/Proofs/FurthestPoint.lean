import TwoWay.Proofs.ErrorReports

/-!
# The furthest point that an error reports

The offset of an error is meant to be the furthest point that any attempt has reached. A part that
fails hands its offset on: a choice reports the furthest of its branches, a template the element
that failed, a repetition the first item. A part that succeeds reports nothing. What has failed
inside it, in an option that is absent, behind the last item of a repetition or in an earlier
branch, is dropped with all it has reached, and the error of a later part may lie further back. So
the promise holds of the failures that no success has dropped, and it fails of the others.
-/

namespace TwoWay

/-! ### Choices keep the furthest failure of their branches -/

namespace Grammar

theorem decodeBranches_of_fail {shape : Shape} {body : Grammar shape} {cursor : Cursor}
    {failure : DecodeError} (hbody : body.decode cursor = .fail failure)
    (hmild : failure.isFatal = false) (name : String) (rest : List Branch) (tried : List String)
    (furthest : Nat) :
    decodeBranches (.mk name body :: rest) cursor tried furthest =
      decodeBranches rest cursor tried (max furthest failure.offset) := by
  have hrecover := Fault.recoverable?_eq_some_iff.2 ⟨rfl, hmild⟩
  simp only [decodeBranches, hbody, Outcome.fail, hrecover]

theorem fails_of_decodeBranches {shape : Shape} {name : String} {body : Grammar shape}
    {rest : List Branch} {cursor : Cursor} {tried : List String} {furthest : Nat}
    {error : DecodeError} (hmild : error.isFatal = false)
    (hdecode : decodeBranches (.mk name body :: rest) cursor tried furthest = .fail error) :
    ∃ failure, body.decode cursor = .fail failure ∧ failure.isFatal = false := by
  by_cases hfails : (Branch.mk name body).Fails cursor
  · exact hfails
  · rw [decodeBranches_of_not_fails hfails] at hdecode
    have hbody := Outcome.ending_eq_error_iff.2 hdecode
    rw [Outcome.ending_mapValue, Outcome.ending_eq_error_iff] at hbody
    exact ⟨error, hbody, hmild⟩

/-- A choice that fails has got as far as each of its branches, and as far as it had got before. -/
theorem le_offset_of_decodeBranches {branches : List Branch} {cursor : Cursor}
    {tried : List String} {furthest : Nat} {error : DecodeError} (hmild : error.isFatal = false)
    (hdecode : decodeBranches branches cursor tried furthest = .fail error) :
    furthest ≤ error.offset ∧ ∀ branch ∈ branches, branch.BodyIs fun body =>
      ∃ failure, body.decode cursor = .fail failure ∧ failure.isFatal = false ∧
        failure.offset ≤ error.offset := by
  induction branches generalizing furthest with
  | nil =>
      cases hdecode
      exact ⟨Nat.le_refl _, List.forall_mem_nil _⟩
  | cons branch rest ih =>
      obtain ⟨name, body⟩ := branch
      obtain ⟨failure, hbody, hfailure⟩ := fails_of_decodeBranches hmild hdecode
      rw [decodeBranches_of_fail hbody hfailure] at hdecode
      obtain ⟨hfurthest, hrest⟩ := ih hdecode
      have hbound := Nat.max_le.1 hfurthest
      exact ⟨hbound.1, List.forall_mem_cons.2 ⟨⟨failure, hbody, hfailure, hbound.2⟩, hrest⟩⟩

/-- It has got no further than the furthest of them. -/
theorem offset_of_decodeBranches {branches : List Branch} {cursor : Cursor} {tried : List String}
    {furthest : Nat} {error : DecodeError} (hmild : error.isFatal = false)
    (hdecode : decodeBranches branches cursor tried furthest = .fail error) :
    error.offset = furthest ∨ ∃ branch ∈ branches, branch.BodyIs fun body =>
      ∃ failure, body.decode cursor = .fail failure ∧ failure.isFatal = false ∧
        failure.offset = error.offset := by
  induction branches generalizing furthest with
  | nil =>
      cases hdecode
      exact .inl rfl
  | cons branch rest ih =>
      obtain ⟨name, body⟩ := branch
      obtain ⟨failure, hbody, hfailure⟩ := fails_of_decodeBranches hmild hdecode
      rw [decodeBranches_of_fail hbody hfailure] at hdecode
      rcases ih hdecode with hmax | ⟨later, hlater, hreached⟩
      · rcases Nat.le_total furthest failure.offset with hle | hle
        · rw [Nat.max_eq_right hle] at hmax
          exact .inr ⟨_, List.mem_cons_self, failure, hbody, hfailure, hmax.symm⟩
        · rw [Nat.max_eq_left hle] at hmax
          exact .inl hmax
      · exact .inr ⟨later, List.mem_cons_of_mem _ hlater, hreached⟩

end Grammar

/-! ### No failure is hidden by another -/

namespace Outcome

variable {α : Type} {gap : Cursor → Except (Fault DecodeError) Cursor} {item : Cursor → Outcome α}
  {cursor : Cursor} {fault : Fault DecodeError}

theorem not_looksAt_of_error (herror : item cursor = .error fault) (here : Cursor) :
    ¬ LooksAt gap item cursor here := by
  rintro ⟨first, ⟨value, hvalue, -⟩, -⟩
  rw [herror] at hvalue
  cases hvalue

theorem TriesAt.eq_of_error {start : Cursor} (htries : TriesAt gap item cursor start)
    (herror : item cursor = .error fault) : start = cursor := by
  rcases htries with hstart | ⟨here, hlooks, -⟩
  · exact hstart
  · exact absurd hlooks (not_looksAt_of_error herror here)

end Outcome

namespace Attempt

/-- The attempt lies inside one that has succeeded, which has dropped its failure, if any. -/
def Drops (whole attempt : Attempt) : Prop :=
  ∃ success next, whole.Attempts success ∧ success.ending = .ok next ∧ success.Attempts attempt

/-- **One step.** An attempt that fails has got at least as far as what it has tried, if that has
failed too. -/
theorem Tries.offset_le {whole tried : Attempt} (htries : whole.Tries tried)
    {error failure : DecodeError} (hmild : error.isFatal = false)
    (hwhole : whole.ending = .error (.error error))
    (hfailure : tried.ending = .error (.error failure)) : failure.offset ≤ error.offset := by
  cases htries with
  | named name inner cursor =>
      have hsame := hfailure.symm.trans hwhole
      cases hsame
      exact Nat.le_refl _
  | optional inner cursor =>
      rcases (inner.decode cursor).ending_optional_cases cursor with hsame | ⟨habsent, -⟩
      · have herror := (hsame.trans hfailure).symm.trans hwhole
        cases herror
        exact Nat.le_refl _
      · have habsurd := habsent.symm.trans hwhole
        cases habsurd
  | erased inner cursor =>
      rw [ending, Grammar.decode, Outcome.ending_mapValue] at hwhole
      have hsame := hfailure.symm.trans hwhole
      cases hsame
      exact Nat.le_refl _
  | @element front element back cursor place hpass =>
      obtain ⟨record, hdecode⟩ := Grammar.decodeElements_append hpass (element :: back) .empty
      rw [ending, Grammar.decode, hdecode, Grammar.decodeElements_of_error hfailure] at hwhole
      cases hwhole
      exact Nat.le_refl _
  | @branch shape front name body back cursor hfront =>
      have hdecode := Outcome.ending_eq_error_iff.1 hwhole
      have hbranches := (Grammar.le_offset_of_decodeBranches hmild hdecode).2
      obtain ⟨reached, hreached, -, hle⟩ := hbranches (.mk name body) (by simp)
      have hsame := (Outcome.ending_eq_error_iff.1 hfailure).symm.trans hreached
      cases hsame
      exact hle
  | @item shape loop gap item hloop cursor start htries =>
      obtain ⟨nonEmpty, hdecode⟩ := hloop.exists_decode_eq
      rw [ending, hdecode, Outcome.ending_eq_error_iff] at hwhole
      obtain ⟨-, source, hsource, -, rfl⟩ := (Outcome.repetition_eq_fail_iff hmild).1 hwhole
      cases htries.eq_of_error hsource
      have hsame := (Outcome.ending_eq_error_iff.1 hfailure).symm.trans hsource
      cases hsame
      exact Nat.le_refl _
  | separator nonEmpty item separator hlooks =>
      rw [ending, Grammar.decode, Outcome.ending_eq_error_iff] at hwhole
      obtain ⟨-, source, hsource, -⟩ := (Outcome.repetition_eq_fail_iff hmild).1 hwhole
      exact absurd hlooks (Outcome.not_looksAt_of_error hsource _)

/-- **All steps.** An attempt that fails, however deep, has got no further than what the whole
reports, unless it lies inside one that has succeeded. -/
theorem Attempts.offset_le_or_drops {whole attempt : Attempt} (hattempts : whole.Attempts attempt)
    {error failure : DecodeError} (hmild : error.isFatal = false)
    (hwhole : whole.ending = .error (.error error))
    (hfailure : attempt.ending = .error (.error failure)) :
    failure.offset ≤ error.offset ∨ whole.Drops attempt := by
  induction hattempts using Relation.ReflTransGen.head_induction_on generalizing error with
  | refl =>
      rw [hfailure] at hwhole
      cases hwhole
      exact .inl (Nat.le_refl _)
  | @head whole middle htries hrest ih =>
      cases hmiddle : middle.ending with
      | ok next => exact .inr ⟨middle, next, .single htries, hmiddle, hrest⟩
      | error fault =>
          cases hrecover : fault.recoverable? with
          | none =>
              -- Nothing absorbs such a fault, and the whole has reported another error.
              have hpassed := htries.passes_fault hrecover hmiddle
              rw [hwhole] at hpassed
              cases hpassed
              rw [Fault.recoverable?_eq_some_iff.2 ⟨rfl, hmild⟩] at hrecover
              cases hrecover
          | some between =>
              obtain ⟨rfl, hbetween⟩ := Fault.recoverable?_eq_some_iff.1 hrecover
              rcases ih hbetween hmiddle with hle | ⟨success, next, hsuccess, hok, hinside⟩
              · exact .inl (Nat.le_trans hle (htries.offset_le hmild hwhole hmiddle))
              · exact .inr ⟨success, next, hsuccess.head htries, hok, hinside⟩

/-! ### The point is one that was reached -/

/-- The attempt is tried, directly or through others, and it and all those others have failed. -/
def Blames : Attempt → Attempt → Prop :=
  Relation.ReflTransGen fun outer inner =>
    outer.Tries inner ∧ ∃ failure, inner.ending = .error (.error failure)

/-- An attempt that tries nothing further, a terminal or a literal, is to blame and has failed at
the offset. -/
def ReachedAt (whole : Attempt) (offset : Nat) : Prop :=
  ∃ leaf failure, whole.Blames leaf ∧ (∀ further, ¬ leaf.Tries further) ∧
    leaf.ending = .error (.error failure) ∧ failure.offset = offset

theorem ReachedAt.of_tries {whole tried : Attempt} {offset : Nat}
    (hreached : tried.ReachedAt offset) (htries : whole.Tries tried) {error : DecodeError}
    (herror : tried.ending = .error (.error error)) : whole.ReachedAt offset := by
  obtain ⟨leaf, failure, hblames, hleaf, hfailure, hoffset⟩ := hreached
  exact ⟨leaf, failure, hblames.head ⟨htries, error, herror⟩, hleaf, hfailure, hoffset⟩

theorem not_tries_of_literal (text : String) (cursor : Cursor) (further : Attempt) :
    ¬ (Attempt.literal text cursor).Tries further := by
  intro htries
  cases htries

theorem not_tries_of_terminal {kind : Scalar} (leaf : Terminal kind.Carrier) (cursor : Cursor)
    (further : Attempt) : ¬ (Attempt.part (.terminal leaf) cursor).Tries further := by
  intro htries
  cases htries

end Attempt

namespace Grammar

/-- A part never reports a point before its start. -/
theorem offset_le_of_decode_fail {shape : Shape} (grammar : Grammar shape) {cursor : Cursor}
    {error : DecodeError} (hdecode : grammar.decode cursor = .fail error) :
    cursor.offset ≤ error.offset := by
  have hnames : grammar.Everywhere (KnowsNames fun _ => True) := by
    refine everywhere_iff_within.2 fun part _ => ?_
    cases part with
    | choice branches => trivial
    | _ => trivial
  obtain ⟨place, hleads, hoffset⟩ := (grammar.decodesTruthfully hnames cursor error hdecode).reached
  exact hoffset ▸ hleads.offset_le

def ReportsReached {shape : Shape} (grammar : Grammar shape) : Prop :=
  ∀ cursor error, grammar.decode cursor = .fail error → error.isFatal = false →
    (Attempt.part grammar cursor).ReachedAt error.offset

theorem ReportsReached.of_loop {shape : Shape} {loop : Grammar (.list shape)}
    {gap : Cursor → Except (Fault DecodeError) Cursor} {item : Grammar shape}
    (hloop : loop.Loops gap item) (hitem : item.ReportsReached) : loop.ReportsReached := by
  intro cursor error hdecode hmild
  obtain ⟨nonEmpty, hloops⟩ := hloop.exists_decode_eq
  rw [hloops] at hdecode
  obtain ⟨-, source, hsource, hfatal, rfl⟩ := (Outcome.repetition_eq_fail_iff hmild).1 hdecode
  exact (hitem cursor source hsource hfatal).of_tries (.item hloop (.inl rfl))
    (Outcome.ending_eq_error_iff.2 hsource)

/-- **The point is reached.** By induction on the grammar: a terminal or a literal has failed at the
offset that the whole reports. -/
theorem reportsReached {shape : Shape} (grammar : Grammar shape) (hbuilt : grammar.Built) :
    grammar.ReportsReached := by
  induction grammar with
  | terminal leaf =>
      intro cursor error hdecode _
      exact ⟨_, error, .refl, Attempt.not_tries_of_terminal leaf cursor,
        Outcome.ending_eq_error_iff.2 hdecode, rfl⟩
  | named name inner ih =>
      intro cursor error hdecode hmild
      exact (ih hbuilt.2 cursor error hdecode hmild).of_tries (.named name inner cursor)
        (Outcome.ending_eq_error_iff.2 hdecode)
  | optional inner ih =>
      intro cursor error hdecode hmild
      have hend := Outcome.ending_eq_error_iff.2 hdecode
      rw [decode] at hend
      rcases (inner.decode cursor).ending_optional_cases cursor with hsame | ⟨habsent, -⟩
      · have hinner := hsame.symm.trans hend
        exact (ih hbuilt.2 cursor error (Outcome.ending_eq_error_iff.1 hinner) hmild).of_tries
          (.optional inner cursor) hinner
      · rw [habsent] at hend
        cases hend
  | repeated nonEmpty item ih =>
      exact ReportsReached.of_loop (.repeated nonEmpty item) (ih hbuilt.2)
  | separated nonEmpty item separator ih _ =>
      exact ReportsReached.of_loop (.separated nonEmpty item separator) (ih hbuilt.2.1)
  | template elements ih =>
      obtain ⟨-, hparts⟩ := hbuilt.template
      intro cursor error hdecode hmild
      rw [decode] at hdecode
      rcases decodeElements_cases elements cursor .empty with
        ⟨record, place, hok, -⟩ | ⟨front, element, back, place, fault, rfl, hpass, herror, hfail⟩
      · rw [hok] at hdecode
        cases hdecode
      · rw [hfail] at hdecode
        cases hdecode
        have hmem : element ∈ front ++ element :: back := by simp
        have hpart := (ih element hmem).mp (hparts element hmem)
        have htries := Attempt.Tries.element front element back hpass
        cases element with
        | literal text =>
            exact ⟨_, error, .single ⟨htries, error, herror⟩,
              Attempt.not_tries_of_literal text place, herror, rfl⟩
        | field name part =>
            have hinner := Outcome.ending_eq_error_iff.1 herror
            exact (hpart place error hinner hmild).of_tries htries herror
        | skip part =>
            have hinner := Outcome.ending_eq_error_iff.1 herror
            exact (hpart place error hinner hmild).of_tries htries herror
  | choice branches ih =>
      obtain ⟨hsome, -⟩ := accepted_choice_iff.1 hbuilt.1
      obtain ⟨-, hbodies⟩ := hbuilt.choice
      intro cursor error hdecode hmild
      rw [decode] at hdecode
      have hbounds := (le_offset_of_decodeBranches hmild hdecode).2
      -- If no branch has got beyond the start, then the first one has failed at the start.
      obtain ⟨branch, hmem, hreached⟩ : ∃ branch ∈ branches, branch.BodyIs fun body =>
          ∃ failure, body.decode cursor = .fail failure ∧ failure.isFatal = false ∧
            failure.offset = error.offset := by
        rcases offset_of_decodeBranches hmild hdecode with hstart | hbranch
        · obtain ⟨⟨name, body⟩, rest, rfl⟩ := List.exists_cons_of_ne_nil hsome
          obtain ⟨failure, hbody, hfailure, hle⟩ := hbounds (.mk name body) List.mem_cons_self
          have hge := body.offset_le_of_decode_fail hbody
          exact ⟨_, List.mem_cons_self, failure, hbody, hfailure, by omega⟩
        · exact hbranch
      obtain ⟨front, back, rfl⟩ := List.append_of_mem hmem
      obtain ⟨name, body⟩ := branch
      obtain ⟨failure, hbody, hfailure, hoffset⟩ := hreached
      have hfront : ∀ earlier ∈ front, earlier.Fails cursor := by
        intro earlier hearlier
        have hbound := hbounds earlier (List.mem_append_left _ hearlier)
        cases earlier
        obtain ⟨other, hother, hothers, -⟩ := hbound
        exact ⟨other, hother, hothers⟩
      have hinner := (ih _ hmem).mp (hbodies _ hmem)
      exact hoffset ▸ (hinner cursor failure hbody hfailure).of_tries
        (.branch front name body back hfront) (Outcome.ending_eq_error_iff.2 hbody)
  | erased inner ih =>
      intro cursor error hdecode hmild
      have hend := Outcome.ending_eq_error_iff.2 hdecode
      rw [decode, Outcome.ending_mapValue] at hend
      exact (ih hbuilt.2 cursor error (Outcome.ending_eq_error_iff.1 hend) hmild).of_tries
        (.erased inner cursor) hend

/-- **The furthest point, but for what successes drop.** Where decoding fails and others may absorb
the error, no attempt has failed beyond the offset of the error, unless it lies inside an attempt
that has succeeded. In a built grammar that offset is one at which a terminal or a literal has
failed, and everything around it with it. -/
theorem offset_furthest_or_dropped {shape : Shape} (grammar : Grammar shape) (cursor : Cursor)
    (error : DecodeError) (hdecode : grammar.decode cursor = .fail error)
    (hmild : error.isFatal = false) :
    (∀ attempt failure, (Attempt.part grammar cursor).Attempts attempt →
      attempt.ending = .error (.error failure) →
      failure.offset ≤ error.offset ∨ (Attempt.part grammar cursor).Drops attempt) ∧
    (grammar.Built → (Attempt.part grammar cursor).ReachedAt error.offset) := by
  constructor
  · intro attempt failure hattempts hfailure
    exact hattempts.offset_le_or_drops hmild (Outcome.ending_eq_error_iff.2 hdecode) hfailure
  · intro hbuilt
    exact grammar.reportsReached hbuilt cursor error hdecode hmild

/-- Numbers in parentheses, with white space between them. -/
def numberGroup : Grammar .record :=
  .template [.literal "(", .field "numbers" (.separated false Statement.integerLeaf
    Statement.whitespaceLeaf), .literal ")"]

theorem built_numberGroup : numberGroup.Built :=
  ⟨rfl, ⟨rfl, trivial, trivial⟩, trivial⟩

/-- The place of the letter in `(1 x)`, where a second number is tried. -/
def letterPlace : Cursor :=
  .between ['(', '1', ' '] ['x', ')']

theorem attempts_secondNumber :
    (Attempt.part numberGroup (.start "(1 x)")).Attempts
      (.part Statement.integerLeaf letterPlace) := by
  have hfield : (Attempt.part numberGroup (.start "(1 x)")).Tries
      (.part (.separated false Statement.integerLeaf Statement.whitespaceLeaf)
        (.between ['('] ['1', ' ', 'x', ')'])) :=
    .element [.literal "("] (.field "numbers" _) [.literal ")"] ⟨_, rfl, rfl⟩
  -- Behind the first number a space is taken, and the second number is tried at the letter.
  have hlooks : Outcome.LooksAt (fun here => (Statement.whitespaceLeaf.decode here).ending)
      Statement.integerLeaf.decode (.between ['('] ['1', ' ', 'x', ')'])
      (.between ['(', '1'] [' ', 'x', ')']) :=
    ⟨_, ⟨1, rfl, by decide⟩, .refl⟩
  exact (Relation.ReflTransGen.single hfield).tail
    (.item (.separated false _ _) (.inr ⟨_, hlooks, rfl⟩))

/-- In `(1 x)` the error is about the parenthesis that is missing behind the number. The second
number was tried beyond it, inside a list of numbers that has succeeded without it. -/
theorem offset_furthest_or_dropped_numberGroup :
    numberGroup.decode (.start "(1 x)") = .fail (.literalMismatch ")" 2) ∧
      (Attempt.part numberGroup (.start "(1 x)")).Drops
        (.part Statement.integerLeaf letterPlace) ∧
      (Attempt.part numberGroup (.start "(1 x)")).ReachedAt 2 := by
  have hdecode : numberGroup.decode (.start "(1 x)") = .fail (.literalMismatch ")" 2) := rfl
  obtain ⟨hfurthest, hreached⟩ := offset_furthest_or_dropped numberGroup _ _ hdecode rfl
  refine ⟨hdecode, ?_, hreached built_numberGroup⟩
  rcases hfurthest _ (.patternMismatch 3 "integer") attempts_secondNumber rfl with hle | hdrops
  · exact absurd hle (by decide)
  · exact hdrops

/-- The furthest point is not always reported: the second number has failed one byte beyond the
offset of the error, which others may absorb. -/
theorem furthest_point_dropped :
    ¬ ∀ (shape : Shape) (grammar : Grammar shape) (cursor : Cursor) (error : DecodeError),
      grammar.Built → grammar.decode cursor = .fail error → error.isFatal = false →
      ∀ attempt failure, (Attempt.part grammar cursor).Attempts attempt →
        attempt.ending = .error (.error failure) → failure.offset ≤ error.offset := by
  intro hclaim
  have hle := hclaim _ numberGroup (.start "(1 x)") (.literalMismatch ")" 2)
    built_numberGroup rfl rfl _ (.patternMismatch 3 "integer") attempts_secondNumber rfl
  exact absurd hle (by decide)

end Grammar

end TwoWay
