import TwoWay.Proofs.Attempts

/-!
# Faults that nothing absorbs

Most failures of a part are absorbed: an option is absent, the next branch is tried, a repetition is
over. Two kinds of fault are not. One is the fatal error of a repetition whose item takes no text,
the other is a pattern that claims text which is not there. Such a fault of any attempt is the fault
of the whole decoding, and it always comes from an attempt at which it arose.
-/

namespace TwoWay

theorem Outcome.IsAbsorbed.ne_fault {α : Type} {outcome : Outcome α}
    (habsorbed : outcome.IsAbsorbed) {fault : Fault DecodeError}
    (hfatal : fault.recoverable? = none) : outcome ≠ .error fault := by
  obtain ⟨error, rfl, hrecoverable⟩ := habsorbed
  rintro ⟨⟩
  rw [Fault.recoverable?_eq_some_iff.2 ⟨rfl, hrecoverable⟩] at hfatal
  cases hfatal

/-! ### No fault is lost -/

namespace Attempt

/-- **One step.** A fault that nothing absorbs passes from what is tried to what tries it. -/
theorem Tries.passes_fault {whole tried : Attempt} (htries : whole.Tries tried)
    {fault : Fault DecodeError} (hfatal : fault.recoverable? = none)
    (herror : tried.ending = .error fault) : whole.ending = .error fault := by
  cases htries with
  | named name inner cursor => exact herror
  | optional inner cursor =>
      rcases (inner.decode cursor).ending_optional_cases cursor with hsame | ⟨-, habsorbed⟩
      · exact hsame.trans herror
      · exact absurd (Outcome.ending_eq_error_iff.1 herror) (habsorbed.ne_fault hfatal)
  | erased inner cursor =>
      rw [ending, Grammar.decode, Outcome.ending_mapValue]
      exact herror
  | @element front element back cursor place hpass =>
      obtain ⟨record, hdecode⟩ := Grammar.decodeElements_append hpass (element :: back) .empty
      rw [ending, Grammar.decode, hdecode, Grammar.decodeElements_of_error herror]
      rfl
  | @branch shape front name body back cursor hfront =>
      -- The earlier branches have failed and this one has not, so it decides.
      have hfails : ¬ (Branch.mk name body).Fails cursor := fun hfails =>
        Outcome.IsAbsorbed.ne_fault hfails hfatal (Outcome.ending_eq_error_iff.1 herror)
      obtain ⟨furthest, hdecode⟩ := Grammar.decodeBranches_append hfront (.mk name body :: back)
        (Branch.names (front ++ .mk name body :: back)) cursor.offset
      rw [ending, Grammar.decode, hdecode, Grammar.decodeBranches_of_not_fails hfails,
        Outcome.ending_mapValue]
      exact herror
  | @item shape loop gap item hloop cursor start htries =>
      obtain ⟨nonEmpty, hdecode⟩ := hloop.exists_decode_eq
      have hitem : Outcome.consuming item.decode start = .error fault :=
        Outcome.consuming_eq_error_iff.2 (.inl (Outcome.ending_eq_error_iff.1 herror))
      rw [ending, hdecode, Outcome.ending_eq_error_iff]
      exact Outcome.repetition_of_item_error hloop.gap_leadsTo item.movesOn nonEmpty htries hfatal
        hitem
  | separator nonEmpty item separator hlooks =>
      rw [ending, Grammar.decode, Outcome.ending_eq_error_iff]
      exact Outcome.repetition_of_gap_error separator.movesOn item.movesOn nonEmpty hlooks hfatal
        herror

/-- **All steps.** The fault of any attempt that nothing absorbs is the fault of the whole. -/
theorem Attempts.passes_fault {whole attempt : Attempt} (hattempts : whole.Attempts attempt)
    {fault : Fault DecodeError} (hfatal : fault.recoverable? = none)
    (herror : attempt.ending = .error fault) : whole.ending = .error fault := by
  induction hattempts using Relation.ReflTransGen.head_induction_on with
  | refl => exact herror
  | head htries _ ih => exact htries.passes_fault hfatal ih

/-! ### No fault is invented -/

/-- The fault arises at the attempt: a repetition tries its item where it takes no text, or the
pattern of a terminal claims text that is not there. -/
inductive Raises : Attempt → Fault DecodeError → Prop
  | idle {shape : Shape} {loop : Grammar (.list shape)}
      {gap : Cursor → Except (Fault DecodeError) Cursor} {item : Grammar shape}
      (hloop : loop.Loops gap item) {cursor start : Cursor}
      (htries : Outcome.TriesAt gap item.decode cursor start)
      (hidles : Outcome.Idles item.decode start) :
      Raises (.part loop cursor) (.error (.zeroWidthRepetition start.offset))
  | overrun {kind : Scalar} (leaf : Terminal kind.Carrier) {cursor : Cursor}
      (hmisjudges : leaf.pattern.Misjudges cursor) (step : Overrun) :
      Raises (.part (.terminal leaf) cursor) (.overrun step)

def HasOrigin (whole : Attempt) (fault : Fault DecodeError) : Prop :=
  ∃ origin, whole.Attempts origin ∧ origin.Raises fault

theorem Raises.hasOrigin {whole : Attempt} {fault : Fault DecodeError}
    (hraises : whole.Raises fault) : whole.HasOrigin fault :=
  ⟨whole, .refl, hraises⟩

theorem HasOrigin.of_tries {whole tried : Attempt} {fault : Fault DecodeError}
    (horigin : tried.HasOrigin fault) (htries : whole.Tries tried) : whole.HasOrigin fault := by
  obtain ⟨origin, hattempts, hraises⟩ := horigin
  exact ⟨origin, hattempts.head htries, hraises⟩

end Attempt

namespace Grammar

def TracesFaults {shape : Shape} (grammar : Grammar shape) : Prop :=
  ∀ cursor fault, fault.recoverable? = none → grammar.decode cursor = .error fault →
    (Attempt.part grammar cursor).HasOrigin fault

theorem TracesFaults.of_loop {shape : Shape} {loop : Grammar (.list shape)}
    {gap : Cursor → Except (Fault DecodeError) Cursor} {item : Grammar shape}
    (hloop : loop.Loops gap item) (hitem : item.TracesFaults)
    (hgap : ∀ cursor here fault, fault.recoverable? = none →
      Outcome.LooksAt gap item.decode cursor here → gap here = .error fault →
      (Attempt.part loop cursor).HasOrigin fault) : loop.TracesFaults := by
  intro cursor fault hfatal hdecode
  obtain ⟨nonEmpty, hloops⟩ := hloop.exists_decode_eq
  rw [hloops] at hdecode
  rcases @Outcome.repetition_cases _ gap item.decode nonEmpty cursor with
    ⟨items, last, hitems, -⟩ | ⟨error, hfew, -⟩ | ⟨other, hother, -, horigin⟩
  · rw [hitems] at hdecode
    cases hdecode
  · -- Too few items are an error that others absorb.
    rw [hfew] at hdecode
    cases hdecode
    cases hfatal
  · rw [hother] at hdecode
    cases hdecode
    rcases horigin with ⟨start, htries, hconsuming⟩ | ⟨here, hlooks, herror⟩
    · rcases Outcome.consuming_eq_error_iff.1 hconsuming with herror | ⟨hidles, rfl⟩
      · exact (hitem start _ hfatal herror).of_tries (.item hloop htries)
      · exact (Attempt.Raises.idle hloop htries hidles).hasOrigin
    · exact hgap cursor here _ hfatal hlooks herror

/-- A literal fails only because the text is another one. -/
theorem not_expect_fault {cursor : Cursor} {literal : String} {fault : Fault DecodeError}
    (hfatal : fault.recoverable? = none) : cursor.expect literal ≠ .error fault := by
  intro hexpect
  by_cases hprefix : literal.toList <+: cursor.after
  · obtain ⟨back, hafter⟩ := hprefix
    rw [Cursor.expect_of_append hafter.symm] at hexpect
    cases hexpect
  · rw [Cursor.expect_of_not_prefix hprefix] at hexpect
    cases hexpect
    cases hfatal

/-- **Faults have origins.** By induction on the grammar: a fault that nothing absorbs is raised by
a repetition or by a terminal that was tried. -/
theorem tracesFaults {shape : Shape} (grammar : Grammar shape) : grammar.TracesFaults := by
  induction grammar with
  | terminal leaf =>
      intro cursor fault hfatal hdecode
      rw [decode] at hdecode
      rcases leaf.decode_cases cursor with
        ⟨value, next, hok, -⟩ | habsorbed | ⟨step, hoverrun, hmisjudges⟩
      · rw [hok] at hdecode
        cases hdecode
      · exact absurd hdecode (habsorbed.ne_fault hfatal)
      · rw [hoverrun] at hdecode
        cases hdecode
        exact (Attempt.Raises.overrun leaf hmisjudges step).hasOrigin
  | named name inner ih =>
      intro cursor fault hfatal hdecode
      exact (ih cursor fault hfatal hdecode).of_tries (.named name inner cursor)
  | optional inner ih =>
      intro cursor fault hfatal hdecode
      have hend := Outcome.ending_eq_error_iff.2 hdecode
      rw [decode] at hend
      rcases (inner.decode cursor).ending_optional_cases cursor with hsame | ⟨habsent, -⟩
      · have hinner := Outcome.ending_eq_error_iff.1 (hsame.symm.trans hend)
        exact (ih cursor fault hfatal hinner).of_tries (.optional inner cursor)
      · rw [habsent] at hend
        cases hend
  | repeated nonEmpty item ih =>
      refine TracesFaults.of_loop (.repeated nonEmpty item) ih ?_
      intro cursor here fault _ _ herror
      cases herror
  | separated nonEmpty item separator ih ihSeparator =>
      refine TracesFaults.of_loop (.separated nonEmpty item separator) ih ?_
      intro cursor here fault hfatal hlooks herror
      have hseparator := Outcome.ending_eq_error_iff.1 herror
      exact (ihSeparator here fault hfatal hseparator).of_tries
        (.separator nonEmpty item separator hlooks)
  | template elements ih =>
      intro cursor fault hfatal hdecode
      rw [decode] at hdecode
      rcases decodeElements_cases elements cursor .empty with
        ⟨record, place, hok, -⟩ | ⟨front, element, back, place, other, rfl, hpass, herror, hfail⟩
      · rw [hok] at hdecode
        cases hdecode
      · rw [hfail] at hdecode
        cases hdecode
        have hpart := ih element (by simp)
        have htries := Attempt.Tries.element front element back hpass
        cases element with
        | literal text => exact absurd herror (not_expect_fault hfatal)
        | field name part =>
            exact (hpart place _ hfatal (Outcome.ending_eq_error_iff.1 herror)).of_tries htries
        | skip part =>
            exact (hpart place _ hfatal (Outcome.ending_eq_error_iff.1 herror)).of_tries htries
  | choice branches ih =>
      intro cursor fault hfatal hdecode
      rw [decode] at hdecode
      rcases decodeBranches_cases branches cursor (Branch.names branches) cursor.offset with
        ⟨shape, front, name, body, back, rfl, hfront, hchosen⟩ | ⟨furthest, hexhausted⟩
      · have hbody : (Branch.mk name body).BodyIs TracesFaults := ih _ (by simp)
        have hend := Outcome.ending_eq_error_iff.2 (hchosen.symm.trans hdecode)
        rw [Outcome.ending_mapValue, Outcome.ending_eq_error_iff] at hend
        exact (hbody cursor fault hfatal hend).of_tries (.branch front name body back hfront)
      · rw [hexhausted] at hdecode
        cases hdecode
        cases hfatal
  | erased inner ih =>
      intro cursor fault hfatal hdecode
      have hend := Outcome.ending_eq_error_iff.2 hdecode
      rw [decode, Outcome.ending_mapValue, Outcome.ending_eq_error_iff] at hend
      exact (ih cursor fault hfatal hend).of_tries (.erased inner cursor)

/-- **A fatal error is never lost and never invented.** Whatever is tried while a grammar is
decoded, if one of the attempts reports a repetition without progress, then so does the whole, with
the same offset. And if the whole reports one, then a repetition among the attempts has tried its
item at that offset, and the item has succeeded there without taking any text. -/
theorem zeroWidth_not_lost_not_invented {shape : Shape} (grammar : Grammar shape)
    (cursor : Cursor) :
    (∀ attempt offset, (Attempt.part grammar cursor).Attempts attempt →
      attempt.ending = .error (.error (.zeroWidthRepetition offset)) →
      grammar.decode cursor = .fail (.zeroWidthRepetition offset)) ∧
    ∀ offset, grammar.decode cursor = .fail (.zeroWidthRepetition offset) →
      ∃ (inner : Shape) (loop : Grammar (.list inner))
        (gap : Cursor → Except (Fault DecodeError) Cursor) (item : Grammar inner)
        (here start : Cursor),
        (Attempt.part grammar cursor).Attempts (.part loop here) ∧ loop.Loops gap item ∧
        Outcome.TriesAt gap item.decode here start ∧ Outcome.Idles item.decode start ∧
        start.offset = offset := by
  constructor
  · intro attempt offset hattempts herror
    exact Outcome.ending_eq_error_iff.1 (hattempts.passes_fault rfl herror)
  · intro offset hdecode
    obtain ⟨origin, hattempts, hraises⟩ := grammar.tracesFaults cursor _ rfl hdecode
    cases hraises with
    | idle hloop htries hidles =>
        exact ⟨_, _, _, _, _, _, hattempts, hloop, htries, hidles, rfl⟩

def gaps : Grammar (.list (.optional (.scalar .text))) :=
  .repeated false Primitive.maybeWhitespace

def spacing : Grammar .tagged :=
  .choice [.mk "number" Statement.integerLeaf,
    .mk "gaps" (.template [.literal "(", .field "blanks" (.optional gaps)])]

/-- The gaps lie inside an option, a template and a choice. The first of them takes the space, and
the second takes nothing before the letter. -/
theorem zeroWidth_not_lost_not_invented_spacing :
    (Attempt.part spacing (.start "( x")).Attempts (.part gaps (.between ['('] [' ', 'x'])) ∧
      (Attempt.part gaps (.between ['('] [' ', 'x'])).ending =
        .error (.error (.zeroWidthRepetition 2)) ∧
      spacing.decode (.start "( x") = .fail (.zeroWidthRepetition 2) := by
  have hfront : ∀ earlier ∈ [Branch.mk "number" Statement.integerLeaf],
      earlier.Fails (.start "( x") := by
    intro earlier hmem
    cases List.mem_singleton.1 hmem
    exact ⟨_, rfl, rfl⟩
  have hbranch := Attempt.Tries.branch _ "gaps"
    (.template [.literal "(", .field "blanks" (.optional gaps)]) [] hfront
  have helement : (Attempt.part (.template [.literal "(", .field "blanks" (.optional gaps)])
      (.start "( x")).Tries (.part (.optional gaps) (.between ['('] [' ', 'x'])) :=
    .element [.literal "("] (.field "blanks" (.optional gaps)) [] ⟨_, rfl, rfl⟩
  have hattempts : (Attempt.part spacing (.start "( x")).Attempts
      (.part gaps (.between ['('] [' ', 'x'])) :=
    ((Relation.ReflTransGen.single hbranch).tail helement).tail (.optional gaps _)
  have hgaps : (Attempt.part gaps (.between ['('] [' ', 'x'])).ending =
      .error (.error (.zeroWidthRepetition 2)) := rfl
  exact ⟨hattempts, hgaps, (zeroWidth_not_lost_not_invented spacing _).1 _ _ hattempts hgaps⟩

end Grammar

end TwoWay
