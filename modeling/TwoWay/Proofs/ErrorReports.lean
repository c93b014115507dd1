import TwoWay.Proofs.Encodability

/-!
# What the errors of decoding report

An error carries offsets, a text or the names of branches, and the error of a repetition carries the
one that it stopped at. Errors are put together at different levels, some with the offset where an
attempt began and some with the one that it reached. All of them are reports about the text and the
grammar that can be checked: they point into the text behind the start, a literal that was missed is
not there, a text that was refused is there, and the branches that were tried are those of a choice
in the grammar. The invariant is that an error is true of the text and lies at a place that the
start leads to. It passes from a part to the whole, whichever construct the part belongs to.
-/

namespace TwoWay

namespace DecodeError

/-- The error, the source of it, the source of that, and so on. -/
def causes : DecodeError → List DecodeError
  | .repetitionTooFew offset source => .repetitionTooFew offset source :: source.causes
  | .patternMismatch offset expected => [.patternMismatch offset expected]
  | .conversion offset text message => [.conversion offset text message]
  | .literalMismatch literal offset => [.literalMismatch literal offset]
  | .alternativesExhausted offset furthest tried => [.alternativesExhausted offset furthest tried]
  | .zeroWidthRepetition offset => [.zeroWidthRepetition offset]
  | .trailingInput offset remaining => [.trailingInput offset remaining]

/-- What the error says of the text, and of the names of branches that may have been tried, is so.
Decoding a part never finds fault with the text that is left behind it. -/
def Holds (known : List String → Prop) (text : String) : DecodeError → Prop
  | .patternMismatch _ _ | .zeroWidthRepetition _ => True
  | .conversion offset refused _ =>
      ∃ place, Cursor.at? text offset = some place ∧ refused.toList <+: place.after
  | .literalMismatch literal offset =>
      ∃ place, Cursor.at? text offset = some place ∧ ¬ literal.toList <+: place.after
  | .alternativesExhausted offset furthest tried => offset ≤ furthest ∧ known tried
  | .repetitionTooFew offset source => source.isFatal = false ∧ offset ≤ source.offset
  | .trailingInput _ _ => False

end DecodeError

variable {known : List String → Prop}

/-- The offset is that of a place that the cursor leads to. -/
def Cursor.Reaches (cursor : Cursor) (offset : Nat) : Prop :=
  ∃ place, cursor.LeadsTo place ∧ place.offset = offset

theorem Cursor.reaches_self (cursor : Cursor) : cursor.Reaches cursor.offset :=
  ⟨cursor, .refl cursor, rfl⟩

theorem Cursor.LeadsTo.reaches {cursor middle : Cursor} (hleads : cursor.LeadsTo middle)
    {offset : Nat} (hreaches : middle.Reaches offset) : cursor.Reaches offset := by
  obtain ⟨place, hplace, hoffset⟩ := hreaches
  exact ⟨place, hleads.trans hplace, hoffset⟩

/-- The error lies behind the cursor, and it and all its sources are true of the cursor's text. -/
structure DecodeError.Truthful (known : List String → Prop) (cursor : Cursor)
    (error : DecodeError) : Prop where
  reached : cursor.Reaches error.offset
  holds : ∀ cause ∈ error.causes, cause.Holds known cursor.source

namespace DecodeError.Truthful

theorem of_leadsTo {cursor middle : Cursor} {error : DecodeError}
    (htruthful : error.Truthful known middle) (hleads : cursor.LeadsTo middle) :
    error.Truthful known cursor :=
  ⟨hleads.reaches htruthful.reached, hleads.source_eq ▸ htruthful.holds⟩

theorem tooFew {cursor : Cursor} {error : DecodeError} (htruthful : error.Truthful known cursor)
    (hfatal : error.isFatal = false) :
    (repetitionTooFew cursor.offset error).Truthful known cursor := by
  refine ⟨htruthful.reached, List.forall_mem_cons.2 ⟨⟨hfatal, ?_⟩, htruthful.holds⟩⟩
  obtain ⟨place, hleads, hoffset⟩ := htruthful.reached
  exact hoffset ▸ hleads.offset_le

end DecodeError.Truthful

/-- If the computation fails, then with an error that is true. -/
def FailsTruthfully {α : Type} (known : List String → Prop) (cursor : Cursor)
    (result : Except (Fault DecodeError) α) : Prop :=
  ∀ error, result = .error (.error error) → error.Truthful known cursor

theorem failsTruthfully_ok {α : Type} (cursor : Cursor) (result : α) :
    FailsTruthfully known cursor (.ok result) :=
  fun _ herror => nomatch herror

/-! ### Literals and terminals -/

theorem Cursor.at?_source (cursor : Cursor) :
    Cursor.at? cursor.source cursor.offset = some cursor :=
  Cursor.at?_eq_some_iff.2 ⟨rfl, rfl⟩

theorem failsTruthfully_expect (cursor : Cursor) (literal : String) :
    FailsTruthfully known cursor (cursor.expect literal) := by
  intro error herror
  by_cases hprefix : literal.toList <+: cursor.after
  · obtain ⟨back, hafter⟩ := hprefix
    rw [Cursor.expect_of_append hafter.symm] at herror
    cases herror
  · rw [Cursor.expect_of_not_prefix hprefix] at herror
    cases herror
    refine ⟨cursor.reaches_self, List.forall_mem_singleton.2 ?_⟩
    exact ⟨cursor, cursor.at?_source, hprefix⟩

theorem Terminal.failsTruthfully_decode {α : Type} (terminal : Terminal α) (cursor : Cursor) :
    FailsTruthfully known cursor (terminal.decode cursor) := by
  intro error herror
  have hstep := terminal.decodesTo cursor
  rw [herror] at hstep
  cases hstep with
  | mismatch => exact ⟨cursor.reaches_self, List.forall_mem_singleton.2 trivial⟩
  | @refused front back hafter message =>
      refine ⟨cursor.reaches_self, List.forall_mem_singleton.2 ⟨cursor, cursor.at?_source, ?_⟩⟩
      rw [String.toList_ofList, hafter]
      exact List.prefix_append front back

/-! ### Options and repetitions -/

namespace Outcome

variable {α β : Type}

theorem failsTruthfully_mapValue {outcome : Outcome α} {cursor : Cursor}
    (htruthful : FailsTruthfully known cursor outcome) (f : α → β) :
    FailsTruthfully known cursor (outcome.mapValue f) := by
  intro error herror
  cases outcome with
  | ok decoded => cases herror
  | error fault =>
      cases herror
      exact htruthful error rfl

theorem failsTruthfully_ending {outcome : Outcome α} {cursor : Cursor}
    (htruthful : FailsTruthfully known cursor outcome) :
    FailsTruthfully known cursor outcome.ending :=
  fun error herror => htruthful error (ending_eq_error_iff.1 herror)

theorem failsTruthfully_optional {outcome : Outcome α} {cursor : Cursor}
    (htruthful : FailsTruthfully known cursor outcome) :
    FailsTruthfully known cursor (outcome.optional cursor) := by
  intro error herror
  cases outcome with
  | ok decoded => cases herror
  | error fault =>
      simp only [optional] at herror
      split at herror
      · cases herror
      · cases herror
        exact htruthful error rfl

theorem failsTruthfully_consuming {item : Cursor → Outcome α}
    (hitem : ∀ start, FailsTruthfully known start (item start)) (start : Cursor) :
    FailsTruthfully known start (consuming item start) := by
  intro error herror
  rcases consuming_eq_error_iff.1 herror with hfail | ⟨-, hidle⟩
  · exact hitem start error hfail
  · cases hidle
    exact ⟨start.reaches_self, List.forall_mem_singleton.2 trivial⟩

/-- A repetition fails with a report of its own on the error of its first item, or with the error of
an item or a gap, at a place that the start leads to. -/
theorem failsTruthfully_repetition {gap : Cursor → Except (Fault DecodeError) Cursor}
    {item : Cursor → Outcome α}
    (hgapMoves : ∀ here start, gap here = .ok start → here.LeadsTo start)
    (hitemMoves : ∀ start next, (item start).ending = .ok next → start.LeadsTo next)
    (hgap : ∀ here, FailsTruthfully known here (gap here))
    (hitem : ∀ start, FailsTruthfully known start (item start)) (nonEmpty : Bool)
    (cursor : Cursor) : FailsTruthfully known cursor (repetition nonEmpty gap item cursor) := by
  intro error herror
  rcases @repetition_cases _ gap item nonEmpty cursor with
    ⟨items, last, hitems, -⟩ | ⟨source, hfew, hsource, hfatal⟩ | ⟨fault, hfault, -, horigin⟩
  · rw [hitems] at herror
    cases herror
  · rw [hfew] at herror
    cases herror
    exact (failsTruthfully_consuming hitem cursor source hsource).tooFew hfatal
  · rw [hfault] at herror
    cases herror
    rcases horigin with ⟨start, htries, hraised⟩ | ⟨here, hlooks, hraised⟩
    · exact (failsTruthfully_consuming hitem start error hraised).of_leadsTo
        (htries.leadsTo hgapMoves hitemMoves)
    · exact (hgap here error hraised).of_leadsTo (hlooks.leadsTo hgapMoves hitemMoves)

end Outcome

/-! ### Grammars -/

namespace Grammar

def KnowsNames (known : List String → Prop) : {shape : Shape} → Grammar shape → Prop
  | _, .choice branches => known (Branch.names branches)
  | _, .terminal _ | _, .named .. | _, .optional _ | _, .repeated .. | _, .separated ..
  | _, .template _ | _, .erased _ => True

def DecodesTruthfully (known : List String → Prop) {shape : Shape} (grammar : Grammar shape) :
    Prop :=
  ∀ cursor, FailsTruthfully known cursor (grammar.decode cursor)

theorem failsTruthfully_attempt {element : Element}
    (hpart : element.PartIs (DecodesTruthfully known)) (place : Cursor) :
    FailsTruthfully known place (element.attempt place).ending := by
  cases element with
  | literal text => exact failsTruthfully_expect place text
  | field name part => exact Outcome.failsTruthfully_ending (hpart place)
  | skip part => exact Outcome.failsTruthfully_ending (hpart place)

/-- The furthest failure of the branches tried so far is a place behind the cursor, and the names
belong to all of them. -/
theorem failsTruthfully_decodeBranches {branches : List Branch}
    (hbodies : ∀ branch ∈ branches, branch.BodyIs (DecodesTruthfully known)) (cursor : Cursor)
    {tried : List String} (htried : known tried) {furthest : Nat}
    (hfurthest : cursor.Reaches furthest) :
    FailsTruthfully known cursor (decodeBranches branches cursor tried furthest) := by
  induction branches generalizing furthest with
  | nil =>
      rintro error ⟨⟩
      obtain ⟨place, hleads, hoffset⟩ := hfurthest
      refine ⟨⟨place, hleads, hoffset⟩, List.forall_mem_singleton.2 ⟨?_, htried⟩⟩
      exact hoffset ▸ hleads.offset_le
  | cons branch rest ih =>
      obtain ⟨name, body⟩ := branch
      obtain ⟨hbody, hrest⟩ := List.forall_mem_cons.1 hbodies
      have htruthful := hbody cursor
      rw [decodeBranches]
      cases hdecode : body.decode cursor with
      | ok decoded => exact failsTruthfully_ok cursor _
      | error fault =>
          cases hrecover : fault.recoverable? with
          | none =>
              simp only [hrecover]
              rintro error ⟨⟩
              exact htruthful error hdecode
          | some failure =>
              obtain ⟨rfl, -⟩ := Fault.recoverable?_eq_some_iff.1 hrecover
              simp only [hrecover]
              apply ih hrest
              rcases Nat.le_total furthest failure.offset with hle | hle
              · rw [Nat.max_eq_right hle]
                exact (htruthful failure hdecode).reached
              · rwa [Nat.max_eq_left hle]

/-- **Errors are true.** By induction on the grammar, if the names of its choices are known. -/
theorem decodesTruthfully {shape : Shape} (grammar : Grammar shape)
    (hnames : grammar.Everywhere (KnowsNames known)) : grammar.DecodesTruthfully known := by
  induction grammar with
  | terminal leaf => exact leaf.failsTruthfully_decode
  | named name inner ih => exact ih hnames.2
  | optional inner ih =>
      exact fun cursor => Outcome.failsTruthfully_optional (ih hnames.2 cursor)
  | repeated nonEmpty item ih =>
      have hloop := Loops.repeated nonEmpty item
      exact Outcome.failsTruthfully_repetition hloop.gap_leadsTo item.movesOn
        (fun here => failsTruthfully_ok here here) (ih hnames.2) nonEmpty
  | separated nonEmpty item separator ih ihSeparator =>
      exact Outcome.failsTruthfully_repetition separator.movesOn item.movesOn
        (fun here => Outcome.failsTruthfully_ending (ihSeparator hnames.2.2 here))
        (ih hnames.2.1) nonEmpty
  | template elements ih =>
      have hparts := (everywhereElements_iff (KnowsNames known) elements).1 hnames.2
      intro cursor error herror
      rw [decode] at herror
      rcases decodeElements_cases elements cursor .empty with
        ⟨record, place, hok, -⟩ | ⟨front, element, back, place, fault, rfl, hpass, hfault, hfail⟩
      · rw [hok] at herror
        cases herror
      · rw [hfail] at herror
        cases herror
        have hmem : element ∈ front ++ element :: back := by simp
        have hpart := (ih element hmem).mp (hparts element hmem)
        exact (failsTruthfully_attempt hpart place error hfault).of_leadsTo
          (hpass.leadsTo fun element _ => element.movesOn)
  | choice branches ih =>
      have hbodies := (everywhereBranches_iff (KnowsNames known) branches).1 hnames.2
      intro cursor
      exact failsTruthfully_decodeBranches
        (fun branch hmem => (ih branch hmem).mp (hbodies branch hmem)) cursor hnames.1
        cursor.reaches_self
  | erased inner ih =>
      exact fun cursor => Outcome.failsTruthfully_mapValue (ih hnames.2 cursor) _

/-! ### The choices of a grammar -/

/-- The names are those of the branches of a choice in the grammar: there is one, none is empty and
no two are the same. -/
def OffersNames {shape : Shape} (grammar : Grammar shape) (names : List String) : Prop :=
  (∃ branches, (choice branches).Within grammar ∧ names = Branch.names branches) ∧
    names ≠ [] ∧ (∀ name ∈ names, name ≠ "") ∧ names.Nodup

theorem names_of_accepted {branches : List Branch} (haccepted : (choice branches).Accepted) :
    Branch.names branches ≠ [] ∧ (∀ name ∈ Branch.names branches, name ≠ "") ∧
      (Branch.names branches).Nodup := by
  obtain ⟨hsome, hcheck⟩ := accepted_choice_iff.1 haccepted
  have hfresh := Branch.check_eq_ok_iff.1 hcheck
  exact ⟨by simpa [Branch.names] using hsome, hfresh.nonEmpty, hfresh.nodup⟩

theorem Built.everywhere_offersNames {shape : Shape} {grammar : Grammar shape}
    (hbuilt : grammar.Built) : grammar.Everywhere (KnowsNames grammar.OffersNames) := by
  refine everywhere_iff_within.2 fun part hwithin => ?_
  cases part with
  | choice branches =>
      exact ⟨⟨branches, hwithin, rfl⟩, names_of_accepted (everywhere_iff_within.1 hbuilt _ hwithin)⟩
  | _ => trivial

/-- **Errors tell the truth about the text.** Where decoding a built grammar fails, it fails with an
error whose offset lies between the start and the end of the text, at a character boundary. The
error and its sources are true: a refused text stands at its offset and a missed literal does not,
the names tried are those of a choice in the grammar, an error inside another one is not fatal and
lies no further back, and none is about text that is left over. -/
theorem decode_error_truthful {shape : Shape} (grammar : Grammar shape) (hbuilt : grammar.Built)
    (hchecked : grammar.Checked) (text : String) (start : Nat) (cursor : Cursor)
    (hcursor : Cursor.at? text start = some cursor) (fault : Fault DecodeError)
    (hfault : grammar.decode cursor = .error fault) :
    ∃ error, fault = .error error ∧ start ≤ error.offset ∧ error.offset ≤ text.utf8ByteSize ∧
      (String.Pos.Raw.mk error.offset).IsValid text ∧
      ∀ cause ∈ error.causes, cause.Holds grammar.OffersNames text := by
  obtain ⟨rfl, rfl⟩ := Cursor.at?_eq_some_iff.1 hcursor
  cases fault with
  | overrun step => exact absurd hfault (hchecked.ne_overrun cursor step)
  | error error =>
      obtain ⟨⟨place, hleads, hoffset⟩, hholds⟩ :=
        grammar.decodesTruthfully hbuilt.everywhere_offersNames cursor error hfault
      have hsource := hleads.source_eq
      refine ⟨error, rfl, ?_⟩
      rw [← hoffset]
      exact ⟨hleads.offset_le, hsource ▸ place.offset_le_utf8ByteSize,
        hsource ▸ place.isValid_offset, hholds⟩

/-- At least one statement. -/
def someStatements : Grammar (.list .tagged) :=
  .repeated true Statement.statement

def operandMissing : DecodeError :=
  .repetitionTooFew 2 (.alternativesExhausted 2 4 ["let", "set"])

/-- An assignment behind a letter of two bytes lacks its operand. The error is about the whole
repetition, and its offset is the furthest that any branch has reached. -/
theorem decode_error_truthful_operandMissing :
    someStatements.Built ∧ someStatements.Checked ∧
      Cursor.at? "én=;" 2 = some (.between ['é'] ['n', '=', ';']) ∧
      someStatements.decode (.between ['é'] ['n', '=', ';']) = .fail operandMissing ∧
      2 ≤ operandMissing.offset ∧ operandMissing.offset ≤ "én=;".utf8ByteSize ∧
      (String.Pos.Raw.mk operandMissing.offset).IsValid "én=;" ∧
      ∀ cause ∈ operandMissing.causes, cause.Holds someStatements.OffersNames "én=;" := by
  have hbuilt : someStatements.Built :=
    ⟨trivial, Statement.buildChoice_statement, Statement.built_declaration,
      Statement.built_assignment, trivial⟩
  have hspace : Primitive.maybeWhitespace.Checked := ⟨trivial, trivial⟩
  have hchecked : someStatements.Checked :=
    ⟨trivial, trivial, ⟨trivial, trivial, trivial, hspace, hspace, trivial, hspace, trivial⟩,
      ⟨trivial, trivial, hspace, hspace, ⟨trivial, trivial, trivial, trivial⟩, hspace, trivial⟩,
      trivial⟩
  have hcursor : Cursor.at? "én=;" 2 = some (.between ['é'] ['n', '=', ';']) := by decide
  have hdecode : someStatements.decode (.between ['é'] ['n', '=', ';']) = .fail operandMissing :=
    rfl
  obtain ⟨error, herror, htruth⟩ :=
    decode_error_truthful someStatements hbuilt hchecked "én=;" 2 _ hcursor _ hdecode
  cases herror
  exact ⟨hbuilt, hchecked, hcursor, hdecode, htruth⟩

end Grammar

end TwoWay
