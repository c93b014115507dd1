import TwoWay.Proofs.Loop

/-!
# Decoding looks only ahead

Cursors and errors carry offsets from the start of the whole text, yet a decoder sees no more of the
text than what follows its cursor. So the same decoding takes place wherever that text stands: with
more text put in front of the cursor, every offset in the outcome grows by the length of that text,
and nothing else changes. Offsets are compared in three places, for the furthest failure of a
choice, for an item that takes no text, and in the look back at a match, and each of these compares
offsets that have moved alike. Patterns that are given the whole text are left out.
-/

namespace TwoWay

/-! ### Moving cursors and errors -/

namespace Cursor

/-- The same place, with more text in front of the source. -/
def prepend (front : List Char) (cursor : Cursor) : Cursor where
  passed := cursor.passed ++ front.reverse
  after := cursor.after
  offset := cursor.offset + Text.byteLength front
  offset_eq := by rw [Text.byteLength_append, Text.byteLength_reverse, cursor.offset_eq]

@[simp]
theorem after_prepend (front : List Char) (cursor : Cursor) :
    (cursor.prepend front).after = cursor.after := rfl

@[simp]
theorem before_prepend (front : List Char) (cursor : Cursor) :
    (cursor.prepend front).before = front ++ cursor.before := by
  simp [prepend, before]

@[simp]
theorem offset_prepend (front : List Char) (cursor : Cursor) :
    (cursor.prepend front).offset = cursor.offset + Text.byteLength front := rfl

theorem pass_prepend (front : List Char) (cursor : Cursor) (next back : List Char) :
    (cursor.prepend front).pass next back = (cursor.pass next back).prepend front :=
  eq_of_before_of_after (by simp) rfl

/-- Every cursor is the start of what follows it, behind what comes before it. -/
theorem prepend_start (cursor : Cursor) :
    (start cursor.remaining).prepend cursor.before = cursor := by
  refine eq_of_before_of_after ?_ ?_
  · rw [before_prepend, start, before_between, List.append_nil]
  · rw [after_prepend, start, after_between, remaining, String.toList_ofList]

end Cursor

namespace DecodeError

/-- The error at another place: its offsets and those of its source are moved by a distance. -/
def shift (distance : Nat) : DecodeError → DecodeError
  | .patternMismatch offset expected => .patternMismatch (offset + distance) expected
  | .conversion offset text message => .conversion (offset + distance) text message
  | .literalMismatch literal offset => .literalMismatch literal (offset + distance)
  | .alternativesExhausted offset furthest tried =>
      .alternativesExhausted (offset + distance) (furthest + distance) tried
  | .repetitionTooFew offset source => .repetitionTooFew (offset + distance) (source.shift distance)
  | .zeroWidthRepetition offset => .zeroWidthRepetition (offset + distance)
  | .trailingInput offset remaining => .trailingInput (offset + distance) remaining

@[simp]
theorem offset_shift (distance : Nat) (error : DecodeError) :
    (error.shift distance).offset = error.offset + distance := by
  induction error with
  | repetitionTooFew offset source ih => exact ih
  | _ => rfl

@[simp]
theorem isFatal_shift (distance : Nat) (error : DecodeError) :
    (error.shift distance).isFatal = error.isFatal := by
  cases error <;> rfl

end DecodeError

theorem Fault.recoverable?_map_shift (distance : Nat) (fault : Fault DecodeError) :
    (fault.map (.shift distance)).recoverable? =
      fault.recoverable?.map (.shift distance) := by
  cases fault with
  | overrun step => rfl
  | error error =>
      simp only [map, recoverable?, DecodeError.isFatal_shift]
      split <;> rfl

def Decoded.prepend {α : Type} (front : List Char) (decoded : Decoded α) : Decoded α :=
  ⟨decoded.value, decoded.cursor.prepend front⟩

/-- The result of a computation as it is with more text in front. -/
def relocate {α : Type} (front : List Char) (move : α → α) :
    Except (Fault DecodeError) α → Except (Fault DecodeError) α
  | .ok result => .ok (move result)
  | .error fault => .error (fault.map (.shift (Text.byteLength front)))

/-- Text in front of the cursor only moves what the step leads to. -/
def StepsAhead (front : List Char) (step : Cursor → Except (Fault DecodeError) Cursor) : Prop :=
  ∀ cursor, step (cursor.prepend front) = relocate front (.prepend front) (step cursor)

/-- Text in front of the cursor only moves the outcome. -/
def LooksAhead {α : Type} (front : List Char) (decode : Cursor → Outcome α) : Prop :=
  ∀ cursor, decode (cursor.prepend front) = relocate front (.prepend front) (decode cursor)

variable {front : List Char}

theorem stepsAhead_expect (literal : String) :
    StepsAhead front fun cursor => cursor.expect literal := by
  intro cursor
  by_cases hprefix : literal.toList <+: cursor.after
  · obtain ⟨back, hafter⟩ := hprefix
    have hmoved : (cursor.prepend front).after = literal.toList ++ back := hafter.symm
    simp only [Cursor.expect_of_append hafter.symm, Cursor.expect_of_append hmoved,
      Cursor.pass_prepend, relocate]
  · have hmoved : ¬ literal.toList <+: (cursor.prepend front).after := hprefix
    simp only [Cursor.expect_of_not_prefix hprefix, Cursor.expect_of_not_prefix hmoved,
      relocate, Fault.map, DecodeError.shift, Cursor.offset_prepend]

/-! ### Terminals -/

theorem Pattern.matchAt_prepend {pattern : Pattern} (hchecked : pattern.IsChecked)
    (cursor : Cursor) : pattern.matchAt (cursor.prepend front) = pattern.matchAt cursor := by
  cases pattern with
  | regex source program => rfl
  | scan label measure => rfl
  | custom label measure => exact hchecked.elim

theorem Terminal.looksAhead {α : Type} (terminal : Terminal α)
    (hchecked : terminal.pattern.IsChecked) : LooksAhead front terminal.decode := by
  intro cursor
  have hsame : terminal.pattern.matchAt (cursor.prepend front) = terminal.pattern.matchAt cursor :=
    Pattern.matchAt_prepend hchecked cursor
  cases hmatch : terminal.pattern.matchAt cursor with
  | none =>
      rw [hmatch] at hsame
      simp only [Terminal.decode, hmatch, hsame, Outcome.fail, relocate, Fault.map,
        DecodeError.shift, Cursor.offset_prepend]
  | some count =>
      obtain ⟨next, back, hafter, rfl⟩ := Pattern.exists_append_of_matchAt hchecked hmatch
      have hmoved : (cursor.prepend front).after = next ++ back := hafter
      rw [Terminal.decode_of_matchAt hafter hmatch,
        Terminal.decode_of_matchAt hmoved (hsame.trans hmatch), Cursor.pass_prepend]
      cases terminal.conversion.read (String.ofList next) <;> rfl

/-! ### Options and repetitions -/

namespace Outcome

variable {α β : Type}

theorem mapValue_relocate (f : α → β) (outcome : Outcome α) :
    mapValue f (relocate front (.prepend front) outcome) =
      relocate front (.prepend front) (outcome.mapValue f) := by
  cases outcome <;> rfl

theorem looksAhead_mapValue {decode : Cursor → Outcome α} (hdecode : LooksAhead front decode)
    (f : α → β) : LooksAhead front fun cursor => (decode cursor).mapValue f := by
  intro cursor
  dsimp only
  rw [hdecode cursor, mapValue_relocate]

theorem looksAhead_optional {decode : Cursor → Outcome α} (hdecode : LooksAhead front decode) :
    LooksAhead front fun cursor => (decode cursor).optional cursor := by
  intro cursor
  dsimp only
  rw [hdecode cursor]
  cases decode cursor with
  | ok decoded => rfl
  | error fault =>
      simp only [relocate, optional, Fault.recoverable?_map_shift]
      cases fault.recoverable? <;> rfl

/-- Whether an item takes text is told from two offsets that move alike. -/
theorem looksAhead_consuming {item : Cursor → Outcome α} (hitem : LooksAhead front item) :
    LooksAhead front (consuming item) := by
  intro cursor
  simp only [consuming, hitem cursor]
  cases item cursor with
  | error fault => rfl
  | ok decoded =>
      simp only [relocate, Decoded.prepend, Cursor.offset_prepend, Nat.add_right_cancel_iff]
      split <;> rfl

theorem stepsAhead_ending {decode : Cursor → Outcome α} (hdecode : LooksAhead front decode) :
    StepsAhead front fun cursor => (decode cursor).ending := by
  intro cursor
  dsimp only
  rw [hdecode cursor]
  cases decode cursor <;> rfl

theorem looksAhead_turn {gap : Cursor → Except (Fault DecodeError) Cursor}
    {item : Cursor → Outcome α} (hgap : StepsAhead front gap) (hitem : LooksAhead front item) :
    LooksAhead front (turn gap item) := by
  intro cursor
  simp only [turn, hgap cursor]
  cases gap cursor with
  | error fault => rfl
  | ok start => exact looksAhead_consuming hitem start

theorem looksAhead_itemsFrom {attempt : Cursor → Outcome α} (hattempt : LooksAhead front attempt)
    (fuel : Nat) : LooksAhead front (itemsFrom attempt fuel) := by
  induction fuel with
  | zero => exact fun _ => rfl
  | succ fuel ih =>
      intro cursor
      have hmoved := hattempt cursor
      cases hhere : attempt cursor with
      | ok first =>
          rw [hhere] at hmoved
          rw [itemsFrom_of_ok hhere, itemsFrom_of_ok hmoved, ← mapValue_relocate]
          exact congrArg (mapValue _) (ih first.cursor)
      | error fault =>
          rw [hhere] at hmoved
          have hrecover := fault.recoverable?_map_shift (Text.byteLength front)
          cases hfatal : fault.recoverable? with
          | none =>
              rw [hfatal] at hrecover
              rw [itemsFrom_of_fault hhere hfatal, itemsFrom_of_fault hmoved hrecover]
              rfl
          | some error =>
              rw [hfatal] at hrecover
              rw [itemsFrom_of_recoverable hhere hfatal, itemsFrom_of_recoverable hmoved hrecover]
              rfl

/-- The text behind the first item is the same, and so is the fuel for the others. -/
theorem looksAhead_repetition {gap : Cursor → Except (Fault DecodeError) Cursor}
    {item : Cursor → Outcome α} (nonEmpty : Bool) (hgap : StepsAhead front gap)
    (hitem : LooksAhead front item) : LooksAhead front (repetition nonEmpty gap item) := by
  intro cursor
  have hmoved := looksAhead_consuming hitem cursor
  cases hhere : consuming item cursor with
  | ok first =>
      rw [hhere] at hmoved
      rw [repetition_of_first nonEmpty hhere, repetition_of_first nonEmpty hmoved,
        ← mapValue_relocate]
      exact congrArg (mapValue _)
        (looksAhead_itemsFrom (looksAhead_turn hgap hitem) _ first.cursor)
  | error fault =>
      rw [hhere] at hmoved
      have hrecover := fault.recoverable?_map_shift (Text.byteLength front)
      cases hfatal : fault.recoverable? with
      | none =>
          rw [hfatal] at hrecover
          rw [repetition_of_fault nonEmpty hhere hfatal,
            repetition_of_fault nonEmpty hmoved hrecover]
          rfl
      | some error =>
          rw [hfatal] at hrecover
          rw [repetition_of_recoverable nonEmpty hhere hfatal,
            repetition_of_recoverable nonEmpty hmoved hrecover]
          cases nonEmpty <;> rfl

end Outcome

/-! ### Grammars -/

namespace Grammar

def DecodesAhead (front : List Char) {shape : Shape} (grammar : Grammar shape) : Prop :=
  LooksAhead front grammar.decode

theorem looksAhead_decodeElements {elements : List Element}
    (hparts : ∀ element ∈ elements, element.PartIs (DecodesAhead front)) (record : Record) :
    LooksAhead front fun cursor => decodeElements elements cursor record := by
  induction elements generalizing record with
  | nil => exact fun _ => rfl
  | cons element rest ih =>
      obtain ⟨hpart, hrest⟩ := List.forall_mem_cons.1 hparts
      intro cursor
      cases element with
      | literal text =>
          have hmoved : (cursor.prepend front).expect text =
              relocate front (.prepend front) (cursor.expect text) := stepsAhead_expect text cursor
          dsimp only
          rw [decodeElements, decodeElements, hmoved]
          cases cursor.expect text with
          | error fault => rfl
          | ok next => exact ih hrest record next
      | @field shape name part =>
          have hmoved := hpart cursor
          dsimp only
          rw [decodeElements, decodeElements, hmoved]
          cases part.decode cursor with
          | error fault => rfl
          | ok decoded =>
              exact ih hrest (record.set name (shape.toValue decoded.value)) decoded.cursor
      | skip part =>
          have hmoved := hpart cursor
          dsimp only
          rw [decodeElements, decodeElements, hmoved]
          cases part.decode cursor with
          | error fault => rfl
          | ok decoded => exact ih hrest record decoded.cursor

/-- How far the branches got moves with the cursor, since the maximum of moved offsets is the moved
maximum. -/
theorem decodeBranches_prepend {branches : List Branch}
    (hbodies : ∀ branch ∈ branches, branch.BodyIs (DecodesAhead front)) (cursor : Cursor)
    (tried : List String) (furthest : Nat) :
    decodeBranches branches (cursor.prepend front) tried (furthest + Text.byteLength front) =
      relocate front (.prepend front) (decodeBranches branches cursor tried furthest) := by
  induction branches generalizing furthest with
  | nil => rfl
  | cons branch rest ih =>
      obtain ⟨name, body⟩ := branch
      obtain ⟨hbody, hrest⟩ := List.forall_mem_cons.1 hbodies
      have hmoved := hbody cursor
      rw [decodeBranches, decodeBranches, hmoved]
      cases body.decode cursor with
      | ok decoded => rfl
      | error fault =>
          simp only [relocate, Fault.recoverable?_map_shift]
          cases fault.recoverable? with
          | none => rfl
          | some error =>
              simp only [Option.map_some, DecodeError.offset_shift, Nat.add_max_add_right]
              exact ih hrest _

/-- **Wherever its text stands, a grammar decodes it alike.** By induction on the grammar. -/
theorem decodesAhead {shape : Shape} (grammar : Grammar shape) (hchecked : grammar.Checked) :
    grammar.DecodesAhead front := by
  induction grammar with
  | terminal leaf => exact leaf.looksAhead hchecked
  | named name inner ih => exact ih hchecked.2
  | optional inner ih => exact Outcome.looksAhead_optional (ih hchecked.2)
  | repeated nonEmpty item ih =>
      exact Outcome.looksAhead_repetition nonEmpty (fun _ => rfl) (ih hchecked.2)
  | separated nonEmpty item separator ih ihSeparator =>
      exact Outcome.looksAhead_repetition nonEmpty
        (Outcome.stepsAhead_ending (ihSeparator hchecked.2.2)) (ih hchecked.2.1)
  | template elements ih =>
      have hparts := (everywhereElements_iff LeafChecked elements).1 hchecked.2
      exact looksAhead_decodeElements
        (fun element hmem => (ih element hmem).mp (hparts element hmem)) .empty
  | choice branches ih =>
      have hbodies := (everywhereBranches_iff LeafChecked branches).1 hchecked.2
      intro cursor
      exact decodeBranches_prepend
        (fun branch hmem => (ih branch hmem).mp (hbodies branch hmem)) cursor _ cursor.offset
  | erased inner ih => exact Outcome.looksAhead_mapValue (ih hchecked.2) _

/-- **Decoding depends on nothing but the text that is left.** At an offset of a text, a decoder
does what it does at the start of the rest of the text: it yields the same value and ends before the
same text, or fails with the same error. All offsets are greater by the offset of its start. -/
theorem decode_from_remaining {shape : Shape} (grammar : Grammar shape)
    (hchecked : grammar.Checked) (text : String) (offset : Nat) (cursor : Cursor)
    (hcursor : Cursor.at? text offset = some cursor) :
    match grammar.decode (.start cursor.remaining) with
    | .ok ⟨value, last⟩ =>
        ∃ next, grammar.decode cursor = .ok ⟨value, next⟩ ∧ next.source = text ∧
          next.offset = last.offset + offset ∧ next.remaining = last.remaining
    | .error (.error error) => grammar.decode cursor = .error (.error (error.shift offset))
    | .error (.overrun _) => False := by
  obtain ⟨hsource, rfl⟩ := Cursor.at?_eq_some_iff.1 hcursor
  have hahead : LooksAhead cursor.before grammar.decode := grammar.decodesAhead hchecked
  have hahead := hahead (.start cursor.remaining)
  rw [Cursor.prepend_start] at hahead
  have hlength := cursor.offset_eq_byteLength
  cases hrest : grammar.decode (.start cursor.remaining) with
  | ok decoded =>
      rw [hrest] at hahead
      have hleads : cursor.LeadsTo (decoded.cursor.prepend cursor.before) := by
        have hstays := grammar.decodesWithin hchecked cursor
        rwa [hahead] at hstays
      refine ⟨decoded.cursor.prepend cursor.before, hahead, hleads.source_eq.trans hsource, ?_, rfl⟩
      rw [Cursor.offset_prepend, hlength]
  | error fault =>
      rw [hrest] at hahead
      cases fault with
      | error error => rw [hahead, relocate, Fault.map, hlength]
      | overrun step =>
          have hstays := grammar.decodesWithin hchecked (.start cursor.remaining)
          rwa [hrest] at hstays

/-- Operands of assignments back to back, at least one of them. -/
def operands : Grammar (.list .tagged) :=
  .repeated true Statement.operand

/-- There is no operand behind the letter of two bytes, and none in the same text on its own. The
offsets differ by two, also those of the failure inside the failure. -/
theorem decode_from_remaining_operands :
    operands.Checked ∧ Cursor.at? "é?" 2 = some (.between ['é'] ['?']) ∧
      operands.decode (.start "?") =
        .fail (.repetitionTooFew 0 (.alternativesExhausted 0 0 ["int", "str"])) ∧
      operands.decode (.between ['é'] ['?']) =
        .fail (.repetitionTooFew 2 (.alternativesExhausted 2 2 ["int", "str"])) := by
  have hchecked : operands.Checked := ⟨trivial, trivial, trivial, trivial, trivial⟩
  have hcursor : Cursor.at? "é?" 2 = some (.between ['é'] ['?']) := by decide
  have hstart : operands.decode (.start "?") =
      .fail (.repetitionTooFew 0 (.alternativesExhausted 0 0 ["int", "str"])) := rfl
  have hmoved := decode_from_remaining operands hchecked "é?" 2 _ hcursor
  rw [show (Cursor.between ['é'] ['?']).remaining = "?" from rfl, hstart] at hmoved
  exact ⟨hchecked, hcursor, hstart, hmoved⟩

end Grammar

end TwoWay
