import TwoWay.Grammar.Decode
import TwoWay.Proofs.Parts
import TwoWay.Scan

/-!
# Decoding stays inside its text

A decoder moves by byte counts, and a count may come from a regular expression, from the length of
a literal, or from a scanning function that answers anything at all. A step is taken only where the
count ends between two characters of the text, so a decoder never overruns. The invariant is that
every cursor it reaches lies in the same text as the one it started from, and not before it. Each
way to put decoders together carries the invariant from its parts to the whole.
-/

namespace TwoWay

namespace Cursor

/-- The later cursor lies in the same text, behind some further characters or none. -/
def LeadsTo (cursor later : Cursor) : Prop :=
  ∃ passed, later.before = cursor.before ++ passed ∧ cursor.after = passed ++ later.after

theorem LeadsTo.refl (cursor : Cursor) : cursor.LeadsTo cursor :=
  ⟨[], by simp, by simp⟩

theorem LeadsTo.trans {cursor middle later : Cursor} (hfirst : cursor.LeadsTo middle)
    (hsecond : middle.LeadsTo later) : cursor.LeadsTo later := by
  obtain ⟨first, hbefore, hafter⟩ := hfirst
  obtain ⟨second, hbefore', hafter'⟩ := hsecond
  exact ⟨first ++ second, by simp [hbefore', hbefore], by simp [hafter, hafter']⟩

theorem leadsTo_of_advance {cursor next : Cursor} {count : Nat}
    (hadvance : cursor.advance count = .ok next) : cursor.LeadsTo next := by
  obtain ⟨front, hafter, hbefore, _⟩ := advance_eq_ok_iff.1 hadvance
  exact ⟨front, hbefore, hafter⟩

theorem LeadsTo.source_eq {cursor later : Cursor} (hleads : cursor.LeadsTo later) :
    later.source = cursor.source := by
  obtain ⟨passed, hbefore, hafter⟩ := hleads
  simp [source, hbefore, hafter]

theorem LeadsTo.offset_le {cursor later : Cursor} (hleads : cursor.LeadsTo later) :
    cursor.offset ≤ later.offset := by
  obtain ⟨passed, hbefore, _⟩ := hleads
  rw [offset_eq_byteLength, offset_eq_byteLength, hbefore, Text.byteLength_append]
  exact Nat.le_add_right _ _

theorem offset_le_utf8ByteSize (cursor : Cursor) : cursor.offset ≤ cursor.source.utf8ByteSize := by
  rw [← Text.byteLength_toList, source, String.toList_ofList, Text.byteLength_append,
    offset_eq_byteLength]
  exact Nat.le_add_right _ _

theorem isValid_offset (cursor : Cursor) :
    (String.Pos.Raw.mk cursor.offset).IsValid cursor.source := by
  rw [String.Pos.Raw.isValid_iff_exists_append]
  refine ⟨String.ofList cursor.before, String.ofList cursor.after, ?_, ?_⟩
  · rw [source, String.ofList_append]
  · rw [offset_eq_byteLength, ← String.toList_ofList (l := cursor.before), Text.byteLength_toList]
    simp [String.rawEndPos]

theorem LeadsTo.consumedSince? {cursor later : Cursor} (hleads : cursor.LeadsTo later) :
    ∃ consumed, later.consumedSince? cursor = some consumed ∧
      consumed ++ later.remaining = cursor.remaining := by
  obtain ⟨passed, hbefore, hafter⟩ := hleads
  have hlater : cursor.pass passed later.after = later :=
    eq_of_before_of_after (by rw [before_pass, hbefore]) rfl
  refine ⟨String.ofList passed, ?_, ?_⟩
  · rw [← hlater, consumedSince?_pass]
  · rw [remaining, remaining, hafter, String.ofList_append]

end Cursor

/-! ### Where patterns end

A regular expression reads whole characters, and the length that a scanning function answers is
dropped unless it ends between characters. -/

def Pattern.IsChecked : Pattern → Prop
  | .regex .. | .scan .. => True
  | .custom .. => False

theorem Regex.Program.exists_append_of_lengthFrom? {program : Regex.Program} {text : List Char}
    {last : Option Char} {todo : List Nat} {length : Nat}
    (hlength : program.lengthFrom? text last todo = some length) :
    ∃ front back, text = front ++ back ∧ Text.byteLength front = length := by
  induction text generalizing last todo length with
  | nil =>
      rw [lengthFrom?] at hlength
      split at hlength
      · exact ⟨[], [], rfl, by simpa [Text.byteLength] using hlength⟩
      · cases hlength
  | cons c rest ih =>
      rw [lengthFrom?, Option.orElse_eq_or, Option.or_eq_some_iff] at hlength
      rcases hlength with hfurther | ⟨-, hfinished⟩
      · split at hfurther
        · cases hfurther
        · obtain ⟨further, hrest, rfl⟩ := Option.map_eq_some_iff.1 hfurther
          obtain ⟨front, back, rfl, rfl⟩ := ih hrest
          exact ⟨c :: front, back, rfl, rfl⟩
      · split at hfinished
        · exact ⟨[], c :: rest, rfl, by simpa [Text.byteLength] using hfinished⟩
        · cases hfinished

/-- A checked pattern matches a beginning of the text behind the cursor. -/
theorem Pattern.exists_append_of_matchAt {pattern : Pattern} (hchecked : pattern.IsChecked)
    {cursor : Cursor} {count : Nat} (hmatch : pattern.matchAt cursor = some count) :
    ∃ front back, cursor.after = front ++ back ∧ Text.byteLength front = count := by
  cases pattern with
  | regex source program => exact Regex.Program.exists_append_of_lengthFrom? hmatch
  | scan label measure =>
      obtain ⟨-, hsplit⟩ := Option.filter_eq_some_iff.1 hmatch
      obtain ⟨⟨front, back⟩, hsplit⟩ := Option.isSome_iff_exists.1 hsplit
      exact ⟨front, back, Text.splitBytes?_eq_some_iff.1 hsplit⟩
  | custom label measure => exact hchecked.elim

/-! ### One step and many

`StaysWithin` is the invariant for the cursor that a step ends at. -/

/-- The step ends in the same text and not before its start, or fails without an overrun. -/
def StaysWithin (cursor : Cursor) : Except (Fault DecodeError) Cursor → Prop
  | .ok next => cursor.LeadsTo next
  | .error (.error _) => True
  | .error (.overrun _) => False

theorem StaysWithin.of_leadsTo {cursor middle : Cursor} (hleads : cursor.LeadsTo middle)
    {step : Except (Fault DecodeError) Cursor} (hstep : StaysWithin middle step) :
    StaysWithin cursor step := by
  match step with
  | .ok _ => exact hleads.trans hstep
  | .error (.error _) => trivial
  | .error (.overrun _) => exact hstep.elim

theorem staysWithin_expect (cursor : Cursor) (literal : String) :
    StaysWithin cursor (cursor.expect literal) := by
  by_cases hprefix : literal.toList <+: cursor.after
  · obtain ⟨back, hafter⟩ := hprefix
    rw [Cursor.expect_of_append hafter.symm]
    exact Cursor.leadsTo_of_advance (Cursor.advance_byteLength hafter.symm)
  · rw [Cursor.expect_of_not_prefix hprefix]
    trivial

namespace Outcome

variable {α β : Type}

def ending (outcome : Outcome α) : Except (Fault DecodeError) Cursor :=
  outcome.map Decoded.cursor

@[simp]
theorem ending_mapValue (f : α → β) (outcome : Outcome α) :
    (outcome.mapValue f).ending = outcome.ending := by
  cases outcome <;> rfl

theorem staysWithin_optional {outcome : Outcome α} {cursor : Cursor}
    (hstays : StaysWithin cursor outcome.ending) :
    StaysWithin cursor (outcome.optional cursor).ending := by
  match outcome with
  | .ok _ => exact hstays
  | .error fault =>
      simp only [optional]
      split
      · exact Cursor.LeadsTo.refl cursor
      · exact hstays

theorem staysWithin_consuming {item : Cursor → Outcome α}
    (hitem : ∀ cursor, StaysWithin cursor (item cursor).ending) (cursor : Cursor) :
    StaysWithin cursor (consuming item cursor).ending := by
  have hstays := hitem cursor
  simp only [consuming]
  split
  · rename_i decoded hdecoded
    rw [hdecoded] at hstays
    split
    · trivial
    · exact hstays
  · rename_i fault hfault
    rw [hfault] at hstays
    exact hstays

/-- A loop stays within the text if each of its turns does. -/
theorem staysWithin_itemsFrom {attempt : Cursor → Outcome α}
    (hattempt : ∀ cursor, StaysWithin cursor (attempt cursor).ending) (fuel : Nat)
    (cursor : Cursor) : StaysWithin cursor (itemsFrom attempt fuel cursor).ending := by
  induction fuel generalizing cursor with
  | zero => exact Cursor.LeadsTo.refl cursor
  | succ fuel ih =>
      have hstays := hattempt cursor
      rw [itemsFrom]
      split
      · rename_i first hfirst
        rw [hfirst] at hstays
        rw [ending_mapValue]
        exact (ih first.cursor).of_leadsTo hstays
      · rename_i fault hfault
        rw [hfault] at hstays
        split
        · exact Cursor.LeadsTo.refl cursor
        · exact hstays

theorem staysWithin_repetition (nonEmpty : Bool)
    {gap : Cursor → Except (Fault DecodeError) Cursor} {item : Cursor → Outcome α}
    (hgap : ∀ cursor, StaysWithin cursor (gap cursor))
    (hitem : ∀ cursor, StaysWithin cursor (item cursor).ending) (cursor : Cursor) :
    StaysWithin cursor (repetition nonEmpty gap item cursor).ending := by
  have hturn : ∀ here, StaysWithin here (ending ((gap here).bind (consuming item))) := by
    intro here
    have hstays := hgap here
    cases hhere : gap here with
    | ok next =>
        rw [hhere] at hstays
        exact (staysWithin_consuming hitem next).of_leadsTo hstays
    | error fault =>
        rw [hhere] at hstays
        exact hstays
  have hstays := staysWithin_consuming hitem cursor
  rw [repetition]
  split
  · rename_i first hfirst
    rw [hfirst] at hstays
    rw [ending_mapValue]
    exact (staysWithin_itemsFrom hturn _ first.cursor).of_leadsTo hstays
  · rename_i fault hfault
    rw [hfault] at hstays
    split
    · split
      · trivial
      · exact Cursor.LeadsTo.refl cursor
    · exact hstays

end Outcome

theorem Terminal.staysWithin_decode {α : Type} (terminal : Terminal α)
    (hchecked : terminal.pattern.IsChecked) (cursor : Cursor) :
    StaysWithin cursor (terminal.decode cursor).ending := by
  cases hmatch : terminal.pattern.matchAt cursor with
  | none =>
      rw [Terminal.decode, hmatch]
      trivial
  | some count =>
      obtain ⟨front, back, hafter, rfl⟩ := Pattern.exists_append_of_matchAt hchecked hmatch
      rw [Terminal.decode_of_matchAt hafter hmatch]
      split
      · exact Cursor.leadsTo_of_advance (Cursor.advance_byteLength hafter)
      · trivial

namespace Grammar

def LeafChecked : {shape : Shape} → Grammar shape → Prop
  | _, .terminal leaf => leaf.pattern.IsChecked
  | _, .named .. | _, .optional _ | _, .repeated .. | _, .separated .. | _, .template _
  | _, .choice _ | _, .erased _ => True

/-- All terminals use regular expressions or scanning functions. -/
def Checked {shape : Shape} (grammar : Grammar shape) : Prop :=
  grammar.Everywhere LeafChecked

def DecodesWithin {shape : Shape} (grammar : Grammar shape) : Prop :=
  ∀ cursor, StaysWithin cursor (grammar.decode cursor).ending

theorem staysWithin_decodeElements {elements : List Element}
    (hparts : ∀ element ∈ elements, element.PartIs DecodesWithin) (cursor : Cursor)
    (record : Record) : StaysWithin cursor (decodeElements elements cursor record).ending := by
  induction elements generalizing cursor record with
  | nil => exact Cursor.LeadsTo.refl cursor
  | cons element rest ih =>
      obtain ⟨hpart, hrest⟩ := List.forall_mem_cons.1 hparts
      cases element with
      | literal text =>
          have hstays := staysWithin_expect cursor text
          rw [decodeElements]
          split
          · rename_i next hnext
            rw [hnext] at hstays
            exact (ih hrest next record).of_leadsTo hstays
          · rename_i fault hfault
            rw [hfault] at hstays
            exact hstays
      | field name part =>
          have hstays := hpart cursor
          rw [decodeElements]
          split
          · rename_i decoded hdecoded
            rw [hdecoded] at hstays
            exact (ih hrest decoded.cursor _).of_leadsTo hstays
          · rename_i fault hfault
            rw [hfault] at hstays
            exact hstays
      | skip part =>
          have hstays := hpart cursor
          rw [decodeElements]
          split
          · rename_i decoded hdecoded
            rw [hdecoded] at hstays
            exact (ih hrest decoded.cursor _).of_leadsTo hstays
          · rename_i fault hfault
            rw [hfault] at hstays
            exact hstays

theorem staysWithin_decodeBranches {branches : List Branch}
    (hbodies : ∀ branch ∈ branches, branch.BodyIs DecodesWithin) (cursor : Cursor)
    (tried : List String) (furthest : Nat) :
    StaysWithin cursor (decodeBranches branches cursor tried furthest).ending := by
  induction branches generalizing furthest with
  | nil => trivial
  | cons branch rest ih =>
      obtain ⟨hbody, hrest⟩ := List.forall_mem_cons.1 hbodies
      obtain ⟨name, body⟩ := branch
      have hstays := hbody cursor
      rw [decodeBranches]
      split
      · rename_i decoded hdecoded
        rw [hdecoded] at hstays
        exact hstays
      · rename_i fault hfault
        rw [hfault] at hstays
        split
        · exact ih hrest _
        · exact hstays

theorem decodesWithin {shape : Shape} (grammar : Grammar shape) (hchecked : grammar.Checked) :
    grammar.DecodesWithin := by
  induction grammar with
  | terminal leaf => exact leaf.staysWithin_decode hchecked
  | named name inner ih => exact ih hchecked.2
  | optional inner ih => exact fun cursor => Outcome.staysWithin_optional (ih hchecked.2 cursor)
  | repeated nonEmpty item ih =>
      exact Outcome.staysWithin_repetition nonEmpty Cursor.LeadsTo.refl (ih hchecked.2)
  | separated nonEmpty item separator ih ihSeparator =>
      exact Outcome.staysWithin_repetition nonEmpty (ihSeparator hchecked.2.2) (ih hchecked.2.1)
  | template elements ih =>
      have hparts := (everywhereElements_iff LeafChecked elements).1 hchecked.2
      intro cursor
      exact staysWithin_decodeElements
        (fun element hmem => (ih element hmem).mp (hparts element hmem)) cursor .empty
  | choice branches ih =>
      have hbodies := (everywhereBranches_iff LeafChecked branches).1 hchecked.2
      intro cursor
      exact staysWithin_decodeBranches
        (fun branch hmem => (ih branch hmem).mp (hbodies branch hmem)) cursor _ _
  | erased inner ih =>
      intro cursor
      rw [decode, Outcome.ending_mapValue]
      exact ih hchecked.2 cursor

/-- **Decoding stays inside the text.** Whatever the scanning functions answer, a decoder started at
a cursor of a text never overruns it, and a decoder that succeeds ends at a character boundary of
the same text, behind the text that it has consumed. -/
theorem decode_inside_text {shape : Shape} (grammar : Grammar shape) (hchecked : grammar.Checked)
    (text : String) (cursor : Cursor)
    (hcursor : cursor = .start text ∨ ∃ offset, Cursor.at? text offset = some cursor) :
    (∀ overrun, grammar.decode cursor ≠ .error (.overrun overrun)) ∧
      ∀ value next, grammar.decode cursor = .ok ⟨value, next⟩ →
        next.source = text ∧ (String.Pos.Raw.mk next.offset).IsValid text ∧
        cursor.offset ≤ next.offset ∧ next.offset ≤ text.utf8ByteSize ∧
        ∃ consumed, next.consumedSince? cursor = some consumed ∧
          consumed ++ next.remaining = cursor.remaining := by
  have hsource : cursor.source = text := by
    rcases hcursor with rfl | ⟨offset, hat⟩
    · simp [Cursor.start, Cursor.source]
    · exact (Cursor.at?_eq_some_iff.1 hat).1
  have hstays := grammar.decodesWithin hchecked cursor
  constructor
  · intro overrun hoverrun
    rw [hoverrun] at hstays
    exact hstays
  · intro value next hdecode
    rw [hdecode] at hstays
    have hleads : cursor.LeadsTo next := hstays
    have hnext : next.source = text := hleads.source_eq.trans hsource
    refine ⟨hnext, ?_, hleads.offset_le, ?_, hleads.consumedSince?⟩
    · exact hnext ▸ next.isValid_offset
    · exact hnext ▸ next.offset_le_utf8ByteSize

def bytePairs : Grammar (.list (.scalar .text)) :=
  .repeated false (@terminal .text ⟨.scan "two bytes" (Scan.bytes 2), .text, none, none⟩)

/-- The accented letter has two bytes and is taken. The count that leaves the text behind it is
dropped, and the decoder ends there. -/
theorem decode_inside_text_bytePairs :
    bytePairs.Checked ∧ Cursor.at? "aéb" 1 = some (.between ['a'] ['é', 'b']) ∧
      bytePairs.decode (.between ['a'] ['é', 'b']) = .ok ⟨["é"], .between ['a', 'é'] ['b']⟩ ∧
      ∃ consumed, (Cursor.between ['a', 'é'] ['b']).consumedSince? (.between ['a'] ['é', 'b']) =
          some consumed ∧
        consumed ++ (Cursor.between ['a', 'é'] ['b']).remaining =
          (Cursor.between ['a'] ['é', 'b']).remaining := by
  have hchecked : bytePairs.Checked := ⟨trivial, trivial⟩
  have hat : Cursor.at? "aéb" 1 = some (.between ['a'] ['é', 'b']) := by decide
  have hdecode : bytePairs.decode (.between ['a'] ['é', 'b']) =
      .ok ⟨["é"], .between ['a', 'é'] ['b']⟩ := rfl
  have hinside := decode_inside_text bytePairs hchecked "aéb" _ (.inr ⟨1, hat⟩)
  exact ⟨hchecked, hat, hdecode, (hinside.2 _ _ hdecode).2.2.2.2⟩

end Grammar

end TwoWay
