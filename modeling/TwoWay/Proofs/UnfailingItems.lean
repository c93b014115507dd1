import TwoWay.Proofs.Encodability
import TwoWay.Proofs.GreedyRepetition

/-!
# Items that cannot fail

A repetition is over where its item fails. An item that never fails, such as an option or another
repetition, gives it no place to end. Each turn takes some text or none, and the text that is left
only gets shorter. So after no more turns than there are bytes the item has to stand still, and the
repetition reports that as a fault of the grammar, on every text. The item may have reported such a
fault of its own before that.
-/

namespace TwoWay

/-- No failure of the grammar lets another attempt follow. -/
def Grammar.NeverFails {shape : Shape} (grammar : Grammar shape) : Prop :=
  ∀ cursor, ¬ (grammar.decode cursor).IsAbsorbed

def Element.NeverFails : Element → Prop
  | .literal text => text = ""
  | .field _ part => part.NeverFails
  | .skip part => part.NeverFails

namespace Outcome

variable {α : Type} {item : Cursor → Outcome α}

/-! ### The turns of a repetition without gaps -/

theorem turn_ok_iff_takes {here next : Cursor} : Turn .ok item here next ↔ Takes item here next := by
  constructor
  · rintro ⟨start, ⟨⟩, htakes⟩
    exact htakes
  · intro htakes
    exact ⟨here, rfl, htakes⟩

theorem LooksAt.reflTransGen {cursor here : Cursor} (hlooks : LooksAt .ok item cursor here) :
    Relation.ReflTransGen (Takes item) cursor here := by
  obtain ⟨first, hfirst, hturns⟩ := hlooks
  exact (hturns.lift id fun _ _ => turn_ok_iff_takes.1).head hfirst

theorem TriesAt.reflTransGen {cursor start : Cursor} (htries : TriesAt .ok item cursor start) :
    Relation.ReflTransGen (Takes item) cursor start := by
  rcases htries with rfl | ⟨here, hlooks, ⟨⟩⟩
  · exact .refl
  · exact hlooks.reflTransGen

theorem Takes.remainingLength_lt
    (hitem : ∀ start next, (item start).ending = .ok next → start.LeadsTo next)
    {here next : Cursor} (htakes : Takes item here next) :
    next.remainingLength < here.remainingLength := by
  obtain ⟨value, hvalue, hmoved⟩ := htakes
  have hleads := hitem here next (ending_eq_ok_iff.2 ⟨value, hvalue⟩)
  have hle := hleads.offset_le
  -- Both cursors lie in one text, so what is taken from the front is missing behind.
  have hlength : next.sourceLength = here.sourceLength := by
    obtain ⟨passed, hbefore, hafter⟩ := hleads
    simp only [Cursor.sourceLength, Cursor.remainingLength, Cursor.offset_eq_byteLength, hbefore,
      hafter, Text.byteLength_append]
    omega
  simp only [Cursor.sourceLength] at hlength
  omega

theorem turns_le_remainingLength
    (hitem : ∀ start next, (item start).ending = .ok next → start.LeadsTo next)
    {places : Nat → Cursor} {count : Nat}
    (hturns : ∀ turn < count, Takes item (places turn) (places (turn + 1))) :
    count + (places count).remainingLength ≤ (places 0).remainingLength := by
  induction count with
  | zero => omega
  | succ count ih =>
      have hearlier := ih fun turn hturn => hturns turn (by omega)
      have hlast := (hturns count (by omega)).remainingLength_lt hitem
      omega

/-! ### A repetition that has no place to end -/

theorem not_stopsAt_of_never (hnever : ∀ cursor, ¬ (item cursor).IsAbsorbed) (index : Nat)
    (place : Cursor) : ¬ StopsAt .ok item index place := by
  have hstart : startAt .ok index place = .ok place := by cases index <;> rfl
  rintro ⟨error, hmild, hgap | ⟨start, -, hfail⟩⟩
  · rw [hstart] at hgap
    cases hgap
  · exact hnever start ⟨error, hfail, hmild⟩

/-- It ends with a fault that nothing absorbs, at a place that its turns come to. -/
theorem repetition_of_never
    (hitem : ∀ start next, (item start).ending = .ok next → start.LeadsTo next)
    (hnever : ∀ cursor, ¬ (item cursor).IsAbsorbed) (nonEmpty : Bool) (cursor : Cursor) :
    ∃ fault place, repetition nonEmpty .ok item cursor = .error fault ∧
      fault.recoverable? = none ∧ Relation.ReflTransGen (Takes item) cursor place ∧
      consuming item place = .error fault := by
  rcases @repetition_cases _ .ok item nonEmpty cursor with
    ⟨items, last, hok, -⟩ | ⟨error, -, hfirst, hmild⟩ |
      ⟨fault, hfault, hfatal, ⟨start, htries, hstart⟩ | ⟨here, -, hgap⟩⟩
  · -- Behind the last item the next attempt would have to fail.
    obtain ⟨-, htakes⟩ := (repetition_eq_ok_iff (Grammar.gap_leadsTo none) hitem).1 hok
    obtain ⟨places, -, -, -, hstops⟩ := takesAll_iff_places.1 htakes
    exact absurd hstops (not_stopsAt_of_never hnever _ last)
  · exact absurd ⟨error, (consuming_eq_fail_iff hmild).1 hfirst, hmild⟩ (hnever cursor)
  · exact ⟨fault, start, hfault, hfatal, htries.reflTransGen, hstart⟩
  · cases hgap

end Outcome

namespace Grammar

/-! ### Grammars that never fail -/

theorem neverFails_optional {shape : Shape} (inner : Grammar shape) :
    (optional inner).NeverFails := by
  rintro cursor ⟨error, hfail, hmild⟩
  rw [decode] at hfail
  cases hinner : inner.decode cursor with
  | ok decoded =>
      rw [hinner] at hfail
      cases hfail
  | error fault =>
      rw [hinner] at hfail
      cases hrecover : fault.recoverable? with
      | some absorbed =>
          simp only [Outcome.optional, hrecover] at hfail
          cases hfail
      | none =>
          simp only [Outcome.optional, hrecover] at hfail
          cases hfail
          rw [Fault.recoverable?_eq_some_iff.2 ⟨rfl, hmild⟩] at hrecover
          cases hrecover

theorem neverFails_repetition {shape : Shape} (item : Grammar shape)
    (separator : Option (Sigma Grammar)) : (repetition false item separator).NeverFails := by
  rintro cursor ⟨error, hfail, hmild⟩
  rw [decode_repetition, Outcome.repetition_eq_fail_iff hmild] at hfail
  exact absurd hfail.1 (by decide)

theorem neverFails_template {elements : List Element}
    (hparts : ∀ element ∈ elements, element.NeverFails) : (template elements).NeverFails := by
  rintro cursor ⟨error, hfail, hmild⟩
  rw [decode] at hfail
  rcases decodeElements_cases elements cursor .empty with
    ⟨record, place, hok, -⟩ | ⟨front, element, back, place, fault, rfl, -, helement, hdecode⟩
  · rw [hok] at hfail
    cases hfail
  · rw [hdecode] at hfail
    cases hfail
    have hpart := hparts element (by simp)
    cases element with
    | literal text =>
        cases hpart
        have hexpect := @Cursor.expect_of_append place "" place.after rfl
        rw [Element.attempt, Attempt.ending, hexpect] at helement
        cases helement
    | field name part => exact hpart place ⟨error, Outcome.ending_eq_error_iff.1 helement, hmild⟩
    | skip part => exact hpart place ⟨error, Outcome.ending_eq_error_iff.1 helement, hmild⟩

theorem zeroWidth_of_recoverable?_eq_none {error : DecodeError}
    (hfatal : (Fault.error error).recoverable? = none) :
    ∃ offset, error = .zeroWidthRepetition offset := by
  cases error with
  | zeroWidthRepetition offset => exact ⟨offset, rfl⟩
  | _ => cases hfatal

/-- **A repetition of what cannot fail reports a fault of the grammar,** on every text and at every
cursor. Its turns lead to a place where the item takes no text or reports such a fault itself, and
there are no more turns than bytes. Options, repetitions that may be empty and templates of such
parts and of empty literals cannot fail. -/
theorem unfailing_item_reported :
    (∀ {shape : Shape} (item : Grammar shape), item.Checked → item.NeverFails →
      ∀ (nonEmpty : Bool) (cursor : Cursor),
        (∃ offset place, (repeated nonEmpty item).decode cursor =
            .fail (.zeroWidthRepetition offset) ∧
          Relation.ReflTransGen (Outcome.Takes item.decode) cursor place ∧
          (Outcome.Idles item.decode place ∧ offset = place.offset ∨
            item.decode place = .fail (.zeroWidthRepetition offset))) ∧
        ∀ (count : Nat) (places : Nat → Cursor), places 0 = cursor →
          (∀ turn < count, Outcome.Takes item.decode (places turn) (places (turn + 1))) →
          count ≤ cursor.remainingLength) ∧
    (∀ {shape : Shape} (inner : Grammar shape), (optional inner).NeverFails) ∧
    (∀ {shape : Shape} (item : Grammar shape) (separator : Option (Sigma Grammar)),
      (repetition false item separator).NeverFails) ∧
    ∀ elements : List Element, (∀ element ∈ elements, element.NeverFails) →
      (template elements).NeverFails := by
  refine ⟨?_, neverFails_optional, neverFails_repetition, fun _ => neverFails_template⟩
  intro shape item hchecked hnever nonEmpty cursor
  constructor
  · obtain ⟨fault, place, hdecode, hfatal, hturns, hplace⟩ :=
      Outcome.repetition_of_never item.movesOn hnever nonEmpty cursor
    cases fault with
    | overrun step =>
        have hloop : (repeated nonEmpty item).Checked := ⟨trivial, hchecked⟩
        exact absurd hdecode (hloop.ne_overrun cursor step)
    | error error =>
        obtain ⟨offset, rfl⟩ := zeroWidth_of_recoverable?_eq_none hfatal
        refine ⟨offset, place, hdecode, hturns, ?_⟩
        rcases Outcome.consuming_eq_error_iff.1 hplace with hitem | ⟨hidles, hoffset⟩
        · exact .inr hitem
        · cases hoffset
          exact .inl ⟨hidles, rfl⟩
  · rintro count places rfl hturns
    have hbound := Outcome.turns_le_remainingLength item.movesOn hturns
    omega

/-- White space or none, then a word or none. -/
def spacedWord : Grammar .record :=
  .template [.skip Primitive.maybeWhitespace, .literal "",
    .field "word" (.optional Statement.identifierLeaf)]

/-- Two words are taken before the item stands still at the semicolon. -/
theorem unfailing_item_reported_spacedWord :
    spacedWord.Checked ∧ spacedWord.NeverFails ∧
      (repeated true spacedWord).decode (.start " a  b;") = .fail (.zeroWidthRepetition 5) ∧
      ∀ nonEmpty cursor, ∃ offset,
        (repeated nonEmpty spacedWord).decode cursor = .fail (.zeroWidthRepetition offset) := by
  obtain ⟨hreported, hoptional, -, htemplate⟩ := unfailing_item_reported
  have hchecked : spacedWord.Checked := ⟨trivial, ⟨trivial, trivial⟩, ⟨trivial, trivial⟩, trivial⟩
  have hnever : spacedWord.NeverFails := by
    apply htemplate
    refine List.forall_mem_cons.2 ⟨hoptional _, List.forall_mem_cons.2 ⟨rfl, ?_⟩⟩
    exact List.forall_mem_singleton.2 (hoptional Statement.identifierLeaf)
  refine ⟨hchecked, hnever, rfl, fun nonEmpty cursor => ?_⟩
  obtain ⟨offset, -, hdecode, -⟩ := (hreported spacedWord hchecked hnever nonEmpty cursor).1
  exact ⟨offset, hdecode⟩

end Grammar

end TwoWay
