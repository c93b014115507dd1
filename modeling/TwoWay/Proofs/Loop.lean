import Mathlib.Logic.Relation
import TwoWay.Proofs.Safety

/-!
# The places a repetition comes to

A repetition tries its item at the start, and behind every item it looks for a gap and a further
item. The loop that does so runs on fuel. Here the places it comes to are given without fuel, as
those that turns of the loop lead to, and the loop is shown to end at one of them: where the next
turn fails and may be absorbed, or where it fails for good. Since each turn takes some text, the
fuel lasts for all of them.
-/

namespace TwoWay

theorem Cursor.LeadsTo.length_le {cursor later : Cursor} (hleads : cursor.LeadsTo later) :
    later.after.length ≤ cursor.after.length := by
  obtain ⟨passed, -, hafter⟩ := hleads
  rw [hafter, List.length_append]
  omega

theorem Cursor.LeadsTo.length_lt {cursor later : Cursor} (hleads : cursor.LeadsTo later)
    (hmoved : later.offset ≠ cursor.offset) : later.after.length < cursor.after.length := by
  obtain ⟨passed, hbefore, hafter⟩ := hleads
  have hpassed : passed ≠ [] := by
    rintro rfl
    apply hmoved
    rw [Cursor.offset_eq_byteLength, Cursor.offset_eq_byteLength, hbefore, List.append_nil]
  have hpos := List.length_pos_iff.2 hpassed
  rw [hafter, List.length_append]
  omega

namespace Outcome

variable {α β : Type}

@[simp]
theorem mapValue_ok (f : α → β) (value : α) (cursor : Cursor) :
    mapValue f (.ok ⟨value, cursor⟩) = .ok ⟨f value, cursor⟩ := rfl

@[simp]
theorem mapValue_error (f : α → β) (fault : Fault DecodeError) :
    mapValue f (.error fault) = .error fault := rfl

theorem ending_eq_ok_iff {outcome : Outcome α} {next : Cursor} :
    outcome.ending = .ok next ↔ ∃ value, outcome = .ok ⟨value, next⟩ := by
  cases outcome with
  | error fault => simp [ending, Except.map]
  | ok decoded =>
      constructor
      · rintro ⟨⟩
        exact ⟨decoded.value, rfl⟩
      · rintro ⟨value, ⟨⟩⟩
        rfl

theorem ending_eq_error_iff {outcome : Outcome α} {fault : Fault DecodeError} :
    outcome.ending = .error fault ↔ outcome = .error fault := by
  cases outcome <;> simp [ending, Except.map]

theorem consuming_eq_ok_iff {item : Cursor → Outcome α} {start next : Cursor} {value : α} :
    consuming item start = .ok ⟨value, next⟩ ↔
      item start = .ok ⟨value, next⟩ ∧ next.offset ≠ start.offset := by
  unfold consuming
  split
  · rename_i decoded hdecoded
    rw [hdecoded]
    split
    · rename_i hidle
      constructor
      · intro hfail
        cases hfail
      · rintro ⟨⟨⟩, hmoved⟩
        exact absurd hidle hmoved
    · rename_i hmoved
      constructor
      · rintro ⟨⟩
        exact ⟨rfl, hmoved⟩
      · exact And.left
  · rename_i fault hfault
    rw [hfault]
    constructor
    · intro herror
      cases herror
    · rintro ⟨⟨⟩, -⟩

/-- The item succeeds and takes no text. -/
def Idles (item : Cursor → Outcome α) (start : Cursor) : Prop :=
  ∃ value next, item start = .ok ⟨value, next⟩ ∧ next.offset = start.offset

theorem consuming_eq_error_iff {item : Cursor → Outcome α} {start : Cursor}
    {fault : Fault DecodeError} :
    consuming item start = .error fault ↔
      item start = .error fault ∨
        Idles item start ∧ fault = .error (.zeroWidthRepetition start.offset) := by
  unfold consuming Idles
  split
  · rename_i decoded hdecoded
    rw [hdecoded]
    split
    · rename_i hidle
      constructor
      · rintro ⟨⟩
        exact .inr ⟨⟨decoded.value, decoded.cursor, rfl, hidle⟩, rfl⟩
      · rintro (herror | ⟨-, rfl⟩)
        · cases herror
        · rfl
    · rename_i hmoved
      constructor
      · intro herror
        cases herror
      · rintro (herror | ⟨⟨value, next, ⟨⟩, hidle⟩, -⟩)
        · cases herror
        · exact absurd hidle hmoved
  · rename_i error herror
    rw [herror]
    constructor
    · exact .inl
    · rintro (hfault | ⟨⟨value, next, ⟨⟩, -⟩, -⟩)
      exact hfault

/-! ### Turns -/

/-- The item takes some text from the start to the next place. -/
def Takes (item : Cursor → Outcome α) (start next : Cursor) : Prop :=
  ∃ value, item start = .ok ⟨value, next⟩ ∧ next.offset ≠ start.offset

section Turns

variable (gap : Cursor → Except (Fault DecodeError) Cursor) (item : Cursor → Outcome α)

/-- A gap, and behind it an item that takes some text. -/
def Turn (here next : Cursor) : Prop :=
  ∃ start, gap here = .ok start ∧ Takes item start next

/-- The places behind items of the repetition, at which it looks for a gap. -/
def LooksAt (cursor here : Cursor) : Prop :=
  ∃ first, Takes item cursor first ∧ Relation.ReflTransGen (Turn gap item) first here

/-- The places at which the repetition tries its item: the first one, and those behind gaps. -/
def TriesAt (cursor start : Cursor) : Prop :=
  start = cursor ∨ ∃ here, LooksAt gap item cursor here ∧ gap here = .ok start

/-- One attempt of the loop: past the gap, and to an item that takes some text. -/
def turn (here : Cursor) : Outcome α :=
  (gap here).bind (consuming item)

end Turns

variable {gap : Cursor → Except (Fault DecodeError) Cursor} {item : Cursor → Outcome α}

theorem turn_of_gap {here start : Cursor} (hgap : gap here = .ok start) :
    turn gap item here = consuming item start := by
  rw [turn, hgap]
  rfl

theorem turn_of_gap_error {here : Cursor} {fault : Fault DecodeError}
    (hgap : gap here = .error fault) : turn gap item here = .error fault := by
  rw [turn, hgap]
  rfl

theorem turn_iff_exists {here next : Cursor} :
    Turn gap item here next ↔ ∃ value, turn gap item here = .ok ⟨value, next⟩ := by
  cases hgap : gap here with
  | error fault => simp [Turn, hgap, turn_of_gap_error hgap]
  | ok start => simp [Turn, Takes, hgap, turn_of_gap hgap, consuming_eq_ok_iff]

/-! ### What a repetition can do -/

section Equations

variable {attempt : Cursor → Outcome α} {cursor : Cursor} {fault : Fault DecodeError}

theorem itemsFrom_of_ok {first : Decoded α} (hattempt : attempt cursor = .ok first) (fuel : Nat) :
    itemsFrom attempt (fuel + 1) cursor =
      (itemsFrom attempt fuel first.cursor).mapValue (first.value :: ·) := by
  rw [itemsFrom, hattempt]

theorem itemsFrom_of_recoverable (hattempt : attempt cursor = .error fault) {error : DecodeError}
    (hrecover : fault.recoverable? = some error) (fuel : Nat) :
    itemsFrom attempt (fuel + 1) cursor = .ok ⟨[], cursor⟩ := by
  simp only [itemsFrom, hattempt, hrecover]

theorem itemsFrom_of_fault (hattempt : attempt cursor = .error fault)
    (hfatal : fault.recoverable? = none) (fuel : Nat) :
    itemsFrom attempt (fuel + 1) cursor = .error fault := by
  simp only [itemsFrom, hattempt, hfatal]

theorem repetition_of_first (nonEmpty : Bool) {first : Decoded α}
    (hfirst : consuming item cursor = .ok first) :
    repetition nonEmpty gap item cursor =
      (itemsFrom (turn gap item) (first.cursor.after.length + 1) first.cursor).mapValue
        (first.value :: ·) := by
  rw [repetition, hfirst]
  rfl

theorem repetition_of_recoverable (nonEmpty : Bool) (hfirst : consuming item cursor = .error fault)
    {error : DecodeError} (hrecover : fault.recoverable? = some error) :
    repetition nonEmpty gap item cursor =
      if nonEmpty then fail (.repetitionTooFew cursor.offset error) else .ok ⟨[], cursor⟩ := by
  simp only [repetition, hfirst, hrecover]

theorem repetition_of_fault (nonEmpty : Bool) (hfirst : consuming item cursor = .error fault)
    (hfatal : fault.recoverable? = none) : repetition nonEmpty gap item cursor = .error fault := by
  simp only [repetition, hfirst, hfatal]

end Equations

/-- The loop goes from turn to turn. It ends where a turn fails and another attempt may follow, or
with the fault of a turn after which none may. -/
theorem itemsFrom_cases (fuel : Nat) (here : Cursor) :
    ∃ last, Relation.ReflTransGen (Turn gap item) here last ∧
      ((∃ items, itemsFrom (turn gap item) fuel here = .ok ⟨items, last⟩) ∨
        ∃ fault, turn gap item last = .error fault ∧ fault.recoverable? = none ∧
          itemsFrom (turn gap item) fuel here = .error fault) := by
  induction fuel generalizing here with
  | zero => exact ⟨here, .refl, .inl ⟨[], rfl⟩⟩
  | succ fuel ih =>
      cases hturn : turn gap item here with
      | ok first =>
          obtain ⟨last, hlast, hends⟩ := ih first.cursor
          have hfirst : Turn gap item here first.cursor :=
            turn_iff_exists.2 ⟨first.value, hturn⟩
          refine ⟨last, hlast.head hfirst, ?_⟩
          rw [itemsFrom_of_ok hturn]
          rcases hends with ⟨items, hitems⟩ | ⟨fault, hfault, hfatal, hloop⟩
          · exact .inl ⟨first.value :: items, by rw [hitems, mapValue_ok]⟩
          · exact .inr ⟨fault, hfault, hfatal, by rw [hloop, mapValue_error]⟩
      | error fault =>
          refine ⟨here, .refl, ?_⟩
          cases hrecover : fault.recoverable? with
          | some error => exact .inl ⟨[], itemsFrom_of_recoverable hturn hrecover fuel⟩
          | none => exact .inr ⟨fault, hturn, hrecover, itemsFrom_of_fault hturn hrecover fuel⟩

/-- **What a repetition can do.** It ends at its start, if it may be empty, or at a place behind an
item, it reports that there is no item where there must be one, or it passes on a fault of its item
or its gap, at a place that it comes to, after which no other attempt may follow. -/
theorem repetition_cases (nonEmpty : Bool) (cursor : Cursor) :
    (∃ items last, repetition nonEmpty gap item cursor = .ok ⟨items, last⟩ ∧
        (nonEmpty = false ∧ last = cursor ∨ LooksAt gap item cursor last)) ∨
      (∃ error, repetition nonEmpty gap item cursor =
          .fail (.repetitionTooFew cursor.offset error) ∧
        consuming item cursor = .error (.error error) ∧ error.isFatal = false) ∨
      ∃ fault, repetition nonEmpty gap item cursor = .error fault ∧ fault.recoverable? = none ∧
        ((∃ start, TriesAt gap item cursor start ∧ consuming item start = .error fault) ∨
          ∃ here, LooksAt gap item cursor here ∧ gap here = .error fault) := by
  cases hfirst : consuming item cursor with
  | ok first =>
      rw [repetition_of_first nonEmpty hfirst]
      obtain ⟨last, hlast, hends⟩ :=
        @itemsFrom_cases _ gap item (first.cursor.after.length + 1) first.cursor
      have hlooks : LooksAt gap item cursor last :=
        ⟨first.cursor, ⟨first.value, consuming_eq_ok_iff.1 hfirst⟩, hlast⟩
      rcases hends with ⟨items, hitems⟩ | ⟨fault, hturn, hfatal, hloop⟩
      · exact .inl ⟨first.value :: items, last, by rw [hitems, mapValue_ok], .inr hlooks⟩
      · refine .inr (.inr ⟨fault, by rw [hloop, mapValue_error], hfatal, ?_⟩)
        -- The failing turn has failed at its gap or at the item behind it.
        cases hgap : gap last with
        | ok start =>
            rw [turn_of_gap hgap] at hturn
            exact .inl ⟨start, .inr ⟨last, hlooks, hgap⟩, hturn⟩
        | error other =>
            rw [turn_of_gap_error hgap] at hturn
            cases hturn
            exact .inr ⟨last, hlooks, hgap⟩
  | error fault =>
      cases hrecover : fault.recoverable? with
      | some error =>
          rw [repetition_of_recoverable nonEmpty hfirst hrecover]
          cases nonEmpty with
          | true =>
              obtain ⟨rfl, hfatal⟩ := Fault.recoverable?_eq_some_iff.1 hrecover
              exact .inr (.inl ⟨error, rfl, rfl, hfatal⟩)
          | false => exact .inl ⟨[], cursor, rfl, .inl ⟨rfl, rfl⟩⟩
      | none =>
          exact .inr (.inr ⟨fault, repetition_of_fault nonEmpty hfirst hrecover, hrecover,
            .inl ⟨cursor, .inl rfl, hfirst⟩⟩)

theorem consuming_eq_fail_iff {start : Cursor} {error : DecodeError}
    (hfatal : error.isFatal = false) :
    consuming item start = .fail error ↔ item start = .fail error := by
  constructor
  · intro hconsuming
    rcases consuming_eq_error_iff.1 hconsuming with hitem | ⟨-, hidle⟩
    · exact hitem
    · cases hidle
      cases hfatal
  · intro hitem
    exact consuming_eq_error_iff.2 (.inl hitem)

/-- The only failure of a repetition that others may absorb is that of its first item, where there
must be one. -/
theorem repetition_eq_fail_iff {nonEmpty : Bool} {cursor : Cursor} {error : DecodeError}
    (hfatal : error.isFatal = false) :
    repetition nonEmpty gap item cursor = .fail error ↔
      nonEmpty = true ∧ ∃ source, item cursor = .fail source ∧ source.isFatal = false ∧
        error = .repetitionTooFew cursor.offset source := by
  constructor
  · intro hfail
    have hrecover := Fault.recoverable?_eq_some_iff.2 ⟨rfl, hfatal⟩
    cases hfirst : consuming item cursor with
    | ok first =>
        rw [repetition_of_first nonEmpty hfirst] at hfail
        obtain ⟨last, -, ⟨items, hitems⟩ | ⟨fault, -, hfault, hloop⟩⟩ :=
          @itemsFrom_cases _ gap item (first.cursor.after.length + 1) first.cursor
        · rw [hitems] at hfail
          cases hfail
        · rw [hloop] at hfail
          cases hfail
          rw [hrecover] at hfault
          cases hfault
    | error fault =>
        cases hsource : fault.recoverable? with
        | none =>
            rw [repetition_of_fault nonEmpty hfirst hsource] at hfail
            cases hfail
            rw [hrecover] at hsource
            cases hsource
        | some source =>
            rw [repetition_of_recoverable nonEmpty hfirst hsource] at hfail
            obtain ⟨rfl, hmild⟩ := Fault.recoverable?_eq_some_iff.1 hsource
            cases nonEmpty with
            | false => cases hfail
            | true =>
                cases hfail
                exact ⟨rfl, source, (consuming_eq_fail_iff hmild).1 hfirst, hmild, rfl⟩
  · rintro ⟨rfl, source, hitem, hsource, rfl⟩
    rw [repetition_of_recoverable true ((consuming_eq_fail_iff hsource).2 hitem)
      (Fault.recoverable?_eq_some_iff.2 ⟨rfl, hsource⟩)]
    rfl

/-! ### Turns move on, and the fuel lasts -/

section Moves

variable (hgap : ∀ here start, gap here = .ok start → here.LeadsTo start)
  (hitem : ∀ start next, (item start).ending = .ok next → start.LeadsTo next)
include hgap hitem

theorem Turn.leadsTo {here next : Cursor} (hturn : Turn gap item here next) :
    here.LeadsTo next := by
  obtain ⟨start, hstart, value, hvalue, -⟩ := hturn
  exact (hgap here start hstart).trans (hitem start next (ending_eq_ok_iff.2 ⟨value, hvalue⟩))

theorem LooksAt.leadsTo {cursor here : Cursor} (hlooks : LooksAt gap item cursor here) :
    cursor.LeadsTo here := by
  obtain ⟨first, ⟨value, hvalue, -⟩, hturns⟩ := hlooks
  have hfirst := hitem cursor first (ending_eq_ok_iff.2 ⟨value, hvalue⟩)
  induction hturns with
  | refl => exact hfirst
  | tail _ hturn ih => exact ih.trans (hturn.leadsTo hgap hitem)

theorem TriesAt.leadsTo {cursor start : Cursor} (htries : TriesAt gap item cursor start) :
    cursor.LeadsTo start := by
  rcases htries with rfl | ⟨here, hlooks, hstart⟩
  · exact .refl _
  · exact (hlooks.leadsTo hgap hitem).trans (hgap here start hstart)

theorem leadsTo_of_repetition (nonEmpty : Bool) {cursor next : Cursor}
    (hend : (repetition nonEmpty gap item cursor).ending = .ok next) : cursor.LeadsTo next := by
  rcases @repetition_cases _ gap item nonEmpty cursor with
    ⟨items, last, hitems, hlast⟩ | ⟨error, hfew, -⟩ | ⟨fault, hfault, -⟩
  · rw [hitems] at hend
    cases hend
    rcases hlast with ⟨-, rfl⟩ | hlooks
    · exact .refl _
    · exact hlooks.leadsTo hgap hitem
  · rw [hfew] at hend
    cases hend
  · rw [hfault] at hend
    cases hend

theorem Turn.length_lt {here next : Cursor} (hturn : Turn gap item here next) :
    next.after.length < here.after.length := by
  obtain ⟨start, hstart, value, hvalue, hmoved⟩ := hturn
  have hitem' := hitem start next (ending_eq_ok_iff.2 ⟨value, hvalue⟩)
  have hshorter := hitem'.length_lt hmoved
  have hshort := (hgap here start hstart).length_le
  omega

theorem itemsFrom_of_turns {first here : Cursor}
    (hturns : Relation.ReflTransGen (Turn gap item) first here) {fuel : Nat}
    (hfuel : first.after.length < fuel) :
    ∃ left items, here.after.length < left ∧
      itemsFrom (turn gap item) fuel first =
        (itemsFrom (turn gap item) left here).mapValue (items ++ ·) := by
  -- A turn costs one unit of fuel and at least one character, so the fuel that is left stays above
  -- the length of the text that is left.
  induction hturns with
  | refl =>
      refine ⟨fuel, [], hfuel, ?_⟩
      cases itemsFrom (turn gap item) fuel first <;> rfl
  | @tail middle next _ hturn ih =>
      obtain ⟨left, items, hleft, hloop⟩ := ih
      obtain ⟨value, hvalue⟩ := turn_iff_exists.1 hturn
      have hshorter := hturn.length_lt hgap hitem
      obtain ⟨fewer, rfl⟩ : ∃ fewer, left = fewer + 1 := ⟨left - 1, by omega⟩
      refine ⟨fewer, items ++ [value], by omega, ?_⟩
      rw [hloop, itemsFrom_of_ok hvalue]
      cases itemsFrom (turn gap item) fewer next with
      | ok decoded => simp [mapValue, Except.map, Decoded.map]
      | error fault => rfl

theorem repetition_of_turn_error (nonEmpty : Bool) {cursor here : Cursor}
    (hlooks : LooksAt gap item cursor here) {fault : Fault DecodeError}
    (hfatal : fault.recoverable? = none) (hturn : turn gap item here = .error fault) :
    repetition nonEmpty gap item cursor = .error fault := by
  obtain ⟨first, ⟨value, hvalue⟩, hturns⟩ := hlooks
  obtain ⟨left, items, hleft, hloop⟩ :=
    itemsFrom_of_turns hgap hitem hturns (Nat.lt_succ_self first.after.length)
  obtain ⟨fewer, rfl⟩ : ∃ fewer, left = fewer + 1 := ⟨left - 1, by omega⟩
  rw [repetition_of_first nonEmpty (consuming_eq_ok_iff.2 hvalue), hloop,
    itemsFrom_of_fault hturn hfatal, mapValue_error, mapValue_error]

/-- **No fault is lost in a repetition.** A fault after which no other attempt may follow, of the
item or of the gap, is the fault of the repetition, at whichever place it comes up. -/
theorem repetition_of_item_error (nonEmpty : Bool) {cursor start : Cursor}
    (htries : TriesAt gap item cursor start) {fault : Fault DecodeError}
    (hfatal : fault.recoverable? = none) (herror : consuming item start = .error fault) :
    repetition nonEmpty gap item cursor = .error fault := by
  rcases htries with rfl | ⟨here, hlooks, hstart⟩
  · exact repetition_of_fault nonEmpty herror hfatal
  · apply repetition_of_turn_error hgap hitem nonEmpty hlooks hfatal
    rw [turn_of_gap hstart, herror]

theorem repetition_of_gap_error (nonEmpty : Bool) {cursor here : Cursor}
    (hlooks : LooksAt gap item cursor here) {fault : Fault DecodeError}
    (hfatal : fault.recoverable? = none) (herror : gap here = .error fault) :
    repetition nonEmpty gap item cursor = .error fault :=
  repetition_of_turn_error hgap hitem nonEmpty hlooks hfatal (turn_of_gap_error herror)

end Moves

end Outcome

end TwoWay
