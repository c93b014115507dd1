import TwoWay.Proofs.Attempts

/-!
# Repetitions are greedy

A repetition takes items as long as there are any. The places between its items can be listed: from
each of them a step leads to the next, past a gap unless the item is the first one, and at the last
place the next attempt fails, at the gap or at the item behind it. These places, and not those
behind a gap that no item follows, decide where a repetition ends. It succeeds exactly if there is
such a list of places with enough items.
-/

namespace TwoWay

namespace Outcome

variable {α : Type}

section Places

variable (gap : Cursor → Except (Fault DecodeError) Cursor) (item : Cursor → Outcome α)

/-- Where an item is tried: the first one at the place itself, every other one behind a gap. -/
def startAt : Nat → Cursor → Except (Fault DecodeError) Cursor
  | 0, place => .ok place
  | _ + 1, place => gap place

/-- The item with this index is found from the place, and takes some text. -/
def StepsTo (index : Nat) (place : Cursor) (value : α) (next : Cursor) : Prop :=
  ∃ start, startAt gap index place = .ok start ∧ item start = .ok ⟨value, next⟩ ∧
    start.offset < next.offset

/-- The gap or the item behind it fails, and the failure may be absorbed. -/
def StopsAt (index : Nat) (place : Cursor) : Prop :=
  ∃ error, error.isFatal = false ∧
    (startAt gap index place = .error (.error error) ∨
      ∃ start, startAt gap index place = .ok start ∧ item start = .fail error)

/-- From the place on, the items are all that there are, and the last of them ends at `last`. -/
def TakesAll : Nat → Cursor → List α → Cursor → Prop
  | index, place, [], last => last = place ∧ StopsAt gap item index place
  | index, place, value :: rest, last =>
      ∃ next, StepsTo gap item index place value next ∧ TakesAll (index + 1) next rest last

/-- One attempt of the loop. The first one has no gap before it, and the others are its turns. -/
def attemptAt (index : Nat) (place : Cursor) : Outcome α :=
  (startAt gap index place).bind (consuming item)

end Places

variable {gap : Cursor → Except (Fault DecodeError) Cursor} {item : Cursor → Outcome α}

theorem isAbsorbed_attemptAt_iff {index : Nat} {place : Cursor} :
    (attemptAt gap item index place).IsAbsorbed ↔ StopsAt gap item index place := by
  unfold attemptAt
  cases hstart : startAt gap index place with
  | error fault =>
      constructor
      · rintro ⟨error, ⟨⟩, hfatal⟩
        exact ⟨error, hfatal, .inl hstart⟩
      · rintro ⟨error, hfatal, hgap | ⟨start, hgap, -⟩⟩
        · rw [hstart] at hgap
          cases hgap
          exact ⟨error, rfl, hfatal⟩
        · rw [hstart] at hgap
          cases hgap
  | ok start =>
      constructor
      · rintro ⟨error, hfail, hfatal⟩
        exact ⟨error, hfatal, .inr ⟨start, hstart, (consuming_eq_fail_iff hfatal).1 hfail⟩⟩
      · rintro ⟨error, hfatal, hgap | ⟨other, hgap, hfail⟩⟩
        · rw [hstart] at hgap
          cases hgap
        · rw [hstart] at hgap
          cases hgap
          exact ⟨error, (consuming_eq_fail_iff hfatal).2 hfail, hfatal⟩

section Greedy

variable (hgap : ∀ here start, gap here = .ok start → here.LeadsTo start)
  (hitem : ∀ start next, (item start).ending = .ok next → start.LeadsTo next)

include hgap in
theorem startAt_leadsTo {index : Nat} {place start : Cursor}
    (hstart : startAt gap index place = .ok start) : place.LeadsTo start := by
  cases index with
  | zero =>
      cases hstart
      exact .refl _
  | succ index => exact hgap place start hstart

include hitem in
theorem attemptAt_eq_ok_iff {index : Nat} {place next : Cursor} {value : α} :
    attemptAt gap item index place = .ok ⟨value, next⟩ ↔
      StepsTo gap item index place value next := by
  unfold attemptAt StepsTo
  cases hstart : startAt gap index place with
  | error fault => simp [Except.bind]
  | ok start =>
      constructor
      · intro hattempt
        obtain ⟨hdecode, hmoved⟩ := consuming_eq_ok_iff.1 hattempt
        have hle := (hitem start next (ending_eq_ok_iff.2 ⟨value, hdecode⟩)).offset_le
        exact ⟨start, rfl, hdecode, by omega⟩
      · rintro ⟨_, ⟨⟩, hdecode, hlt⟩
        exact consuming_eq_ok_iff.2 ⟨hdecode, by omega⟩

include hgap in
theorem TakesAll.offset_le {index : Nat} {place last : Cursor} {items : List α}
    (htakes : TakesAll gap item index place items last) :
    place.offset + items.length ≤ last.offset := by
  induction items generalizing index place with
  | nil =>
      obtain ⟨rfl, -⟩ := htakes
      exact Nat.le_refl _
  | cons value rest ih =>
      obtain ⟨next, ⟨start, hstart, -, hlt⟩, hrest⟩ := htakes
      have hle := (startAt_leadsTo hgap hstart).offset_le
      have hbehind := ih hrest
      rw [List.length_cons]
      omega

include hgap hitem

theorem TakesAll.itemsFrom_eq {index : Nat} {here last : Cursor} {items : List α}
    (htakes : TakesAll gap item (index + 1) here items last) {fuel : Nat}
    (hfuel : here.after.length < fuel) :
    itemsFrom (turn gap item) fuel here = .ok ⟨items, last⟩ := by
  obtain ⟨fewer, rfl⟩ : ∃ fewer, fuel = fewer + 1 := ⟨fuel - 1, by omega⟩
  -- By induction on the items, with the fuel above the length of the text that is left.
  induction items generalizing index here fewer with
  | nil =>
      obtain ⟨rfl, hstops⟩ := htakes
      obtain ⟨error, hturn, hfatal⟩ := isAbsorbed_attemptAt_iff.2 hstops
      exact itemsFrom_of_recoverable hturn (Fault.recoverable?_eq_some_iff.2 ⟨rfl, hfatal⟩) fewer
  | cons value rest ih =>
      obtain ⟨next, hstep, hrest⟩ := htakes
      have hturn : turn gap item here = .ok ⟨value, next⟩ := (attemptAt_eq_ok_iff hitem).2 hstep
      have hshorter := (turn_iff_exists.2 ⟨value, hturn⟩).length_lt hgap hitem
      obtain ⟨less, rfl⟩ : ∃ less, fewer = less + 1 := ⟨fewer - 1, by omega⟩
      rw [itemsFrom_of_ok hturn, ih hrest less (by omega), mapValue_ok]

theorem takesAll_of_itemsFrom {fuel : Nat} {here last : Cursor} {items : List α}
    (hfuel : here.after.length < fuel)
    (hloop : itemsFrom (turn gap item) fuel here = .ok ⟨items, last⟩) (index : Nat) :
    TakesAll gap item (index + 1) here items last := by
  -- A turn costs one unit of fuel and shortens the text that is left, so the loop never stops for
  -- want of fuel.
  induction fuel generalizing here items index with
  | zero => omega
  | succ fuel ih =>
      cases hturn : turn gap item here with
      | ok first =>
          obtain ⟨value, next⟩ := first
          have hshorter := (turn_iff_exists.2 ⟨value, hturn⟩).length_lt hgap hitem
          rw [itemsFrom_of_ok hturn] at hloop
          cases hrest : itemsFrom (turn gap item) fuel next with
          | error fault =>
              rw [hrest] at hloop
              cases hloop
          | ok others =>
              rw [hrest] at hloop
              cases hloop
              exact ⟨next, (attemptAt_eq_ok_iff hitem).1 hturn,
                ih (by omega) hrest (index + 1)⟩
      | error fault =>
          cases hrecover : fault.recoverable? with
          | none =>
              rw [itemsFrom_of_fault hturn hrecover] at hloop
              cases hloop
          | some error =>
              rw [itemsFrom_of_recoverable hturn hrecover] at hloop
              cases hloop
              obtain ⟨rfl, hfatal⟩ := Fault.recoverable?_eq_some_iff.1 hrecover
              exact ⟨rfl, isAbsorbed_attemptAt_iff.1 ⟨error, hturn, hfatal⟩⟩

/-- **A repetition takes all items that there are,** and succeeds if they are enough. -/
theorem repetition_eq_ok_iff {nonEmpty : Bool} {cursor last : Cursor} {items : List α} :
    repetition nonEmpty gap item cursor = .ok ⟨items, last⟩ ↔
      nonEmpty.toNat ≤ items.length ∧ TakesAll gap item 0 cursor items last := by
  constructor
  · intro hrepetition
    cases hfirst : consuming item cursor with
    | ok first =>
        obtain ⟨value, next⟩ := first
        rw [repetition_of_first nonEmpty hfirst] at hrepetition
        cases hrest : itemsFrom (turn gap item) (next.after.length + 1) next with
        | error fault =>
            rw [hrest] at hrepetition
            cases hrepetition
        | ok others =>
            rw [hrest] at hrepetition
            cases hrepetition
            have hlength := nonEmpty.toNat_le
            refine ⟨by rw [List.length_cons]; omega, next, (attemptAt_eq_ok_iff hitem).1 hfirst, ?_⟩
            exact takesAll_of_itemsFrom hgap hitem (Nat.lt_succ_self _) hrest 0
    | error fault =>
        cases hrecover : fault.recoverable? with
        | none =>
            rw [repetition_of_fault nonEmpty hfirst hrecover] at hrepetition
            cases hrepetition
        | some error =>
            rw [repetition_of_recoverable nonEmpty hfirst hrecover] at hrepetition
            obtain ⟨rfl, hfatal⟩ := Fault.recoverable?_eq_some_iff.1 hrecover
            cases nonEmpty with
            | true => cases hrepetition
            | false =>
                cases hrepetition
                exact ⟨Nat.zero_le _, rfl, isAbsorbed_attemptAt_iff.1 ⟨error, hfirst, hfatal⟩⟩
  · rintro ⟨hlength, htakes⟩
    cases items with
    | nil =>
        obtain ⟨rfl, hstops⟩ := htakes
        obtain ⟨error, hfirst, hfatal⟩ := isAbsorbed_attemptAt_iff.2 hstops
        rw [repetition_of_recoverable nonEmpty hfirst
          (Fault.recoverable?_eq_some_iff.2 ⟨rfl, hfatal⟩)]
        cases nonEmpty with
        | true => cases hlength
        | false => rfl
    | cons value rest =>
        obtain ⟨next, hstep, hrest⟩ := htakes
        rw [repetition_of_first nonEmpty ((attemptAt_eq_ok_iff hitem).2 hstep),
          hrest.itemsFrom_eq hgap hitem (Nat.lt_succ_self _), mapValue_ok]

end Greedy

theorem takesAll_iff_places {first : Nat} {place last : Cursor} {items : List α} :
    TakesAll gap item first place items last ↔
      ∃ places : Nat → Cursor, places 0 = place ∧ places items.length = last ∧
        (∀ index value, items[index]? = some value →
          StepsTo gap item (first + index) (places index) value (places (index + 1))) ∧
        StopsAt gap item (first + items.length) last := by
  induction items generalizing first place with
  | nil =>
      constructor
      · rintro ⟨rfl, hstops⟩
        exact ⟨fun _ => last, rfl, rfl, fun _ _ habsent => (nomatch habsent), hstops⟩
      · rintro ⟨places, rfl, rfl, -, hstops⟩
        exact ⟨rfl, hstops⟩
  | cons value rest ih =>
      have hcount : first + (rest.length + 1) = first + 1 + rest.length := by omega
      constructor
      · rintro ⟨next, hstep, hrest⟩
        obtain ⟨places, rfl, hlast, hsteps, hstops⟩ := ih.1 hrest
        -- The place comes before all others, whose indices move up by one.
        refine ⟨fun index => index.casesOn place places, rfl, hlast, ?_, hcount ▸ hstops⟩
        intro index other hother
        cases index with
        | zero =>
            cases hother
            exact hstep
        | succ index =>
            have hlater := hsteps index other hother
            rwa [Nat.add_right_comm] at hlater
      · rintro ⟨places, rfl, hlast, hsteps, hstops⟩
        refine ⟨places 1, hsteps 0 value rfl, ih.2 ⟨fun index => places (index + 1), rfl, hlast, ?_,
          hcount ▸ hstops⟩⟩
        intro index other hother
        have hlater := hsteps (index + 1) other hother
        rwa [← Nat.add_assoc, Nat.add_right_comm] at hlater

end Outcome

namespace Grammar

/-- Items with the separator between any two of them, or back to back. -/
def repetition {shape : Shape} (nonEmpty : Bool) (item : Grammar shape) :
    Option (Sigma Grammar) → Grammar (.list shape)
  | none => .repeated nonEmpty item
  | some separator => .separated nonEmpty item separator.2

/-- Past the separator, if there is one. -/
def gap : Option (Sigma Grammar) → Cursor → Except (Fault DecodeError) Cursor
  | none, here => .ok here
  | some separator, here => (separator.2.decode here).ending

theorem decode_repetition {shape : Shape} (nonEmpty : Bool) (item : Grammar shape)
    (separator : Option (Sigma Grammar)) (cursor : Cursor) :
    (repetition nonEmpty item separator).decode cursor =
      .repetition nonEmpty (gap separator) item.decode cursor := by
  cases separator with
  | none => rfl
  | some separator => rfl

theorem gap_leadsTo (separator : Option (Sigma Grammar)) (here start : Cursor)
    (hgap : gap separator here = .ok start) : here.LeadsTo start := by
  cases separator with
  | none =>
      cases hgap
      exact .refl _
  | some separator => exact separator.2.movesOn here start hgap

theorem decode_repetition_eq_ok_iff {shape : Shape} {nonEmpty : Bool} {item : Grammar shape}
    {separator : Option (Sigma Grammar)} {cursor last : Cursor} {items : List shape.Carrier} :
    (repetition nonEmpty item separator).decode cursor = .ok ⟨items, last⟩ ↔
      nonEmpty.toNat ≤ items.length ∧
        Outcome.TakesAll (gap separator) item.decode 0 cursor items last := by
  rw [decode_repetition]
  exact Outcome.repetition_eq_ok_iff (gap_leadsTo separator) item.movesOn

/-- **A repetition is greedy.** It succeeds exactly if enough items are found one after another and
no further one follows the last of them. It ends behind the last item, so it has no more items than
bytes. The only other answer of its own is that the one item it asks for is not there. -/
theorem decode_repetition_greedy {shape : Shape} (nonEmpty : Bool) (item : Grammar shape)
    (separator : Option (Sigma Grammar)) (cursor : Cursor) :
    (∀ (items : List shape.Carrier) last,
      (repetition nonEmpty item separator).decode cursor = .ok ⟨items, last⟩ ↔
        nonEmpty.toNat ≤ items.length ∧
          ∃ places : Nat → Cursor, places 0 = cursor ∧ places items.length = last ∧
            (∀ index value, items[index]? = some value →
              Outcome.StepsTo (gap separator) item.decode index (places index) value
                (places (index + 1))) ∧
            Outcome.StopsAt (gap separator) item.decode items.length last) ∧
      (∀ (items : List shape.Carrier) last,
        (repetition nonEmpty item separator).decode cursor = .ok ⟨items, last⟩ →
          cursor.offset + items.length ≤ last.offset) ∧
      ∀ offset source,
        (repetition nonEmpty item separator).decode cursor =
            .fail (.repetitionTooFew offset source) ↔
          nonEmpty = true ∧ item.decode cursor = .fail source ∧ source.isFatal = false ∧
            offset = cursor.offset := by
  refine ⟨fun items last => ?_, fun items last hdecode => ?_, fun offset source => ?_⟩
  · rw [decode_repetition_eq_ok_iff, Outcome.takesAll_iff_places]
    simp only [Nat.zero_add]
  · obtain ⟨-, htakes⟩ := decode_repetition_eq_ok_iff.1 hdecode
    exact htakes.offset_le (gap_leadsTo separator)
  · rw [decode_repetition, Outcome.repetition_eq_fail_iff rfl]
    constructor
    · rintro ⟨hnonEmpty, _, hitem, hfatal, ⟨⟩⟩
      exact ⟨hnonEmpty, hitem, hfatal, rfl⟩
    · rintro ⟨hnonEmpty, hitem, hfatal, rfl⟩
      exact ⟨hnonEmpty, source, hitem, hfatal, rfl⟩

example : (separated false Statement.integerLeaf Statement.whitespaceLeaf).decode
    (.start "1 2 x") = .ok ⟨[1, 2], .between ['1', ' ', '2'] [' ', 'x']⟩ := rfl

end Grammar

end TwoWay
