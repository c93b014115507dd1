import TwoWay.Proofs.Agreement
import TwoWay.Proofs.Loop

/-!
# Grammars by their parts

A grammar converts the whole of a value to its static type before it writes or normalises any of it,
and what it decodes has that type as well. A part whose own type is not known converts its piece of
the value when its turn comes. Both ways lead to the same texts and normal forms, and only the error
of a value that is refused tells them apart. Here the text, the normal form and the decoded value of
each construct are given by those of its parts, without the static types.
-/

namespace TwoWay

def Value.asList? : Value → Option (List Value)
  | .list items => some items
  | _ => none

def Value.asOptional? : Value → Option (Option Value)
  | .optional content => some content
  | _ => none

/-- The text of a list, given those of its items. -/
def itemsText? (nonEmpty : Bool) (separator : String) (text? : Value → Option String)
    (items : List Value) : Option String :=
  if items.length < nonEmpty.toNat then none else (items.mapM text?).map separator.intercalate

namespace Grammar

variable {shape gap : Shape}

/-- The text of a value of any form, if it has one. -/
def text? (grammar : Grammar shape) (value : Value) : Option String :=
  (Shape.spellValue grammar.spelling value).toOption

/-- The normal form of a value of any form, if it has one. -/
def normal? (grammar : Grammar shape) (value : Value) : Option Value :=
  (grammar.normalizeValue value).toOption

theorem normal?_eq_some_iff {grammar : Grammar shape} {value normal : Value} :
    grammar.normal? value = some normal ↔ grammar.normalizeValue value = .ok normal :=
  toOption_eq_some_iff

theorem writeValue_eq_append_iff {grammar : Grammar shape} {value : Value} {buffer text : String} :
    grammar.writeValue value buffer = .append buffer text ↔ grammar.text? value = some text := by
  rw [writeValue_eq, text?]
  cases Shape.spellValue grammar.spelling value with
  | error error => simp [Written.of, Written.append, Written.fail]
  | ok other =>
      constructor
      · intro hwritten
        have hbuffer : buffer ++ other = buffer ++ text := congrArg Written.buffer hwritten
        rw [toOption_ok, (String.append_right_inj buffer).1 hbuffer]
      · rintro ⟨⟩
        rfl

theorem result_writeValue_eq_ok_iff {grammar : Grammar shape} {value : Value} {buffer : String}
    {count : Nat} :
    (grammar.writeValue value buffer).result = .ok count ↔
      (grammar.text? value).map String.utf8ByteSize = some count := by
  rw [result_writeValue, ← toOption_eq_some_iff, toOption_map, text?]

theorem buffer_writeValue (grammar : Grammar shape) (value : Value) (buffer : String) :
    (grammar.writeValue value buffer).buffer = buffer ++ (grammar.text? value).getD "" := by
  rw [writeValue_eq, text?]
  cases Shape.spellValue grammar.spelling value with
  | ok text => rfl
  | error error => exact (String.append_empty).symm

/-! ### Writing -/

/-- To convert all items before any is written comes to the same as to take them one by one. -/
theorem mapM_text? (item : Grammar shape) (items : List Value) :
    items.mapM item.text? =
      (items.mapM shape.ofValue).toOption.bind fun contents =>
        (contents.mapM item.spelling).toOption := by
  have htext : item.text? =
      fun value => (shape.ofValue value).toOption.bind fun content =>
        (item.spelling content).toOption := by
    funext value
    exact toOption_bind _ _
  simp only [toOption_mapM, mapM_bind_mapM, htext]

theorem toOption_spellItems (nonEmpty : Bool) (separator : String) (item : Grammar shape)
    (value : Value) :
    (@Shape.spellValue (.list shape) (spellItems nonEmpty item.spelling separator) value).toOption =
      value.asList?.bind (itemsText? nonEmpty separator item.text?) := by
  cases value with
  | list items =>
      simp only [Shape.spellValue, Shape.ofValue, toOption_bind, Value.asList?, Option.bind_some,
        itemsText?, mapM_text?]
      cases hcontents : items.mapM shape.ofValue with
      | error error => simp
      | ok contents =>
          -- The conversion keeps the number of items.
          have hlength := (mapM_eq_ok_iff.1 hcontents).length_eq
          simp only [toOption_ok, Option.bind_some, spellItems, hlength]
          split
          · rfl
          · rw [toOption_map]
  | _ => rfl

theorem text?_terminal {kind : Scalar} (leaf : Terminal kind.Carrier) (value : Value) :
    (terminal leaf).text? value = (kind.ofValue value).toOption.map leaf.conversion.print := by
  rw [Option.map_eq_bind]
  exact toOption_bind _ _

theorem text?_optional (inner : Grammar shape) (value : Value) :
    (optional inner).text? value =
      value.asOptional?.bind fun content => content.elim (some "") inner.text? := by
  cases value with
  | optional content =>
      cases content with
      | none => rfl
      | some content =>
          simp [text?, Shape.spellValue, Shape.ofValue, Value.asOptional?, spelling]
  | _ => rfl

theorem text?_repeated (nonEmpty : Bool) (item : Grammar shape) (value : Value) :
    (repeated nonEmpty item).text? value =
      value.asList?.bind (itemsText? nonEmpty "" item.text?) :=
  toOption_spellItems nonEmpty "" item value

theorem text?_separated (nonEmpty : Bool) (item : Grammar shape) (separator : Grammar gap)
    (value : Value) :
    (separated nonEmpty item separator).text? value =
      value.asList?.bind (itemsText? nonEmpty (separator.canonical.getD "") item.text?) :=
  toOption_spellItems nonEmpty (separator.canonical.getD "") item value

/-- The text of the elements, if the record has all their fields. -/
def elementsText? (elements : List Element) (record : Record) : Option String :=
  (spellElements elements record).toOption

theorem elementsText?_literal (text : String) (rest : List Element) (record : Record) :
    elementsText? (.literal text :: rest) record = (elementsText? rest record).map (text ++ ·) :=
  toOption_map _ _

theorem elementsText?_skip (part : Grammar shape) (rest : List Element) (record : Record) :
    elementsText? (.skip part :: rest) record =
      (elementsText? rest record).map (part.canonical.getD "" ++ ·) :=
  toOption_map _ _

theorem elementsText?_field (name : String) (part : Grammar shape) (rest : List Element)
    (record : Record) :
    elementsText? (.field name part :: rest) record =
      ((record.get? name).bind part.text?).bind fun front =>
        (elementsText? rest record).map (front ++ ·) := by
  rw [elementsText?, spellElements]
  cases record.get? name with
  | none => rfl
  | some value =>
      simp only [bind_pure_comp, toOption_bind, toOption_map]
      rfl

theorem text?_template (elements : List Element) (value : Value) :
    (template elements).text? value =
      value.asRecord?.bind fun record =>
        if (unknownField? elements record).isSome then none else elementsText? elements record := by
  cases value with
  | record fields =>
      simp only [text?, Shape.spellValue, Shape.ofValue, ok_bind, spelling, Value.asRecord?]
      cases hunknown : unknownField? elements ⟨fields⟩ <;> simp [hunknown, elementsText?]
  | _ => rfl

/-- The text of a tagged value by the first branch of its name. -/
def branchText? (branches : List Branch) (names : List String) (tagged : Tagged) : Option String :=
  (spellBranch branches names tagged).toOption

theorem branchText?_cons (name : String) (body : Grammar shape) (rest : List Branch)
    (names : List String) (tagged : Tagged) :
    branchText? (.mk name body :: rest) names tagged =
      if name = tagged.tag then body.text? tagged.content else branchText? rest names tagged := by
  rw [branchText?, spellBranch]
  split <;> rfl

theorem text?_choice (branches : List Branch) (value : Value) :
    (choice branches).text? value =
      (Tagged.ofValue value).toOption.bind (branchText? branches (Branch.names branches)) :=
  toOption_bind _ _

/-! ### Normalising -/

theorem toOption_normalizeValue (normalize : shape.Carrier → Except EncodeError shape.Carrier)
    (value : Value) :
    (Shape.normalizeValue normalize value).toOption =
      ((shape.ofValue value).toOption.bind fun content => (normalize content).toOption).map
        shape.toValue := by
  simp only [Shape.normalizeValue, bind_pure_comp, toOption_bind, toOption_map, Option.map_bind,
    Function.comp_def]

theorem mapM_normal? (item : Grammar shape) (items : List Value) :
    items.mapM item.normal? =
      ((items.mapM shape.ofValue).toOption.bind fun contents =>
        (contents.mapM item.normalize).toOption).map (List.map shape.toValue) := by
  have hnormal : item.normal? =
      fun value => ((shape.ofValue value).toOption.bind fun content =>
        (item.normalize content).toOption).map shape.toValue :=
    funext (toOption_normalizeValue item.normalize)
  simp only [toOption_mapM, mapM_bind_mapM, map_mapM, hnormal]

theorem toOption_normalizeItems (item : Grammar shape) (value : Value) :
    (@Shape.normalizeValue (.list shape) (fun content => content.mapM item.normalize)
        value).toOption =
      value.asList?.bind fun items => (items.mapM item.normal?).map .list := by
  rw [toOption_normalizeValue]
  cases value with
  | list items =>
      simp only [Value.asList?, Option.bind_some, mapM_normal?, Option.map_map]
      rfl
  | _ => rfl

theorem normal?_terminal {kind : Scalar} (leaf : Terminal kind.Carrier) (value : Value) :
    (terminal leaf).normal? value = (kind.ofValue value).toOption.map kind.toValue := by
  rw [normal?, normalizeValue, toOption_normalizeValue]
  cases hcontent : kind.ofValue value <;> simp [Shape.ofValue, Shape.toValue, hcontent, normalize]

theorem normal?_optional (inner : Grammar shape) (value : Value) :
    (optional inner).normal? value =
      value.asOptional?.bind fun content =>
        (content.elim (some none) fun present => (inner.normal? present).map some).map
          .optional := by
  rw [normal?, normalizeValue, toOption_normalizeValue]
  cases value with
  | optional content =>
      cases content with
      | none => rfl
      | some content =>
          simp only [Value.asOptional?, Option.bind_some, Option.elim_some, normal?, normalizeValue,
            toOption_normalizeValue]
          cases hcontent : shape.ofValue content with
          | error error => simp [Shape.ofValue, hcontent]
          | ok converted =>
              simp [Shape.ofValue, hcontent, normalize, Shape.toValue, Function.comp_def]
  | _ => rfl

theorem normal?_repeated (nonEmpty : Bool) (item : Grammar shape) (value : Value) :
    (repeated nonEmpty item).normal? value =
      value.asList?.bind fun items => (items.mapM item.normal?).map .list :=
  toOption_normalizeItems item value

theorem normal?_separated (nonEmpty : Bool) (item : Grammar shape) (separator : Grammar gap)
    (value : Value) :
    (separated nonEmpty item separator).normal? value =
      value.asList?.bind fun items => (items.mapM item.normal?).map .list :=
  toOption_normalizeItems item value

theorem normal?_erased (inner : Grammar shape) (value : Value) :
    (erased inner).normal? value = inner.normal? value := by
  rw [normal?, normalizeValue, toOption_normalizeValue]
  exact congrFun Option.map_id _

/-- The fields of the elements, normalised and set in a record. -/
def elementsNormal? (elements : List Element) (record normal : Record) : Option Record :=
  (normalizeElements elements record normal).toOption

theorem elementsNormal?_field (name : String) (part : Grammar shape) (rest : List Element)
    (record normal : Record) :
    elementsNormal? (.field name part :: rest) record normal =
      ((record.get? name).bind part.normal?).bind fun value =>
        elementsNormal? rest record (normal.set name value) := by
  rw [elementsNormal?, normalizeElements]
  cases record.get? name with
  | none => rfl
  | some value => exact toOption_bind _ _

theorem normal?_template (elements : List Element) (value : Value) :
    (template elements).normal? value =
      value.asRecord?.bind fun record =>
        (elementsNormal? elements record .empty).map Record.toValue := by
  rw [normal?, normalizeValue, toOption_normalizeValue]
  cases value <;> rfl

def branchNormal? (branches : List Branch) (names : List String) (tagged : Tagged) :
    Option Tagged :=
  (normalizeBranch branches names tagged).toOption

theorem branchNormal?_cons (name : String) (body : Grammar shape) (rest : List Branch)
    (names : List String) (tagged : Tagged) :
    branchNormal? (.mk name body :: rest) names tagged =
      if name = tagged.tag then (body.normal? tagged.content).map (Tagged.mk tagged.tag)
      else branchNormal? rest names tagged := by
  rw [branchNormal?, normalizeBranch]
  split
  · rw [bind_pure_comp]
    exact toOption_map _ _
  · rfl

theorem normal?_choice (branches : List Branch) (value : Value) :
    (choice branches).normal? value =
      ((Tagged.ofValue value).toOption.bind
        (branchNormal? branches (Branch.names branches))).map Tagged.toValue :=
  toOption_normalizeValue _ _

end Grammar

/-! ### Decoding -/

namespace Outcome

variable {α β γ : Type}

theorem mapValue_mapValue (f : α → β) (g : β → γ) (outcome : Outcome α) :
    (outcome.mapValue f).mapValue g = outcome.mapValue (g ∘ f) := by
  cases outcome <;> rfl

theorem optional_mapValue (f : α → β) (outcome : Outcome α) (cursor : Cursor) :
    (outcome.mapValue f).optional cursor = (outcome.optional cursor).mapValue (Option.map f) := by
  cases outcome with
  | ok decoded => rfl
  | error fault =>
      simp only [mapValue_error, optional]
      split <;> rfl

section Items

variable {f : α → β} {item : Cursor → Outcome α} {item' : Cursor → Outcome β}
  (hitem : ∀ start, item' start = (item start).mapValue f)
include hitem

theorem consuming_mapValue (start : Cursor) :
    consuming item' start = (consuming item start).mapValue f := by
  rw [consuming, consuming, hitem]
  cases item start with
  | error fault => rfl
  | ok decoded =>
      obtain ⟨value, next⟩ := decoded
      by_cases hidle : next.offset = start.offset
      · simp [hidle, fail]
      · simp [hidle]

theorem itemsFrom_mapValue (fuel : Nat) (here : Cursor) :
    itemsFrom item' fuel here = (itemsFrom item fuel here).mapValue (List.map f) := by
  induction fuel generalizing here with
  | zero => rfl
  | succ fuel ih =>
      rw [itemsFrom, itemsFrom, hitem]
      cases item here with
      | ok first =>
          simp only [ih, mapValue_mapValue]
          rfl
      | error fault =>
          simp only [mapValue_error]
          split <;> rfl

theorem turn_mapValue (gap : Cursor → Except (Fault DecodeError) Cursor) (here : Cursor) :
    turn gap item' here = (turn gap item here).mapValue f := by
  cases hgap : gap here with
  | error fault => simp only [turn_of_gap_error hgap, mapValue_error]
  | ok start => rw [turn_of_gap hgap, turn_of_gap hgap, consuming_mapValue hitem]

/-- A repetition of converted items is the converted repetition. -/
theorem repetition_mapValue (nonEmpty : Bool) (gap : Cursor → Except (Fault DecodeError) Cursor)
    (cursor : Cursor) :
    repetition nonEmpty gap item' cursor =
      (repetition nonEmpty gap item cursor).mapValue (List.map f) := by
  have hfirst := consuming_mapValue hitem cursor
  cases hconsuming : consuming item cursor with
  | ok first =>
      rw [hconsuming] at hfirst
      rw [repetition_of_first nonEmpty hfirst, repetition_of_first nonEmpty hconsuming,
        itemsFrom_mapValue (turn_mapValue hitem gap), mapValue_mapValue, mapValue_mapValue]
      rfl
  | error fault =>
      rw [hconsuming] at hfirst
      cases hrecover : fault.recoverable? with
      | none =>
          rw [repetition_of_fault nonEmpty hfirst hrecover,
            repetition_of_fault nonEmpty hconsuming hrecover, mapValue_error]
      | some error =>
          rw [repetition_of_recoverable nonEmpty hfirst hrecover,
            repetition_of_recoverable nonEmpty hconsuming hrecover]
          cases nonEmpty <;> rfl

end Items

end Outcome

namespace Grammar

variable {shape gap : Shape}

theorem decodeValue_erased (inner : Grammar shape) (cursor : Cursor) :
    (erased inner).decodeValue cursor = inner.decodeValue cursor :=
  Outcome.mapValue_mapValue _ _ _

theorem decodeValue_optional (inner : Grammar shape) (cursor : Cursor) :
    (optional inner).decodeValue cursor =
      ((inner.decodeValue cursor).optional cursor).mapValue .optional := by
  rw [decodeValue, decodeValue, Outcome.optional_mapValue, Outcome.mapValue_mapValue]
  rfl

theorem repetition_decodeValue (nonEmpty : Bool)
    (skips : Cursor → Except (Fault DecodeError) Cursor) (item : Grammar shape) (cursor : Cursor) :
    (Outcome.repetition nonEmpty skips item.decodeValue cursor).mapValue .list =
      (Outcome.repetition nonEmpty skips item.decode cursor).mapValue
        (Shape.list shape).toValue := by
  rw [Outcome.repetition_mapValue (fun _ => rfl : ∀ start, item.decodeValue start = _),
    Outcome.mapValue_mapValue]
  rfl

theorem decodeValue_repeated (nonEmpty : Bool) (item : Grammar shape) (cursor : Cursor) :
    (repeated nonEmpty item).decodeValue cursor =
      (Outcome.repetition nonEmpty .ok item.decodeValue cursor).mapValue .list :=
  (repetition_decodeValue nonEmpty .ok item cursor).symm

theorem decodeValue_separated (nonEmpty : Bool) (item : Grammar shape) (separator : Grammar gap)
    (cursor : Cursor) :
    (separated nonEmpty item separator).decodeValue cursor =
      (Outcome.repetition nonEmpty (fun here => (separator.decodeValue here).ending)
        item.decodeValue cursor).mapValue .list := by
  rw [repetition_decodeValue]
  simp only [decodeValue, Outcome.ending_mapValue]
  rfl

theorem decodeElements_field (name : String) (part : Grammar shape) (rest : List Element)
    (cursor : Cursor) (record : Record) :
    decodeElements (.field name part :: rest) cursor record =
      match part.decodeValue cursor with
      | .ok decoded => decodeElements rest decoded.cursor (record.set name decoded.value)
      | .error fault => .error fault := by
  rw [decodeElements, decodeValue]
  cases part.decode cursor <;> rfl

theorem decodeElements_skip (part : Grammar shape) (rest : List Element) (cursor : Cursor)
    (record : Record) :
    decodeElements (.skip part :: rest) cursor record =
      match part.decodeValue cursor with
      | .ok decoded => decodeElements rest decoded.cursor record
      | .error fault => .error fault := by
  rw [decodeElements, decodeValue]
  cases part.decode cursor <;> rfl

theorem decodeBranches_cons (name : String) (body : Grammar shape) (rest : List Branch)
    (cursor : Cursor) (tried : List String) (furthest : Nat) :
    decodeBranches (.mk name body :: rest) cursor tried furthest =
      match body.decodeValue cursor with
      | .ok decoded => .ok (decoded.map (Tagged.mk name))
      | .error fault =>
          match fault.recoverable? with
          | some error => decodeBranches rest cursor tried (max furthest error.offset)
          | none => .error fault := by
  rw [decodeBranches, decodeValue]
  cases body.decode cursor <;> rfl

end Grammar

end TwoWay
