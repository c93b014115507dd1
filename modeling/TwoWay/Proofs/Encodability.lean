import TwoWay.Grammar.Render
import TwoWay.Proofs.Agreement
import TwoWay.Proofs.Faults

/-!
# What decodes can be written

Decoding and writing check the same things apart from each other: which fields a record has, which
branch a tag names, how many items there are, and of what type each value is. A decoded value passes
all the checks of writing. So rendering it fails, if it fails, only when the written text is read
back: the text is not accepted, or it stands for another value.
-/

namespace TwoWay

/-! ### Repetitions have enough items -/

theorem Outcome.gives_enough {α : Type} (nonEmpty : Bool)
    (gap : Cursor → Except (Fault DecodeError) Cursor) (item : Cursor → Outcome α)
    (cursor : Cursor) :
    (repetition nonEmpty gap item cursor).Gives fun items => nonEmpty.toNat ≤ items.length := by
  cases hfirst : consuming item cursor with
  | ok first =>
      rw [repetition_of_first nonEmpty hfirst]
      apply gives_mapValue
      intro decoded _
      have hone : nonEmpty.toNat ≤ 1 := nonEmpty.toNat_le
      rw [List.length_cons]
      omega
  | error fault =>
      cases hrecover : fault.recoverable? with
      | none =>
          rw [repetition_of_fault nonEmpty hfirst hrecover]
          exact fun _ hdecoded => nomatch hdecoded
      | some error =>
          rw [repetition_of_recoverable nonEmpty hfirst hrecover]
          cases nonEmpty with
          | true => exact fun _ hdecoded => nomatch hdecoded
          | false => exact fun _ _ => Nat.zero_le _

theorem exists_spellItems {α : Type} {nonEmpty : Bool} {spell : α → Except EncodeError String}
    {content : List α} (henough : nonEmpty.toNat ≤ content.length)
    (hitems : ∀ single ∈ content, ∃ text, spell single = .ok text) (separator : String) :
    ∃ text, spellItems nonEmpty spell separator content = .ok text := by
  obtain ⟨texts, htexts⟩ := exists_mapM_eq_ok hitems
  exact ⟨_, spellItems_eq_ok_iff.2 ⟨Nat.not_lt.2 henough, texts, htexts, rfl⟩⟩

namespace Grammar

def DecodesSpelled {shape : Shape} (grammar : Grammar shape) : Prop :=
  ∀ cursor, (grammar.decode cursor).Gives fun content =>
    ∃ text, grammar.spelling content = .ok text

theorem DecodesSpelled.items {shape : Shape} {item : Grammar shape} (hitem : item.DecodesSpelled)
    (nonEmpty : Bool) (gap : Cursor → Except (Fault DecodeError) Cursor) (separator : String)
    (cursor : Cursor) :
    (Outcome.repetition nonEmpty gap item.decode cursor).Gives fun content =>
      ∃ text, spellItems nonEmpty item.spelling separator content = .ok text := by
  intro decoded hdecode
  have henough := Outcome.gives_enough nonEmpty gap item.decode cursor decoded hdecode
  have hspelled := Outcome.gives_repetition nonEmpty gap hitem cursor decoded hdecode
  exact exists_spellItems henough hspelled separator

/-! ### Templates find their fields -/

/-- Decoding the elements leaves alone what they have no field for. -/
theorem get?_of_decodeElements {elements : List Element} {name : String}
    (hname : name ∉ Element.fieldNames elements) {cursor : Cursor} {record : Record}
    {decoded : Decoded Record} (hdecode : decodeElements elements cursor record = .ok decoded) :
    decoded.value.get? name = record.get? name := by
  induction elements generalizing cursor record with
  | nil =>
      cases hdecode
      rfl
  | cons element rest ih =>
      cases element with
      | literal text =>
          rw [decodeElements] at hdecode
          split at hdecode
          · exact ih hname hdecode
          · cases hdecode
      | skip part =>
          rw [decodeElements] at hdecode
          split at hdecode
          · exact ih hname hdecode
          · cases hdecode
      | field other part =>
          rw [Element.fieldNames_field, List.mem_cons, not_or] at hname
          rw [decodeElements] at hdecode
          split at hdecode
          · rw [ih hname.2 hdecode, Record.get?_set_of_ne record hname.1]
          · cases hdecode

theorem exists_spellElements {elements : List Element}
    (hparts : ∀ element ∈ elements, element.PartIs DecodesSpelled)
    (hnodup : (Element.fieldNames elements).Nodup) {cursor : Cursor} {record : Record}
    {decoded : Decoded Record} (hdecode : decodeElements elements cursor record = .ok decoded) :
    ∃ text, spellElements elements decoded.value = .ok text := by
  induction elements generalizing cursor record with
  | nil => exact ⟨"", rfl⟩
  | cons element rest ih =>
      obtain ⟨hpart, hrest⟩ := List.forall_mem_cons.1 hparts
      cases element with
      | literal text =>
          rw [decodeElements] at hdecode
          split at hdecode
          · obtain ⟨more, hmore⟩ := ih hrest hnodup hdecode
            exact ⟨text ++ more, by rw [spellElements, hmore, map_ok]⟩
          · cases hdecode
      | skip part =>
          rw [decodeElements] at hdecode
          split at hdecode
          · obtain ⟨more, hmore⟩ := ih hrest hnodup hdecode
            exact ⟨part.canonical.getD "" ++ more, by rw [spellElements, hmore, map_ok]⟩
          · cases hdecode
      | @field shape name part =>
          rw [Element.fieldNames_field] at hnodup
          obtain ⟨hname, hnodup⟩ := List.nodup_cons.1 hnodup
          rw [decodeElements] at hdecode
          split at hdecode
          · rename_i inner hinner
            -- No later field has this name, so its value is still there when all is decoded.
            have hget : decoded.value.get? name = some (shape.toValue inner.value) := by
              rw [get?_of_decodeElements hname hdecode, Record.get?_set_self]
            obtain ⟨first, hfirst⟩ := hpart cursor inner hinner
            obtain ⟨more, hmore⟩ := ih hrest hnodup hdecode
            refine ⟨first ++ more, ?_⟩
            simp only [spellElements, hget, Shape.spellValue_toValue, hfirst, hmore, ok_bind,
              pure_eq_ok]
          · cases hdecode

/-! ### Choices find their branch -/

theorem spellBranch_append {front : List Branch} {tagged : Tagged}
    (hfront : tagged.tag ∉ Branch.names front) (rest : List Branch) (names : List String) :
    spellBranch (front ++ rest) names tagged = spellBranch rest names tagged := by
  induction front with
  | nil => rfl
  | cons branch front ih =>
      obtain ⟨name, body⟩ := branch
      rw [Branch.names, List.map_cons, List.mem_cons, not_or] at hfront
      have hname : name ≠ tagged.tag := Ne.symm hfront.1
      rw [List.cons_append, spellBranch, if_neg hname, ih hfront.2]

theorem exists_spellBranch {branches : List Branch}
    (hbodies : ∀ branch ∈ branches, branch.BodyIs DecodesSpelled)
    (hnodup : (Branch.names branches).Nodup) {cursor : Cursor} {tried : List String}
    {furthest : Nat} {decoded : Decoded Tagged}
    (hdecode : decodeBranches branches cursor tried furthest = .ok decoded) (names : List String) :
    ∃ text, spellBranch branches names decoded.value = .ok text := by
  rcases decodeBranches_cases branches cursor tried furthest with
    ⟨shape, front, name, body, back, rfl, -, hchosen⟩ | ⟨furthest', hexhausted⟩
  · rw [hchosen] at hdecode
    cases hbody : body.decode cursor with
    | error fault =>
        rw [hbody] at hdecode
        cases hdecode
    | ok inner =>
        rw [hbody] at hdecode
        cases hdecode
        have hspelled : (Branch.mk name body).BodyIs DecodesSpelled := hbodies _ (by simp)
        obtain ⟨text, htext⟩ := hspelled cursor inner hbody
        have hfresh : name ∉ Branch.names front := by
          rw [Branch.names, List.map_append, List.nodup_append] at hnodup
          intro hmem
          exact hnodup.2.2 name hmem name List.mem_cons_self rfl
        have hspell : spellBranch (front ++ .mk name body :: back) names
            ⟨name, shape.toValue inner.value⟩ = .ok text := by
          rw [spellBranch_append hfresh, spellBranch, if_pos rfl, Shape.spellValue_toValue, htext]
        exact ⟨text, hspell⟩
  · rw [hexhausted] at hdecode
    cases hdecode

/-- **Decoded values have a text.** By induction on the grammar. -/
theorem decodesSpelled {shape : Shape} (grammar : Grammar shape) (hbuilt : grammar.Built) :
    grammar.DecodesSpelled := by
  induction grammar with
  | terminal leaf => exact fun _ decoded _ => ⟨leaf.conversion.print decoded.value, rfl⟩
  | named name inner ih => exact ih hbuilt.2
  | optional inner ih =>
      intro cursor decoded hdecode
      have hpresent := Outcome.gives_optional (ih hbuilt.2 cursor) cursor decoded hdecode
      cases hvalue : decoded.value with
      | none => exact ⟨"", rfl⟩
      | some content => exact hpresent content hvalue
  | repeated nonEmpty item ih => exact (ih hbuilt.2).items nonEmpty _ ""
  | separated nonEmpty item separator ih _ => exact (ih hbuilt.2.1).items nonEmpty _ _
  | template elements ih =>
      obtain ⟨hnodup, hparts⟩ := hbuilt.template
      intro cursor decoded hdecode
      have hconforms := decodesConforming (fun _ _ => True) (.template elements) hbuilt
        (fun _ _ _ _ => trivial) cursor decoded hdecode
      have hknown : unknownField? elements decoded.value = none :=
        unknownField?_of_fieldsConform hconforms
      obtain ⟨text, htext⟩ := exists_spellElements
        (fun element hmem => (ih element hmem).mp (hparts element hmem)) hnodup hdecode
      exact ⟨text, by rw [spelling, hknown, htext]⟩
  | choice branches ih =>
      obtain ⟨hnodup, hbodies⟩ := hbuilt.choice
      intro cursor decoded hdecode
      exact exists_spellBranch (fun branch hmem => (ih branch hmem).mp (hbodies branch hmem)) hnodup
        hdecode (Branch.names branches)
  | @erased shape inner ih =>
      intro cursor
      apply Outcome.gives_mapValue
      intro decoded hdecode
      obtain ⟨text, htext⟩ := ih hbuilt.2 cursor decoded hdecode
      exact ⟨text, by rw [spelling, Shape.spellValue_toValue, htext]⟩

/-! ### Rendering -/

variable {shape : Shape} {grammar : Grammar shape} {text : String}

theorem decode_of_parse_overrun {step : Overrun}
    (hparse : grammar.parse text = .error (.overrun step)) :
    grammar.decode (.start text) = .error (.overrun step) := by
  unfold parse at hparse
  split at hparse
  · rename_i fault hdecode
    cases hparse
    exact hdecode
  · split at hparse
    · cases hparse
    · cases hparse

theorem Checked.ne_overrun (hchecked : grammar.Checked) (cursor : Cursor) (step : Overrun) :
    grammar.decode cursor ≠ .error (.overrun step) := by
  intro hdecode
  have hstays := grammar.decodesWithin hchecked cursor
  rw [hdecode] at hstays
  exact hstays

/-- A value with a text and a normal form fails to render only when the text is read back. -/
theorem render_cases {content normal : shape.Carrier} (hencode : grammar.encode content = .ok text)
    (hnormal : grammar.normalize content = .ok normal) :
    grammar.render content = .ok text ∨
      (∃ source, grammar.render content = .error (.error (.roundTrip text source))) ∨
      grammar.render content = .error (.error (.roundTripMismatch text)) ∨
      ∃ step, grammar.render content = .error (.overrun step) ∧
        grammar.parse text = .error (.overrun step) := by
  simp only [render, hencode, hnormal, Except.mapError, ok_bind]
  cases hparse : grammar.parse text with
  | ok parsed =>
      dsimp only
      split
      · exact .inl rfl
      · exact .inr (.inr (.inl rfl))
  | error fault =>
      cases fault with
      | error source => exact .inr (.inl ⟨source, rfl⟩)
      | overrun step => exact .inr (.inr (.inr ⟨step, rfl, rfl⟩))

/-- **Whatever decodes can be written.** A decoded value is its own normal form, fields in order,
and it can be written. So rendering it succeeds, or reports that its text does not parse or parses
to another value. Rendering has no other end, unless a pattern that nothing checks has claimed more
of that text than there is. -/
theorem decoded_value_encodable (grammar : Grammar shape) (hbuilt : grammar.Built)
    (cursor next : Cursor) (content : shape.Carrier)
    (hdecode : grammar.decode cursor = .ok ⟨content, next⟩) :
    grammar.normalizeValue (shape.toValue content) = .ok (shape.toValue content) ∧
      (∀ buffer, ∃ count,
        (grammar.writeValue (shape.toValue content) buffer).result = .ok count) ∧
      ∃ text, grammar.encode content = .ok text ∧
        (grammar.render content = .ok text ∨
          (∃ source, grammar.render content = .error (.error (.roundTrip text source))) ∨
          grammar.render content = .error (.error (.roundTripMismatch text)) ∨
          ∃ step, grammar.render content = .error (.overrun step) ∧
            (Attempt.part grammar (.start text)).HasOrigin (.overrun step) ∧
            ¬ grammar.Checked) := by
  have hnormal : grammar.IsNormal content :=
    decodesConforming (fun _ _ => True) grammar hbuilt (fun _ _ _ _ => trivial) cursor _ hdecode
  have hkept := normalize_of_isNormal grammar hbuilt content hnormal
  obtain ⟨text, htext⟩ := grammar.decodesSpelled hbuilt cursor _ hdecode
  have hencode : grammar.encode content = .ok text := by rw [encode_eq_spelling, htext]
  refine ⟨normalizeValue_toValue hbuilt hnormal, fun buffer => ?_, text, hencode, ?_⟩
  · exact ⟨text.utf8ByteSize, writeValue_eq_ok_iff.2
      ⟨content, text, shape.ofValue_toValue content, htext, rfl⟩⟩
  · rcases render_cases hencode hkept with hrender | hrender | hrender | ⟨step, hrender, hparse⟩
    · exact .inl hrender
    · exact .inr (.inl hrender)
    · exact .inr (.inr (.inl hrender))
    · have hoverrun := decode_of_parse_overrun hparse
      have horigin := grammar.tracesFaults (.start text) _ rfl hoverrun
      exact .inr (.inr (.inr
        ⟨step, hrender, horigin, fun hchecked => hchecked.ne_overrun _ _ hoverrun⟩))

/-- Numbers that are read as they are and written as zero, at least one of them. -/
def zeros : Grammar (.list (.scalar .integer)) :=
  .repeated true (@terminal .integer { Primitive.integer with conversion := .zero })

/-- The number five is found in the middle of a text and can be written, though its text stands for
another number. -/
theorem decoded_value_encodable_zeros :
    zeros.Built ∧ zeros.decode (.between ['x'] ['5', ';']) = .ok ⟨[5], .between ['x', '5'] [';']⟩ ∧
      zeros.normalizeValue (.list [.int 5]) = .ok (.list [.int 5]) ∧
      (∃ count, (zeros.writeValue (.list [.int 5]) "").result = .ok count) ∧
      zeros.render [5] = .error (.error (.roundTripMismatch "0")) := by
  have hbuilt : zeros.Built := ⟨trivial, trivial⟩
  have hdecode : zeros.decode (.between ['x'] ['5', ';']) =
      .ok ⟨[5], .between ['x', '5'] [';']⟩ := rfl
  obtain ⟨hnormal, hwrite, -⟩ := decoded_value_encodable zeros hbuilt _ _ _ hdecode
  exact ⟨hbuilt, hdecode, hnormal, hwrite "", rfl⟩

end Grammar

end TwoWay
