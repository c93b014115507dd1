import TwoWay.Grammar.Decode
import TwoWay.Proofs.Spelling

/-!
# Conforming values

A value conforms to a grammar when it is put together as decoding puts values together: records
hold the fields of their template in its order, tags name branches, and what stands inside them has
the type of the part that it belongs to. What a terminal may contain is left open, so that more can
be said of the texts of particular terminals. Decoding yields conforming values only.
-/

namespace TwoWay

@[simp]
theorem Shape.ofValue_toValue (shape : Shape) (content : shape.Carrier) :
    shape.ofValue (shape.toValue content) = .ok content := by
  induction shape with
  | scalar kind => cases kind <;> rfl
  | record => rfl
  | tagged => rfl
  | any => rfl
  | list item ih =>
      rw [toValue, ofValue, mapM_eq_ok_iff, List.forall₂_map_left_iff]
      exact List.forall₂_same.2 fun content _ => ih content
  | optional inner ih =>
      cases content with
      | none => rfl
      | some content => simp [toValue, ofValue, ih content]

namespace Record

theorem names_append (first second : List (String × Value)) :
    (Record.mk (first ++ second)).names = (Record.mk first).names ++ (Record.mk second).names := by
  simp [names]

theorem set_of_notMem {record : Record} {name : String} (hnew : name ∉ record.names)
    (value : Value) : record.set name value = ⟨record.fields ++ [(name, value)]⟩ := by
  obtain ⟨fields⟩ := record
  suffices hfields : (setField name value fields).2 = fields ++ [(name, value)] by
    simp [set, insert, hfields]
  induction fields with
  | nil => rfl
  | cons field rest ih =>
      obtain ⟨other, old⟩ := field
      simp only [names, List.map_cons, List.mem_cons, not_or] at hnew
      have hother : ¬ other = name := fun heq => hnew.1 heq.symm
      simp [setField, hother, ih hnew.2]

theorem notMem_names_append {record : Record} {name : String} {names : List String}
    (hname : name ∉ names) (hfresh : ∀ other ∈ names, other ∉ record.names) (value : Value) :
    ∀ other ∈ names, other ∉ (Record.mk (record.fields ++ [(name, value)])).names := by
  intro other hother
  rw [names_append, List.mem_append, not_or]
  refine ⟨hfresh other hother, ?_⟩
  simp only [Record.names, List.map_cons, List.map_nil, List.mem_singleton]
  rintro rfl
  exact hname hother

theorem lookup_eq_some_of_mem {fields : List (String × Value)} {name : String} {value : Value}
    (hnodup : (fields.map Prod.fst).Nodup) (hmem : (name, value) ∈ fields) :
    fields.lookup name = some value := by
  induction fields with
  | nil => cases hmem
  | cons field rest ih =>
      obtain ⟨other, found⟩ := field
      obtain ⟨hfresh, hrest⟩ := List.nodup_cons.1 hnodup
      rcases List.mem_cons.1 hmem with heq | hlater
      · cases heq
        simp
      · have hne : name ≠ other := by
          rintro rfl
          exact hfresh (List.mem_map.2 ⟨_, hlater, rfl⟩)
        have hbeq : (name == other) = false := by simp [hne]
        simp [List.lookup_cons, hbeq, ih hrest hlater]

end Record

namespace Outcome

variable {α β : Type} {holds : α → Prop}

/-- A value that the attempt yields has the property. -/
def Gives (holds : α → Prop) (outcome : Outcome α) : Prop :=
  ∀ decoded, outcome = .ok decoded → holds decoded.value

theorem gives_mapValue {holds : β → Prop} {f : α → β} {outcome : Outcome α}
    (hgives : outcome.Gives fun value => holds (f value)) : (outcome.mapValue f).Gives holds := by
  intro decoded hdecoded
  cases outcome with
  | error fault => cases hdecoded
  | ok inner =>
      cases hdecoded
      exact hgives inner rfl

theorem gives_optional {outcome : Outcome α} (hgives : outcome.Gives holds) (cursor : Cursor) :
    (outcome.optional cursor).Gives fun content => ∀ present ∈ content, holds present := by
  intro decoded hdecoded
  cases outcome with
  | ok inner =>
      cases hdecoded
      intro present hpresent
      cases hpresent
      exact hgives inner rfl
  | error fault =>
      simp only [optional] at hdecoded
      split at hdecoded
      · cases hdecoded
        exact fun _ habsent => nomatch habsent
      · cases hdecoded

theorem gives_consuming {item : Cursor → Outcome α} (hitem : ∀ cursor, (item cursor).Gives holds)
    (cursor : Cursor) : (consuming item cursor).Gives holds := by
  intro decoded hdecoded
  simp only [consuming] at hdecoded
  split at hdecoded
  · rename_i inner hinner
    split at hdecoded
    · cases hdecoded
    · cases hdecoded
      exact hitem cursor decoded hinner
  · cases hdecoded

theorem gives_cons {first : α} {outcome : Outcome (List α)} (hfirst : holds first)
    (hgives : outcome.Gives fun items => ∀ item ∈ items, holds item) :
    (outcome.mapValue (first :: ·)).Gives fun items => ∀ item ∈ items, holds item :=
  gives_mapValue fun decoded hdecoded => List.forall_mem_cons.2 ⟨hfirst, hgives decoded hdecoded⟩

theorem gives_itemsFrom {attempt : Cursor → Outcome α}
    (hattempt : ∀ cursor, (attempt cursor).Gives holds) (fuel : Nat) (cursor : Cursor) :
    (itemsFrom attempt fuel cursor).Gives fun items => ∀ item ∈ items, holds item := by
  induction fuel generalizing cursor with
  | zero =>
      intro decoded hdecoded
      cases hdecoded
      exact fun _ hmem => nomatch hmem
  | succ fuel ih =>
      rw [itemsFrom]
      split
      · rename_i first hfirst
        exact gives_cons (hattempt cursor first hfirst) (ih first.cursor)
      · split
        · intro decoded hdecoded
          cases hdecoded
          exact fun _ hmem => nomatch hmem
        · exact fun _ hdecoded => nomatch hdecoded

theorem gives_repetition (nonEmpty : Bool) (gap : Cursor → Except (Fault DecodeError) Cursor)
    {item : Cursor → Outcome α} (hitem : ∀ cursor, (item cursor).Gives holds) (cursor : Cursor) :
    (repetition nonEmpty gap item cursor).Gives fun items => ∀ item ∈ items, holds item := by
  have hturn : ∀ here, Gives holds ((gap here).bind (consuming item)) := by
    intro here
    cases gap here with
    | error fault => exact fun _ hdecoded => nomatch hdecoded
    | ok next => exact gives_consuming hitem next
  rw [repetition]
  split
  · rename_i first hfirst
    exact gives_cons (gives_consuming hitem cursor first hfirst)
      (gives_itemsFrom hturn _ first.cursor)
  · split
    · split
      · exact fun _ hdecoded => nomatch hdecoded
      · intro decoded hdecoded
        cases hdecoded
        exact fun _ hmem => nomatch hmem
    · exact fun _ hdecoded => nomatch hdecoded

end Outcome

namespace Grammar

section Conforms

variable (leafHolds : {kind : Scalar} → Terminal kind.Carrier → kind.Carrier → Prop)

mutual

/-- The value is put together as the grammar says, from contents that the terminals allow. -/
def Conforms : {shape : Shape} → Grammar shape → shape.Carrier → Prop
  | _, .terminal leaf, content => leafHolds leaf content
  | _, .named _ inner, content => Conforms inner content
  | _, .optional inner, content => ∀ present ∈ content, Conforms inner present
  | _, .repeated _ item, content => ∀ single ∈ content, Conforms item single
  | _, .separated _ item _, content => ∀ single ∈ content, Conforms item single
  | _, .template elements, record => FieldsConform elements record.fields
  | _, .choice branches, tagged => BranchConforms branches tagged
  | _, @erased shape inner, value =>
      ∃ content, value = shape.toValue content ∧ Conforms inner content

def FieldsConform : List Element → List (String × Value) → Prop
  | [], fields => fields = []
  | .literal _ :: rest, fields => FieldsConform rest fields
  | .skip _ :: rest, fields => FieldsConform rest fields
  | @Element.field shape name part :: rest, fields =>
      ∃ content more, fields = (name, shape.toValue content) :: more ∧ Conforms part content ∧
        FieldsConform rest more

def BranchConforms : List Branch → Tagged → Prop
  | [], _ => False
  | @Branch.mk shape name body :: rest, tagged =>
      if name = tagged.tag then
        ∃ content, tagged.content = shape.toValue content ∧ Conforms body content
      else BranchConforms rest tagged

end

variable {leafHolds} in
theorem FieldsConform.names_eq {elements : List Element} {fields : List (String × Value)}
    (hfields : FieldsConform leafHolds elements fields) :
    fields.map Prod.fst = Element.fieldNames elements := by
  induction elements generalizing fields with
  | nil => simpa [FieldsConform, Element.fieldNames] using hfields
  | cons element rest ih =>
      cases element with
      | literal text => exact ih hfields
      | skip part => exact ih hfields
      | field name part =>
          obtain ⟨content, more, rfl, -, hmore⟩ := hfields
          rw [Element.fieldNames_field, List.map_cons, ih hmore]

variable {leafHolds} in
theorem BranchConforms.tag_mem {branches : List Branch} {tagged : Tagged}
    (hbranch : BranchConforms leafHolds branches tagged) : tagged.tag ∈ Branch.names branches := by
  induction branches with
  | nil => exact hbranch.elim
  | cons branch rest ih =>
      obtain ⟨name, body⟩ := branch
      rw [BranchConforms] at hbranch
      split at hbranch
      · rename_i heq
        exact List.mem_cons.2 (.inl heq.symm)
      · exact List.mem_cons_of_mem name (ih hbranch)

def DecodesConforming {shape : Shape} (grammar : Grammar shape) : Prop :=
  ∀ cursor, (grammar.decode cursor).Gives (Conforms leafHolds grammar)

/-- The fields of a decoded template stand behind those decoded before. -/
theorem fieldsConform_of_decodeElements {elements : List Element}
    (hparts : ∀ element ∈ elements, element.PartIs (DecodesConforming leafHolds))
    (hnodup : (Element.fieldNames elements).Nodup) {cursor : Cursor} {record : Record}
    (hfresh : ∀ name ∈ Element.fieldNames elements, name ∉ record.names)
    {decoded : Decoded Record} (hdecode : decodeElements elements cursor record = .ok decoded) :
    ∃ fields, decoded.value = ⟨record.fields ++ fields⟩ ∧
      FieldsConform leafHolds elements fields := by
  induction elements generalizing cursor record with
  | nil =>
      cases hdecode
      exact ⟨[], by simp, rfl⟩
  | cons element rest ih =>
      obtain ⟨hpart, hrest⟩ := List.forall_mem_cons.1 hparts
      cases element with
      | literal text =>
          rw [decodeElements] at hdecode
          split at hdecode
          · exact ih hrest hnodup hfresh hdecode
          · cases hdecode
      | skip part =>
          rw [decodeElements] at hdecode
          split at hdecode
          · exact ih hrest hnodup hfresh hdecode
          · cases hdecode
      | @field shape name part =>
          rw [Element.fieldNames_field] at hnodup hfresh
          obtain ⟨hname, hnodup⟩ := List.nodup_cons.1 hnodup
          obtain ⟨hnew, hfresh⟩ := List.forall_mem_cons.1 hfresh
          rw [decodeElements] at hdecode
          split at hdecode
          · rename_i inner hinner
            rw [Record.set_of_notMem hnew] at hdecode
            -- The new name joins the earlier ones, which the remaining elements avoid.
            obtain ⟨fields, hvalue, hfields⟩ :=
              ih hrest hnodup (Record.notMem_names_append hname hfresh _) hdecode
            refine ⟨(name, shape.toValue inner.value) :: fields, ?_, inner.value, fields, rfl,
              hpart cursor inner hinner, hfields⟩
            rw [hvalue, List.append_assoc, List.singleton_append]
          · cases hdecode

theorem branchConforms_of_decodeBranches {branches : List Branch}
    (hbodies : ∀ branch ∈ branches, branch.BodyIs (DecodesConforming leafHolds))
    (hnodup : (Branch.names branches).Nodup) {cursor : Cursor} {tried : List String}
    {furthest : Nat} {decoded : Decoded Tagged}
    (hdecode : decodeBranches branches cursor tried furthest = .ok decoded) :
    BranchConforms leafHolds branches decoded.value := by
  induction branches generalizing furthest with
  | nil => cases hdecode
  | cons branch rest ih =>
      obtain ⟨name, body⟩ := branch
      obtain ⟨hbody, hrest⟩ := List.forall_mem_cons.1 hbodies
      obtain ⟨hname, hdistinct⟩ := List.nodup_cons.1 hnodup
      rw [decodeBranches] at hdecode
      split at hdecode
      · rename_i inner hinner
        cases hdecode
        rw [BranchConforms, if_pos rfl]
        exact ⟨inner.value, rfl, hbody cursor inner hinner⟩
      · split at hdecode
        · have hlater := ih hrest hdistinct hdecode
          have hne : name ≠ decoded.value.tag := by
            rintro rfl
            exact hname hlater.tag_mem
          rw [BranchConforms, if_neg hne]
          exact hlater
        · cases hdecode

/-- **Decoded values conform.** The terminals need only be asked for what they decode. -/
theorem decodesConforming {shape : Shape} (grammar : Grammar shape) (hbuilt : grammar.Built)
    (hleaf : ∀ {kind : Scalar} (leaf : Terminal kind.Carrier) (cursor : Cursor),
      (leaf.decode cursor).Gives (leafHolds leaf)) :
    DecodesConforming leafHolds grammar := by
  induction grammar with
  | terminal leaf => exact hleaf leaf
  | named name inner ih => exact ih hbuilt.2
  | optional inner ih =>
      exact fun cursor => Outcome.gives_optional (ih hbuilt.2 cursor) cursor
  | repeated nonEmpty item ih => exact Outcome.gives_repetition nonEmpty _ (ih hbuilt.2)
  | separated nonEmpty item separator ih _ =>
      exact Outcome.gives_repetition nonEmpty _ (ih hbuilt.2.1)
  | template elements ih =>
      obtain ⟨hnodup, hparts⟩ := hbuilt.template
      intro cursor decoded hdecode
      obtain ⟨fields, hvalue, hfields⟩ := fieldsConform_of_decodeElements leafHolds
        (fun element hmem => (ih element hmem).mp (hparts element hmem)) hnodup
        (fun _ _ => List.not_mem_nil) hdecode
      rw [hvalue]
      exact hfields
  | choice branches ih =>
      obtain ⟨hnodup, hbodies⟩ := hbuilt.choice
      intro cursor decoded hdecode
      exact branchConforms_of_decodeBranches leafHolds
        (fun branch hmem => (ih branch hmem).mp (hbodies branch hmem)) hnodup hdecode
  | erased inner ih =>
      intro cursor
      apply Outcome.gives_mapValue
      intro decoded hdecode
      exact ⟨decoded.value, rfl, ih hbuilt.2 cursor decoded hdecode⟩

end Conforms

end Grammar

end TwoWay
