import TwoWay.Proofs.DistinctNames
import TwoWay.Proofs.Encodability

/-!
# Which values can be written

Whether a value can be written is decided in two passes. The whole value is first converted to the
static type of the grammar, and the constructs then check what they are given while they write it.
Here the values that pass both are described by one recursion on the grammar, without conversions
and without texts.
-/

namespace TwoWay

/-- A value of the type. An integer of 64 bits is also one without limit. -/
def Scalar.Fits : Scalar → Value → Prop
  | .integer, value => ∃ n, value = .int n
  | .bigInteger, value => (∃ n, value = .big n) ∨ ∃ n, value = .int n
  | .text, value => ∃ text, value = .str text

theorem Record.lookup_eq_some_iff_mem {fields : List (String × Value)}
    (hnodup : (fields.map Prod.fst).Nodup) {name : String} {value : Value} :
    fields.lookup name = some value ↔ (name, value) ∈ fields := by
  constructor
  · intro hlookup
    obtain ⟨front, back, rfl, -⟩ := List.lookup_eq_some_iff.1 hlookup
    simp
  · exact lookup_eq_some_of_mem hnodup

namespace Grammar

mutual

/-- The value has the form that the grammar asks for. -/
def Fits : {shape : Shape} → Grammar shape → Value → Prop
  | _, @terminal kind _, value => kind.Fits value
  | _, .named _ inner, value => inner.Fits value
  | _, .optional inner, value =>
      value = .optional none ∨ ∃ content, value = .optional (some content) ∧ inner.Fits content
  | _, .repeated nonEmpty item, value =>
      ∃ items, value = .list items ∧ nonEmpty.toNat ≤ items.length ∧ ∀ x ∈ items, item.Fits x
  | _, .separated nonEmpty item _, value =>
      ∃ items, value = .list items ∧ nonEmpty.toNat ≤ items.length ∧ ∀ x ∈ items, item.Fits x
  | _, .template elements, value =>
      ∃ fields, value = .record fields ∧
        (∀ name, name ∈ fields.map Prod.fst ↔ name ∈ Element.fieldNames elements) ∧
        FieldsFit elements fields
  | _, .choice branches, value =>
      ∃ tag content, (value = .tagged tag content ∨ value = .record [(tag, content)]) ∧
        BranchFits branches tag content
  | _, .erased inner, value => inner.Fits value

/-- Every field has the form of the part that bears its name. -/
def FieldsFit : List Element → List (String × Value) → Prop
  | [], _ => True
  | .literal _ :: rest, fields => FieldsFit rest fields
  | .skip _ :: rest, fields => FieldsFit rest fields
  | .field name part :: rest, fields =>
      (∀ content, (name, content) ∈ fields → part.Fits content) ∧ FieldsFit rest fields

/-- The tag is the name of a branch, and the content has the form of that branch. -/
def BranchFits : List Branch → String → Value → Prop
  | [], _, _ => False
  | .mk name body :: rest, tag, content =>
      name = tag ∧ body.Fits content ∨ BranchFits rest tag content

end

/-- The value has a text. -/
def Writes {shape : Shape} (grammar : Grammar shape) (value : Value) : Prop :=
  ∃ text, Shape.spellValue grammar.spelling value = .ok text

/-- Values without repeated names have a text exactly if they have the form. -/
def WritesFitting {shape : Shape} (grammar : Grammar shape) : Prop :=
  ∀ value : Value, value.Distinct → (grammar.Writes value ↔ grammar.Fits value)

/-! ### Terminals and options -/

theorem writes_terminal_iff {kind : Scalar} (leaf : Terminal kind.Carrier) (value : Value) :
    (terminal leaf).Writes value ↔ kind.Fits value := by
  have hwrites : (terminal leaf).Writes value ↔ ∃ content, kind.ofValue value = .ok content := by
    constructor
    · rintro ⟨text, htext⟩
      obtain ⟨content, hcontent, -⟩ := Shape.spellValue_eq_ok_iff.1 htext
      exact ⟨content, hcontent⟩
    · rintro ⟨content, hcontent⟩
      exact ⟨_, Shape.spellValue_eq_ok_iff.2 ⟨content, hcontent, rfl⟩⟩
  rw [hwrites]
  cases kind <;> cases value <;> simp [Scalar.ofValue, Scalar.Fits]

theorem writes_optional_some_iff {shape : Shape} (inner : Grammar shape) (content : Value) :
    (optional inner).Writes (.optional (some content)) ↔ inner.Writes content := by
  simp only [Writes, Shape.spellValue_eq_ok_iff, Shape.ofValue, map_eq_ok_iff]
  constructor
  · rintro ⟨text, _, ⟨present, hpresent, rfl⟩, htext⟩
    exact ⟨text, present, hpresent, htext⟩
  · rintro ⟨text, present, hpresent, htext⟩
    exact ⟨text, some present, ⟨present, hpresent, rfl⟩, htext⟩

/-! ### Repetitions -/

/-- All items pass both conversions exactly if each item does, and their number is not touched by
them. -/
theorem writes_items_iff {shape : Shape} (item : Grammar shape) (nonEmpty : Bool)
    (separator : String) (items : List Value) :
    (∃ text, @Shape.spellValue (.list shape) (spellItems nonEmpty item.spelling separator)
        (.list items) = .ok text) ↔
      nonEmpty.toNat ≤ items.length ∧ ∀ x ∈ items, item.Writes x := by
  constructor
  · rintro ⟨text, hspell⟩
    obtain ⟨contents, hcontents, htext⟩ := Shape.spellValue_eq_ok_iff.1 hspell
    obtain ⟨henough, texts, htexts, -⟩ := spellItems_eq_ok_iff.1 htext
    have hconverted := mapM_eq_ok_iff.1 hcontents
    have hspelled := mapM_eq_ok_iff.1 htexts
    refine ⟨by rw [hconverted.length_eq]; exact Nat.not_lt.1 henough, fun x hx => ?_⟩
    obtain ⟨content, hmem, hcontent⟩ := exists_mem_of_forall₂ (List.Forall₂.flip hconverted) x hx
    obtain ⟨single, -, hsingle⟩ :=
      exists_mem_of_forall₂ (List.Forall₂.flip hspelled) content hmem
    exact ⟨single, Shape.spellValue_eq_ok_iff.2 ⟨content, hcontent, hsingle⟩⟩
  · rintro ⟨henough, hitems⟩
    have hconvertible : ∀ x ∈ items, ∃ content, shape.ofValue x = .ok content := by
      intro x hx
      obtain ⟨text, htext⟩ := hitems x hx
      obtain ⟨content, hcontent, -⟩ := Shape.spellValue_eq_ok_iff.1 htext
      exact ⟨content, hcontent⟩
    obtain ⟨contents, hcontents⟩ := exists_mapM_eq_ok hconvertible
    have hconverted := mapM_eq_ok_iff.1 hcontents
    have hspellable : ∀ content ∈ contents, ∃ text, item.spelling content = .ok text := by
      intro content hmem
      obtain ⟨x, hx, hcontent⟩ := exists_mem_of_forall₂ hconverted content hmem
      obtain ⟨text, htext⟩ := hitems x hx
      obtain ⟨content', hcontent', hsingle⟩ := Shape.spellValue_eq_ok_iff.1 htext
      rw [hcontent] at hcontent'
      cases hcontent'
      exact ⟨text, hsingle⟩
    rw [hconverted.length_eq] at henough
    obtain ⟨text, htext⟩ := exists_spellItems henough hspellable separator
    exact ⟨text, Shape.spellValue_eq_ok_iff.2 ⟨contents, hcontents, htext⟩⟩

theorem WritesFitting.items_iff {shape : Shape} {item : Grammar shape} (hitem : item.WritesFitting)
    (nonEmpty : Bool) (separator : String) {value : Value} (hdistinct : value.Distinct) :
    (∃ text, @Shape.spellValue (.list shape) (spellItems nonEmpty item.spelling separator)
        value = .ok text) ↔
      ∃ items, value = .list items ∧ nonEmpty.toNat ≤ items.length ∧ ∀ x ∈ items, item.Fits x := by
  cases value with
  | list items =>
      rw [Value.Distinct, Value.itemsDistinct_iff] at hdistinct
      have hfits : (∀ x ∈ items, item.Writes x) ↔ ∀ x ∈ items, item.Fits x :=
        forall₂_congr fun x hx => hitem x (hdistinct x hx)
      rw [writes_items_iff, hfits]
      simp
  | _ => simp [Shape.spellValue, Shape.ofValue]

/-! ### Templates -/

theorem unknownField?_eq_none_iff {elements : List Element} {fields : List (String × Value)} :
    unknownField? elements ⟨fields⟩ = none ↔
      ∀ name ∈ fields.map Prod.fst, name ∈ Element.fieldNames elements := by
  simp [unknownField?, Record.names]

theorem exists_spellElements_field_iff {shape : Shape} (name : String) (part : Grammar shape)
    (rest : List Element) (record : Record) :
    (∃ text, spellElements (.field name part :: rest) record = .ok text) ↔
      (∃ value, record.get? name = some value ∧ part.Writes value) ∧
        ∃ text, spellElements rest record = .ok text := by
  rw [spellElements]
  cases record.get? name with
  | none => simp
  | some value =>
      simp only [bind_eq_ok_iff, pure_eq_ok, Except.ok.injEq, Option.some.injEq]
      constructor
      · rintro ⟨_, first, hfirst, more, hmore, -⟩
        exact ⟨⟨value, rfl, first, hfirst⟩, more, hmore⟩
      · rintro ⟨⟨_, rfl, first, hfirst⟩, more, hmore⟩
        exact ⟨first ++ more, first, hfirst, more, hmore, rfl⟩

/-- A field that is there once fits as soon as one value under its name does. -/
theorem WritesFitting.field_iff {shape : Shape} {part : Grammar shape} (hpart : part.WritesFitting)
    {fields : List (String × Value)} (hnodup : (fields.map Prod.fst).Nodup)
    (hvalues : ∀ field ∈ fields, field.2.Distinct) (name : String) :
    (∃ value, fields.lookup name = some value ∧ part.Writes value) ↔
      name ∈ fields.map Prod.fst ∧ ∀ content, (name, content) ∈ fields → part.Fits content := by
  constructor
  · rintro ⟨value, hlookup, hwrites⟩
    have hmem := (Record.lookup_eq_some_iff_mem hnodup).1 hlookup
    refine ⟨List.mem_map.2 ⟨_, hmem, rfl⟩, fun content hcontent => ?_⟩
    rw [(Record.lookup_eq_some_iff_mem hnodup).2 hcontent] at hlookup
    cases hlookup
    exact (hpart _ (hvalues _ hmem)).1 hwrites
  · rintro ⟨hname, hfits⟩
    obtain ⟨⟨_, value⟩, hmem, rfl⟩ := List.mem_map.1 hname
    exact ⟨value, Record.lookup_eq_some_of_mem hnodup hmem,
      (hpart value (hvalues _ hmem)).2 (hfits value hmem)⟩

theorem exists_spellElements_iff {elements : List Element}
    (hparts : ∀ element ∈ elements, element.PartIs WritesFitting)
    {fields : List (String × Value)} (hnodup : (fields.map Prod.fst).Nodup)
    (hvalues : ∀ field ∈ fields, field.2.Distinct) :
    (∃ text, spellElements elements ⟨fields⟩ = .ok text) ↔
      (∀ name ∈ Element.fieldNames elements, name ∈ fields.map Prod.fst) ∧
        FieldsFit elements fields := by
  induction elements with
  | nil => simp [spellElements, Element.fieldNames, FieldsFit]
  | cons element rest ih =>
      obtain ⟨hpart, hrest⟩ := List.forall_mem_cons.1 hparts
      cases element with
      | literal text =>
          rw [spellElements, exists_map_eq_ok_iff]
          exact ih hrest
      | skip part =>
          rw [spellElements, exists_map_eq_ok_iff]
          exact ih hrest
      | field name part =>
          have hfield := hpart.field_iff hnodup hvalues name
          rw [exists_spellElements_field_iff, ih hrest, Record.get?, hfield,
            Element.fieldNames_field, List.forall_mem_cons, FieldsFit]
          exact and_and_and_comm

theorem writes_template_iff (elements : List Element) (fields : List (String × Value)) :
    (template elements).Writes (.record fields) ↔
      unknownField? elements ⟨fields⟩ = none ∧
        ∃ text, spellElements elements ⟨fields⟩ = .ok text := by
  have hconverted : Shape.spellValue (template elements).spelling (.record fields) =
      (template elements).spelling ⟨fields⟩ := rfl
  rw [Writes, hconverted, spelling]
  cases unknownField? elements ⟨fields⟩ <;> simp

/-! ### Choices -/

theorem ofValue_tagged_eq_ok_iff {value : Value} {tagged : Tagged} :
    Tagged.ofValue value = .ok tagged ↔
      value = .tagged tagged.tag tagged.content ∨
        value = .record [(tagged.tag, tagged.content)] := by
  obtain ⟨tag, content⟩ := tagged
  cases value with
  | tagged other inner => simp [Tagged.ofValue]
  | record fields =>
      match fields with
      | [] => simp [Tagged.ofValue]
      | [(other, inner)] => simp [Tagged.ofValue]
      | _ :: _ :: _ => simp [Tagged.ofValue]
  | _ => simp [Tagged.ofValue]

theorem BranchFits.tag_mem {branches : List Branch} {tag : String} {content : Value}
    (hfits : BranchFits branches tag content) : tag ∈ Branch.names branches := by
  induction branches with
  | nil => exact hfits.elim
  | cons branch rest ih =>
      obtain ⟨name, body⟩ := branch
      rcases hfits with ⟨rfl, -⟩ | hlater
      · exact List.mem_cons_self
      · exact List.mem_cons_of_mem name (ih hlater)

theorem exists_spellBranch_iff {branches : List Branch}
    (hbodies : ∀ branch ∈ branches, branch.BodyIs WritesFitting)
    (hnodup : (Branch.names branches).Nodup) (names : List String) {tag : String} {content : Value}
    (hdistinct : content.Distinct) :
    (∃ text, spellBranch branches names ⟨tag, content⟩ = .ok text) ↔
      BranchFits branches tag content := by
  induction branches with
  | nil => simp [spellBranch, BranchFits]
  | cons branch rest ih =>
      obtain ⟨name, body⟩ := branch
      obtain ⟨hbody, hrest⟩ := List.forall_mem_cons.1 hbodies
      obtain ⟨hname, hdifferent⟩ := List.nodup_cons.1 hnodup
      rw [spellBranch, BranchFits]
      by_cases htag : name = tag
      · -- No later branch has this name.
        have hlater : ¬ BranchFits rest tag content := fun hfits => hname (htag ▸ hfits.tag_mem)
        rw [if_pos htag]
        simp only [htag, hlater, true_and, or_false]
        exact hbody content hdistinct
      · rw [if_neg htag, ih hrest hdifferent]
        simp [htag]

/-! ### Grammars -/

/-- **The values with a text are those of the right form.** By induction on the grammar. -/
theorem writesFitting {shape : Shape} (grammar : Grammar shape) (hbuilt : grammar.Built) :
    grammar.WritesFitting := by
  induction grammar with
  | terminal leaf => exact fun value _ => writes_terminal_iff leaf value
  | named name inner ih => exact ih hbuilt.2
  | optional inner ih =>
      intro value hdistinct
      cases value with
      | optional content =>
          cases content with
          | none => simp [Writes, Shape.spellValue, Shape.ofValue, spelling, Fits]
          | some content =>
              rw [writes_optional_some_iff, ih hbuilt.2 content hdistinct, Fits]
              simp
      | _ => simp [Writes, Shape.spellValue, Shape.ofValue, Fits]
  | repeated nonEmpty item ih => exact fun _ => (ih hbuilt.2).items_iff nonEmpty ""
  | separated nonEmpty item separator ih _ => exact fun _ => (ih hbuilt.2.1).items_iff nonEmpty _
  | template elements ih =>
      obtain ⟨-, hparts⟩ := hbuilt.template
      intro value hdistinct
      cases value with
      | record fields =>
          rw [Value.Distinct, Value.fieldsDistinct_iff] at hdistinct
          rw [writes_template_iff, unknownField?_eq_none_iff, exists_spellElements_iff
            (fun element hmem => (ih element hmem).mp (hparts element hmem)) hdistinct.1
            hdistinct.2, Fits]
          simp only [Value.record.injEq, exists_eq_left', iff_def, forall_and, and_assoc]
      | _ => simp [Writes, Shape.spellValue, Shape.ofValue, Fits]
  | choice branches ih =>
      obtain ⟨hnodup, hbodies⟩ := hbuilt.choice
      intro value hdistinct
      have hspell : ∀ tag content,
          value = .tagged tag content ∨ value = .record [(tag, content)] →
          ((∃ text, spellBranch branches (Branch.names branches) ⟨tag, content⟩ = .ok text) ↔
            BranchFits branches tag content) := by
        intro tag content hvalue
        apply exists_spellBranch_iff
          (fun branch hmem => (ih branch hmem).mp (hbodies branch hmem)) hnodup
        rcases hvalue with rfl | rfl
        · exact hdistinct
        · exact hdistinct.2.1
      constructor
      · rintro ⟨text, htext⟩
        obtain ⟨⟨tag, content⟩, hcontent, hbranch⟩ := Shape.spellValue_eq_ok_iff.1 htext
        have hvalue := ofValue_tagged_eq_ok_iff.1 hcontent
        exact ⟨tag, content, hvalue, (hspell tag content hvalue).1 ⟨text, hbranch⟩⟩
      · rintro ⟨tag, content, hvalue, hfits⟩
        obtain ⟨text, hbranch⟩ := (hspell tag content hvalue).2 hfits
        exact ⟨text, Shape.spellValue_eq_ok_iff.2
          ⟨⟨tag, content⟩, ofValue_tagged_eq_ok_iff.2 hvalue, hbranch⟩⟩
  | erased inner ih => exact ih hbuilt.2

/-- **Exactly the values of the right form can be written.** The two passes together accept neither
more nor less, whatever the buffer holds. -/
theorem writeValue_accepts_iff {shape : Shape} (grammar : Grammar shape) (hbuilt : grammar.Built)
    (value : Value) (hdistinct : value.Distinct) (buffer : String) :
    (∃ count, (grammar.writeValue value buffer).result = .ok count) ↔ grammar.Fits value := by
  rw [result_writeValue, exists_map_eq_ok_iff]
  exact grammar.writesFitting hbuilt value hdistinct

/-- The amount has 64 bits, the unit is a record with one field, and the order of the fields is not
that of the template. Without the amount nothing is written. -/
theorem writeValue_accepts_iff_price :
    price.Built ∧
      (Value.record [("unit", .record [("code", .str "EUR")]), ("amount", .int 5)]).Distinct ∧
      price.Fits (.record [("unit", .record [("code", .str "EUR")]), ("amount", .int 5)]) ∧
      ¬ price.Fits (.record [("unit", .record [("code", .str "EUR")])]) := by
  have hwhole :
      (Value.record [("unit", .record [("code", .str "EUR")]), ("amount", .int 5)]).Distinct := by
    simp [Value.Distinct, Value.FieldsDistinct]
  have hpartial : (Value.record [("unit", .record [("code", .str "EUR")])]).Distinct := by
    simp [Value.Distinct, Value.FieldsDistinct]
  refine ⟨built_price, hwhole, ?_, fun hfits => ?_⟩
  · exact (writeValue_accepts_iff price built_price _ hwhole "").1 ⟨5, rfl⟩
  · obtain ⟨count, hcount⟩ := (writeValue_accepts_iff price built_price _ hpartial "").2 hfits
    cases hcount

end Grammar

end TwoWay
