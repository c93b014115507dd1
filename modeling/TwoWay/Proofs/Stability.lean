import TwoWay.Grammar.Render
import TwoWay.Proofs.NormalForm

/-!
# Stable renderings

Rendering compares what it reads back with the normal form by an equality that ignores the order of
fields. Values that decoding or normalising puts together have their fields in the order of the
grammar, and on these the equality is the identity. So a rendered text parses to the normal form
itself, which is written as that text again.
-/

namespace TwoWay

namespace Value

theorem agreeFound_iff {fields : List (String × Value)} {name : String} {value : Value} :
    agreeFound fields name value = true ↔
      ∃ found, fields.lookup name = some found ∧ agree found value false = true := by
  induction fields with
  | nil => simp [agreeFound]
  | cons field rest ih =>
      obtain ⟨other, found⟩ := field
      rw [agreeFound, List.lookup_cons]
      split
      · rename_i heq
        simp [heq]
      · rename_i hne
        have hbeq : (name == other) = false := by simp [Ne.symm hne]
        rw [ih, hbeq]

theorem agreeFields_iff {fields others : List (String × Value)} :
    agreeFields fields others = true ↔
      ∀ field ∈ fields, ∃ found, others.lookup field.1 = some found ∧
        agree field.2 found true = true := by
  induction fields with
  | nil => simp [agreeFields]
  | cons field rest ih =>
      obtain ⟨name, value⟩ := field
      rw [agreeFields, Bool.and_eq_true, ih, List.forall_mem_cons]
      apply and_congr_left'
      cases others.lookup name <;> simp

/-- Records that agree have values that agree under each name, if no name occurs twice. Which of
the two stands on the left depends on how deep the records lie. -/
theorem agree_of_agree_record {fields others : List (String × Value)} {swapped : Bool}
    (hfields : (fields.map Prod.fst).Nodup) (hothers : (others.map Prod.fst).Nodup)
    (hagree : agree (.record fields) (.record others) swapped = true) :
    ∃ swapped', ∀ name value other, (name, value) ∈ fields → (name, other) ∈ others →
      agree value other swapped' = true := by
  rw [agree, Bool.and_eq_true] at hagree
  obtain ⟨-, hagree⟩ := hagree
  cases swapped with
  | false =>
      rw [if_neg Bool.false_ne_true, agreeFields_iff] at hagree
      refine ⟨true, fun name value other hvalue hother => ?_⟩
      obtain ⟨found, hfound, hsame⟩ := hagree _ hvalue
      rw [Record.lookup_eq_some_of_mem hothers hother] at hfound
      cases hfound
      exact hsame
  | true =>
      rw [if_pos rfl, List.all_eq_true] at hagree
      refine ⟨false, fun name value other hvalue hother => ?_⟩
      obtain ⟨found, hfound, hsame⟩ := agreeFound_iff.1 (hagree _ hother)
      rw [Record.lookup_eq_some_of_mem hfields hvalue] at hfound
      cases hfound
      exact hsame

theorem agreeItems_of_forall₂ {α : Type} {left right : α → Value} {items others : List α}
    {swapped : Bool}
    (hall : List.Forall₂ (fun item other => (left item).agree (right other) swapped = true) items
      others) :
    agreeItems (items.map left) (others.map right) swapped = true := by
  induction hall with
  | nil => rfl
  | cons hfirst _ ih =>
      rw [List.map_cons, List.map_cons, agreeItems, hfirst, ih]
      rfl

end Value

namespace Grammar

/-- Normal values that agree are equal, whichever of them stands on the left. -/
def TellsApart {shape : Shape} (grammar : Grammar shape) : Prop :=
  ∀ left right, grammar.IsNormal left → grammar.IsNormal right → ∀ swapped,
    (shape.toValue left).agree (shape.toValue right) swapped = true → left = right

theorem TellsApart.items {shape : Shape} {item : Grammar shape} (happart : item.TellsApart)
    {left right : List shape.Carrier} (hleft : ∀ single ∈ left, item.IsNormal single)
    (hright : ∀ single ∈ right, item.IsNormal single) {swapped : Bool}
    (hagree : (Shape.toValue (.list shape) left).agree (Shape.toValue (.list shape) right) swapped =
      true) : left = right := by
  rw [Shape.toValue, Shape.toValue, Value.agree] at hagree
  induction left generalizing right with
  | nil =>
      cases right with
      | nil => rfl
      | cons other others => cases hagree
  | cons single rest ih =>
      cases right with
      | nil => cases hagree
      | cons other others =>
          obtain ⟨hsingle, hrest⟩ := List.forall_mem_cons.1 hleft
          obtain ⟨hother, hothers⟩ := List.forall_mem_cons.1 hright
          rw [List.map_cons, List.map_cons, Value.agreeItems, Bool.and_eq_true] at hagree
          rw [happart single other hsingle hother swapped hagree.1, ih hrest hothers hagree.2]

theorem eq_of_agree_fields {elements : List Element}
    (hparts : ∀ element ∈ elements, element.PartIs TellsApart)
    {fields others : List (String × Value)}
    (hfields : FieldsConform (fun _ _ => True) elements fields)
    (hothers : FieldsConform (fun _ _ => True) elements others) {swapped : Bool}
    (hagree : ∀ name value other, (name, value) ∈ fields → (name, other) ∈ others →
      value.agree other swapped = true) : fields = others := by
  induction elements generalizing fields others with
  | nil => exact hfields.trans hothers.symm
  | cons element rest ih =>
      obtain ⟨hpart, hrest⟩ := List.forall_mem_cons.1 hparts
      cases element with
      | literal text => exact ih hrest hfields hothers hagree
      | skip part => exact ih hrest hfields hothers hagree
      | field name part =>
          obtain ⟨content, more, rfl, hcontent, hmore⟩ := hfields
          obtain ⟨content', more', rfl, hcontent', hmore'⟩ := hothers
          have hfirst : content = content' :=
            hpart content content' hcontent hcontent' swapped
              (hagree name _ _ List.mem_cons_self List.mem_cons_self)
          have hlater : more = more' :=
            ih hrest hmore hmore' fun name value other hvalue hother =>
              hagree name value other (List.mem_cons_of_mem _ hvalue)
                (List.mem_cons_of_mem _ hother)
          rw [hfirst, hlater]

theorem eq_of_agree_branch {branches : List Branch}
    (hbodies : ∀ branch ∈ branches, branch.BodyIs TellsApart) {left right : Tagged}
    (hleft : BranchConforms (fun _ _ => True) branches left)
    (hright : BranchConforms (fun _ _ => True) branches right) (htag : left.tag = right.tag)
    {swapped : Bool} (hagree : left.content.agree right.content swapped = true) : left = right := by
  induction branches with
  | nil => exact hleft.elim
  | cons branch rest ih =>
      obtain ⟨name, body⟩ := branch
      obtain ⟨hbody, hrest⟩ := List.forall_mem_cons.1 hbodies
      rw [BranchConforms] at hleft hright
      by_cases hname : name = left.tag
      · rw [if_pos hname] at hleft
        rw [if_pos (hname.trans htag)] at hright
        obtain ⟨content, hcontent, hnormal⟩ := hleft
        obtain ⟨content', hcontent', hnormal'⟩ := hright
        rw [hcontent, hcontent'] at hagree
        obtain ⟨tag, value⟩ := left
        obtain ⟨tag', value'⟩ := right
        cases htag
        cases hcontent
        cases hcontent'
        rw [hbody content content' hnormal hnormal' swapped hagree]
      · rw [if_neg hname] at hleft
        rw [if_neg (htag ▸ hname)] at hright
        exact ih hrest hleft hright

/-- **On normal values the equality of values is the identity.** By induction on the grammar. -/
theorem eq_of_agree {shape : Shape} (grammar : Grammar shape) (hbuilt : grammar.Built) :
    grammar.TellsApart := by
  induction grammar with
  | @terminal kind leaf =>
      intro left right _ _ swapped hagree
      cases kind <;> simpa [Shape.toValue, Scalar.toValue, Value.agree] using hagree
  | named name inner ih => exact ih hbuilt.2
  | optional inner ih =>
      intro left right hleft hright swapped hagree
      cases left with
      | none =>
          cases right with
          | none => rfl
          | some other => cases hagree
      | some content =>
          cases right with
          | none => cases hagree
          | some other =>
              rw [ih hbuilt.2 content other (hleft content rfl) (hright other rfl) swapped hagree]
  | repeated nonEmpty item ih =>
      exact fun _ _ hleft hright _ hagree => (ih hbuilt.2).items hleft hright hagree
  | separated nonEmpty item separator ih _ =>
      exact fun _ _ hleft hright _ hagree => (ih hbuilt.2.1).items hleft hright hagree
  | template elements ih =>
      obtain ⟨hnodup, hparts⟩ := hbuilt.template
      rintro ⟨fields⟩ ⟨others⟩ hleft hright swapped hagree
      have hfields : FieldsConform (fun _ _ => True) elements fields := hleft
      have hothers : FieldsConform (fun _ _ => True) elements others := hright
      obtain ⟨swapped', hvalues⟩ := Value.agree_of_agree_record
        (hfields.names_eq ▸ hnodup) (hothers.names_eq ▸ hnodup) hagree
      rw [eq_of_agree_fields (fun element hmem => (ih element hmem).mp (hparts element hmem))
        hfields hothers hvalues]
  | choice branches ih =>
      obtain ⟨-, hbodies⟩ := hbuilt.choice
      intro left right hleft hright swapped hagree
      obtain ⟨htag, hcontent⟩ := Bool.and_eq_true_iff.1 hagree
      exact eq_of_agree_branch (fun branch hmem => (ih branch hmem).mp (hbodies branch hmem))
        hleft hright (eq_of_beq htag) hcontent
  | erased inner ih =>
      rintro _ _ ⟨left, rfl, hleft⟩ ⟨right, rfl, hright⟩ swapped hagree
      rw [ih hbuilt.2 left right hleft hright swapped hagree]

/-! ### Rendering again -/

variable {shape : Shape}

theorem render_eq_ok_iff {grammar : Grammar shape} {content : shape.Carrier} {text : String} :
    grammar.render content = .ok text ↔
      grammar.encode content = .ok text ∧ ∃ normal parsed, grammar.normalize content = .ok normal ∧
        grammar.parse text = .ok parsed ∧ shape.same parsed normal = true := by
  simp only [render, bind_eq_ok_iff, mapError_eq_ok_iff]
  constructor
  · rintro ⟨written, hencode, normal, hnormal, hcheck⟩
    cases hparse : grammar.parse written with
    | error fault =>
        rw [hparse] at hcheck
        cases fault <;> cases hcheck
    | ok parsed =>
        simp only [hparse] at hcheck
        split at hcheck
        · rename_i hsame
          cases hcheck
          exact ⟨hencode, normal, parsed, hnormal, hparse, hsame⟩
        · cases hcheck
  · rintro ⟨hencode, normal, parsed, hnormal, hparse, hsame⟩
    refine ⟨text, hencode, normal, hnormal, ?_⟩
    simp only [hparse, hsame, if_true]

theorem parse_eq_ok_iff {grammar : Grammar shape} {text : String} {content : shape.Carrier} :
    grammar.parse text = .ok content ↔
      ∃ cursor, grammar.decode (.start text) = .ok ⟨content, cursor⟩ ∧ cursor.atEnd = true := by
  unfold parse
  split
  · rename_i fault hdecode
    simp [hdecode]
  · rename_i decoded hdecode
    obtain ⟨value, cursor⟩ := decoded
    simp only [hdecode]
    split <;> simp_all

theorem conforms_of_parse
    (leafHolds : {kind : Scalar} → Terminal kind.Carrier → kind.Carrier → Prop)
    {grammar : Grammar shape} (hbuilt : grammar.Built)
    (hleaf : ∀ {kind : Scalar} (leaf : Terminal kind.Carrier) (cursor : Cursor),
      (leaf.decode cursor).Gives (leafHolds leaf))
    {text : String} {content : shape.Carrier} (hparse : grammar.parse text = .ok content) :
    grammar.Conforms leafHolds content := by
  obtain ⟨cursor, hdecode, -⟩ := parse_eq_ok_iff.1 hparse
  exact decodesConforming leafHolds grammar hbuilt hleaf _ _ hdecode

theorem isNormal_of_parse {grammar : Grammar shape} (hbuilt : grammar.Built) {text : String}
    {content : shape.Carrier} (hparse : grammar.parse text = .ok content) :
    grammar.IsNormal content :=
  conforms_of_parse (fun _ _ => True) hbuilt (fun _ _ _ _ => trivial) hparse

/-- What is read back from a rendering is the normal form, fields in order. -/
theorem normalize_eq_of_render {grammar : Grammar shape} (hbuilt : grammar.Built)
    {content : shape.Carrier} {text : String} (hrender : grammar.render content = .ok text) :
    ∃ normal, grammar.normalize content = .ok normal ∧ grammar.parse text = .ok normal ∧
      shape.same normal normal = true := by
  obtain ⟨-, normal, parsed, hnormal, hparse, hsame⟩ := render_eq_ok_iff.1 hrender
  have heq : parsed = normal :=
    eq_of_agree grammar hbuilt parsed normal (isNormal_of_parse hbuilt hparse)
      (isNormal_of_normalize grammar hbuilt content normal hnormal) false hsame
  cases heq
  exact ⟨normal, hnormal, hparse, hsame⟩

theorem encode_normalize {grammar : Grammar shape} (hbuilt : grammar.Built)
    {content normal : shape.Carrier} {text : String} (hencode : grammar.encode content = .ok text)
    (hnormal : grammar.normalize content = .ok normal) : grammar.encode normal = .ok text := by
  rw [encode_eq_spelling] at hencode ⊢
  obtain ⟨normal', hnormal', hspell⟩ := normalize_of_spelling grammar hbuilt content text hencode
  rw [hnormal] at hnormal'
  cases hnormal'
  exact hspell

/-- **Rendering is stable.** A rendered text parses to a value that equals the normal form, and that
value is written and rendered as the same text. -/
theorem render_stable (grammar : Grammar shape) (hbuilt : grammar.Built) (content : shape.Carrier)
    (text : String) (hrender : grammar.render content = .ok text) :
    ∃ parsed, grammar.parse text = .ok parsed ∧
      (∃ normal, grammar.normalize content = .ok normal ∧ shape.same parsed normal = true) ∧
      grammar.encode parsed = .ok text ∧ grammar.render parsed = .ok text := by
  obtain ⟨normal, hnormal, hparse, hsame⟩ := normalize_eq_of_render hbuilt hrender
  have hencode := encode_normalize hbuilt (render_eq_ok_iff.1 hrender).1 hnormal
  have hkept : grammar.normalize normal = .ok normal :=
    normalize_of_isNormal grammar hbuilt normal (isNormal_of_parse hbuilt hparse)
  refine ⟨normal, hparse, ⟨normal, hnormal, hsame⟩, hencode, ?_⟩
  exact render_eq_ok_iff.2 ⟨hencode, normal, normal, hkept, hparse, hsame⟩

/-- A declaration with its fields out of order is parsed with them in order. -/
theorem render_stable_declaration :
    Statement.declaration.Built ∧
      Statement.declaration.render ⟨[("value", .str "x"), ("name", .str "n")]⟩ =
        .ok "let n=\"x\";" ∧
      ∃ parsed, Statement.declaration.parse "let n=\"x\";" = .ok parsed ∧
        (∃ normal, Statement.declaration.normalize ⟨[("value", .str "x"), ("name", .str "n")]⟩ =
            .ok normal ∧ Shape.record.same parsed normal = true) ∧
        Statement.declaration.encode parsed = .ok "let n=\"x\";" ∧
        Statement.declaration.render parsed = .ok "let n=\"x\";" := by
  have hrender : Statement.declaration.render ⟨[("value", .str "x"), ("name", .str "n")]⟩ =
      .ok "let n=\"x\";" := rfl
  have hbuilt := Statement.built_declaration
  exact ⟨hbuilt, hrender, render_stable _ hbuilt _ _ hrender⟩

end Grammar

end TwoWay
