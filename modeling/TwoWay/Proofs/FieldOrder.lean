import Mathlib.Data.List.Perm.Subperm
import TwoWay.Proofs.Acceptance
import TwoWay.Proofs.Piecewise

/-!
# The order of fields

Two values are equal when their records have the same fields, in whatever order, at any depth. Where
no name occurs twice, equal values have equal parts: the items of lists at the same places, and the
fields of records under the same names. What a grammar makes of a value depends on such parts alone,
so equal values have the same text and the same normal form.
-/

namespace TwoWay

/-- The records have the same names, and related values under each of them. -/
structure Record.Matches (related : Value → Value → Prop) (left right : Record) : Prop where
  names_perm : left.names.Perm right.names
  get?_rel : ∀ name, Option.Rel related (left.get? name) (right.get? name)

inductive Tagged.Matches (related : Value → Value → Prop) : Tagged → Tagged → Prop
  | mk {content other : Value} (tag : String) (hcontent : related content other) :
      Matches related ⟨tag, content⟩ ⟨tag, other⟩

theorem Record.lookup_eq_none_iff {fields : List (String × Value)} {name : String} :
    fields.lookup name = none ↔ name ∉ fields.map Prod.fst := by
  simp only [List.lookup_eq_none_iff, List.mem_map, not_exists, not_and, bne_iff_ne]
  exact forall₂_congr fun _ _ => ne_comm

namespace Value

/-- The values are of the same form, and their parts are related. -/
inductive Matches (related : Value → Value → Prop) : Value → Value → Prop
  | int (n : Int64) : Matches related (.int n) (.int n)
  | big (n : Int) : Matches related (.big n) (.big n)
  | str (text : String) : Matches related (.str text) (.str text)
  | list {items others : List Value} (hitems : List.Forall₂ related items others) :
      Matches related (.list items) (.list others)
  | optional {content other : Option Value} (hcontent : Option.Rel related content other) :
      Matches related (.optional content) (.optional other)
  | record {fields others : List (String × Value)}
      (hfields : Record.Matches related ⟨fields⟩ ⟨others⟩) :
      Matches related (.record fields) (.record others)
  | tagged {content other : Value} (tag : String) (hcontent : related content other) :
      Matches related (.tagged tag content) (.tagged tag other)

/-- Neither value has a name twice, and they agree from one side or the other. -/
structure Equal (left right : Value) : Prop where
  left_distinct : left.Distinct
  right_distinct : right.Distinct
  agrees : ∃ swapped, left.agree right swapped = true

/-! ### The parts of equal values -/

theorem forall₂_of_agreeItems {items others : List Value} {swapped : Bool}
    (hitems : ∀ item ∈ items, item.Distinct) (hothers : ∀ other ∈ others, other.Distinct)
    (hagree : agreeItems items others swapped = true) : List.Forall₂ Equal items others := by
  induction items generalizing others with
  | nil =>
      cases others with
      | nil => exact .nil
      | cons other rest => cases hagree
  | cons item items ih =>
      cases others with
      | nil => cases hagree
      | cons other others =>
          obtain ⟨hitem, hitems⟩ := List.forall_mem_cons.1 hitems
          obtain ⟨hother, hothers⟩ := List.forall_mem_cons.1 hothers
          rw [agreeItems, Bool.and_eq_true] at hagree
          exact .cons ⟨hitem, hother, swapped, hagree.1⟩ (ih hitems hothers hagree.2)

/-- One side is searched for the names of the other only. It has no further ones, since there are as
many fields on both sides. -/
theorem names_perm_of_agree {fields others : List (String × Value)} {swapped : Bool}
    (hfields : (fields.map Prod.fst).Nodup) (hothers : (others.map Prod.fst).Nodup)
    (hagree : agree (.record fields) (.record others) swapped = true) :
    (fields.map Prod.fst).Perm (others.map Prod.fst) := by
  rw [agree, Bool.and_eq_true, beq_iff_eq] at hagree
  obtain ⟨hlength, hagree⟩ := hagree
  cases swapped with
  | false =>
      rw [if_neg Bool.false_ne_true, agreeFields_iff] at hagree
      have hsubset : fields.map Prod.fst ⊆ others.map Prod.fst := by
        intro name hname
        obtain ⟨field, hmem, rfl⟩ := List.mem_map.1 hname
        obtain ⟨found, hfound, -⟩ := hagree field hmem
        exact List.mem_map.2 ⟨_, (Record.lookup_eq_some_iff_mem hothers).1 hfound, rfl⟩
      exact (List.subperm_of_subset hfields hsubset).perm_of_length_le (by simp [hlength])
  | true =>
      rw [if_pos rfl, List.all_eq_true] at hagree
      have hsubset : others.map Prod.fst ⊆ fields.map Prod.fst := by
        intro name hname
        obtain ⟨other, hmem, rfl⟩ := List.mem_map.1 hname
        obtain ⟨found, hfound, -⟩ := agreeFound_iff.1 (hagree other hmem)
        exact List.mem_map.2 ⟨_, (Record.lookup_eq_some_iff_mem hfields).1 hfound, rfl⟩
      exact ((List.subperm_of_subset hothers hsubset).perm_of_length_le (by simp [hlength])).symm

theorem matches_record_of_agree {fields others : List (String × Value)} {swapped : Bool}
    (hfields : (Value.record fields).Distinct) (hothers : (Value.record others).Distinct)
    (hagree : agree (.record fields) (.record others) swapped = true) :
    Record.Matches Equal ⟨fields⟩ ⟨others⟩ := by
  rw [Distinct, fieldsDistinct_iff] at hfields hothers
  obtain ⟨hnodup, hvalues⟩ := hfields
  obtain ⟨hnodup', hvalues'⟩ := hothers
  have hperm := names_perm_of_agree hnodup hnodup' hagree
  obtain ⟨swapped', hsame⟩ := agree_of_agree_record hnodup hnodup' hagree
  refine ⟨hperm, fun name => ?_⟩
  change Option.Rel Equal (fields.lookup name) (others.lookup name)
  cases hfound : fields.lookup name with
  | none =>
      -- A name that is missing on one side is missing on the other.
      rw [Record.lookup_eq_none_iff, hperm.mem_iff, ← Record.lookup_eq_none_iff] at hfound
      rw [hfound]
      exact .none
  | some value =>
      have hmem := (Record.lookup_eq_some_iff_mem hnodup).1 hfound
      have hname : name ∈ others.map Prod.fst := hperm.mem_iff.1 (List.mem_map.2 ⟨_, hmem, rfl⟩)
      obtain ⟨⟨_, other⟩, hmem', rfl⟩ := List.mem_map.1 hname
      rw [Record.lookup_eq_some_of_mem hnodup' hmem']
      exact .some ⟨hvalues _ hmem, hvalues' _ hmem', swapped', hsame _ value other hmem hmem'⟩

/-- **Equal values have equal parts.** -/
theorem Equal.matches {left right : Value} (hequal : left.Equal right) :
    left.Matches Equal right := by
  obtain ⟨hleft, hright, swapped, hagree⟩ := hequal
  cases left with
  | int n =>
      cases right with
      | int m =>
          rw [agree, beq_iff_eq] at hagree
          exact hagree ▸ .int n
      | _ => cases hagree
  | big n =>
      cases right with
      | big m =>
          rw [agree, beq_iff_eq] at hagree
          exact hagree ▸ .big n
      | _ => cases hagree
  | str text =>
      cases right with
      | str other =>
          rw [agree, beq_iff_eq] at hagree
          exact hagree ▸ .str text
      | _ => cases hagree
  | list items =>
      cases right with
      | list others =>
          rw [Distinct, itemsDistinct_iff] at hleft hright
          rw [agree] at hagree
          exact .list (forall₂_of_agreeItems hleft hright hagree)
      | _ => cases hagree
  | optional content =>
      cases right with
      | optional other =>
          cases content with
          | none =>
              cases other with
              | none => exact .optional .none
              | some present => cases hagree
          | some present =>
              cases other with
              | none => cases hagree
              | some present' => exact .optional (.some ⟨hleft, hright, swapped, hagree⟩)
      | _ => cases content <;> cases hagree
  | record fields =>
      cases right with
      | record others => exact .record (matches_record_of_agree hleft hright hagree)
      | _ => cases hagree
  | tagged tag content =>
      cases right with
      | tagged tag' other =>
          rw [agree, Bool.and_eq_true, beq_iff_eq] at hagree
          obtain ⟨rfl, hcontent⟩ := hagree
          exact .tagged tag ⟨hleft, hright, swapped, hcontent⟩
      | _ => cases hagree

/-- Equal values are taken for equal tagged values, also where these are records with one field. -/
theorem Equal.tagged_rel {left right : Value} (hequal : left.Equal right) :
    Option.Rel (Tagged.Matches Equal) (Tagged.ofValue left).toOption
      (Tagged.ofValue right).toOption := by
  cases hequal.matches with
  | tagged tag hcontent => exact .some (.mk tag hcontent)
  | @record fields others hfields =>
      have hlength : others.length = fields.length := by
        simpa [Record.names] using hfields.names_perm.length_eq.symm
      -- Both sides have one field, or neither is taken for a tagged value.
      cases fields with
      | nil =>
          rw [List.length_eq_zero_iff.1 hlength]
          exact .none
      | cons field rest =>
          cases rest with
          | nil =>
              obtain ⟨⟨tag, other⟩, rfl⟩ := List.length_eq_one_iff.1 hlength
              obtain ⟨tag', content⟩ := field
              obtain rfl : tag' = tag := by simpa [Record.names] using hfields.names_perm
              have hcontent := hfields.get?_rel tag'
              simp only [Record.get?, List.lookup_cons_self] at hcontent
              cases hcontent with
              | some hcontent => exact .some (.mk tag' hcontent)
          | cons second more =>
              obtain ⟨first, others, rfl, hothers⟩ := List.length_eq_succ_iff.1 hlength
              obtain ⟨next, others, rfl, -⟩ := List.length_eq_succ_iff.1 hothers
              exact .none
  | _ => exact .none

theorem Equal.list_rel {left right : Value} (hequal : left.Equal right) :
    Option.Rel (List.Forall₂ Equal) left.asList? right.asList? := by
  cases hequal.matches with
  | list hitems => exact .some hitems
  | _ => exact .none

theorem Equal.optional_rel {left right : Value} (hequal : left.Equal right) :
    Option.Rel (Option.Rel Equal) left.asOptional? right.asOptional? := by
  cases hequal.matches with
  | optional hcontent => exact .some hcontent
  | _ => exact .none

theorem Equal.record_rel {left right : Value} (hequal : left.Equal right) :
    Option.Rel (Record.Matches Equal) left.asRecord? right.asRecord? := by
  cases hequal.matches with
  | record hfields => exact .some hfields
  | _ => exact .none

theorem Equal.toOption_scalar {left right : Value} (hequal : left.Equal right) (kind : Scalar) :
    (kind.ofValue left).toOption = (kind.ofValue right).toOption := by
  cases kind <;> cases hequal.matches <;> rfl

end Value

namespace Grammar

/-! ### Writing -/

def WritesAlike {shape : Shape} (grammar : Grammar shape) : Prop :=
  ∀ left right, left.Equal right → grammar.text? left = grammar.text? right

theorem WritesAlike.items {shape : Shape} {item : Grammar shape} (hitem : item.WritesAlike)
    (nonEmpty : Bool) (separator : String) (items others : List Value)
    (hitems : List.Forall₂ Value.Equal items others) :
    itemsText? nonEmpty separator item.text? items =
      itemsText? nonEmpty separator item.text? others := by
  rw [itemsText?, itemsText?, hitems.length_eq, mapM_eq_of_forall₂ hitem hitems]

theorem elementsText?_of_matches {elements : List Element}
    (hparts : ∀ element ∈ elements, element.PartIs WritesAlike) {left right : Record}
    (hrecords : left.Matches Value.Equal right) :
    elementsText? elements left = elementsText? elements right := by
  induction elements with
  | nil => rfl
  | cons element rest ih =>
      obtain ⟨hpart, hrest⟩ := List.forall_mem_cons.1 hparts
      cases element with
      | literal text => rw [elementsText?_literal, elementsText?_literal, ih hrest]
      | skip part => rw [elementsText?_skip, elementsText?_skip, ih hrest]
      | field name part =>
          rw [elementsText?_field, elementsText?_field, ih hrest,
            bind_eq_of_rel hpart (hrecords.get?_rel name)]

/-- Whether there is a field too many depends on the names alone, and not on their order. -/
theorem isSome_unknownField? (elements : List Element) {left right : Record}
    (hnames : left.names.Perm right.names) :
    (unknownField? elements left).isSome = (unknownField? elements right).isSome := by
  rw [unknownField?, unknownField?, List.isSome_find?, List.isSome_find?, hnames.any_eq]

theorem branchText?_of_matches {branches : List Branch}
    (hbodies : ∀ branch ∈ branches, branch.BodyIs WritesAlike) (names : List String)
    (left right : Tagged) (htagged : left.Matches Value.Equal right) :
    branchText? branches names left = branchText? branches names right := by
  obtain ⟨tag, hcontent⟩ := htagged
  induction branches with
  | nil => rfl
  | cons branch rest ih =>
      obtain ⟨name, body⟩ := branch
      obtain ⟨hbody, hrest⟩ := List.forall_mem_cons.1 hbodies
      rw [branchText?_cons, branchText?_cons, ih hrest, hbody _ _ hcontent]

theorem writesAlike {shape : Shape} (grammar : Grammar shape) : grammar.WritesAlike := by
  induction grammar with
  | @terminal kind leaf =>
      intro left right hequal
      rw [text?_terminal, text?_terminal, hequal.toOption_scalar kind]
  | named name inner ih => exact ih
  | optional inner ih =>
      intro left right hequal
      rw [text?_optional, text?_optional]
      refine bind_eq_of_rel (fun content other hcontent => ?_) hequal.optional_rel
      cases hcontent with
      | some hpresent => exact ih _ _ hpresent
      | none => rfl
  | repeated nonEmpty item ih =>
      intro left right hequal
      rw [text?_repeated, text?_repeated]
      exact bind_eq_of_rel (WritesAlike.items ih nonEmpty "") hequal.list_rel
  | separated nonEmpty item separator ih _ =>
      intro left right hequal
      rw [text?_separated, text?_separated]
      exact bind_eq_of_rel (WritesAlike.items ih nonEmpty _) hequal.list_rel
  | template elements ih =>
      intro left right hequal
      rw [text?_template, text?_template]
      refine bind_eq_of_rel (fun record other hrecords => ?_) hequal.record_rel
      rw [isSome_unknownField? elements hrecords.names_perm, elementsText?_of_matches ih hrecords]
  | choice branches ih =>
      intro left right hequal
      rw [text?_choice, text?_choice]
      exact bind_eq_of_rel (branchText?_of_matches ih (Branch.names branches)) hequal.tagged_rel
  | erased inner ih => exact ih

/-! ### Normalising -/

def NormalizesAlike {shape : Shape} (grammar : Grammar shape) : Prop :=
  ∀ left right, left.Equal right → grammar.normal? left = grammar.normal? right

theorem NormalizesAlike.items {shape : Shape} {item : Grammar shape}
    (hitem : item.NormalizesAlike) (items others : List Value)
    (hitems : List.Forall₂ Value.Equal items others) :
    (items.mapM item.normal?).map Value.list = (others.mapM item.normal?).map Value.list := by
  rw [mapM_eq_of_forall₂ hitem hitems]

theorem elementsNormal?_of_matches {elements : List Element}
    (hparts : ∀ element ∈ elements, element.PartIs NormalizesAlike) {left right : Record}
    (hrecords : left.Matches Value.Equal right) (normal : Record) :
    elementsNormal? elements left normal = elementsNormal? elements right normal := by
  induction elements generalizing normal with
  | nil => rfl
  | cons element rest ih =>
      obtain ⟨hpart, hrest⟩ := List.forall_mem_cons.1 hparts
      cases element with
      | literal text => exact ih hrest normal
      | skip part => exact ih hrest normal
      | field name part =>
          rw [elementsNormal?_field, elementsNormal?_field,
            bind_eq_of_rel hpart (hrecords.get?_rel name)]
          simp only [ih hrest]

theorem branchNormal?_of_matches {branches : List Branch}
    (hbodies : ∀ branch ∈ branches, branch.BodyIs NormalizesAlike) (names : List String)
    (left right : Tagged) (htagged : left.Matches Value.Equal right) :
    branchNormal? branches names left = branchNormal? branches names right := by
  obtain ⟨tag, hcontent⟩ := htagged
  induction branches with
  | nil => rfl
  | cons branch rest ih =>
      obtain ⟨name, body⟩ := branch
      obtain ⟨hbody, hrest⟩ := List.forall_mem_cons.1 hbodies
      rw [branchNormal?_cons, branchNormal?_cons, ih hrest, hbody _ _ hcontent]

theorem normalizesAlike {shape : Shape} (grammar : Grammar shape) : grammar.NormalizesAlike := by
  induction grammar with
  | @terminal kind leaf =>
      intro left right hequal
      rw [normal?_terminal, normal?_terminal, hequal.toOption_scalar kind]
  | named name inner ih => exact ih
  | optional inner ih =>
      intro left right hequal
      rw [normal?_optional, normal?_optional]
      refine bind_eq_of_rel (fun content other hcontent => ?_) hequal.optional_rel
      cases hcontent with
      | some hpresent => rw [Option.elim_some, Option.elim_some, ih _ _ hpresent]
      | none => rfl
  | repeated nonEmpty item ih =>
      intro left right hequal
      rw [normal?_repeated, normal?_repeated]
      exact bind_eq_of_rel (NormalizesAlike.items ih) hequal.list_rel
  | separated nonEmpty item separator ih _ =>
      intro left right hequal
      rw [normal?_separated, normal?_separated]
      exact bind_eq_of_rel (NormalizesAlike.items ih) hequal.list_rel
  | template elements ih =>
      intro left right hequal
      rw [normal?_template, normal?_template]
      refine bind_eq_of_rel (fun record other hrecords => ?_) hequal.record_rel
      rw [elementsNormal?_of_matches ih hrecords]
  | choice branches ih =>
      intro left right hequal
      rw [normal?_choice, normal?_choice,
        bind_eq_of_rel (branchNormal?_of_matches ih (Branch.names branches)) hequal.tagged_rel]
  | erased inner ih =>
      intro left right hequal
      rw [normal?_erased, normal?_erased]
      exact ih left right hequal

/-- **Equal values are written and normalised alike.** If values without repeated names differ in
the order of fields only, at whatever depth, then a text is that of one if and only if it is that of
the other, and the same goes for normal forms. -/
theorem equal_values_alike {shape : Shape} (grammar : Grammar shape) (left right : Value)
    (hleft : left.Distinct) (hright : right.Distinct) (hsame : left.same right = true) :
    (∀ buffer text, grammar.writeValue left buffer = .append buffer text ↔
      grammar.writeValue right buffer = .append buffer text) ∧
      ∀ normal, grammar.normalizeValue left = .ok normal ↔
        grammar.normalizeValue right = .ok normal := by
  have hequal : left.Equal right := ⟨hleft, hright, false, hsame⟩
  constructor
  · intro buffer text
    rw [writeValue_eq_append_iff, writeValue_eq_append_iff, grammar.writesAlike left right hequal]
  · intro normal
    rw [← normal?_eq_some_iff, ← normal?_eq_some_iff, grammar.normalizesAlike left right hequal]

/-- A declaration with its fields in the order of the template. -/
def inOrder : Value :=
  .list [.tagged "let" (.record [("name", .str "n"), ("value", .str "v")])]

def outOfOrder : Value :=
  .list [.tagged "let" (.record [("value", .str "v"), ("name", .str "n")])]

/-- The order of fields differs behind a tag in a list. -/
theorem equal_values_alike_statements :
    inOrder.Distinct ∧ outOfOrder.Distinct ∧ inOrder.same outOfOrder = true ∧
      Statement.statements.writeValue outOfOrder "" = .append "" "let n=\"v\";" ∧
      Statement.statements.normalizeValue outOfOrder = .ok inOrder := by
  have hinOrder : inOrder.Distinct := by
    simp [inOrder, Value.Distinct, Value.ItemsDistinct, Value.FieldsDistinct]
  have houtOfOrder : outOfOrder.Distinct := by
    simp [outOfOrder, Value.Distinct, Value.ItemsDistinct, Value.FieldsDistinct]
  have hsame : inOrder.same outOfOrder = true := by decide
  have halike := equal_values_alike Statement.statements inOrder outOfOrder hinOrder houtOfOrder
    hsame
  exact ⟨hinOrder, houtOfOrder, hsame, (halike.1 _ _).1 rfl, (halike.2 _).1 rfl⟩

end Grammar

end TwoWay
