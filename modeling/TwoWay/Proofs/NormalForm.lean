import TwoWay.Grammar.Normalize
import TwoWay.Proofs.Conformance

/-!
# Normal forms

Normalising rebuilds a value field by field and branch by branch. What it yields conforms to the
grammar, a value that conforms is its own normal form, and whatever has a text has a normal form
with the same text.
-/

namespace TwoWay

theorem Shape.normalizeValue_eq_ok_iff {shape : Shape}
    {normalize : shape.Carrier → Except EncodeError shape.Carrier} {value result : Value} :
    Shape.normalizeValue normalize value = .ok result ↔
      ∃ content normal, shape.ofValue value = .ok content ∧ normalize content = .ok normal ∧
        shape.toValue normal = result := by
  simp only [normalizeValue, bind_eq_ok_iff, pure_eq_ok, Except.ok.injEq]
  constructor
  · rintro ⟨content, hcontent, normal, hnormal, hresult⟩
    exact ⟨content, normal, hcontent, hnormal, hresult⟩
  · rintro ⟨content, normal, hcontent, hnormal, hresult⟩
    exact ⟨content, hcontent, normal, hnormal, hresult⟩

theorem Shape.spellValue_eq_ok_iff {shape : Shape}
    {spell : shape.Carrier → Except EncodeError String} {value : Value} {text : String} :
    Shape.spellValue spell value = .ok text ↔
      ∃ content, shape.ofValue value = .ok content ∧ spell content = .ok text :=
  bind_eq_ok_iff

@[simp]
theorem Shape.spellValue_toValue {shape : Shape} (spell : shape.Carrier → Except EncodeError String)
    (content : shape.Carrier) : Shape.spellValue spell (shape.toValue content) = spell content := by
  simp [spellValue]

theorem spellItems_eq_ok_iff {α : Type} {nonEmpty : Bool} {spell : α → Except EncodeError String}
    {separator : String} {content : List α} {text : String} :
    spellItems nonEmpty spell separator content = .ok text ↔
      ¬ content.length < nonEmpty.toNat ∧
        ∃ texts, content.mapM spell = .ok texts ∧ separator.intercalate texts = text := by
  unfold spellItems
  split
  · rename_i hfew
    simp [hfew]
  · rename_i henough
    simp [henough, map_eq_ok_iff]

namespace Grammar

/-- The value is put together as decoding puts values together. -/
def IsNormal {shape : Shape} (grammar : Grammar shape) (content : shape.Carrier) : Prop :=
  grammar.Conforms (fun _ _ => True) content

/-! ### Normalised values conform -/

def NormalizesConforming {shape : Shape} (grammar : Grammar shape) : Prop :=
  ∀ content normal, grammar.normalize content = .ok normal → grammar.IsNormal normal

theorem fieldsConform_of_normalizeElements {elements : List Element}
    (hparts : ∀ element ∈ elements, element.PartIs NormalizesConforming)
    (hnodup : (Element.fieldNames elements).Nodup) {record normal result : Record}
    (hfresh : ∀ name ∈ Element.fieldNames elements, name ∉ normal.names)
    (hnormalize : normalizeElements elements record normal = .ok result) :
    ∃ fields, result = ⟨normal.fields ++ fields⟩ ∧
      FieldsConform (fun _ _ => True) elements fields := by
  induction elements generalizing normal with
  | nil =>
      cases hnormalize
      exact ⟨[], by simp, rfl⟩
  | cons element rest ih =>
      obtain ⟨hpart, hrest⟩ := List.forall_mem_cons.1 hparts
      cases element with
      | literal text => exact ih hrest hnodup hfresh hnormalize
      | skip part => exact ih hrest hnodup hfresh hnormalize
      | @field shape name part =>
          rw [Element.fieldNames_field] at hnodup hfresh
          obtain ⟨hname, hnodup⟩ := List.nodup_cons.1 hnodup
          obtain ⟨hnew, hfresh⟩ := List.forall_mem_cons.1 hfresh
          rw [normalizeElements] at hnormalize
          split at hnormalize
          · obtain ⟨value, hvalue, hrestNormal⟩ := bind_eq_ok_iff.1 hnormalize
            obtain ⟨content, inner, -, hinner, rfl⟩ := Shape.normalizeValue_eq_ok_iff.1 hvalue
            rw [Record.set_of_notMem hnew] at hrestNormal
            obtain ⟨fields, hresult, hfields⟩ :=
              ih hrest hnodup (Record.notMem_names_append hname hfresh _) hrestNormal
            refine ⟨(name, shape.toValue inner) :: fields, ?_, inner, fields, rfl,
              hpart content inner hinner, hfields⟩
            rw [hresult, List.append_assoc, List.singleton_append]
          · cases hnormalize

theorem branchConforms_of_normalizeBranch {branches : List Branch}
    (hbodies : ∀ branch ∈ branches, branch.BodyIs NormalizesConforming) {names : List String}
    {tagged result : Tagged} (hnormalize : normalizeBranch branches names tagged = .ok result) :
    result.tag = tagged.tag ∧ BranchConforms (fun _ _ => True) branches result := by
  induction branches with
  | nil => cases hnormalize
  | cons branch rest ih =>
      obtain ⟨name, body⟩ := branch
      obtain ⟨hbody, hrest⟩ := List.forall_mem_cons.1 hbodies
      rw [normalizeBranch] at hnormalize
      split at hnormalize
      · rename_i hname
        obtain ⟨value, hvalue, hresult⟩ := bind_eq_ok_iff.1 hnormalize
        obtain ⟨content, inner, -, hinner, rfl⟩ := Shape.normalizeValue_eq_ok_iff.1 hvalue
        cases hresult
        refine ⟨rfl, ?_⟩
        rw [BranchConforms, if_pos hname]
        exact ⟨inner, rfl, hbody content inner hinner⟩
      · rename_i hname
        obtain ⟨htag, hlater⟩ := ih hrest hnormalize
        refine ⟨htag, ?_⟩
        rw [BranchConforms, if_neg (htag ▸ hname)]
        exact hlater

theorem isNormal_of_normalize {shape : Shape} (grammar : Grammar shape) (hbuilt : grammar.Built) :
    grammar.NormalizesConforming := by
  induction grammar with
  | terminal leaf => exact fun _ _ _ => trivial
  | named name inner ih => exact ih hbuilt.2
  | optional inner ih =>
      intro content normal hnormalize
      cases content with
      | none =>
          cases hnormalize
          exact fun _ habsent => nomatch habsent
      | some content =>
          obtain ⟨present, hpresent, rfl⟩ := map_eq_ok_iff.1 hnormalize
          intro other hother
          cases hother
          exact ih hbuilt.2 content present hpresent
  | repeated nonEmpty item ih =>
      exact fun _ _ hnormalize => forall_mem_of_mapM (ih hbuilt.2) hnormalize
  | separated nonEmpty item separator ih _ =>
      exact fun _ _ hnormalize => forall_mem_of_mapM (ih hbuilt.2.1) hnormalize
  | template elements ih =>
      obtain ⟨hnodup, hparts⟩ := hbuilt.template
      intro record normal hnormalize
      obtain ⟨fields, rfl, hfields⟩ := fieldsConform_of_normalizeElements
        (fun element hmem => (ih element hmem).mp (hparts element hmem)) hnodup
        (fun _ _ => List.not_mem_nil) hnormalize
      exact hfields
  | choice branches ih =>
      obtain ⟨-, hbodies⟩ := hbuilt.choice
      intro tagged normal hnormalize
      exact (branchConforms_of_normalizeBranch
        (fun branch hmem => (ih branch hmem).mp (hbodies branch hmem)) hnormalize).2
  | erased inner ih =>
      intro value normal hnormalize
      obtain ⟨content, result, -, hresult, rfl⟩ := Shape.normalizeValue_eq_ok_iff.1 hnormalize
      exact ⟨result, rfl, ih hbuilt.2 content result hresult⟩

/-! ### Conforming values are their own normal forms -/

def KeepsNormal {shape : Shape} (grammar : Grammar shape) : Prop :=
  ∀ content, grammar.IsNormal content → grammar.normalize content = .ok content

/-- Elements find each of their fields by name and set it at its old place. -/
theorem normalizeElements_of_fieldsConform {elements : List Element}
    (hparts : ∀ element ∈ elements, element.PartIs KeepsNormal)
    (hnodup : (Element.fieldNames elements).Nodup) {record normal : Record}
    (hfresh : ∀ name ∈ Element.fieldNames elements, name ∉ normal.names)
    {fields : List (String × Value)} (hfields : FieldsConform (fun _ _ => True) elements fields)
    (hget : ∀ field ∈ fields, record.get? field.1 = some field.2) :
    normalizeElements elements record normal = .ok ⟨normal.fields ++ fields⟩ := by
  induction elements generalizing normal fields with
  | nil =>
      cases hfields
      rw [normalizeElements, List.append_nil]
  | cons element rest ih =>
      obtain ⟨hpart, hrest⟩ := List.forall_mem_cons.1 hparts
      cases element with
      | literal text => exact ih hrest hnodup hfresh hfields hget
      | skip part => exact ih hrest hnodup hfresh hfields hget
      | @field shape name part =>
          obtain ⟨content, more, rfl, hcontent, hmore⟩ := hfields
          obtain ⟨hfirst, hlater⟩ := List.forall_mem_cons.1 hget
          rw [Element.fieldNames_field] at hnodup hfresh
          obtain ⟨hname, hnodup⟩ := List.nodup_cons.1 hnodup
          obtain ⟨hnew, hfresh⟩ := List.forall_mem_cons.1 hfresh
          have hvalue : Shape.normalizeValue part.normalize (shape.toValue content) =
              .ok (shape.toValue content) :=
            Shape.normalizeValue_eq_ok_iff.2
              ⟨content, content, shape.ofValue_toValue content, hpart content hcontent, rfl⟩
          simp only [normalizeElements, hfirst, hvalue, ok_bind, Record.set_of_notMem hnew]
          rw [ih hrest hnodup (Record.notMem_names_append hname hfresh _) hmore hlater,
            List.append_assoc, List.singleton_append]

theorem normalizeBranch_of_branchConforms {branches : List Branch}
    (hbodies : ∀ branch ∈ branches, branch.BodyIs KeepsNormal) {names : List String}
    {tagged : Tagged} (hbranch : BranchConforms (fun _ _ => True) branches tagged) :
    normalizeBranch branches names tagged = .ok tagged := by
  induction branches with
  | nil => exact hbranch.elim
  | cons branch rest ih =>
      obtain ⟨name, body⟩ := branch
      obtain ⟨hbody, hrest⟩ := List.forall_mem_cons.1 hbodies
      rw [BranchConforms] at hbranch
      rw [normalizeBranch]
      split
      · rename_i hname
        rw [if_pos hname] at hbranch
        obtain ⟨content, hcontent, hconforms⟩ := hbranch
        have hvalue := Shape.normalizeValue_eq_ok_iff.2
          ⟨content, content, Shape.ofValue_toValue _ content, hbody content hconforms, rfl⟩
        rw [hcontent, hvalue, ok_bind, ← hcontent]
        rfl
      · rename_i hname
        rw [if_neg hname] at hbranch
        exact ih hrest hbranch

theorem mapM_eq_ok_self {α : Type} {f : α → Except EncodeError α} {items : List α}
    (hf : ∀ item ∈ items, f item = .ok item) : items.mapM f = .ok items :=
  mapM_eq_ok_iff.2 (List.forall₂_same.2 hf)

theorem get?_of_fieldsConform {elements : List Element}
    (hnodup : (Element.fieldNames elements).Nodup) {fields : List (String × Value)}
    (hfields : FieldsConform (fun _ _ => True) elements fields) :
    ∀ field ∈ fields, (Record.mk fields).get? field.1 = some field.2 := by
  intro field hmem
  refine Record.lookup_eq_some_of_mem ?_ hmem
  rw [hfields.names_eq]
  exact hnodup

theorem normalize_of_isNormal {shape : Shape} (grammar : Grammar shape) (hbuilt : grammar.Built) :
    grammar.KeepsNormal := by
  induction grammar with
  | terminal leaf => exact fun _ _ => rfl
  | named name inner ih => exact ih hbuilt.2
  | optional inner ih =>
      intro content hnormal
      cases content with
      | none => rfl
      | some content => rw [normalize, ih hbuilt.2 content (hnormal content rfl), map_ok]
  | repeated nonEmpty item ih =>
      exact fun content hnormal =>
        mapM_eq_ok_self fun single hmem => ih hbuilt.2 single (hnormal single hmem)
  | separated nonEmpty item separator ih _ =>
      exact fun content hnormal =>
        mapM_eq_ok_self fun single hmem => ih hbuilt.2.1 single (hnormal single hmem)
  | template elements ih =>
      obtain ⟨hnodup, hparts⟩ := hbuilt.template
      intro record hnormal
      exact normalizeElements_of_fieldsConform
        (fun element hmem => (ih element hmem).mp (hparts element hmem)) hnodup
        (fun _ _ => List.not_mem_nil) hnormal (get?_of_fieldsConform hnodup hnormal)
  | choice branches ih =>
      obtain ⟨-, hbodies⟩ := hbuilt.choice
      intro tagged hnormal
      exact normalizeBranch_of_branchConforms
        (fun branch hmem => (ih branch hmem).mp (hbodies branch hmem)) hnormal
  | erased inner ih =>
      rintro value ⟨content, rfl, hcontent⟩
      exact Shape.normalizeValue_eq_ok_iff.2
        ⟨content, content, Shape.ofValue_toValue _ content, ih hbuilt.2 content hcontent, rfl⟩

/-! ### What has a text has a normal form of the same text -/

/-- Values with a text have a normal form, and it has the same text. -/
def KeepsSpelling {shape : Shape} (grammar : Grammar shape) : Prop :=
  ∀ content text, grammar.spelling content = .ok text →
    ∃ normal, grammar.normalize content = .ok normal ∧ grammar.spelling normal = .ok text

theorem KeepsSpelling.value {shape : Shape} {grammar : Grammar shape}
    (hkeeps : grammar.KeepsSpelling) {value : Value} {text : String}
    (hspell : Shape.spellValue grammar.spelling value = .ok text) :
    ∃ normal, Shape.normalizeValue grammar.normalize value = .ok (shape.toValue normal) ∧
      grammar.spelling normal = .ok text := by
  obtain ⟨content, hcontent, htext⟩ := Shape.spellValue_eq_ok_iff.1 hspell
  obtain ⟨normal, hnormal, hnormalText⟩ := hkeeps content text htext
  exact ⟨normal, Shape.normalizeValue_eq_ok_iff.2 ⟨content, normal, hcontent, hnormal, rfl⟩,
    hnormalText⟩

theorem KeepsSpelling.items {shape : Shape} {item : Grammar shape} (hkeeps : item.KeepsSpelling)
    {nonEmpty : Bool} {separator : String} {content : List shape.Carrier} {text : String}
    (hspell : spellItems nonEmpty item.spelling separator content = .ok text) :
    ∃ normal, content.mapM item.normalize = .ok normal ∧
      spellItems nonEmpty item.spelling separator normal = .ok text := by
  obtain ⟨henough, texts, htexts, htext⟩ := spellItems_eq_ok_iff.1 hspell
  have hall : ∃ normal, List.Forall₂ (fun single kept => item.normalize single = .ok kept)
        content normal ∧
      List.Forall₂ (fun kept text => item.spelling kept = .ok text) normal texts := by
    rw [mapM_eq_ok_iff] at htexts
    clear hspell htext henough
    induction htexts with
    | nil => exact ⟨[], .nil, .nil⟩
    | cons hfirst _ ih =>
        obtain ⟨kept, hkept, hkeptText⟩ := hkeeps _ _ hfirst
        obtain ⟨normal, hnormal, hnormalTexts⟩ := ih
        exact ⟨kept :: normal, .cons hkept hnormal, .cons hkeptText hnormalTexts⟩
  obtain ⟨normal, hnormal, hnormalTexts⟩ := hall
  refine ⟨normal, mapM_eq_ok_iff.2 hnormal, spellItems_eq_ok_iff.2 ⟨?_, texts, ?_, htext⟩⟩
  · rwa [← hnormal.length_eq]
  · exact mapM_eq_ok_iff.2 hnormalTexts

/-- The normal fields give the elements their old texts, in any record that holds them. -/
theorem normalizeElements_of_spellElements {elements : List Element}
    (hparts : ∀ element ∈ elements, element.PartIs KeepsSpelling)
    (hnodup : (Element.fieldNames elements).Nodup) {record normal : Record} {text : String}
    (hfresh : ∀ name ∈ Element.fieldNames elements, name ∉ normal.names)
    (hspell : spellElements elements record = .ok text) :
    ∃ fields, normalizeElements elements record normal = .ok ⟨normal.fields ++ fields⟩ ∧
      ∀ record', (∀ field ∈ fields, Record.get? record' field.1 = some field.2) →
        spellElements elements record' = .ok text := by
  induction elements generalizing normal text with
  | nil => exact ⟨[], by simp [normalizeElements], fun _ _ => hspell⟩
  | cons element rest ih =>
      obtain ⟨hpart, hrest⟩ := List.forall_mem_cons.1 hparts
      cases element with
      | literal written =>
          obtain ⟨restText, hrestText, rfl⟩ := map_eq_ok_iff.1 hspell
          obtain ⟨fields, hnormalize, hsame⟩ := ih hrest hnodup hfresh hrestText
          refine ⟨fields, hnormalize, fun record' hget => ?_⟩
          rw [spellElements, hsame record' hget, map_ok]
      | skip part =>
          obtain ⟨restText, hrestText, rfl⟩ := map_eq_ok_iff.1 hspell
          obtain ⟨fields, hnormalize, hsame⟩ := ih hrest hnodup hfresh hrestText
          refine ⟨fields, hnormalize, fun record' hget => ?_⟩
          rw [spellElements, hsame record' hget, map_ok]
      | @field shape name part =>
          rw [Element.fieldNames_field] at hnodup hfresh
          obtain ⟨hname, hnodup⟩ := List.nodup_cons.1 hnodup
          obtain ⟨hnew, hfresh⟩ := List.forall_mem_cons.1 hfresh
          cases hfound : record.get? name with
          | none =>
              simp only [spellElements, hfound] at hspell
              cases hspell
          | some value =>
              simp only [spellElements, hfound] at hspell
              obtain ⟨first, hfirst, hmore⟩ := bind_eq_ok_iff.1 hspell
              obtain ⟨restText, hrestText, htext⟩ := bind_eq_ok_iff.1 hmore
              cases htext
              obtain ⟨inner, hinner, hinnerText⟩ := hpart.value hfirst
              obtain ⟨fields, hnormalize, hsame⟩ :=
                ih hrest hnodup (Record.notMem_names_append hname hfresh (shape.toValue inner))
                  hrestText
              refine ⟨(name, shape.toValue inner) :: fields, ?_, fun record' hget => ?_⟩
              · simp only [normalizeElements, hfound, hinner, ok_bind, Record.set_of_notMem hnew]
                rw [hnormalize, List.append_assoc, List.singleton_append]
              · obtain ⟨hget, hgetRest⟩ := List.forall_mem_cons.1 hget
                simp only [spellElements, hget, Shape.spellValue_toValue, hinnerText,
                  hsame record' hgetRest, ok_bind, pure_eq_ok]

theorem normalizeBranch_of_spellBranch {branches : List Branch}
    (hbodies : ∀ branch ∈ branches, branch.BodyIs KeepsSpelling) {names : List String}
    {tagged : Tagged} {text : String} (hspell : spellBranch branches names tagged = .ok text) :
    ∃ normal, normalizeBranch branches names tagged = .ok normal ∧ normal.tag = tagged.tag ∧
      spellBranch branches names normal = .ok text := by
  induction branches with
  | nil => cases hspell
  | cons branch rest ih =>
      obtain ⟨name, body⟩ := branch
      obtain ⟨hbody, hrest⟩ := List.forall_mem_cons.1 hbodies
      rw [spellBranch] at hspell
      by_cases hname : name = tagged.tag
      · rw [if_pos hname] at hspell
        obtain ⟨inner, hinner, hinnerText⟩ := hbody.value hspell
        refine ⟨⟨tagged.tag, Shape.toValue _ inner⟩, ?_, rfl, ?_⟩
        · rw [normalizeBranch, if_pos hname, hinner, ok_bind, pure_eq_ok]
        · rw [spellBranch, if_pos hname, Shape.spellValue_toValue, hinnerText]
      · rw [if_neg hname] at hspell
        obtain ⟨normal, hnormalize, htag, hsame⟩ := ih hrest hspell
        refine ⟨normal, ?_, htag, ?_⟩
        · rw [normalizeBranch, if_neg hname, hnormalize]
        · rw [spellBranch, if_neg (htag ▸ hname), hsame]

theorem unknownField?_of_fieldsConform {elements : List Element} {fields : List (String × Value)}
    (hfields : FieldsConform (fun _ _ => True) elements fields) :
    unknownField? elements ⟨fields⟩ = none := by
  rw [unknownField?, List.find?_eq_none]
  intro name hmem
  rw [Record.names, hfields.names_eq] at hmem
  simpa using hmem

/-- **Normalising keeps the text.** By induction on the grammar, for every value that has a text. -/
theorem normalize_of_spelling {shape : Shape} (grammar : Grammar shape) (hbuilt : grammar.Built) :
    grammar.KeepsSpelling := by
  induction grammar with
  | terminal leaf => exact fun content text hspell => ⟨content, rfl, hspell⟩
  | named name inner ih => exact ih hbuilt.2
  | optional inner ih =>
      intro content text hspell
      cases content with
      | none => exact ⟨none, rfl, hspell⟩
      | some content =>
          obtain ⟨normal, hnormal, htext⟩ := ih hbuilt.2 content text hspell
          exact ⟨some normal, by rw [normalize, hnormal, map_ok], htext⟩
  | repeated nonEmpty item ih => exact fun _ _ hspell => (ih hbuilt.2).items hspell
  | separated nonEmpty item separator ih _ => exact fun _ _ hspell => (ih hbuilt.2.1).items hspell
  | template elements ih =>
      have hbuilt' := hbuilt
      obtain ⟨hnodup, hparts⟩ := hbuilt.template
      intro record text hspell
      rw [spelling] at hspell
      split at hspell
      · cases hspell
      · have hfresh : ∀ name ∈ Element.fieldNames elements, name ∉ Record.empty.names :=
          fun _ _ => List.not_mem_nil
        obtain ⟨fields, hnormalize, hsame⟩ := normalizeElements_of_spellElements
          (fun element hmem => (ih element hmem).mp (hparts element hmem)) hnodup hfresh hspell
        have hfields := isNormal_of_normalize (.template elements) hbuilt' record _ hnormalize
        refine ⟨_, hnormalize, ?_⟩
        rw [spelling, unknownField?_of_fieldsConform hfields]
        exact hsame _ (get?_of_fieldsConform hnodup hfields)
  | choice branches ih =>
      obtain ⟨-, hbodies⟩ := hbuilt.choice
      intro tagged text hspell
      obtain ⟨normal, hnormalize, -, hsame⟩ := normalizeBranch_of_spellBranch
        (fun branch hmem => (ih branch hmem).mp (hbodies branch hmem)) hspell
      exact ⟨normal, hnormalize, hsame⟩
  | erased inner ih =>
      intro value text hspell
      obtain ⟨normal, hnormal, htext⟩ := (ih hbuilt.2).value hspell
      refine ⟨_, hnormal, ?_⟩
      rw [spelling, Shape.spellValue_toValue, htext]

end Grammar

end TwoWay
