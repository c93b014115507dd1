import TwoWay.Proofs.NormalForm

/-!
# Writing and normalising

Writing and normalising walk over the same value, and each converts what it finds on its own. Where
writing succeeds, normalising succeeds as well and yields a value that is written alike and is its
own normal form. Where writing fails, normalising stops at the same place with the same error, but
for two checks that only writing makes: a field that the template does not declare, and a
repetition with too few items. Normalising drops the field and keeps the short list.
-/

namespace TwoWay

/-- The errors of writing that normalising has no check for. -/
def EncodeError.isOverlooked : EncodeError → Bool
  | .unknownField _ | .tooFewElements .. => true
  | .missingField _ | .tagMissing _ | .tagAmbiguous _ | .typeMismatch .. | .roundTrip ..
  | .roundTripMismatch _ => false

section Computations

variable {α β γ δ : Type}

/-- The second computation succeeds where the first does, and fails as the first does unless the
error is overlooked. -/
def Mirrors (written : Except EncodeError α) (normalized : Except EncodeError β) : Prop :=
  match written with
  | .ok _ => ∃ result, normalized = .ok result
  | .error error => error.isOverlooked = false → normalized = .error error

namespace Mirrors

variable {written : Except EncodeError α} {normalized : Except EncodeError β}

theorem of_overlooked {error : EncodeError} (herror : error.isOverlooked = true) :
    Mirrors (.error error : Except EncodeError α) normalized := by
  intro hnoticed
  rw [herror] at hnoticed
  cases hnoticed

theorem map_left (hmirrors : Mirrors written normalized) (f : α → γ) :
    Mirrors (f <$> written) normalized := by
  cases written <;> exact hmirrors

theorem map_right (hmirrors : Mirrors written normalized) (g : β → δ) :
    Mirrors written (g <$> normalized) := by
  cases written with
  | ok a =>
      obtain ⟨b, rfl⟩ := hmirrors
      exact ⟨g b, rfl⟩
  | error error =>
      intro hnoticed
      rw [hmirrors hnoticed, map_error]

/-- Two computations one after the other are mirrored step by step. -/
theorem bind {f : α → Except EncodeError γ} {g : β → Except EncodeError δ}
    (hmirrors : Mirrors written normalized) (hnext : ∀ a b, Mirrors (f a) (g b)) :
    Mirrors (written >>= f) (normalized >>= g) := by
  cases written with
  | ok a =>
      obtain ⟨b, rfl⟩ := hmirrors
      exact hnext a b
  | error error =>
      intro hnoticed
      rw [hmirrors hnoticed, error_bind]

theorem mapM {f : α → Except EncodeError γ} {g : α → Except EncodeError δ} {items : List α}
    (hitems : ∀ item, Mirrors (f item) (g item)) : Mirrors (items.mapM f) (items.mapM g) := by
  induction items with
  | nil => exact ⟨[], rfl⟩
  | cons item rest ih =>
      rw [List.mapM_cons, List.mapM_cons]
      refine (hitems item).bind fun a b => ?_
      simp only [bind_pure_comp]
      exact (ih.map_left _).map_right _

end Mirrors

/-- The computation never fails with an overlooked error. -/
def Notices (normalized : Except EncodeError α) : Prop :=
  ∀ error, normalized = .error error → error.isOverlooked = false

namespace Notices

theorem ok (a : α) : Notices (.ok a) :=
  fun _ herror => nomatch herror

theorem error {error : EncodeError} (herror : error.isOverlooked = false) :
    Notices (.error error : Except EncodeError α) := by
  rintro _ ⟨⟩
  exact herror

theorem bind {first : Except EncodeError α} {next : α → Except EncodeError β}
    (hfirst : Notices first) (hnext : ∀ a, Notices (next a)) : Notices (first >>= next) := by
  cases first with
  | ok a => exact hnext a
  | error e => exact error (hfirst e rfl)

theorem map {first : Except EncodeError α} (hfirst : Notices first) (f : α → β) :
    Notices (f <$> first) := by
  cases first with
  | ok a => exact ok (f a)
  | error e => exact error (hfirst e rfl)

theorem mapM {f : α → Except EncodeError β} {items : List α} (hitems : ∀ item, Notices (f item)) :
    Notices (items.mapM f) := by
  induction items with
  | nil => exact ok []
  | cons item rest ih =>
      rw [List.mapM_cons]
      exact (hitems item).bind fun _ => ih.bind fun _ => ok _

end Notices

end Computations

namespace Shape

theorem notices_ofValue (shape : Shape) (value : Value) : Notices (shape.ofValue value) := by
  induction shape generalizing value with
  | scalar kind =>
      cases kind with
      | integer =>
          cases value with
          | int n => exact .ok n
          | _ => exact .error rfl
      | bigInteger =>
          cases value with
          | big n => exact .ok n
          | int n => exact .ok n.toInt
          | _ => exact .error rfl
      | text =>
          cases value with
          | str text => exact .ok text
          | _ => exact .error rfl
  | record =>
      cases value with
      | record fields => exact .ok _
      | _ => exact .error rfl
  | tagged =>
      cases value with
      | tagged tag content => exact .ok _
      | record fields =>
          match fields with
          | [] => exact .error rfl
          | [(tag, content)] => exact .ok _
          | _ :: _ :: _ => exact .error rfl
      | _ => exact .error rfl
  | any => exact .ok value
  | list item ih =>
      cases value with
      | list items => exact .mapM ih
      | _ => exact .error rfl
  | optional inner ih =>
      cases value with
      | optional content =>
          cases content with
          | none => exact .ok none
          | some content => exact (ih content).map some
      | _ => exact .error rfl

variable {shape : Shape} {spell : shape.Carrier → Except EncodeError String}
  {normalize : shape.Carrier → Except EncodeError shape.Carrier}

theorem mirrors_value (hmirrors : ∀ content, Mirrors (spell content) (normalize content))
    (value : Value) :
    Mirrors (Shape.spellValue spell value) (Shape.normalizeValue normalize value) := by
  unfold Shape.spellValue Shape.normalizeValue
  cases shape.ofValue value with
  | ok content =>
      simp only [ok_bind, bind_pure_comp]
      exact (hmirrors content).map_right _
  | error error => exact fun _ => rfl

theorem notices_normalizeValue (hnotices : ∀ content, Notices (normalize content)) (value : Value) :
    Notices (Shape.normalizeValue normalize value) :=
  (shape.notices_ofValue value).bind fun content => (hnotices content).bind fun _ => .ok _

end Shape

namespace Grammar

/-! ### Where writing succeeds -/

theorem normalizeValue_toValue {shape : Shape} {grammar : Grammar shape} (hbuilt : grammar.Built)
    {content : shape.Carrier} (hnormal : grammar.IsNormal content) :
    grammar.normalizeValue (shape.toValue content) = .ok (shape.toValue content) :=
  Shape.normalizeValue_eq_ok_iff.2 ⟨content, content, shape.ofValue_toValue content,
    normalize_of_isNormal grammar hbuilt content hnormal, rfl⟩

theorem result_writeValue {shape : Shape} (grammar : Grammar shape) (value : Value)
    (buffer : String) :
    (grammar.writeValue value buffer).result =
      String.utf8ByteSize <$> Shape.spellValue grammar.spelling value := by
  rw [writeValue_eq]
  cases Shape.spellValue grammar.spelling value <;> rfl

theorem writeValue_eq_ok_iff {shape : Shape} {grammar : Grammar shape} {value : Value}
    {buffer : String} {count : Nat} :
    (grammar.writeValue value buffer).result = .ok count ↔
      ∃ content text, shape.ofValue value = .ok content ∧ grammar.spelling content = .ok text ∧
        text.utf8ByteSize = count := by
  rw [result_writeValue, map_eq_ok_iff]
  constructor
  · rintro ⟨text, hspell, hcount⟩
    obtain ⟨content, hcontent, htext⟩ := Shape.spellValue_eq_ok_iff.1 hspell
    exact ⟨content, text, hcontent, htext, hcount⟩
  · rintro ⟨content, text, hcontent, htext, hcount⟩
    exact ⟨text, Shape.spellValue_eq_ok_iff.2 ⟨content, hcontent, htext⟩, hcount⟩

/-- **Normalising is a retraction that keeps the text.** A value that can be written has a normal
form, which is written the same and is its own normal form. So rendering does not fail between
writing and reading back. -/
theorem normalizeValue_retraction {shape : Shape} (grammar : Grammar shape)
    (hbuilt : grammar.Built) :
    (∀ value buffer count, (grammar.writeValue value buffer).result = .ok count →
      ∃ normal, grammar.normalizeValue value = .ok normal ∧
        grammar.writeValue normal buffer = grammar.writeValue value buffer ∧
        grammar.normalizeValue normal = .ok normal) ∧
      ∀ content text, grammar.encode content = .ok text →
        ∃ normal, grammar.normalize content = .ok normal := by
  constructor
  · intro value buffer count hwrite
    obtain ⟨content, text, hcontent, htext, -⟩ := writeValue_eq_ok_iff.1 hwrite
    obtain ⟨normal, hnormal, hnormalText⟩ :=
      normalize_of_spelling grammar hbuilt content text htext
    refine ⟨shape.toValue normal, ?_, ?_, ?_⟩
    · exact Shape.normalizeValue_eq_ok_iff.2 ⟨content, normal, hcontent, hnormal, rfl⟩
    · rw [writeValue_eq, writeValue_eq, Shape.spellValue_toValue, hnormalText,
        Shape.spellValue_eq_ok_iff.2 ⟨content, hcontent, htext⟩]
    · exact normalizeValue_toValue hbuilt
        (isNormal_of_normalize grammar hbuilt content normal hnormal)
  · intro content text hencode
    rw [encode_eq_spelling] at hencode
    obtain ⟨normal, hnormal, -⟩ := normalize_of_spelling grammar hbuilt content text hencode
    exact ⟨normal, hnormal⟩

/-- An unlimited amount and a unit, which is a code or a quoted label. -/
def price : Grammar .record :=
  .template [.field "amount" (@terminal .bigInteger Primitive.bigInteger),
    .skip Statement.whitespaceLeaf,
    .field "unit"
      (.choice [.mk "code" Statement.identifierLeaf, .mk "label" Statement.stringLeaf])]

theorem built_price : price.Built :=
  ⟨rfl, trivial, trivial, ⟨rfl, trivial, trivial, trivial⟩, trivial⟩

/-- The amount has 64 bits, the unit is a record with one field, and the order is not that of the
template. -/
theorem normalizeValue_retraction_price :
    price.Built ∧
      (price.writeValue (.record [("unit", .record [("code", .str "EUR")]), ("amount", .int 5)])
        "").result = .ok 5 ∧
      ∃ normal,
        price.normalizeValue
          (.record [("unit", .record [("code", .str "EUR")]), ("amount", .int 5)]) = .ok normal ∧
        price.writeValue normal "" =
          price.writeValue (.record [("unit", .record [("code", .str "EUR")]), ("amount", .int 5)])
            "" ∧
        price.normalizeValue normal = .ok normal := by
  have hwrite : (price.writeValue
      (.record [("unit", .record [("code", .str "EUR")]), ("amount", .int 5)]) "").result =
        .ok 5 := rfl
  exact ⟨built_price, hwrite, (normalizeValue_retraction price built_price).1 _ _ _ hwrite⟩

/-! ### Where writing fails -/

def NormalizesAsSpelled {shape : Shape} (grammar : Grammar shape) : Prop :=
  ∀ content, Mirrors (grammar.spelling content) (grammar.normalize content)

theorem NormalizesAsSpelled.items {shape : Shape} {item : Grammar shape}
    (hitem : item.NormalizesAsSpelled) (nonEmpty : Bool) (separator : String)
    (content : List shape.Carrier) :
    Mirrors (spellItems nonEmpty item.spelling separator content)
      (content.mapM item.normalize) := by
  unfold spellItems
  split
  · -- Only writing counts the items.
    exact .of_overlooked rfl
  · exact (Mirrors.mapM hitem).map_left _

theorem mirrors_elements {elements : List Element}
    (hparts : ∀ element ∈ elements, element.PartIs NormalizesAsSpelled) (record normal : Record) :
    Mirrors (spellElements elements record) (normalizeElements elements record normal) := by
  induction elements generalizing normal with
  | nil => exact ⟨normal, rfl⟩
  | cons element rest ih =>
      obtain ⟨hpart, hrest⟩ := List.forall_mem_cons.1 hparts
      cases element with
      | literal text => exact (ih hrest normal).map_left _
      | skip part => exact (ih hrest normal).map_left _
      | field name part =>
          rw [spellElements, normalizeElements]
          cases record.get? name with
          | none => exact fun _ => rfl
          | some value =>
              refine (Shape.mirrors_value hpart value).bind fun text kept => ?_
              simp only [bind_pure_comp]
              exact (ih hrest _).map_left _

theorem mirrors_branch {branches : List Branch}
    (hbodies : ∀ branch ∈ branches, branch.BodyIs NormalizesAsSpelled) (names : List String)
    (tagged : Tagged) :
    Mirrors (spellBranch branches names tagged) (normalizeBranch branches names tagged) := by
  induction branches with
  | nil => exact fun _ => rfl
  | cons branch rest ih =>
      obtain ⟨name, body⟩ := branch
      obtain ⟨hbody, hrest⟩ := List.forall_mem_cons.1 hbodies
      rw [spellBranch, normalizeBranch]
      split
      · simp only [bind_pure_comp]
        exact (Shape.mirrors_value hbody tagged.content).map_right _
      · exact ih hrest

/-- **Normalising goes as writing goes.** By induction on the grammar, whether it is built or
not. -/
theorem normalizesAsSpelled {shape : Shape} (grammar : Grammar shape) :
    grammar.NormalizesAsSpelled := by
  induction grammar with
  | terminal leaf => exact fun content => ⟨content, rfl⟩
  | named name inner ih => exact ih
  | optional inner ih =>
      intro content
      cases content with
      | none => exact ⟨none, rfl⟩
      | some content => exact (ih content).map_right some
  | repeated nonEmpty item ih => exact ih.items nonEmpty ""
  | separated nonEmpty item separator ih _ => exact ih.items nonEmpty _
  | template elements ih =>
      intro record
      rw [spelling]
      split
      · -- Only writing looks for fields that are not declared.
        exact .of_overlooked rfl
      · exact mirrors_elements ih record .empty
  | choice branches ih => exact mirrors_branch ih (Branch.names branches)
  | erased inner ih => exact Shape.mirrors_value ih

def NormalizesNoticing {shape : Shape} (grammar : Grammar shape) : Prop :=
  ∀ content, Notices (grammar.normalize content)

theorem notices_normalizeElements {elements : List Element}
    (hparts : ∀ element ∈ elements, element.PartIs NormalizesNoticing) (record normal : Record) :
    Notices (normalizeElements elements record normal) := by
  induction elements generalizing normal with
  | nil => exact .ok normal
  | cons element rest ih =>
      obtain ⟨hpart, hrest⟩ := List.forall_mem_cons.1 hparts
      cases element with
      | literal text => exact ih hrest normal
      | skip part => exact ih hrest normal
      | field name part =>
          rw [normalizeElements]
          cases record.get? name with
          | none => exact .error rfl
          | some value => exact (Shape.notices_normalizeValue hpart value).bind fun _ => ih hrest _

theorem notices_normalizeBranch {branches : List Branch}
    (hbodies : ∀ branch ∈ branches, branch.BodyIs NormalizesNoticing) (names : List String)
    (tagged : Tagged) : Notices (normalizeBranch branches names tagged) := by
  induction branches with
  | nil => exact .error rfl
  | cons branch rest ih =>
      obtain ⟨name, body⟩ := branch
      obtain ⟨hbody, hrest⟩ := List.forall_mem_cons.1 hbodies
      rw [normalizeBranch]
      split
      · exact (Shape.notices_normalizeValue hbody tagged.content).bind fun _ => .ok _
      · exact ih hrest

theorem normalizesNoticing {shape : Shape} (grammar : Grammar shape) :
    grammar.NormalizesNoticing := by
  induction grammar with
  | terminal leaf => exact fun content => .ok content
  | named name inner ih => exact ih
  | optional inner ih =>
      intro content
      cases content with
      | none => exact .ok none
      | some content => exact (ih content).map some
  | repeated nonEmpty item ih => exact fun _ => .mapM ih
  | separated nonEmpty item separator ih _ => exact fun _ => .mapM ih
  | template elements ih => exact fun record => notices_normalizeElements ih record .empty
  | choice branches ih => exact notices_normalizeBranch ih (Branch.names branches)
  | erased inner ih => exact Shape.notices_normalizeValue ih

/-- **What normalising rejects.** A value that cannot be written is rejected by normalising with the
same error, except for the two errors that normalising never reports. -/
theorem normalizeValue_rejects_iff {shape : Shape} (grammar : Grammar shape) (value : Value)
    (buffer : String) (error : EncodeError)
    (hwrite : (grammar.writeValue value buffer).result = .error error) :
    grammar.normalizeValue value = .error error ↔ error.isOverlooked = false := by
  have hmirrors := (Shape.mirrors_value grammar.normalizesAsSpelled value).map_left
    String.utf8ByteSize
  rw [← grammar.result_writeValue value buffer, hwrite] at hmirrors
  constructor
  · exact Shape.notices_normalizeValue grammar.normalizesNoticing value error
  · exact hmirrors

/-- A unit of no known kind is found by both. -/
theorem normalizeValue_rejects_iff_price :
    (price.writeValue (.record [("unit", .tagged "sign" (.str "€")), ("amount", .int 5)])
        "").result = .error (.tagMissing ["code", "label"]) ∧
      price.normalizeValue (.record [("unit", .tagged "sign" (.str "€")), ("amount", .int 5)]) =
        .error (.tagMissing ["code", "label"]) := by
  have hwrite : (price.writeValue
      (.record [("unit", .tagged "sign" (.str "€")), ("amount", .int 5)]) "").result =
        .error (.tagMissing ["code", "label"]) := rfl
  exact ⟨hwrite, (normalizeValue_rejects_iff price _ _ _ hwrite).2 rfl⟩

/-- A record with a field too many and a list that must not be empty cannot be written. Normalising
takes both, and loses the field. -/
theorem normalizeValue_overlooks :
    ((price.writeValue
          (.record [("amount", .big 5), ("unit", .tagged "code" (.str "EUR")), ("no", .int 1)])
          "").result = .error (.unknownField "no") ∧
        price.normalizeValue
          (.record [("amount", .big 5), ("unit", .tagged "code" (.str "EUR")), ("no", .int 1)]) =
          .ok (.record [("amount", .big 5), ("unit", .tagged "code" (.str "EUR"))])) ∧
      ((Grammar.repeated true Statement.integerLeaf).writeValue (.list []) "").result =
          .error (.tooFewElements 1 0) ∧
        (Grammar.repeated true Statement.integerLeaf).normalizeValue (.list []) = .ok (.list []) :=
  ⟨⟨rfl, rfl⟩, rfl, rfl⟩

end Grammar

end TwoWay
