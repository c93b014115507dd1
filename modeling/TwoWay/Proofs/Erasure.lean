import TwoWay.Proofs.Piecewise

/-!
# Erased types

A grammar can be made to hide the static type of its values and to offer them in the one form that
all values share. That changes the order of the conversions on the way in: where the type is known,
a value is converted as a whole, and where it is not, piece by piece. Nothing else changes,
whichever parts of a grammar have their types erased. Two grammars are alike when no caller that
handles values of any form can tell them apart, but for the errors of refused values. An erased
grammar is like its inner one, and grammars made of like parts are alike.
-/

namespace TwoWay

namespace Grammar

/-- The second grammar is the first with its own type or that of one part erased. -/
inductive Wraps : {shape shape' : Shape} → Grammar shape → Grammar shape' → Prop
  | here {shape : Shape} (grammar : Grammar shape) : Wraps grammar (.erased grammar)
  | named {shape shape' : Shape} {inner : Grammar shape} {inner' : Grammar shape'} (name : String)
      (hinner : Wraps inner inner') : Wraps (.named name inner) (.named name inner')
  | optional {shape shape' : Shape} {inner : Grammar shape} {inner' : Grammar shape'}
      (hinner : Wraps inner inner') : Wraps (.optional inner) (.optional inner')
  | repeated {shape shape' : Shape} {item : Grammar shape} {item' : Grammar shape'}
      (nonEmpty : Bool) (hitem : Wraps item item') :
      Wraps (.repeated nonEmpty item) (.repeated nonEmpty item')
  | item {shape shape' gap : Shape} {item : Grammar shape} {item' : Grammar shape'}
      (nonEmpty : Bool) (hitem : Wraps item item') (separator : Grammar gap) :
      Wraps (.separated nonEmpty item separator) (.separated nonEmpty item' separator)
  | separator {shape gap gap' : Shape} (nonEmpty : Bool) (item : Grammar shape)
      {separator : Grammar gap} {separator' : Grammar gap'}
      (hseparator : Wraps separator separator') :
      Wraps (.separated nonEmpty item separator) (.separated nonEmpty item separator')
  | field {shape shape' : Shape} {part : Grammar shape} {part' : Grammar shape'}
      (front : List Element) (name : String) (hpart : Wraps part part') (back : List Element) :
      Wraps (.template (front ++ .field name part :: back))
        (.template (front ++ .field name part' :: back))
  | skip {shape shape' : Shape} {part : Grammar shape} {part' : Grammar shape'}
      (front : List Element) (hpart : Wraps part part') (back : List Element) :
      Wraps (.template (front ++ .skip part :: back)) (.template (front ++ .skip part' :: back))
  | branch {shape shape' : Shape} {body : Grammar shape} {body' : Grammar shape'}
      (front : List Branch) (name : String) (hbody : Wraps body body') (back : List Branch) :
      Wraps (.choice (front ++ .mk name body :: back)) (.choice (front ++ .mk name body' :: back))
  | erased {shape shape' : Shape} {inner : Grammar shape} {inner' : Grammar shape'}
      (hinner : Wraps inner inner') : Wraps (.erased inner) (.erased inner')

/-- The second grammar is the first with the types of any parts erased, one after another. -/
inductive Erases {shape : Shape} (grammar : Grammar shape) :
    {shape' : Shape} → Grammar shape' → Prop
  | refl : Erases grammar grammar
  | tail {middle last : Shape} {between : Grammar middle} {erasure : Grammar last}
      (herases : Erases grammar between) (hwraps : between.Wraps erasure) : Erases grammar erasure

/-- The grammars do the same with values of any form, and may stand for each other in a larger
grammar. -/
structure Alike {shape shape' : Shape} (left : Grammar shape) (right : Grammar shape') : Prop where
  canonical_eq : left.canonical = right.canonical
  built_iff : left.Built ↔ right.Built
  decodeValue_eq : left.decodeValue = right.decodeValue
  text?_eq : left.text? = right.text?
  normal?_eq : left.normal? = right.normal?

end Grammar

inductive Element.Alike : Element → Element → Prop
  | literal (text : String) : Alike (.literal text) (.literal text)
  | field {shape shape' : Shape} {left : Grammar shape} {right : Grammar shape'} (name : String)
      (hpart : left.Alike right) : Alike (.field name left) (.field name right)
  | skip {shape shape' : Shape} {left : Grammar shape} {right : Grammar shape'}
      (hpart : left.Alike right) : Alike (.skip left) (.skip right)

inductive Branch.Alike : Branch → Branch → Prop
  | mk {shape shape' : Shape} {left : Grammar shape} {right : Grammar shape'} (name : String)
      (hbody : left.Alike right) : Alike (.mk name left) (.mk name right)

namespace Grammar

namespace Alike

variable {shape shape' gap gap' : Shape}

theorem refl (grammar : Grammar shape) : grammar.Alike grammar :=
  ⟨rfl, .rfl, rfl, rfl, rfl⟩

theorem trans {shape'' : Shape} {left : Grammar shape} {middle : Grammar shape'}
    {right : Grammar shape''} (hleft : left.Alike middle) (hright : middle.Alike right) :
    left.Alike right where
  canonical_eq := hleft.canonical_eq.trans hright.canonical_eq
  built_iff := hleft.built_iff.trans hright.built_iff
  decodeValue_eq := hleft.decodeValue_eq.trans hright.decodeValue_eq
  text?_eq := hleft.text?_eq.trans hright.text?_eq
  normal?_eq := hleft.normal?_eq.trans hright.normal?_eq

/-- The inner grammar makes its conversion later, and it is the same. -/
theorem wrapped (inner : Grammar shape) : inner.Alike (erased inner) where
  canonical_eq := rfl
  built_iff := (and_iff_right trivial).symm
  decodeValue_eq := funext fun cursor => (decodeValue_erased inner cursor).symm
  text?_eq := rfl
  normal?_eq := funext fun value => (normal?_erased inner value).symm

/-! ### Grammars made of like parts -/

theorem named {left : Grammar shape} {right : Grammar shape'} (hinner : left.Alike right)
    (name : String) : (named name left).Alike (named name right) where
  canonical_eq := hinner.canonical_eq
  built_iff := and_congr_right fun _ => hinner.built_iff
  decodeValue_eq := hinner.decodeValue_eq
  text?_eq := hinner.text?_eq
  normal?_eq := hinner.normal?_eq

theorem optional {left : Grammar shape} {right : Grammar shape'} (hinner : left.Alike right) :
    (optional left).Alike (optional right) where
  canonical_eq := rfl
  built_iff := and_congr_right fun _ => hinner.built_iff
  decodeValue_eq := funext fun cursor => by
    rw [decodeValue_optional, decodeValue_optional, hinner.decodeValue_eq]
  text?_eq := funext fun value => by
    rw [text?_optional, text?_optional, hinner.text?_eq]
  normal?_eq := funext fun value => by
    rw [normal?_optional, normal?_optional, hinner.normal?_eq]

theorem repeated {left : Grammar shape} {right : Grammar shape'} (hitem : left.Alike right)
    (nonEmpty : Bool) : (repeated nonEmpty left).Alike (repeated nonEmpty right) where
  canonical_eq := by rw [canonical, canonical, hitem.canonical_eq]
  built_iff := and_congr_right fun _ => hitem.built_iff
  decodeValue_eq := funext fun cursor => by
    rw [decodeValue_repeated, decodeValue_repeated, hitem.decodeValue_eq]
  text?_eq := funext fun value => by
    rw [text?_repeated, text?_repeated, hitem.text?_eq]
  normal?_eq := funext fun value => by
    rw [normal?_repeated, normal?_repeated, hitem.normal?_eq]

theorem separated {left : Grammar shape} {right : Grammar shape'} (hitem : left.Alike right)
    {between : Grammar gap} {between' : Grammar gap'} (hgap : between.Alike between')
    (nonEmpty : Bool) :
    (separated nonEmpty left between).Alike (separated nonEmpty right between') where
  canonical_eq := by rw [canonical, canonical, hitem.canonical_eq]
  built_iff := by
    have haccepted : (Grammar.separated nonEmpty left between).Accepted ↔
        (Grammar.separated nonEmpty right between').Accepted := by
      rw [accepted_separated_iff, accepted_separated_iff, hgap.canonical_eq]
    exact and_congr haccepted (and_congr hitem.built_iff hgap.built_iff)
  decodeValue_eq := funext fun cursor => by
    rw [decodeValue_separated, decodeValue_separated, hitem.decodeValue_eq, hgap.decodeValue_eq]
  text?_eq := funext fun value => by
    rw [text?_separated, text?_separated, hitem.text?_eq, hgap.canonical_eq]
  normal?_eq := funext fun value => by
    rw [normal?_separated, normal?_separated, hitem.normal?_eq]

theorem erased {left : Grammar shape} {right : Grammar shape'} (hinner : left.Alike right) :
    (erased left).Alike (erased right) where
  canonical_eq := hinner.canonical_eq
  built_iff := and_congr_right fun _ => hinner.built_iff
  decodeValue_eq := funext fun cursor => by
    rw [decodeValue_erased, decodeValue_erased, hinner.decodeValue_eq]
  text?_eq := hinner.text?_eq
  normal?_eq := funext fun value => by
    rw [normal?_erased, normal?_erased, hinner.normal?_eq]

/-! ### Templates -/

section Template

variable {elements elements' : List Element}
  (helements : List.Forall₂ Element.Alike elements elements')
include helements

theorem fieldNames_elements_eq : Element.fieldNames elements = Element.fieldNames elements' := by
  induction helements with
  | nil => rfl
  | cons hfirst _ ih =>
      cases hfirst with
      | literal text => exact ih
      | field name _ => exact congrArg (name :: ·) ih
      | skip _ => exact ih

theorem canonicalElements_eq : canonicalElements elements = canonicalElements elements' := by
  induction helements with
  | nil => rfl
  | cons hfirst _ ih =>
      cases hfirst with
      | literal text => rw [canonicalElements, canonicalElements, ih]
      | field name hpart => rw [canonicalElements, canonicalElements, ih, hpart.canonical_eq]
      | skip hpart => rw [canonicalElements, canonicalElements, ih, hpart.canonical_eq]

theorem check_elements_iff (used : List String) (index : Nat) :
    Element.check used index elements = .ok () ↔ Element.check used index elements' = .ok () := by
  induction helements generalizing used index with
  | nil => exact .rfl
  | cons hfirst _ ih =>
      cases hfirst with
      | literal text => exact ih used (index + 1)
      | field name _ =>
          simp only [Element.check, bind_eq_ok_iff]
          exact exists_congr fun _ => and_congr_right fun _ => ih (name :: used) (index + 1)
      | skip hpart =>
          simp only [Element.check, hpart.canonical_eq]
          split
          · exact ih used (index + 1)
          · simp

theorem built_elements_iff :
    EverywhereElements Accepted elements ↔ EverywhereElements Accepted elements' := by
  induction helements with
  | nil => exact .rfl
  | cons hfirst _ ih =>
      cases hfirst with
      | literal text => exact ih
      | field name hpart => exact and_congr hpart.built_iff ih
      | skip hpart => exact and_congr hpart.built_iff ih

theorem decodeElements_eq (cursor : Cursor) (record : Record) :
    decodeElements elements cursor record = decodeElements elements' cursor record := by
  induction helements generalizing cursor record with
  | nil => rfl
  | cons hfirst _ ih =>
      cases hfirst with
      | literal text => simp only [decodeElements, ih]
      | field name hpart => simp only [decodeElements_field, hpart.decodeValue_eq, ih]
      | skip hpart => simp only [decodeElements_skip, hpart.decodeValue_eq, ih]

theorem unknownField?_eq : unknownField? elements = unknownField? elements' := by
  funext record
  rw [unknownField?, unknownField?, fieldNames_elements_eq helements]

theorem elementsText?_eq : elementsText? elements = elementsText? elements' := by
  funext record
  induction helements with
  | nil => rfl
  | cons hfirst _ ih =>
      cases hfirst with
      | literal text => rw [elementsText?_literal, elementsText?_literal, ih]
      | field name hpart =>
          rw [elementsText?_field, elementsText?_field, hpart.text?_eq, ih]
      | skip hpart => rw [elementsText?_skip, elementsText?_skip, hpart.canonical_eq, ih]

theorem elementsNormal?_eq : elementsNormal? elements = elementsNormal? elements' := by
  funext record normal
  induction helements generalizing normal with
  | nil => rfl
  | cons hfirst _ ih =>
      cases hfirst with
      | literal text => exact ih normal
      | field name hpart => simp only [elementsNormal?_field, hpart.normal?_eq, ih]
      | skip _ => exact ih normal

theorem template : (template elements).Alike (template elements') where
  canonical_eq := canonicalElements_eq helements
  built_iff := by
    have haccepted : (Grammar.template elements).Accepted ↔
        (Grammar.template elements').Accepted := by
      rw [accepted_template_iff, accepted_template_iff]
      exact check_elements_iff helements [] 0
    exact and_congr haccepted (built_elements_iff helements)
  decodeValue_eq := funext fun cursor => by
    rw [decodeValue, decodeValue, decode, decode, decodeElements_eq helements]
  text?_eq := funext fun value => by
    rw [text?_template, text?_template, unknownField?_eq helements, elementsText?_eq helements]
  normal?_eq := funext fun value => by
    rw [normal?_template, normal?_template, elementsNormal?_eq helements]

end Template

/-! ### Choices -/

section Choice

variable {branches branches' : List Branch}
  (hbranches : List.Forall₂ Branch.Alike branches branches')
include hbranches

theorem names_eq : Branch.names branches = Branch.names branches' := by
  induction hbranches with
  | nil => rfl
  | cons hfirst _ ih =>
      obtain ⟨name, _⟩ := hfirst
      exact congrArg (name :: ·) ih

theorem check_branches_eq (used : List String) :
    Branch.check used branches = Branch.check used branches' := by
  induction hbranches generalizing used with
  | nil => rfl
  | cons hfirst _ ih =>
      obtain ⟨name, _⟩ := hfirst
      simp only [Branch.check, ih]

theorem built_branches_iff :
    EverywhereBranches Accepted branches ↔ EverywhereBranches Accepted branches' := by
  induction hbranches with
  | nil => exact .rfl
  | cons hfirst _ ih =>
      obtain ⟨_, hbody⟩ := hfirst
      exact and_congr hbody.built_iff ih

theorem decodeBranches_eq (cursor : Cursor) (tried : List String) (furthest : Nat) :
    decodeBranches branches cursor tried furthest =
      decodeBranches branches' cursor tried furthest := by
  induction hbranches generalizing furthest with
  | nil => rfl
  | cons hfirst _ ih =>
      obtain ⟨_, hbody⟩ := hfirst
      simp only [decodeBranches_cons, hbody.decodeValue_eq, ih]

theorem branchText?_eq (names : List String) :
    branchText? branches names = branchText? branches' names := by
  funext tagged
  induction hbranches with
  | nil => rfl
  | cons hfirst _ ih =>
      obtain ⟨_, hbody⟩ := hfirst
      rw [branchText?_cons, branchText?_cons, hbody.text?_eq, ih]

theorem branchNormal?_eq (names : List String) :
    branchNormal? branches names = branchNormal? branches' names := by
  funext tagged
  induction hbranches with
  | nil => rfl
  | cons hfirst _ ih =>
      obtain ⟨_, hbody⟩ := hfirst
      rw [branchNormal?_cons, branchNormal?_cons, hbody.normal?_eq, ih]

theorem choice : (choice branches).Alike (choice branches') where
  canonical_eq := by
    cases hbranches with
    | nil => rfl
    | cons hfirst _ =>
        obtain ⟨_, hbody⟩ := hfirst
        exact hbody.canonical_eq
  built_iff := by
    have haccepted : (Grammar.choice branches).Accepted ↔ (Grammar.choice branches').Accepted := by
      rw [accepted_choice_iff, accepted_choice_iff, check_branches_eq hbranches,
        ← List.length_pos_iff, ← List.length_pos_iff, hbranches.length_eq]
    exact and_congr haccepted (built_branches_iff hbranches)
  decodeValue_eq := funext fun cursor => by
    rw [decodeValue, decodeValue, decode, decode, decodeBranches_eq hbranches, names_eq hbranches]
  text?_eq := funext fun value => by
    rw [text?_choice, text?_choice, branchText?_eq hbranches, names_eq hbranches]
  normal?_eq := funext fun value => by
    rw [normal?_choice, normal?_choice, branchNormal?_eq hbranches, names_eq hbranches]

end Choice

end Alike

end Grammar

theorem Element.Alike.refl (element : Element) : element.Alike element := by
  cases element with
  | literal text => exact .literal text
  | field name part => exact .field name (.refl part)
  | skip part => exact .skip (.refl part)

theorem Branch.Alike.refl (branch : Branch) : branch.Alike branch := by
  obtain ⟨name, body⟩ := branch
  exact .mk name (.refl body)

theorem forall₂_replace {α : Type} {related : α → α → Prop} (hrefl : ∀ item, related item item)
    {item item' : α} (hitem : related item item') (front back : List α) :
    List.Forall₂ related (front ++ item :: back) (front ++ item' :: back) := by
  induction front with
  | nil => exact .cons hitem (List.forall₂_same.2 fun other _ => hrefl other)
  | cons first rest ih => exact .cons (hrefl first) ih

namespace Grammar

/-! ### Erasing anywhere -/

theorem Wraps.alike {shape shape' : Shape} {grammar : Grammar shape} {wrapped : Grammar shape'}
    (hwraps : grammar.Wraps wrapped) : grammar.Alike wrapped := by
  induction hwraps with
  | here grammar => exact .wrapped grammar
  | named name _ ih => exact ih.named name
  | optional _ ih => exact ih.optional
  | repeated nonEmpty _ ih => exact ih.repeated nonEmpty
  | item nonEmpty _ separator ih => exact ih.separated (.refl separator) nonEmpty
  | separator nonEmpty item _ ih => exact .separated (.refl item) ih nonEmpty
  | field front name _ back ih =>
      exact .template (forall₂_replace Element.Alike.refl (.field name ih) front back)
  | skip front _ back ih =>
      exact .template (forall₂_replace Element.Alike.refl (.skip ih) front back)
  | branch front name _ back ih =>
      exact .choice (forall₂_replace Branch.Alike.refl (.mk name ih) front back)
  | erased _ ih => exact ih.erased

theorem Erases.alike {shape shape' : Shape} {grammar : Grammar shape} {erasure : Grammar shape'}
    (herases : grammar.Erases erasure) : grammar.Alike erasure := by
  induction herases with
  | refl => exact .refl grammar
  | tail _ hwraps ih => exact ih.trans hwraps.alike

/-- **Erasing types is transparent.** Whichever parts of a grammar have their types erased: it is
built or not as before, decodes to the same values and errors at the same places, and writes and
normalises the same values with the same texts and normal forms. -/
theorem erasure_transparent {shape shape' : Shape} (grammar : Grammar shape)
    (erasure : Grammar shape') (herases : grammar.Erases erasure) :
    (erasure.Built ↔ grammar.Built) ∧
      (∀ cursor, erasure.decodeValue cursor = grammar.decodeValue cursor) ∧
      (∀ value buffer,
        (∀ count, (erasure.writeValue value buffer).result = .ok count ↔
          (grammar.writeValue value buffer).result = .ok count) ∧
        (erasure.writeValue value buffer).buffer = (grammar.writeValue value buffer).buffer) ∧
      ∀ value normal,
        erasure.normalizeValue value = .ok normal ↔ grammar.normalizeValue value = .ok normal := by
  have halike := herases.alike
  refine ⟨halike.built_iff.symm, fun cursor => ?_, fun value buffer => ⟨fun count => ?_, ?_⟩,
    fun value normal => ?_⟩
  · rw [halike.decodeValue_eq]
  · rw [result_writeValue_eq_ok_iff, result_writeValue_eq_ok_iff, halike.text?_eq]
  · rw [buffer_writeValue, buffer_writeValue, halike.text?_eq]
  · rw [← normal?_eq_some_iff, ← normal?_eq_some_iff, halike.normal?_eq]

/-- Readings with commas between them, each of which may be missing. -/
def readings : Grammar (.list (.optional (.scalar .bigInteger))) :=
  .separated true (.optional (.terminal Primitive.bigInteger)) (.template [.literal ","])

def anyReadings : Grammar (.list .any) :=
  .separated true (.erased (.optional (.erased (@terminal .bigInteger Primitive.bigInteger))))
    (.erased (.template [.literal ","]))

/-- The type of a reading is erased, with and without its option, and so is that of the comma. The
reading that is written has 64 bits and is converted to one without limit. -/
theorem erasure_transparent_readings :
    readings.Erases anyReadings ∧ anyReadings.Built ∧
      anyReadings.decodeValue (.start "5,7") =
        .ok ⟨.list [.optional (some (.big 5)), .optional (some (.big 7))],
          .between ['5', ',', '7'] []⟩ ∧
      (anyReadings.writeValue (.list [.optional (some (.int 5)), .optional none]) "").result =
        .ok 2 ∧
      (anyReadings.writeValue (.list [.optional (some (.int 5)), .optional none]) "").buffer =
        "5," ∧
      anyReadings.normalizeValue (.list [.optional (some (.int 5)), .optional none]) =
        .ok (.list [.optional (some (.big 5)), .optional none]) := by
  have herases : readings.Erases anyReadings :=
    ((Erases.refl.tail (.item true (.optional (.here _)) _)).tail (.item true (.here _) _)).tail
      (.separator true _ (.here _))
  have hbuilt : readings.Built := ⟨rfl, ⟨trivial, trivial⟩, rfl, trivial⟩
  have hsame := erasure_transparent readings anyReadings herases
  obtain ⟨hresult, hbuffer⟩ := hsame.2.2.1 (.list [.optional (some (.int 5)), .optional none]) ""
  exact ⟨herases, hsame.1.2 hbuilt, hsame.2.1 _, (hresult 2).2 rfl, hbuffer,
    (hsame.2.2.2 _ _).2 rfl⟩

end Grammar

end TwoWay
