import TwoWay.Proofs.Encodability
import TwoWay.Proofs.Stability

/-!
# Derivations

A grammar read as a description of texts, without a decoder: a template derives the texts of its
elements one after another, a choice derives what any of its branches does, a repetition any number
of items with gaps between them. Nothing is said of an order in which branches are tried, nor of how
much text a terminal takes where it could take less. Decoding yields a value only with a text that
derives it.
-/

namespace TwoWay

section Lists

variable {α : Type} (gap : List Char → Prop) (item : List Char → α → Prop)

/-- A gap and an item, any number of times. -/
inductive Follows : List Char → List α → Prop
  | nil : Follows [] []
  | cons {between first rest : List Char} {value : α} {more : List α} (hgap : gap between)
      (hitem : item first value) (hrest : Follows rest more) :
      Follows (between ++ (first ++ rest)) (value :: more)

/-- Any number of items with a gap between any two of them. -/
inductive SeparatedBy : List Char → List α → Prop
  | none : SeparatedBy [] []
  | some {first rest : List Char} {value : α} {more : List α} (hfirst : item first value)
      (hrest : Follows gap item rest more) : SeparatedBy (first ++ rest) (value :: more)

end Lists

section Monotone

variable {α : Type} {gap gap' : List Char → Prop} {item item' : List Char → α → Prop}
  {text : List Char} {values : List α}

theorem Follows.imp (hgap : ∀ text, gap text → gap' text)
    (hitem : ∀ text value, item text value → item' text value)
    (hfollows : Follows gap item text values) : Follows gap' item' text values := by
  induction hfollows with
  | nil => exact .nil
  | cons hbetween hfirst _ ih => exact .cons (hgap _ hbetween) (hitem _ _ hfirst) ih

theorem SeparatedBy.imp (hgap : ∀ text, gap text → gap' text)
    (hitem : ∀ text value, item text value → item' text value)
    (hseparated : SeparatedBy gap item text values) : SeparatedBy gap' item' text values := by
  cases hseparated with
  | none => exact .none
  | some hfirst hrest => exact .some (hitem _ _ hfirst) (hrest.imp hgap hitem)

end Monotone

/-- The terminal takes the text somewhere and yields the value. -/
def Terminal.Spells {α : Type} (terminal : Terminal α) (text : List Char) (value : α) : Prop :=
  ∃ cursor next, terminal.decode cursor = .ok ⟨value, next⟩ ∧ cursor.after = text ++ next.after

namespace Grammar

mutual

/-- The text is put together as the grammar says, and stands for the value. -/
def Derives : {shape : Shape} → Grammar shape → List Char → shape.Carrier → Prop
  | _, .terminal leaf, text, content => leaf.Spells text content
  | _, .named _ inner, text, content => inner.Derives text content
  | _, .optional inner, text, content =>
      text = [] ∧ content = none ∨ ∃ present, content = some present ∧ inner.Derives text present
  | _, .repeated nonEmpty item, text, content =>
      nonEmpty.toNat ≤ content.length ∧
        SeparatedBy (· = []) (fun text single => item.Derives text single) text content
  | _, .separated nonEmpty item separator, text, content =>
      nonEmpty.toNat ≤ content.length ∧
        SeparatedBy (fun between => ∃ dropped, separator.Derives between dropped)
          (fun text single => item.Derives text single) text content
  | _, .template elements, text, record => ElementsDerive elements text record.fields
  | _, .choice branches, text, tagged => BranchDerives branches text tagged
  | _, @erased shape inner, text, value =>
      ∃ content, value = shape.toValue content ∧ inner.Derives text content

def ElementsDerive : List Element → List Char → List (String × Value) → Prop
  | [], text, fields => text = [] ∧ fields = []
  | .literal literal :: elements, text, fields =>
      ∃ rest, text = literal.toList ++ rest ∧ ElementsDerive elements rest fields
  | @Element.field shape name part :: elements, text, fields =>
      ∃ first rest content more, text = first ++ rest ∧
        fields = (name, shape.toValue content) :: more ∧ part.Derives first content ∧
        ElementsDerive elements rest more
  | .skip part :: elements, text, fields =>
      ∃ first rest dropped, text = first ++ rest ∧ part.Derives first dropped ∧
        ElementsDerive elements rest fields

def BranchDerives : List Branch → List Char → Tagged → Prop
  | [], _, _ => False
  | @Branch.mk shape name body :: branches, text, tagged =>
      (∃ content, tagged = ⟨name, shape.toValue content⟩ ∧ body.Derives text content) ∨
        BranchDerives branches text tagged

end

end Grammar

/-! ### Decoders that take what derives the value -/

/-- The step passes only texts of that kind. -/
def Passes (kind : List Char → Prop) (step : Cursor → Except (Fault DecodeError) Cursor) : Prop :=
  ∀ cursor next, step cursor = .ok next → ∃ text, cursor.after = text ++ next.after ∧ kind text

/-- Whenever the decoder yields a value, the text it has taken derives it. -/
def DecodesBy {α : Type} (derives : List Char → α → Prop) (decode : Cursor → Outcome α) : Prop :=
  ∀ cursor value next, decode cursor = .ok ⟨value, next⟩ →
    ∃ text, cursor.after = text ++ next.after ∧ derives text value

theorem passes_expect (literal : String) :
    Passes (· = literal.toList) fun cursor => cursor.expect literal := by
  intro cursor next hexpect
  dsimp only at hexpect
  by_cases hprefix : literal.toList <+: cursor.after
  · obtain ⟨rest, hafter⟩ := hprefix
    have hpass := Cursor.expect_of_append hafter.symm
    rw [hexpect] at hpass
    cases hpass
    exact ⟨literal.toList, hafter.symm, rfl⟩
  · rw [Cursor.expect_of_not_prefix hprefix] at hexpect
    cases hexpect

theorem Terminal.decodesBy {α : Type} (terminal : Terminal α) :
    DecodesBy terminal.Spells terminal.decode := by
  intro cursor value next hdecode
  have htaken : ∃ text, cursor.after = text ++ next.after := by
    have hstep := terminal.decodesTo cursor
    rw [hdecode] at hstep
    cases hstep with
    | read hafter _ _ => exact ⟨_, hafter⟩
  obtain ⟨text, hafter⟩ := htaken
  exact ⟨text, hafter, cursor, next, hdecode, hafter⟩

namespace Outcome

variable {α β : Type} {derives : List Char → α → Prop}

theorem mapValue_eq_ok_iff {f : α → β} {outcome : Outcome α} {result : β} {next : Cursor} :
    outcome.mapValue f = .ok ⟨result, next⟩ ↔
      ∃ value, outcome = .ok ⟨value, next⟩ ∧ result = f value := by
  cases outcome with
  | error fault => simp
  | ok decoded =>
      obtain ⟨value, cursor⟩ := decoded
      simp only [mapValue_ok, Except.ok.injEq, Decoded.mk.injEq]
      constructor
      · rintro ⟨rfl, rfl⟩
        exact ⟨value, ⟨rfl, rfl⟩, rfl⟩
      · rintro ⟨_, ⟨rfl, rfl⟩, rfl⟩
        exact ⟨rfl, rfl⟩

theorem passes_ending {decode : Cursor → Outcome α} (hdecode : DecodesBy derives decode) :
    Passes (fun text => ∃ value, derives text value) fun cursor => (decode cursor).ending := by
  intro cursor next hending
  obtain ⟨value, hvalue⟩ := ending_eq_ok_iff.1 hending
  obtain ⟨text, hafter, hderives⟩ := hdecode cursor value next hvalue
  exact ⟨text, hafter, value, hderives⟩

theorem decodesBy_mapValue {decode : Cursor → Outcome α} (hdecode : DecodesBy derives decode)
    (f : α → β) :
    DecodesBy (fun text result => ∃ value, result = f value ∧ derives text value)
      fun cursor => (decode cursor).mapValue f := by
  intro cursor result next hresult
  obtain ⟨value, hvalue, rfl⟩ := mapValue_eq_ok_iff.1 hresult
  obtain ⟨text, hafter, hderives⟩ := hdecode cursor value next hvalue
  exact ⟨text, hafter, value, rfl, hderives⟩

theorem decodesBy_optional {decode : Cursor → Outcome α} (hdecode : DecodesBy derives decode) :
    DecodesBy
      (fun text content =>
        text = [] ∧ content = none ∨ ∃ present, content = some present ∧ derives text present)
      fun cursor => (decode cursor).optional cursor := by
  intro cursor content next hcontent
  dsimp only at hcontent
  cases hinner : decode cursor with
  | ok decoded =>
      rw [hinner] at hcontent
      cases hcontent
      obtain ⟨text, hafter, hderives⟩ := hdecode cursor decoded.value decoded.cursor hinner
      exact ⟨text, hafter, .inr ⟨decoded.value, rfl, hderives⟩⟩
  | error fault =>
      rw [hinner, optional] at hcontent
      split at hcontent
      · cases hcontent
        exact ⟨[], rfl, .inl ⟨rfl, rfl⟩⟩
      · cases hcontent

variable {gap : Cursor → Except (Fault DecodeError) Cursor} {item : Cursor → Outcome α}
  {between : List Char → Prop}

/-- Behind an item the loop passes a gap and a further item, or stops and takes nothing. -/
theorem decodesBy_itemsFrom (hgap : Passes between gap) (hitem : DecodesBy derives item)
    (fuel : Nat) : DecodesBy (Follows between derives) (itemsFrom (turn gap item) fuel) := by
  induction fuel with
  | zero =>
      intro cursor values next hvalues
      cases hvalues
      exact ⟨[], rfl, .nil⟩
  | succ fuel ih =>
      intro cursor values next hvalues
      cases hturn : turn gap item cursor with
      | ok first =>
          rw [itemsFrom_of_ok hturn] at hvalues
          obtain ⟨more, hmore, rfl⟩ := mapValue_eq_ok_iff.1 hvalues
          obtain ⟨rest, hrest, hfollows⟩ := ih first.cursor more next hmore
          obtain ⟨start, hstart, htakes⟩ := bind_eq_ok_iff.1 hturn
          obtain ⟨passed, hpassed, hbetween⟩ := hgap cursor start hstart
          obtain ⟨text, htext, hderives⟩ :=
            hitem start first.value first.cursor (consuming_eq_ok_iff.1 htakes).1
          refine ⟨passed ++ (text ++ rest), ?_, .cons hbetween hderives hfollows⟩
          rw [hpassed, htext, hrest, List.append_assoc, List.append_assoc]
      | error fault =>
          cases hrecover : fault.recoverable? with
          | some error =>
              rw [itemsFrom_of_recoverable hturn hrecover] at hvalues
              cases hvalues
              exact ⟨[], rfl, .nil⟩
          | none =>
              rw [itemsFrom_of_fault hturn hrecover] at hvalues
              cases hvalues

theorem decodesBy_repetition (nonEmpty : Bool) (hgap : Passes between gap)
    (hitem : DecodesBy derives item) :
    DecodesBy
      (fun text values => nonEmpty.toNat ≤ values.length ∧ SeparatedBy between derives text values)
      (repetition nonEmpty gap item) := by
  intro cursor values next hvalues
  have henough := gives_enough nonEmpty gap item cursor _ hvalues
  cases hfirst : consuming item cursor with
  | ok first =>
      rw [repetition_of_first nonEmpty hfirst] at hvalues
      obtain ⟨more, hmore, rfl⟩ := mapValue_eq_ok_iff.1 hvalues
      obtain ⟨text, htext, hderives⟩ :=
        hitem cursor first.value first.cursor (consuming_eq_ok_iff.1 hfirst).1
      obtain ⟨rest, hrest, hfollows⟩ :=
        decodesBy_itemsFrom hgap hitem _ first.cursor more next hmore
      refine ⟨text ++ rest, ?_, henough, .some hderives hfollows⟩
      rw [htext, hrest, List.append_assoc]
  | error fault =>
      cases hrecover : fault.recoverable? with
      | some error =>
          rw [repetition_of_recoverable nonEmpty hfirst hrecover] at hvalues
          split at hvalues
          · cases hvalues
          · cases hvalues
            exact ⟨[], rfl, henough, .none⟩
      | none =>
          rw [repetition_of_fault nonEmpty hfirst hrecover] at hvalues
          cases hvalues

end Outcome

namespace Grammar

def DecodesDerived {shape : Shape} (grammar : Grammar shape) : Prop :=
  DecodesBy grammar.Derives grammar.decode

/-- Behind the fields of earlier elements stand those that the text of the elements derives. -/
theorem elementsDerive_of_decodeElements {elements : List Element}
    (hparts : ∀ element ∈ elements, element.PartIs DecodesDerived)
    (hnodup : (Element.fieldNames elements).Nodup) {cursor next : Cursor} {record result : Record}
    (hfresh : ∀ name ∈ Element.fieldNames elements, name ∉ record.names)
    (hdecode : decodeElements elements cursor record = .ok ⟨result, next⟩) :
    ∃ text fields, cursor.after = text ++ next.after ∧ result = ⟨record.fields ++ fields⟩ ∧
      ElementsDerive elements text fields := by
  induction elements generalizing cursor record with
  | nil =>
      cases hdecode
      exact ⟨[], [], rfl, by rw [List.append_nil], rfl, rfl⟩
  | cons element elements ih =>
      obtain ⟨hpart, hrest⟩ := List.forall_mem_cons.1 hparts
      cases element with
      | literal literal =>
          rw [decodeElements] at hdecode
          split at hdecode
          · rename_i middle hexpect
            obtain ⟨first, hfirst, rfl⟩ := passes_expect literal cursor middle hexpect
            obtain ⟨text, fields, htext, hresult, hderives⟩ := ih hrest hnodup hfresh hdecode
            refine ⟨literal.toList ++ text, fields, ?_, hresult, text, rfl, hderives⟩
            rw [hfirst, htext, List.append_assoc]
          · cases hdecode
      | skip part =>
          rw [decodeElements] at hdecode
          split at hdecode
          · rename_i dropped hdropped
            obtain ⟨first, hfirst, hpart⟩ := hpart cursor dropped.value dropped.cursor hdropped
            obtain ⟨text, fields, htext, hresult, hderives⟩ := ih hrest hnodup hfresh hdecode
            refine ⟨first ++ text, fields, ?_, hresult, first, text, dropped.value, rfl, hpart,
              hderives⟩
            rw [hfirst, htext, List.append_assoc]
          · cases hdecode
      | @field shape name part =>
          rw [Element.fieldNames_field] at hnodup hfresh
          obtain ⟨hname, hnodup⟩ := List.nodup_cons.1 hnodup
          obtain ⟨hnew, hfresh⟩ := List.forall_mem_cons.1 hfresh
          rw [decodeElements] at hdecode
          split at hdecode
          · rename_i inner hinner
            obtain ⟨first, hfirst, hpart⟩ := hpart cursor inner.value inner.cursor hinner
            rw [Record.set_of_notMem hnew] at hdecode
            obtain ⟨text, fields, htext, hresult, hderives⟩ :=
              ih hrest hnodup (Record.notMem_names_append hname hfresh _) hdecode
            refine ⟨first ++ text, (name, shape.toValue inner.value) :: fields, ?_, ?_, first, text,
              inner.value, fields, rfl, rfl, hpart, hderives⟩
            · rw [hfirst, htext, List.append_assoc]
            · rw [hresult, List.append_assoc, List.singleton_append]
          · cases hdecode

theorem decodesBy_decodeBranches {branches : List Branch}
    (hbodies : ∀ branch ∈ branches, branch.BodyIs DecodesDerived) (tried : List String)
    (furthest : Nat) :
    DecodesBy (BranchDerives branches)
      fun cursor => decodeBranches branches cursor tried furthest := by
  induction branches generalizing furthest with
  | nil => exact fun _ _ _ hdecode => nomatch hdecode
  | cons branch branches ih =>
      obtain ⟨name, body⟩ := branch
      obtain ⟨hbody, hrest⟩ := List.forall_mem_cons.1 hbodies
      intro cursor tagged next hdecode
      dsimp only at hdecode
      rw [decodeBranches] at hdecode
      split at hdecode
      · rename_i inner hinner
        cases hdecode
        obtain ⟨text, hafter, hderives⟩ := hbody cursor inner.value inner.cursor hinner
        exact ⟨text, hafter, .inl ⟨inner.value, rfl, hderives⟩⟩
      · split at hdecode
        · obtain ⟨text, hafter, hderives⟩ := ih hrest _ cursor tagged next hdecode
          exact ⟨text, hafter, .inr hderives⟩
        · cases hdecode

/-- **Whatever is decoded is derived.** By induction on the grammar; only templates ask that the
grammar is built, for a name used twice would not give two fields. -/
theorem decodesDerived {shape : Shape} (grammar : Grammar shape) (hbuilt : grammar.Built) :
    grammar.DecodesDerived := by
  induction grammar with
  | terminal leaf => exact leaf.decodesBy
  | named name inner ih => exact ih hbuilt.2
  | optional inner ih => exact Outcome.decodesBy_optional (ih hbuilt.2)
  | repeated nonEmpty item ih =>
      have hgap : Passes (· = []) (Except.ok : Cursor → Except (Fault DecodeError) Cursor) := by
        intro cursor next hnext
        cases hnext
        exact ⟨[], rfl, rfl⟩
      exact Outcome.decodesBy_repetition nonEmpty hgap (ih hbuilt.2)
  | separated nonEmpty item separator ih ihSeparator =>
      exact Outcome.decodesBy_repetition nonEmpty
        (Outcome.passes_ending (ihSeparator hbuilt.2.2)) (ih hbuilt.2.1)
  | template elements ih =>
      obtain ⟨hnodup, hparts⟩ := hbuilt.template
      intro cursor record next hdecode
      obtain ⟨text, fields, hafter, rfl, hderives⟩ := elementsDerive_of_decodeElements
        (fun element hmem => (ih element hmem).mp (hparts element hmem)) hnodup
        (fun _ _ => List.not_mem_nil) hdecode
      exact ⟨text, hafter, hderives⟩
  | choice branches ih =>
      have hbodies := hbuilt.choice.2
      intro cursor
      exact decodesBy_decodeBranches
        (fun branch hmem => (ih branch hmem).mp (hbodies branch hmem)) _ _ cursor
  | erased inner ih => exact Outcome.decodesBy_mapValue (ih hbuilt.2) _

theorem derives_of_parse {shape : Shape} {grammar : Grammar shape} (hbuilt : grammar.Built)
    {text : String} {content : shape.Carrier} (hparse : grammar.parse text = .ok content) :
    grammar.Derives text.toList content := by
  obtain ⟨cursor, hdecode, hend⟩ := parse_eq_ok_iff.1 hparse
  obtain ⟨taken, hafter, hderives⟩ := grammar.decodesDerived hbuilt _ _ _ hdecode
  have hnil : cursor.after = [] := by simpa [Cursor.atEnd] using hend
  have htext : text.toList = taken := by
    rw [hnil, List.append_nil] at hafter
    exact hafter
  exact htext ▸ hderives

end Grammar

end TwoWay
