import TwoWay.Proofs.Acceptance
import TwoWay.Proofs.TemplateRoundTrip

/-!
# Canonical texts

Where a grammar has no value to write, in a part that a template skips or between the items of a
list, it puts down a canonical text. Writing does not come into this: the text is put together from
those of the parts by a recursion of its own. Here a value is put together in the same way, and it
is written as that text. So what stands between other things is never a text that the part itself
could not have written, if the same is true of the terminals.
-/

namespace TwoWay.Grammar

/-- The canonical text of a terminal, if there is one, is printed for some value. -/
def PrintsCanonical : {shape : Shape} → Grammar shape → Prop
  | _, .terminal leaf =>
      ∀ text, leaf.canonical = some text → ∃ content, leaf.conversion.print content = text
  | _, .named .. | _, .optional _ | _, .repeated .. | _, .separated .. | _, .template _
  | _, .choice _ | _, .erased _ => True

def SpellsCanonical {shape : Shape} (grammar : Grammar shape) : Prop :=
  ∀ text, grammar.canonical = some text → ∃ content, grammar.spelling content = .ok text

/-- No items stand for the empty text, and one item where there has to be one. -/
theorem SpellsCanonical.items {shape : Shape} {item : Grammar shape} (hitem : item.SpellsCanonical)
    (nonEmpty : Bool) (separator : String) {text : String}
    (hcanonical : (if nonEmpty then item.canonical else some "") = some text) :
    ∃ content, spellItems nonEmpty item.spelling separator content = .ok text := by
  cases nonEmpty with
  | false =>
      rw [if_neg Bool.false_ne_true, Option.some.injEq] at hcanonical
      exact ⟨[], hcanonical ▸ rfl⟩
  | true =>
      rw [if_pos rfl] at hcanonical
      obtain ⟨single, hsingle⟩ := hitem text hcanonical
      refine ⟨[single], spellItems_eq_ok_iff.2 ⟨by simp, [text], ?_, by simp⟩⟩
      exact mapM_eq_ok_iff.2 (.cons hsingle .nil)

theorem append_eq_some_iff {x y : Option String} {text : String} :
    (do return (← x) ++ (← y)) = some text ↔
      ∃ first more, x = some first ∧ y = some more ∧ first ++ more = text := by
  cases x <;> cases y <;> simp

/-- The fields that give the elements their canonical texts, in any record that holds them. -/
theorem exists_fields_of_canonicalElements {elements : List Element}
    (hparts : ∀ element ∈ elements, element.PartIs SpellsCanonical) {text : String}
    (hcanonical : canonicalElements elements = some text) :
    ∃ fields : List (String × Value), fields.map Prod.fst = Element.fieldNames elements ∧
      ∀ record : Record, (∀ field ∈ fields, record.get? field.1 = some field.2) →
        spellElements elements record = .ok text := by
  induction elements generalizing text with
  | nil =>
      cases hcanonical
      exact ⟨[], rfl, fun _ _ => rfl⟩
  | cons element rest ih =>
      obtain ⟨hpart, hrest⟩ := List.forall_mem_cons.1 hparts
      cases element with
      | literal literal =>
          rw [canonicalElements] at hcanonical
          obtain ⟨more, hmore, rfl⟩ := Option.map_eq_some_iff.1 hcanonical
          obtain ⟨fields, hnames, hspell⟩ := ih hrest hmore
          refine ⟨fields, hnames, fun record hget => ?_⟩
          rw [spellElements, hspell record hget, map_ok]
      | skip part =>
          rw [canonicalElements, append_eq_some_iff] at hcanonical
          obtain ⟨first, more, hfirst, hmore, rfl⟩ := hcanonical
          obtain ⟨fields, hnames, hspell⟩ := ih hrest hmore
          refine ⟨fields, hnames, fun record hget => ?_⟩
          rw [spellElements, hspell record hget, hfirst, Option.getD_some, map_ok]
      | @field shape name part =>
          rw [canonicalElements, append_eq_some_iff] at hcanonical
          obtain ⟨first, more, hfirst, hmore, rfl⟩ := hcanonical
          obtain ⟨content, hcontent⟩ := hpart first hfirst
          obtain ⟨fields, hnames, hspell⟩ := ih hrest hmore
          refine ⟨(name, shape.toValue content) :: fields, ?_, fun record hget => ?_⟩
          · rw [List.map_cons, hnames, Element.fieldNames_field]
          · obtain ⟨hvalue, hget⟩ := List.forall_mem_cons.1 hget
            simp only [spellElements, hvalue, Shape.spellValue_toValue, hcontent,
              hspell record hget, ok_bind, pure_eq_ok]

/-- **A canonical text is the text of a value.** By induction on the grammar, which builds the value
construct by construct. -/
theorem spellsCanonical {shape : Shape} (grammar : Grammar shape) (hbuilt : grammar.Built)
    (hprints : grammar.Everywhere PrintsCanonical) : grammar.SpellsCanonical := by
  induction grammar with
  | terminal leaf =>
      intro text hcanonical
      obtain ⟨content, hcontent⟩ := hprints text hcanonical
      exact ⟨content, by rw [spelling, hcontent]⟩
  | named name inner ih => exact ih hbuilt.2 hprints.2
  | optional inner ih =>
      rintro text ⟨⟩
      exact ⟨none, rfl⟩
  | repeated nonEmpty item ih =>
      intro text hcanonical
      exact (ih hbuilt.2 hprints.2).items nonEmpty "" hcanonical
  | separated nonEmpty item separator ih _ =>
      intro text hcanonical
      exact (ih hbuilt.2.1 hprints.2.1).items nonEmpty _ hcanonical
  | template elements ih =>
      obtain ⟨hnodup, hparts⟩ := hbuilt.template
      have hprinted := (everywhereElements_iff _ elements).1 hprints.2
      intro text hcanonical
      have hspells : ∀ element ∈ elements, element.PartIs SpellsCanonical := fun element hmem =>
        ((ih element hmem).mp (hparts element hmem)).mp (hprinted element hmem)
      obtain ⟨fields, hnames, hspell⟩ := exists_fields_of_canonicalElements hspells hcanonical
      -- The record has exactly the fields of the template, each of them once.
      have hknown : unknownField? elements ⟨fields⟩ = none :=
        unknownField?_eq_none_iff.2 fun name hname => hnames ▸ hname
      have hget : ∀ field ∈ fields, (Record.mk fields).get? field.1 = some field.2 :=
        fun field hmem => Record.lookup_eq_some_of_mem (hnames ▸ hnodup) hmem
      exact ⟨⟨fields⟩, by rw [spelling, hknown, hspell ⟨fields⟩ hget]⟩
  | choice branches ih =>
      obtain ⟨-, hbodies⟩ := hbuilt.choice
      have hprinted := (everywhereBranches_iff _ branches).1 hprints.2
      intro text hcanonical
      cases branches with
      | nil => cases hcanonical
      | cons branch rest =>
          obtain ⟨name, body⟩ := branch
          have hbody : body.SpellsCanonical :=
            ih _ List.mem_cons_self (hbodies _ List.mem_cons_self) (hprinted _ List.mem_cons_self)
          obtain ⟨content, hcontent⟩ := hbody text hcanonical
          refine ⟨⟨name, Shape.toValue _ content⟩, ?_⟩
          rw [spelling, spellBranch, if_pos rfl, Shape.spellValue_toValue, hcontent]
  | erased inner ih =>
      intro text hcanonical
      obtain ⟨content, hcontent⟩ := ih hbuilt.2 hprints.2 text hcanonical
      exact ⟨Shape.toValue _ content, by rw [spelling, Shape.spellValue_toValue, hcontent]⟩

theorem SpellsCanonical.exists_write {shape : Shape} {part : Grammar shape}
    (hspells : part.SpellsCanonical) (hcanonical : part.canonical.isSome = true) :
    ∃ content, ∀ buffer, part.write content buffer = .append buffer (part.canonical.getD "") := by
  obtain ⟨text, htext⟩ := Option.isSome_iff_exists.1 hcanonical
  obtain ⟨content, hcontent⟩ := hspells text htext
  refine ⟨content, fun buffer => ?_⟩
  rw [part.write_eq_spelling content buffer, hcontent, htext]
  rfl

/-- **A canonical text is a possible text.** Where the canonical texts of the terminals are printed
for values, the canonical text of a grammar is the encoding of a value. So at a part that a template
skips, and between two items of a list, wherever in the grammar these stand, writing does what the
part or the separator itself would do for some value. -/
theorem canonical_is_encoding {shape : Shape} (grammar : Grammar shape) (hbuilt : grammar.Built)
    (hprints : grammar.Everywhere PrintsCanonical) :
    (∀ text, grammar.canonical = some text → ∃ content, grammar.encode content = .ok text) ∧
      (∀ elements, (template elements).Within grammar →
        ∀ (inner : Shape) (part : Grammar inner), .skip part ∈ elements →
          ∃ content, ∀ rest record buffer,
            writeElements (.skip part :: rest) record buffer =
              (part.write content buffer).andThen (writeElements rest record)) ∧
      ∀ (inner gap : Shape) (nonEmpty : Bool) (item : Grammar inner) (separator : Grammar gap),
        (separated nonEmpty item separator).Within grammar →
          ∃ between, ∀ single rest buffer,
            Written.following item.write (separator.canonical.getD "") (single :: rest) buffer =
              (separator.write between buffer).andThen fun buffer =>
                (item.write single buffer).andThen
                  (Written.following item.write (separator.canonical.getD "") rest) := by
  refine ⟨fun text hcanonical => ?_, fun elements hwithin inner part hmem => ?_,
    fun inner gap nonEmpty item separator hwithin => ?_⟩
  · obtain ⟨content, hcontent⟩ := spellsCanonical grammar hbuilt hprints text hcanonical
    exact ⟨content, by rw [encode_eq_spelling, hcontent]⟩
  · have hpart : part.Within (template elements) := .skip hmem (.self part)
    have htemplate := hwithin.everywhere hbuilt
    have hspells := spellsCanonical part (hpart.everywhere htemplate)
      (hpart.everywhere (hwithin.everywhere hprints))
    have hsome := Element.canonical_isSome_of_check (accepted_template_iff.1 htemplate.1) hmem
    obtain ⟨content, hcontent⟩ := hspells.exists_write hsome
    exact ⟨content, fun rest record buffer => by rw [writeElements, hcontent]⟩
  · have hbuilt' := hwithin.everywhere hbuilt
    have hspells := spellsCanonical separator hbuilt'.2.2 (hwithin.everywhere hprints).2.2
    obtain ⟨between, hbetween⟩ := hspells.exists_write (accepted_separated_iff.1 hbuilt'.1)
    exact ⟨between, fun single rest buffer => by rw [Written.following, hbetween]⟩

def scale : Grammar (.list .tagged) :=
  .separated true (.choice [.mk "gap" Statement.whitespaceLeaf, .mk "number" Statement.integerLeaf])
    Primitive.maybeWhitespace

def rulerElements : List Element :=
  [.literal "[", .field "scale" scale, .skip Statement.whitespaceLeaf, .literal "]"]

def ruler : Grammar .record :=
  .template rulerElements

/-- One gap is the least there can be, and its space stands before that of the skipped part. -/
theorem canonical_is_encoding_ruler :
    ruler.Built ∧ ruler.Everywhere PrintsCanonical ∧ ruler.canonical = some "[  ]" ∧
      (∃ content, ruler.encode content = .ok "[  ]") ∧
      (∃ content, ∀ rest record buffer,
        writeElements (.skip Statement.whitespaceLeaf :: rest) record buffer =
          (Statement.whitespaceLeaf.write content buffer).andThen (writeElements rest record)) ∧
      scale.Within ruler := by
  have hspace : Statement.whitespaceLeaf.Everywhere PrintsCanonical :=
    fun text htext => ⟨text, rfl⟩
  have hnumber : Statement.integerLeaf.Everywhere PrintsCanonical :=
    fun _ habsent => nomatch habsent
  have hscale : scale.Built :=
    ⟨rfl, ⟨rfl, trivial, trivial, trivial⟩, Statement.built_maybeWhitespace⟩
  have hbuilt : ruler.Built := ⟨rfl, hscale, trivial, trivial⟩
  have hprints : ruler.Everywhere PrintsCanonical :=
    ⟨trivial, ⟨trivial, ⟨trivial, hspace, hnumber, trivial⟩, trivial, hspace⟩, hspace, trivial⟩
  have hcanonical : ruler.canonical = some "[  ]" := rfl
  obtain ⟨hencoded, hskipped, -⟩ := canonical_is_encoding ruler hbuilt hprints
  have hmem : .skip Statement.whitespaceLeaf ∈ rulerElements := by simp [rulerElements]
  have hfield : .field "scale" scale ∈ rulerElements := by simp [rulerElements]
  exact ⟨hbuilt, hprints, hcanonical, hencoded _ hcanonical,
    hskipped rulerElements (.self ruler) _ _ hmem, .field hfield (.self scale)⟩

end TwoWay.Grammar
