import TwoWay.Proofs.Failure
import TwoWay.Statement

/-!
# The parts of a grammar

Grammars nest through the elements of templates and the branches of choices. What is proved of all
grammars goes by the induction below, which has one case for each construct: in the cases of
templates and choices the hypothesis speaks of every element or branch. A condition holds
everywhere in a grammar when it holds at the grammar itself and at all the parts it is made of, and
a grammar is built when its builders have accepted it everywhere. What they look for in names and
skipped parts is the same for templates and choices, since branches pass as fields of their names.
-/

namespace TwoWay

/-- The grammar inside an element, if there is one, satisfies the condition. -/
def Element.PartIs (condition : {shape : Shape} → Grammar shape → Prop) : Element → Prop
  | .literal _ => True
  | .field _ part => condition part
  | .skip part => condition part

def Branch.BodyIs (condition : {shape : Shape} → Grammar shape → Prop) : Branch → Prop
  | .mk _ body => condition body

section Conditions

variable {first second : {shape : Shape} → Grammar shape → Prop}

/-- The hypothesis of an induction under an assumption, used where the assumption holds. -/
theorem Element.PartIs.mp {element : Element}
    (himp : element.PartIs fun part => first part → second part) (hpart : element.PartIs first) :
    element.PartIs second := by
  cases element with
  | literal text => trivial
  | field name part => exact himp hpart
  | skip part => exact himp hpart

theorem Branch.BodyIs.mp {branch : Branch}
    (himp : branch.BodyIs fun body => first body → second body) (hbody : branch.BodyIs first) :
    branch.BodyIs second := by
  cases branch
  exact himp hbody

end Conditions

namespace Grammar

@[induction_eliminator]
theorem induct {motive : {shape : Shape} → Grammar shape → Prop}
    (terminal : ∀ {kind : Scalar} (leaf : Terminal kind.Carrier), motive (.terminal leaf))
    (named : ∀ {shape : Shape} (name : String) (inner : Grammar shape),
      motive inner → motive (.named name inner))
    (optional : ∀ {shape : Shape} (inner : Grammar shape), motive inner → motive (.optional inner))
    (repeated : ∀ {shape : Shape} (nonEmpty : Bool) (item : Grammar shape),
      motive item → motive (.repeated nonEmpty item))
    (separated : ∀ {shape gap : Shape} (nonEmpty : Bool) (item : Grammar shape)
      (separator : Grammar gap), motive item → motive separator →
        motive (.separated nonEmpty item separator))
    (template : ∀ elements : List Element,
      (∀ element ∈ elements, element.PartIs motive) → motive (.template elements))
    (choice : ∀ branches : List Branch,
      (∀ branch ∈ branches, branch.BodyIs motive) → motive (.choice branches))
    (erased : ∀ {shape : Shape} (inner : Grammar shape), motive inner → motive (.erased inner))
    {shape : Shape} (grammar : Grammar shape) : motive grammar := by
  -- The motives are those of grammars, elements, branches, and lists of the latter two.
  refine @Grammar.rec (fun _ grammar => motive grammar)
    (fun element => element.PartIs motive)
    (fun branch => branch.BodyIs motive)
    (fun elements => ∀ element ∈ elements, element.PartIs motive)
    (fun branches => ∀ branch ∈ branches, branch.BodyIs motive)
    terminal named optional repeated separated template choice erased
    (fun _ => trivial) (fun _ _ hpart => hpart) (fun _ hpart => hpart) (fun _ _ hbody => hbody)
    ?_ ?_ ?_ ?_ _ grammar
  · exact fun _ hmem => absurd hmem List.not_mem_nil
  · exact fun _ _ hfirst hrest => List.forall_mem_cons.2 ⟨hfirst, hrest⟩
  · exact fun _ hmem => absurd hmem List.not_mem_nil
  · exact fun _ _ hfirst hrest => List.forall_mem_cons.2 ⟨hfirst, hrest⟩

section Everywhere

variable (condition : {shape : Shape} → Grammar shape → Prop)

mutual

/-- The condition holds at the grammar and at all of its parts. -/
def Everywhere : {shape : Shape} → Grammar shape → Prop
  | _, .terminal leaf => condition (.terminal leaf)
  | _, .named name inner => condition (.named name inner) ∧ Everywhere inner
  | _, .optional inner => condition (.optional inner) ∧ Everywhere inner
  | _, .repeated nonEmpty item => condition (.repeated nonEmpty item) ∧ Everywhere item
  | _, .separated nonEmpty item separator =>
      condition (.separated nonEmpty item separator) ∧ Everywhere item ∧ Everywhere separator
  | _, .template elements => condition (.template elements) ∧ EverywhereElements elements
  | _, .choice branches => condition (.choice branches) ∧ EverywhereBranches branches
  | _, .erased inner => condition (.erased inner) ∧ Everywhere inner

def EverywhereElements : List Element → Prop
  | [] => True
  | .literal _ :: rest => EverywhereElements rest
  | .field _ part :: rest => Everywhere part ∧ EverywhereElements rest
  | .skip part :: rest => Everywhere part ∧ EverywhereElements rest

def EverywhereBranches : List Branch → Prop
  | [] => True
  | .mk _ body :: rest => Everywhere body ∧ EverywhereBranches rest

end

theorem everywhereElements_iff (elements : List Element) :
    EverywhereElements condition elements ↔
      ∀ element ∈ elements, element.PartIs (Everywhere condition) := by
  induction elements with
  | nil => simp [EverywhereElements]
  | cons element rest ih =>
      cases element <;> simp [EverywhereElements, Element.PartIs, ih]

theorem everywhereBranches_iff (branches : List Branch) :
    EverywhereBranches condition branches ↔
      ∀ branch ∈ branches, branch.BodyIs (Everywhere condition) := by
  induction branches with
  | nil => simp [EverywhereBranches]
  | cons branch rest ih =>
      cases branch
      simp [EverywhereBranches, Branch.BodyIs, ih]

variable {condition}

theorem Everywhere.here {shape : Shape} {grammar : Grammar shape}
    (heverywhere : grammar.Everywhere condition) : condition grammar := by
  cases grammar with
  | terminal leaf => exact heverywhere
  | _ => exact heverywhere.1

end Everywhere

/-- The first grammar is the second one itself or stands somewhere in it. -/
inductive Within : {inner outer : Shape} → Grammar inner → Grammar outer → Prop
  | self {shape : Shape} (grammar : Grammar shape) : Within grammar grammar
  | named {inner outer : Shape} {part : Grammar inner} {whole : Grammar outer} (name : String)
      (hwithin : Within part whole) : Within part (.named name whole)
  | optional {inner outer : Shape} {part : Grammar inner} {whole : Grammar outer}
      (hwithin : Within part whole) : Within part (.optional whole)
  | repeated {inner outer : Shape} {part : Grammar inner} {item : Grammar outer} (nonEmpty : Bool)
      (hwithin : Within part item) : Within part (.repeated nonEmpty item)
  | item {inner outer gap : Shape} {part : Grammar inner} {item : Grammar outer} (nonEmpty : Bool)
      (separator : Grammar gap) (hwithin : Within part item) :
      Within part (.separated nonEmpty item separator)
  | separator {inner outer gap : Shape} {part : Grammar inner} {separator : Grammar gap}
      (nonEmpty : Bool) (item : Grammar outer) (hwithin : Within part separator) :
      Within part (.separated nonEmpty item separator)
  | field {inner outer : Shape} {part : Grammar inner} {whole : Grammar outer} {name : String}
      {elements : List Element} (hmem : .field name whole ∈ elements)
      (hwithin : Within part whole) : Within part (.template elements)
  | skip {inner outer : Shape} {part : Grammar inner} {whole : Grammar outer}
      {elements : List Element} (hmem : .skip whole ∈ elements)
      (hwithin : Within part whole) : Within part (.template elements)
  | branch {inner outer : Shape} {part : Grammar inner} {body : Grammar outer} {name : String}
      {branches : List Branch} (hmem : .mk name body ∈ branches)
      (hwithin : Within part body) : Within part (.choice branches)
  | erased {inner outer : Shape} {part : Grammar inner} {whole : Grammar outer}
      (hwithin : Within part whole) : Within part (.erased whole)

theorem Within.everywhere {condition : {shape : Shape} → Grammar shape → Prop} {inner outer : Shape}
    {part : Grammar inner} {whole : Grammar outer} (hwithin : part.Within whole)
    (heverywhere : whole.Everywhere condition) : part.Everywhere condition := by
  induction hwithin with
  | self grammar => exact heverywhere
  | named name _ ih => exact ih heverywhere.2
  | optional _ ih => exact ih heverywhere.2
  | repeated nonEmpty _ ih => exact ih heverywhere.2
  | item nonEmpty separator _ ih => exact ih heverywhere.2.1
  | separator nonEmpty item _ ih => exact ih heverywhere.2.2
  | field hmem _ ih => exact ih ((everywhereElements_iff _ _).1 heverywhere.2 _ hmem)
  | skip hmem _ ih => exact ih ((everywhereElements_iff _ _).1 heverywhere.2 _ hmem)
  | branch hmem _ ih => exact ih ((everywhereBranches_iff _ _).1 heverywhere.2 _ hmem)
  | erased _ ih => exact ih heverywhere.2

/-- What holds everywhere in a grammar is what holds of all that stands in it. -/
theorem everywhere_iff_within {condition : {shape : Shape} → Grammar shape → Prop} {shape : Shape}
    {grammar : Grammar shape} :
    grammar.Everywhere condition ↔
      ∀ {inner : Shape} (part : Grammar inner), part.Within grammar → condition part := by
  constructor
  · intro heverywhere inner part hwithin
    exact (hwithin.everywhere heverywhere).here
  · intro hall
    induction grammar with
    | terminal leaf => exact hall _ (.self _)
    | named name inner ih => exact ⟨hall _ (.self _), ih fun part h => hall part (.named name h)⟩
    | optional inner ih => exact ⟨hall _ (.self _), ih fun part h => hall part (.optional h)⟩
    | repeated nonEmpty item ih =>
        exact ⟨hall _ (.self _), ih fun part h => hall part (.repeated nonEmpty h)⟩
    | separated nonEmpty item separator ih ihSeparator =>
        exact ⟨hall _ (.self _), ih fun part h => hall part (.item nonEmpty separator h),
          ihSeparator fun part h => hall part (.separator nonEmpty item h)⟩
    | template elements ih =>
        refine ⟨hall _ (.self _), (everywhereElements_iff _ elements).2 fun element hmem => ?_⟩
        have hpart := ih element hmem
        cases element with
        | literal text => trivial
        | field name inner => exact hpart fun part h => hall part (.field hmem h)
        | skip inner => exact hpart fun part h => hall part (.skip hmem h)
    | choice branches ih =>
        refine ⟨hall _ (.self _), (everywhereBranches_iff _ branches).2 fun branch hmem => ?_⟩
        have hbody := ih branch hmem
        cases branch
        exact hbody fun part h => hall part (.branch hmem h)
    | erased inner ih => exact ⟨hall _ (.self _), ih fun part h => hall part (.erased h)⟩

/-- The builder of the outermost construct, if it has one that checks, accepts it. -/
def Accepted : {shape : Shape} → Grammar shape → Prop
  | _, .template elements => buildTemplate elements = .ok (.template elements)
  | _, .choice branches => buildChoice branches = .ok (.choice branches)
  | _, .separated nonEmpty item separator =>
      buildSeparated nonEmpty item separator = .ok (.separated nonEmpty item separator)
  | _, .terminal _ | _, .named .. | _, .optional _ | _, .repeated .. | _, .erased _ => True

theorem buildTemplate_eq_ok_iff {elements : List Element} {grammar : Grammar .record} :
    buildTemplate elements = .ok grammar ↔
      Element.check [] 0 elements = .ok () ∧ grammar = .template elements := by
  rw [buildTemplate, then_eq_ok_iff, pure_eq_ok, Except.ok.injEq, @eq_comm _ grammar]

theorem buildChoice_cons (branch : Branch) (rest : List Branch) :
    buildChoice (branch :: rest) = (do
      Branch.check [] (branch :: rest)
      return .choice (branch :: rest)) := rfl

theorem buildChoice_eq_ok_iff {branches : List Branch} {grammar : Grammar .tagged} :
    buildChoice branches = .ok grammar ↔
      branches ≠ [] ∧ Branch.check [] branches = .ok () ∧ grammar = .choice branches := by
  cases branches with
  | nil => simp [buildChoice]
  | cons branch rest =>
      rw [buildChoice_cons, then_eq_ok_iff, pure_eq_ok, Except.ok.injEq, @eq_comm _ grammar]
      exact (and_iff_right (List.cons_ne_nil branch rest)).symm

theorem accepted_template_iff {elements : List Element} :
    (template elements).Accepted ↔ Element.check [] 0 elements = .ok () := by
  rw [Accepted, buildTemplate_eq_ok_iff, and_iff_left rfl]

theorem accepted_choice_iff {branches : List Branch} :
    (choice branches).Accepted ↔ branches ≠ [] ∧ Branch.check [] branches = .ok () := by
  rw [Accepted, buildChoice_eq_ok_iff, and_iff_left rfl]

theorem accepted_separated_iff {shape gap : Shape} {nonEmpty : Bool} {item : Grammar shape}
    {separator : Grammar gap} :
    (separated nonEmpty item separator).Accepted ↔ separator.canonical.isSome = true := by
  rw [Accepted, buildSeparated]
  split <;> simp [*]

/-- The grammar and all of its parts come from the builders. -/
def Built {shape : Shape} (grammar : Grammar shape) : Prop :=
  grammar.Everywhere Accepted

end Grammar

@[simp]
theorem Element.fieldNames_field {shape : Shape} (name : String) (part : Grammar shape)
    (rest : List Element) :
    Element.fieldNames (.field name part :: rest) = name :: Element.fieldNames rest := rfl

theorem checkName_eq_ok_iff {used : List String} {name : String} :
    checkName used name = .ok () ↔ name ≠ "" ∧ name ∉ used := by
  unfold checkName
  split
  · rename_i hempty
    simp [String.isEmpty_iff.1 hempty]
  · rename_i hempty
    have hname : name ≠ "" := fun heq => hempty (String.isEmpty_iff.2 heq)
    by_cases hused : name ∈ used <;> simp [hused, hname]

/-! ### What building checks -/

/-- Names that may join those in use: none is empty, and they differ from each other and from those
in use. -/
structure FreshNames (used names : List String) : Prop where
  nonEmpty : ∀ name ∈ names, name ≠ ""
  nodup : names.Nodup
  unused : ∀ name ∈ names, name ∉ used

theorem freshNames_of_nil (used : List String) : FreshNames used [] :=
  ⟨List.forall_mem_nil _, List.nodup_nil, List.forall_mem_nil _⟩

theorem freshNames_nil_iff {names : List String} :
    FreshNames [] names ↔ (∀ name ∈ names, name ≠ "") ∧ names.Nodup := by
  constructor
  · rintro ⟨hnonEmpty, hnodup, -⟩
    exact ⟨hnonEmpty, hnodup⟩
  · rintro ⟨hnonEmpty, hnodup⟩
    exact ⟨hnonEmpty, hnodup, fun _ _ => List.not_mem_nil⟩

theorem freshNames_cons_iff {used names : List String} {name : String} :
    FreshNames used (name :: names) ↔
      (name ≠ "" ∧ name ∉ used) ∧ FreshNames (name :: used) names := by
  constructor
  · rintro ⟨hnonEmpty, hnodup, hunused⟩
    rw [List.nodup_cons] at hnodup
    rw [List.forall_mem_cons] at hnonEmpty hunused
    refine ⟨⟨hnonEmpty.1, hunused.1⟩, hnonEmpty.2, hnodup.2, fun other hother hused => ?_⟩
    rcases List.mem_cons.1 hused with rfl | hused
    · exact hnodup.1 hother
    · exact hunused.2 other hother hused
  · rintro ⟨⟨hname, hnew⟩, hnonEmpty, hnodup, hunused⟩
    refine ⟨List.forall_mem_cons.2 ⟨hname, hnonEmpty⟩, List.nodup_cons.2 ⟨?_, hnodup⟩,
      List.forall_mem_cons.2 ⟨hnew, ?_⟩⟩
    · exact fun hmem => hunused name hmem List.mem_cons_self
    · exact fun other hother hused => hunused other hother (List.mem_cons_of_mem name hused)

/-- A skipped part has a canonical text to be written as. -/
def Element.Renderable : Element → Prop
  | .skip part => part.canonical.isSome = true
  | .literal _ | .field .. => True

theorem Element.check_eq_ok_iff {used : List String} {index : Nat} {elements : List Element} :
    Element.check used index elements = .ok () ↔
      FreshNames used (Element.fieldNames elements) ∧ ∀ element ∈ elements, element.Renderable := by
  induction elements generalizing used index with
  | nil => simp [Element.check, Element.fieldNames, freshNames_of_nil]
  | cons element rest ih =>
      rw [List.forall_mem_cons]
      cases element with
      | literal text =>
          rw [Element.check, ih]
          exact and_congr_right fun _ => (and_iff_right trivial).symm
      | field name part =>
          rw [Element.check, then_eq_ok_iff, checkName_eq_ok_iff, ih, ← and_assoc,
            ← freshNames_cons_iff, Element.fieldNames_field, Element.Renderable, true_and]
      | skip part =>
          rw [Element.check, Element.Renderable]
          split
          · rename_i hcanonical
            rw [ih]
            exact and_congr_right fun _ => (and_iff_right hcanonical).symm
          · rename_i habsent
            exact iff_of_false nofun fun hsound => habsent hsound.2.1

/-- The branch as a field of its name. -/
def Branch.toField : Branch → Element
  | .mk name body => .field name body

theorem Branch.fieldNames_toField (branches : List Branch) :
    Element.fieldNames (branches.map Branch.toField) = Branch.names branches := by
  have hname : Element.fieldName? ∘ Branch.toField = some ∘ Branch.name := by
    funext branch
    cases branch
    rfl
  rw [Element.fieldNames, List.filterMap_map, hname, List.filterMap_eq_map, Branch.names]

/-- Branches are checked as fields of their names. -/
theorem Branch.check_eq_check_toField (used : List String) (index : Nat) (branches : List Branch) :
    Branch.check used branches = Element.check used index (branches.map Branch.toField) := by
  induction branches generalizing used index with
  | nil => rfl
  | cons branch rest ih =>
      obtain ⟨name, body⟩ := branch
      rw [Branch.check, List.map_cons, Branch.toField, Element.check, ih]

theorem Branch.check_eq_ok_iff {used : List String} {branches : List Branch} :
    Branch.check used branches = .ok () ↔ FreshNames used (Branch.names branches) := by
  rw [Branch.check_eq_check_toField used 0, Element.check_eq_ok_iff, Branch.fieldNames_toField]
  refine and_iff_left fun element hmem => ?_
  obtain ⟨⟨name, body⟩, -, rfl⟩ := List.mem_map.1 hmem
  trivial

theorem Element.fieldNames_nodup_of_check {used : List String} {index : Nat}
    {elements : List Element} (hcheck : Element.check used index elements = .ok ()) :
    (Element.fieldNames elements).Nodup ∧ ∀ name ∈ Element.fieldNames elements, name ∉ used := by
  obtain ⟨hfresh, -⟩ := Element.check_eq_ok_iff.1 hcheck
  exact ⟨hfresh.nodup, hfresh.unused⟩

namespace Grammar

/-- A built template has no field name twice, and its parts are built. -/
theorem Built.template {elements : List Element} (hbuilt : (template elements).Built) :
    (Element.fieldNames elements).Nodup ∧ ∀ element ∈ elements, element.PartIs Built := by
  obtain ⟨haccepted, hparts⟩ := hbuilt
  refine ⟨?_, (everywhereElements_iff Accepted elements).1 hparts⟩
  exact (Element.fieldNames_nodup_of_check (accepted_template_iff.1 haccepted)).1

theorem Built.choice {branches : List Branch} (hbuilt : (choice branches).Built) :
    (Branch.names branches).Nodup ∧ ∀ branch ∈ branches, branch.BodyIs Built := by
  obtain ⟨haccepted, hbodies⟩ := hbuilt
  refine ⟨?_, (everywhereBranches_iff Accepted branches).1 hbodies⟩
  exact (Branch.check_eq_ok_iff.1 (accepted_choice_iff.1 haccepted).2).nodup

end Grammar

/-! ### The grammars of statements -/

namespace Statement

open Primitive

theorem built_maybeWhitespace : maybeWhitespace.Built :=
  ⟨trivial, trivial⟩

theorem built_declaration : declaration.Built :=
  ⟨buildTemplate_declaration, trivial, trivial, built_maybeWhitespace, built_maybeWhitespace,
    trivial, built_maybeWhitespace, trivial⟩

theorem built_operand : operand.Built :=
  ⟨buildChoice_operand, trivial, trivial, trivial⟩

theorem built_assignment : assignment.Built :=
  ⟨buildTemplate_assignment, trivial, built_maybeWhitespace, built_maybeWhitespace, built_operand,
    built_maybeWhitespace, trivial⟩

theorem built_statements : statements.Built :=
  ⟨buildSeparated_statements,
    ⟨buildChoice_statement, built_declaration, built_assignment, trivial⟩, built_maybeWhitespace⟩

end Statement

end TwoWay
