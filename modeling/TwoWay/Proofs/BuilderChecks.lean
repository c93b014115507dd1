import Mathlib.Order.Bounds.Basic
import TwoWay.Proofs.ListRoundTrip

/-!
# Builders find the first defect

A template is looked through once, from the front, and so is a choice. On the way the names met so
far are kept, so whether a name is taken depends on what stands before it. Here a defect is a
property of a place in the list as it was given: an empty name, a name that an earlier place has, a
skipped part without a canonical text. A list without defects is built, and for any other the error
is that of the lowest place with a defect. The invariant of the walk is that no place behind it has
a defect and that the names it keeps are those behind it.
-/

namespace TwoWay

/-- What is wrong with the name at a place: it is empty, or an earlier place has it too. -/
inductive NameDefect (nameAt? : Nat → Option String) (place : Nat) : GrammarError → Prop
  | empty (hname : nameAt? place = some "") : NameDefect nameAt? place .emptyFieldName
  | taken {earlier : Nat} {name : String} (hbefore : earlier < place)
      (hearlier : nameAt? earlier = some name) (hname : nameAt? place = some name)
      (hnonEmpty : name ≠ "") : NameDefect nameAt? place (.duplicateFieldName name)

/-- The error is that of the lowest place with a defect. -/
def FirstDefect (defectAt : Nat → GrammarError → Prop) (error : GrammarError) : Prop :=
  ∃ place, IsLeast {place | ∃ other, defectAt place other} place ∧ defectAt place error

theorem firstDefect_iff_of_isLeast {defectAt : Nat → GrammarError → Prop} {place : Nat}
    (hleast : IsLeast {place | ∃ other, defectAt place other} place) {error : GrammarError} :
    FirstDefect defectAt error ↔ defectAt place error := by
  constructor
  · rintro ⟨first, hfirst, hdefect⟩
    rwa [hleast.unique hfirst]
  · intro hdefect
    exact ⟨place, hleast, hdefect⟩

theorem checkName_eq_error_iff {used : List String} {name : String} {error : GrammarError} :
    checkName used name = .error error ↔
      name = "" ∧ error = .emptyFieldName ∨
        name ≠ "" ∧ name ∈ used ∧ error = .duplicateFieldName name := by
  unfold checkName
  by_cases hempty : name = ""
  · simpa [hempty] using eq_comm
  · by_cases hused : name ∈ used
    · simpa [hempty, hused] using eq_comm
    · simp [hempty, hused]

theorem nameDefect_iff {nameAt? : Nat → Option String} {place : Nat} {name : String}
    (hname : nameAt? place = some name) {error : GrammarError} :
    NameDefect nameAt? place error ↔
      name = "" ∧ error = .emptyFieldName ∨
        name ≠ "" ∧ (∃ earlier < place, nameAt? earlier = some name) ∧
          error = .duplicateFieldName name := by
  constructor
  · intro hdefect
    cases hdefect with
    | empty hempty =>
        rw [hname, Option.some.injEq] at hempty
        exact .inl ⟨hempty, rfl⟩
    | @taken earlier other hbefore hearlier hother hnonEmpty =>
        obtain rfl : name = other := by rwa [hname, Option.some.injEq] at hother
        exact .inr ⟨hnonEmpty, ⟨earlier, hbefore, hearlier⟩, rfl⟩
  · rintro (⟨rfl, rfl⟩ | ⟨hnonEmpty, ⟨earlier, hbefore, hearlier⟩, rfl⟩)
    · exact .empty hname
    · exact .taken hbefore hearlier hname hnonEmpty

theorem not_nameDefect {nameAt? : Nat → Option String} {place : Nat} (hnone : nameAt? place = none)
    {error : GrammarError} : ¬ NameDefect nameAt? place error := by
  intro hdefect
  cases hdefect <;> simp_all

namespace Element

/-- The name of the field at a place, if there is a field. -/
def nameAt? (elements : List Element) (place : Nat) : Option String :=
  elements[place]?.bind fieldName?

/-- What is wrong with the element at a place. All elements count for the place, also literals. -/
inductive DefectAt (elements : List Element) (place : Nat) : GrammarError → Prop
  | name {error : GrammarError} (hdefect : NameDefect (nameAt? elements) place error) :
      DefectAt elements place error
  | unrenderable {shape : Shape} {part : Grammar shape}
      (hskip : elements[place]? = some (.skip part)) (habsent : part.canonical = none) :
      DefectAt elements place (.unrenderableElement place part.describe)

/-- The names are those of all fields, in the order of the places at which these stand. -/
def InFieldOrder (elements : List Element) (names : List String) : Prop :=
  ∃ places : List Nat, places.Pairwise (· < ·) ∧
    (∀ place, place ∈ places ↔ ∃ name, nameAt? elements place = some name) ∧
    List.Forall₂ (fun place name => nameAt? elements place = some name) places names

variable {elements : List Element} {place : Nat} {error : GrammarError}

/-- Of the elements only skipped ones have defects that are not defects of names. -/
theorem defectAt_iff_of_not_skip
    (hother : ∀ {shape : Shape} (part : Grammar shape), elements[place]? ≠ some (.skip part)) :
    DefectAt elements place error ↔ NameDefect (nameAt? elements) place error := by
  refine ⟨fun hdefect => ?_, .name⟩
  cases hdefect with
  | name hdefect => exact hdefect
  | unrenderable hskip _ => exact absurd hskip (hother _)

theorem mem_fieldNames_iff {name : String} :
    name ∈ fieldNames elements ↔ ∃ place, nameAt? elements place = some name := by
  simp only [nameAt?, Option.bind_eq_some_iff]
  rw [fieldNames, List.mem_filterMap]
  constructor
  · rintro ⟨element, hmem, hname⟩
    obtain ⟨place, hplace⟩ := List.mem_iff_getElem?.1 hmem
    exact ⟨place, element, hplace, hname⟩
  · rintro ⟨place, element, hplace, hname⟩
    exact ⟨element, List.mem_of_getElem? hplace, hname⟩

theorem nameAt?_take (elements : List Element) (place earlier : Nat) :
    nameAt? (elements.take place) earlier =
      if earlier < place then nameAt? elements earlier else none := by
  rw [nameAt?, List.getElem?_take]
  split <;> rfl

/-- The names behind the walk are those of earlier places. -/
theorem mem_fieldNames_take_iff {name : String} :
    name ∈ fieldNames (elements.take place) ↔
      ∃ earlier < place, nameAt? elements earlier = some name := by
  rw [mem_fieldNames_iff]
  refine exists_congr fun earlier => ?_
  rw [nameAt?_take]
  split <;> simp [*]

@[simp]
theorem nameAt?_cons_zero (element : Element) (rest : List Element) :
    nameAt? (element :: rest) 0 = element.fieldName? := rfl

@[simp]
theorem nameAt?_cons_succ (element : Element) (rest : List Element) (place : Nat) :
    nameAt? (element :: rest) (place + 1) = nameAt? rest place := rfl

theorem inFieldOrder_fieldNames (elements : List Element) :
    InFieldOrder elements (fieldNames elements) := by
  induction elements with
  | nil => exact ⟨[], .nil, by simp [nameAt?], .nil⟩
  | cons element rest ih =>
      obtain ⟨places, hordered, hmem, hnames⟩ := ih
      -- In the longer list the places of the rest are higher by one.
      have hlater : (places.map (· + 1)).Pairwise (· < ·) :=
        hordered.map _ fun _ _ => Nat.succ_lt_succ
      have hshifted : List.Forall₂ (fun place name => nameAt? (element :: rest) place = some name)
          (places.map (· + 1)) (fieldNames rest) :=
        List.forall₂_map_left_iff.2 hnames
      cases hname : element.fieldName? with
      | none =>
          refine ⟨places.map (· + 1), hlater, fun place => ?_, ?_⟩
          · cases place with
            | zero => simp [hname]
            | succ place => simpa using hmem place
          · rwa [fieldNames, List.filterMap_cons_none hname]
      | some name =>
          refine ⟨0 :: places.map (· + 1), ?_, fun place => ?_, ?_⟩
          · exact List.pairwise_cons.2 ⟨by simp, hlater⟩
          · cases place with
            | zero => simp [hname]
            | succ place => simpa using hmem place
          · rw [fieldNames, List.filterMap_cons_some hname]
            exact .cons hname hshifted

/-! ### The walk -/

theorem check_cons (used : List String) (index : Nat) (element : Element) (rest : List Element) :
    check used index (element :: rest) = (do
      check used index [element]
      check (element.fieldName?.toList ++ used) (index + 1) rest) := by
  cases element with
  | literal text => rfl
  | field name part =>
      simp only [check]
      cases checkName used name <;> rfl
  | skip part =>
      simp only [check]
      split <;> rfl

theorem reverse_fieldNames_take_succ {element : Element}
    (hplace : elements[place]? = some element) :
    (fieldNames (elements.take (place + 1))).reverse =
      element.fieldName?.toList ++ (fieldNames (elements.take place)).reverse := by
  rw [List.take_add_one, hplace, fieldNames, List.filterMap_append, List.reverse_append]
  cases element <;> rfl

/-- One step of the walk fails where the element in front of it has a defect. -/
theorem check_singleton_eq_error_iff {element : Element}
    (hplace : elements[place]? = some element) :
    check (fieldNames (elements.take place)).reverse place [element] = .error error ↔
      DefectAt elements place error := by
  have hname : nameAt? elements place = element.fieldName? := by
    rw [nameAt?, hplace, Option.bind_some]
  cases element with
  | literal text =>
      rw [defectAt_iff_of_not_skip (by simp [hplace])]
      exact iff_of_false nofun (not_nameDefect hname)
  | field name part =>
      have hcheck : check (fieldNames (elements.take place)).reverse place [.field name part] =
          checkName (fieldNames (elements.take place)).reverse name := by
        rw [check]
        cases checkName (fieldNames (elements.take place)).reverse name <;> rfl
      rw [hcheck, checkName_eq_error_iff, List.mem_reverse, mem_fieldNames_take_iff,
        ← nameDefect_iff hname, defectAt_iff_of_not_skip (by simp [hplace])]
  | skip part =>
      rw [check]
      constructor
      · intro hcheck
        split at hcheck
        · cases hcheck
        · rename_i habsent
          cases hcheck
          exact .unrenderable hplace (Option.not_isSome_iff_eq_none.1 habsent)
      · intro hdefect
        cases hdefect with
        | name hdefect => exact absurd hdefect (not_nameDefect hname)
        | unrenderable hskip habsent =>
            cases hplace.symm.trans hskip
            rw [if_neg (by simp [habsent])]

theorem DefectAt.lt_length (hdefect : DefectAt elements place error) : place < elements.length := by
  have hsome : ∃ element, elements[place]? = some element := by
    cases hdefect with
    | unrenderable hskip _ => exact ⟨_, hskip⟩
    | name hdefect =>
        cases hdefect with
        | empty hname | taken _ _ hname =>
            obtain ⟨element, hplace, -⟩ := Option.bind_eq_some_iff.1 hname
            exact ⟨element, hplace⟩
  obtain ⟨element, hplace⟩ := hsome
  obtain ⟨hlt, -⟩ := List.getElem?_eq_some_iff.1 hplace
  exact hlt

/-- Where no place behind the walk has a defect, the rest of the walk finds the first one. -/
theorem check_drop_eq_error_iff (place : Nat)
    (hbehind : ∀ earlier < place, ∀ other, ¬ DefectAt elements earlier other) :
    check (fieldNames (elements.take place)).reverse place (elements.drop place) = .error error ↔
      FirstDefect (DefectAt elements) error := by
  -- The induction is on what is left, and the place moves on with it.
  induction hrest : elements.drop place generalizing place with
  | nil =>
      refine iff_of_false nofun ?_
      rintro ⟨first, -, hdefect⟩
      have hshort : elements.length ≤ place := List.drop_eq_nil_iff.1 hrest
      exact hbehind first (hdefect.lt_length.trans_le hshort) error hdefect
  | cons element rest ih =>
      obtain ⟨hplace, hnext⟩ := getElem?_of_drop_eq_cons hrest
      have hstep : ∀ other, check (fieldNames (elements.take place)).reverse place [element] =
          .error other ↔ DefectAt elements place other :=
        fun _ => check_singleton_eq_error_iff hplace
      rw [check_cons]
      cases hcheck : check (fieldNames (elements.take place)).reverse place [element] with
      | error found =>
          have hleast : IsLeast {place | ∃ other, DefectAt elements place other} place := by
            refine ⟨⟨found, (hstep found).1 hcheck⟩, ?_⟩
            rintro earlier ⟨other, hdefect⟩
            exact not_lt.1 fun hbefore => hbehind earlier hbefore other hdefect
          rw [firstDefect_iff_of_isLeast hleast, ← hstep, hcheck, error_bind]
      | ok _ =>
          rw [ok_bind, ← reverse_fieldNames_take_succ hplace]
          refine ih (place + 1) (fun earlier hle other => ?_) hnext
          rcases Nat.lt_succ_iff_lt_or_eq.1 hle with hbefore | rfl
          · exact hbehind earlier hbefore other
          · rw [← hstep, hcheck]
            exact nofun

/-- A template is refused for the first of its defects. -/
theorem check_eq_error_iff : check [] 0 elements = .error error ↔
    FirstDefect (DefectAt elements) error :=
  check_drop_eq_error_iff 0 fun _ hbefore => absurd hbefore (Nat.not_lt_zero _)

end Element

namespace Branch

variable {branches : List Branch}

theorem nameAt?_toField (branches : List Branch) :
    Element.nameAt? (branches.map toField) = fun place => (names branches)[place]? := by
  funext place
  rw [Element.nameAt?, names, List.getElem?_map, List.getElem?_map]
  cases branches[place]? with
  | none => rfl
  | some branch =>
      cases branch
      rfl

/-- Branches have no defects but those of their names. -/
theorem defectAt_toField_iff {place : Nat} {error : GrammarError} :
    Element.DefectAt (branches.map toField) place error ↔
      NameDefect (fun place => (names branches)[place]?) place error := by
  rw [← nameAt?_toField]
  refine Element.defectAt_iff_of_not_skip fun part hskip => ?_
  obtain ⟨⟨name, body⟩, -, hfield⟩ := List.mem_map.1 (List.mem_of_getElem? hskip)
  cases hfield

theorem check_eq_error_iff {error : GrammarError} :
    check [] branches = .error error ↔
      FirstDefect (NameDefect fun place => (names branches)[place]?) error := by
  rw [check_eq_check_toField [] 0, Element.check_eq_error_iff]
  simp only [FirstDefect, defectAt_toField_iff]

end Branch

namespace Grammar

theorem buildTemplate_eq_error_iff {elements : List Element} {error : GrammarError} :
    buildTemplate elements = .error error ↔ Element.check [] 0 elements = .error error := by
  rw [buildTemplate]
  cases Element.check [] 0 elements <;> simp

theorem buildChoice_eq_error_iff {branches : List Branch} {error : GrammarError} :
    buildChoice branches = .error error ↔
      branches = [] ∧ error = .emptyAlternation ∨ Branch.check [] branches = .error error := by
  cases branches with
  | nil => simpa [buildChoice, Branch.check] using eq_comm
  | cons branch rest =>
      rw [buildChoice_cons]
      cases Branch.check [] (branch :: rest) <;> simp

/-- **Builders accept what is well formed and report the first defect of what is not.** A template
is built exactly if no field name is empty, no two are the same and every skipped part has a
canonical text, and its fields are then named in the order of its elements. A choice is built
exactly if it has branches, none of their names is empty and no two are the same. Otherwise the
error is that of the lowest place with a defect, or says that there are no branches. -/
theorem builders_report_first_defect :
    (∀ elements : List Element,
      (∀ grammar, buildTemplate elements = .ok grammar ↔
        ((∀ name ∈ Element.fieldNames elements, name ≠ "") ∧ (Element.fieldNames elements).Nodup ∧
          ∀ element ∈ elements, element.Renderable) ∧ grammar = .template elements) ∧
      Element.InFieldOrder elements (Element.fieldNames elements) ∧
      ∀ error, buildTemplate elements = .error error ↔
        FirstDefect (Element.DefectAt elements) error) ∧
    ∀ branches : List Branch,
      (∀ grammar, buildChoice branches = .ok grammar ↔
        (branches ≠ [] ∧ (∀ name ∈ Branch.names branches, name ≠ "") ∧
          (Branch.names branches).Nodup) ∧ grammar = .choice branches) ∧
      ∀ error, buildChoice branches = .error error ↔
        branches = [] ∧ error = .emptyAlternation ∨
          FirstDefect (NameDefect fun place => (Branch.names branches)[place]?) error := by
  refine ⟨fun elements => ⟨fun grammar => ?_, ?_, fun error => ?_⟩,
    fun branches => ⟨fun grammar => ?_, fun error => ?_⟩⟩
  · rw [buildTemplate_eq_ok_iff, Element.check_eq_ok_iff, freshNames_nil_iff]
    simp only [and_assoc]
  · exact Element.inFieldOrder_fieldNames elements
  · rw [buildTemplate_eq_error_iff, Element.check_eq_error_iff]
  · rw [buildChoice_eq_ok_iff, Branch.check_eq_ok_iff, freshNames_nil_iff]
    simp only [and_assoc]
  · rw [buildChoice_eq_error_iff, Branch.check_eq_error_iff]

/-- A skipped word without a canonical text, a name for the second time and an empty name. -/
def crowdedElements : List Element :=
  [.literal "<", .field "tag" Statement.identifierLeaf, .skip Primitive.maybeWhitespace,
    .skip Statement.identifierLeaf, .field "tag" Statement.stringLeaf,
    .field "" Statement.integerLeaf, .literal ">"]

def crowdedBranches : List Branch :=
  [.mk "int" Statement.integerLeaf, .mk "str" Statement.stringLeaf,
    .mk "int" Statement.identifierLeaf, .mk "" Statement.whitespaceLeaf]

/-- Of the elements the one at place 3 is reported, though there are defects at 4 and 5. Of the
branches it is the third, whose name the first one has. -/
theorem builders_report_first_defect_crowded :
    buildTemplate crowdedElements =
        .error (.unrenderableElement 3 Statement.identifierLeaf.describe) ∧
      FirstDefect (Element.DefectAt crowdedElements)
        (.unrenderableElement 3 Statement.identifierLeaf.describe) ∧
      Element.DefectAt crowdedElements 4 (.duplicateFieldName "tag") ∧
      Element.DefectAt crowdedElements 5 .emptyFieldName ∧
      FirstDefect (NameDefect fun place => (Branch.names crowdedBranches)[place]?)
        (.duplicateFieldName "int") := by
  have helements : buildTemplate crowdedElements =
      .error (.unrenderableElement 3 Statement.identifierLeaf.describe) := rfl
  have hbranches : buildChoice crowdedBranches = .error (.duplicateFieldName "int") := rfl
  obtain ⟨htemplate, hchoice⟩ := builders_report_first_defect
  refine ⟨helements, ((htemplate crowdedElements).2.2 _).1 helements, ?_, ?_, ?_⟩
  · have hbefore : 1 < 4 := by decide
    exact .name (.taken hbefore rfl rfl (by decide))
  · exact .name (.empty rfl)
  · have hdefect := ((hchoice crowdedBranches).2 _).1 hbranches
    rcases hdefect with ⟨hnil, -⟩ | hdefect
    · cases hnil
    · exact hdefect

end Grammar

end TwoWay
