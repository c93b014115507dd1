import TwoWay.Proofs.Faults
import TwoWay.Proofs.Lexemes

/-!
# Grammars that always take some text

A repetition fails for good when its item succeeds and takes no text. Whether that happens depends
on the text, but it can be excluded by looking at the grammar alone. A grammar is solid when some
part of it that cannot be left out takes at least one character. What a solid grammar accepts is
never empty, and where the items of all repetitions are solid, no repetition ever stands still.
-/

namespace TwoWay

/-- The pattern does not match an empty text anywhere. -/
def Pattern.IsSolid (pattern : Pattern) : Prop :=
  ∀ cursor, pattern.matchAt cursor ≠ some 0

namespace Grammar

mutual

/-- Something that cannot be left out takes some text. In a template one such element is enough,
and in a choice every branch must have one. -/
def Solid : {shape : Shape} → Grammar shape → Prop
  | _, .terminal leaf => leaf.pattern.IsSolid
  | _, .named _ inner => Solid inner
  | _, .optional _ => False
  | _, .repeated nonEmpty item => nonEmpty = true ∧ Solid item
  | _, .separated nonEmpty item _ => nonEmpty = true ∧ Solid item
  | _, .template elements => SomeElementSolid elements
  | _, .choice branches => AllBranchesSolid branches
  | _, .erased inner => Solid inner

def SomeElementSolid : List Element → Prop
  | [] => False
  | .literal text :: rest => text ≠ "" ∨ SomeElementSolid rest
  | .field _ part :: rest => Solid part ∨ SomeElementSolid rest
  | .skip part :: rest => Solid part ∨ SomeElementSolid rest

def AllBranchesSolid : List Branch → Prop
  | [] => True
  | .mk _ body :: rest => Solid body ∧ AllBranchesSolid rest

end

theorem allBranchesSolid_iff (branches : List Branch) :
    AllBranchesSolid branches ↔ ∀ branch ∈ branches, branch.BodyIs Solid := by
  induction branches with
  | nil => simp [AllBranchesSolid]
  | cons branch rest ih =>
      cases branch
      simp [AllBranchesSolid, Branch.BodyIs, ih]

/-- Every success moves the cursor. -/
def TakesText {shape : Shape} (grammar : Grammar shape) : Prop :=
  ∀ cursor next, (grammar.decode cursor).ending = .ok next → cursor.offset < next.offset

end Grammar

/-! ### Terminals and literals -/

theorem Terminal.offset_lt_of_decode {α : Type} {terminal : Terminal α}
    (hsolid : terminal.pattern.IsSolid) {cursor next : Cursor}
    (hend : (terminal.decode cursor).ending = .ok next) : cursor.offset < next.offset := by
  obtain ⟨value, hdecode⟩ := Outcome.ending_eq_ok_iff.1 hend
  have hstep := terminal.decodesTo cursor
  rw [hdecode] at hstep
  cases hstep with
  | @read front back hafter hmatch _ =>
      have hcount : Text.byteLength front ≠ 0 := by
        intro hzero
        exact hsolid cursor (hzero ▸ hmatch)
      change cursor.offset < cursor.offset + Text.byteLength front
      omega

theorem Cursor.offset_of_expect {cursor next : Cursor} {literal : String}
    (hexpect : cursor.expect literal = .ok next) :
    next.offset = cursor.offset + literal.utf8ByteSize := by
  by_cases hprefix : literal.toList <+: cursor.after
  · obtain ⟨back, hafter⟩ := hprefix
    rw [Cursor.expect_of_append hafter.symm] at hexpect
    cases hexpect
    rw [← Text.byteLength_toList]
    rfl
  · rw [Cursor.expect_of_not_prefix hprefix] at hexpect
    cases hexpect

/-! ### Templates and repetitions -/

/-- The solid element takes some text, and those around it do not go back. -/
theorem Element.Pass.offset_lt {elements : List Element}
    (hparts : ∀ element ∈ elements, element.PartIs fun part => part.Solid → part.TakesText)
    (hsolid : Grammar.SomeElementSolid elements) {cursor place : Cursor}
    (hpass : Element.Pass elements cursor place) : cursor.offset < place.offset := by
  induction elements generalizing cursor with
  | nil => exact hsolid.elim
  | cons element rest ih =>
      obtain ⟨hpart, hrest⟩ := List.forall_mem_cons.1 hparts
      obtain ⟨next, hnext, hlater⟩ := hpass
      have hfirst : cursor.offset ≤ next.offset := by
        have hsingle : Element.Pass [element] cursor next := ⟨next, hnext, rfl⟩
        exact (hsingle.leadsTo fun element _ => element.movesOn).offset_le
      have hbehind : next.offset ≤ place.offset :=
        (hlater.leadsTo fun element _ => element.movesOn).offset_le
      have hcases : cursor.offset < next.offset ∨ Grammar.SomeElementSolid rest := by
        cases element with
        | literal text =>
            refine hsolid.imp_left fun htext => ?_
            have hoffset := Cursor.offset_of_expect hnext
            have hsize : text.utf8ByteSize ≠ 0 := by simpa using htext
            omega
        | field name part => exact hsolid.imp_left fun hfield => hpart hfield cursor next hnext
        | skip part => exact hsolid.imp_left fun hskip => hpart hskip cursor next hnext
      rcases hcases with hmoved | hsolidRest
      · exact Nat.lt_of_lt_of_le hmoved hbehind
      · exact Nat.lt_of_le_of_lt hfirst (ih hrest hsolidRest hlater)

namespace Outcome

variable {α : Type} {gap : Cursor → Except (Fault DecodeError) Cursor} {item : Cursor → Outcome α}

/-- A repetition that must not be empty ends behind one of its items. -/
theorem looksAt_of_nonEmpty {cursor last : Cursor}
    (hend : (repetition true gap item cursor).ending = .ok last) :
    LooksAt gap item cursor last := by
  rcases @repetition_cases _ gap item true cursor with
    ⟨items, place, hitems, hplace⟩ | ⟨error, hfew, -⟩ | ⟨fault, hfault, -⟩
  · rw [hitems] at hend
    cases hend
    exact hplace.resolve_left fun hempty => nomatch hempty.1
  · rw [hfew] at hend
    cases hend
  · rw [hfault] at hend
    cases hend

theorem LooksAt.offset_lt (hgap : ∀ here start, gap here = .ok start → here.LeadsTo start)
    (hitem : ∀ start next, (item start).ending = .ok next → start.LeadsTo next)
    {cursor here : Cursor} (hlooks : LooksAt gap item cursor here) :
    cursor.offset < here.offset := by
  obtain ⟨first, ⟨value, hvalue, hmoved⟩, hturns⟩ := hlooks
  have hfirst := (hitem cursor first (ending_eq_ok_iff.2 ⟨value, hvalue⟩)).offset_le
  induction hturns with
  | refl => omega
  | tail _ hturn ih =>
      have hle := (hturn.leadsTo hgap hitem).offset_le
      omega

end Outcome

namespace Grammar

/-- Whatever the item is: a turn that takes no text ends the repetition with a fault. -/
theorem Loops.takesText {shape : Shape} {loop : Grammar (.list shape)}
    {gap : Cursor → Except (Fault DecodeError) Cursor} {item : Grammar shape}
    (hloop : loop.Loops gap item)
    (hdecode : ∀ cursor, loop.decode cursor = .repetition true gap item.decode cursor) :
    loop.TakesText := by
  intro cursor next hend
  rw [hdecode] at hend
  exact (Outcome.looksAt_of_nonEmpty hend).offset_lt hloop.gap_leadsTo item.movesOn

/-- **What a solid grammar accepts is not empty.** By induction on the grammar. -/
theorem takesText_of_solid {shape : Shape} (grammar : Grammar shape) (hsolid : grammar.Solid) :
    grammar.TakesText := by
  induction grammar with
  | terminal leaf => exact fun _ _ => leaf.offset_lt_of_decode hsolid
  | named name inner ih => exact ih hsolid
  | optional inner _ => exact hsolid.elim
  | repeated nonEmpty item _ =>
      obtain ⟨rfl, -⟩ := hsolid
      exact (Loops.repeated true item).takesText fun _ => rfl
  | separated nonEmpty item separator _ _ =>
      obtain ⟨rfl, -⟩ := hsolid
      exact (Loops.separated true item separator).takesText fun _ => rfl
  | template elements ih =>
      intro cursor next hend
      rw [decode] at hend
      rcases decodeElements_cases elements cursor .empty with
        ⟨record, place, hdecode, hpass⟩ | ⟨_, _, _, _, fault, _, _, _, hdecode⟩
      · rw [hdecode] at hend
        cases hend
        exact hpass.offset_lt ih hsolid
      · rw [hdecode] at hend
        cases hend
  | choice branches ih =>
      intro cursor next hend
      rw [decode] at hend
      rcases decodeBranches_cases branches cursor (Branch.names branches) cursor.offset with
        ⟨shape, front, name, body, back, rfl, -, hdecode⟩ | ⟨furthest, hdecode⟩
      · rw [hdecode, Outcome.ending_mapValue] at hend
        have hbody : (Branch.mk name body).BodyIs TakesText :=
          (ih _ (by simp)).mp ((allBranchesSolid_iff _).1 hsolid _ (by simp))
        exact hbody cursor next hend
      · rw [hdecode] at hend
        cases hend
  | erased inner ih =>
      intro cursor next hend
      rw [decode, Outcome.ending_mapValue] at hend
      exact ih hsolid cursor next hend

/-! ### Repetitions that never stand still -/

end Grammar

namespace Attempt

section Everywhere

variable {condition : {shape : Shape} → Grammar shape → Prop}

/-- The condition holds at every part of what is tried. -/
def Everywhere (condition : {shape : Shape} → Grammar shape → Prop) : Attempt → Prop
  | .part grammar _ => grammar.Everywhere condition
  | .literal _ _ => True

/-- What is tried is a part of what tries it. -/
theorem Tries.everywhere {whole tried : Attempt} (htries : whole.Tries tried)
    (hwhole : whole.Everywhere condition) : tried.Everywhere condition := by
  cases htries with
  | named name inner cursor => exact hwhole.2
  | optional inner cursor => exact hwhole.2
  | erased inner cursor => exact hwhole.2
  | element front element back hpass =>
      have hpart := (Grammar.everywhereElements_iff condition _).1 hwhole.2 element (by simp)
      cases element with
      | literal text => trivial
      | field name part => exact hpart
      | skip part => exact hpart
  | branch front name body back hfront =>
      exact (Grammar.everywhereBranches_iff condition _).1 hwhole.2 (.mk name body) (by simp)
  | item hloop htries =>
      cases hloop with
      | repeated nonEmpty item => exact hwhole.2
      | separated nonEmpty item separator => exact hwhole.2.1
  | separator nonEmpty item separator hlooks => exact hwhole.2.2

theorem Attempts.everywhere {whole attempt : Attempt} (hattempts : whole.Attempts attempt)
    (hwhole : whole.Everywhere condition) : attempt.Everywhere condition := by
  induction hattempts with
  | refl => exact hwhole
  | tail _ htries ih => exact htries.everywhere ih

end Everywhere

end Attempt

namespace Grammar

def ItemSolid : {shape : Shape} → Grammar shape → Prop
  | _, .repeated _ item => item.Solid
  | _, .separated _ item _ => item.Solid
  | _, .terminal _ | _, .named .. | _, .optional _ | _, .template _ | _, .choice _
  | _, .erased _ => True

/-- The items of all repetitions are solid, also of those inside items and separators. -/
def RepeatsSolid {shape : Shape} (grammar : Grammar shape) : Prop :=
  grammar.Everywhere ItemSolid

theorem Loops.item_solid {shape : Shape} {loop : Grammar (.list shape)}
    {gap : Cursor → Except (Fault DecodeError) Cursor} {item : Grammar shape}
    (hloop : loop.Loops gap item) (hsolid : loop.RepeatsSolid) : item.Solid := by
  cases hloop with
  | repeated nonEmpty item => exact hsolid.here
  | separated nonEmpty item separator => exact hsolid.here

/-- Such a fault would come from a repetition that tried its item where it took no text. -/
theorem RepeatsSolid.ne_zeroWidth {shape : Shape} {grammar : Grammar shape}
    (hsolid : grammar.RepeatsSolid) (cursor : Cursor) (offset : Nat) :
    grammar.decode cursor ≠ .fail (.zeroWidthRepetition offset) := by
  intro hdecode
  obtain ⟨origin, hattempts, hraises⟩ := grammar.tracesFaults cursor _ rfl hdecode
  have horigin : origin.Everywhere ItemSolid := hattempts.everywhere hsolid
  cases hraises with
  | idle hloop htries hidles =>
      obtain ⟨value, next, hitem, hidle⟩ := hidles
      have hmoved := takesText_of_solid _ (hloop.item_solid horigin) _ next
        (Outcome.ending_eq_ok_iff.2 ⟨value, hitem⟩)
      omega

end Grammar

/-! ### Examples of solid grammars -/

theorem Terminal.Takes.isSolid {α : Type} {terminal : Terminal α}
    {lexeme? : List Char → Option (List Char × List Char)} (htakes : terminal.Takes lexeme?)
    (hfront : ∀ text front back, lexeme? text = some (front, back) → front ≠ []) :
    terminal.pattern.IsSolid := by
  intro cursor hmatch
  rw [htakes.matchAt_eq] at hmatch
  obtain ⟨⟨front, back⟩, hlexeme, hlength⟩ := Option.map_eq_some_iff.1 hmatch
  have hpos := Text.byteLength_pos (hfront _ front back hlexeme)
  dsimp only at hlength
  omega

theorem Lexeme.ne_nil_of_run? {first part : Char → Bool} {text front back : List Char}
    (hrun : run? first part text = some (front, back)) : front ≠ [] := by
  cases text with
  | nil => cases hrun
  | cons c rest =>
      rw [run?] at hrun
      split at hrun
      · cases hrun
        exact List.cons_ne_nil _ _
      · cases hrun

namespace Statement

open Primitive

theorem solid_identifierLeaf : identifierLeaf.Solid :=
  takes_identifier.isSolid fun _ _ _ => Lexeme.ne_nil_of_run?

theorem solid_whitespaceLeaf : whitespaceLeaf.Solid :=
  takes_whitespace.isSolid fun _ _ _ => Lexeme.ne_nil_of_run?

theorem repeatsSolid_maybeWhitespace : maybeWhitespace.RepeatsSolid :=
  ⟨trivial, trivial⟩

theorem repeatsSolid_declaration : declaration.RepeatsSolid :=
  ⟨trivial, trivial, trivial, repeatsSolid_maybeWhitespace, repeatsSolid_maybeWhitespace, trivial,
    repeatsSolid_maybeWhitespace, trivial⟩

theorem repeatsSolid_assignment : assignment.RepeatsSolid :=
  ⟨trivial, trivial, repeatsSolid_maybeWhitespace, repeatsSolid_maybeWhitespace,
    ⟨trivial, trivial, trivial, trivial⟩, repeatsSolid_maybeWhitespace, trivial⟩

/-- A statement has a literal in it, whichever of the two it is. -/
theorem solid_statement : statement.Solid := by
  have hlet : "let" ≠ "" := by decide
  have hequals : "=" ≠ "" := by decide
  exact ⟨.inl hlet, .inr (.inr (.inl hequals)), trivial⟩

theorem repeatsSolid_statements : statements.RepeatsSolid :=
  ⟨solid_statement, ⟨trivial, repeatsSolid_declaration, repeatsSolid_assignment, trivial⟩,
    repeatsSolid_maybeWhitespace⟩

end Statement

namespace Grammar

/-- **Solid items exclude the fatal error.** A solid grammar takes at least one byte whenever it
succeeds. If the items of all repetitions in a grammar are solid, no text makes it report a
repetition without progress, at any cursor. The language of statements is such a grammar. -/
theorem solid_items_exclude_zeroWidth :
    (∀ {shape : Shape} (grammar : Grammar shape), grammar.Solid → ∀ cursor value next,
      grammar.decode cursor = .ok ⟨value, next⟩ → cursor.offset < next.offset) ∧
    (∀ {shape : Shape} (grammar : Grammar shape), grammar.RepeatsSolid → ∀ cursor offset,
      grammar.decode cursor ≠ .fail (.zeroWidthRepetition offset)) ∧
    ∀ cursor offset, Statement.statements.decode cursor ≠ .fail (.zeroWidthRepetition offset) := by
  refine ⟨?_, fun _ hsolid => hsolid.ne_zeroWidth, Statement.repeatsSolid_statements.ne_zeroWidth⟩
  intro shape grammar hsolid cursor value next hdecode
  exact takesText_of_solid grammar hsolid cursor next (Outcome.ending_eq_ok_iff.2 ⟨value, hdecode⟩)

/-- Words with white space between them, at least one. -/
def words : Grammar (.list (.scalar .text)) :=
  .separated true Statement.identifierLeaf Statement.whitespaceLeaf

/-- Groups of words, with a semicolon and any white space between them. -/
def wordGroups : Grammar (.list (.list (.scalar .text))) :=
  .separated false words
    (.template [.literal ";", .skip (.repeated false Statement.whitespaceLeaf)])

/-- There are repetitions in the item and in the separator. The one in the separator may take
nothing, as it is an item of nothing. -/
theorem solid_items_exclude_zeroWidth_wordGroups :
    words.Solid ∧ wordGroups.RepeatsSolid ∧
      words.decode (.start "a b") = .ok ⟨["a", "b"], .between ['a', ' ', 'b'] []⟩ ∧
      (Cursor.start "a b").offset < (Cursor.between ['a', ' ', 'b'] []).offset ∧
      wordGroups.decode (.start "a b;c;") =
        .ok ⟨[["a", "b"], ["c"]], .between ['a', ' ', 'b', ';', 'c'] [';']⟩ ∧
      ∀ cursor offset, wordGroups.decode cursor ≠ .fail (.zeroWidthRepetition offset) := by
  have hwords : words.Solid := ⟨rfl, Statement.solid_identifierLeaf⟩
  have hgroups : wordGroups.RepeatsSolid :=
    ⟨hwords, ⟨Statement.solid_identifierLeaf, trivial, trivial⟩, trivial,
      ⟨Statement.solid_whitespaceLeaf, trivial⟩, trivial⟩
  have hdecode : words.decode (.start "a b") = .ok ⟨["a", "b"], .between ['a', ' ', 'b'] []⟩ := rfl
  exact ⟨hwords, hgroups, hdecode, solid_items_exclude_zeroWidth.1 words hwords _ _ _ hdecode, rfl,
    solid_items_exclude_zeroWidth.2.1 wordGroups hgroups⟩

end Grammar

end TwoWay
