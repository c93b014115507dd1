import TwoWay.Proofs.StatementTokens

/-!
# The language of statements

The texts of declarations, assignments and programs are described by what stands in them, with white
space wherever it may be. Parsing accepts these texts and no others, and yields what they stand for.
The decoder never takes back a choice: a token runs on as far as it can, the first branch that
applies is kept, and a statement once read stays read. No text of the language is lost by that,
since every token ends before a character that it cannot take, and since a target that is `let` is
followed by an equals sign, where a declaration has a name.
-/

namespace TwoWay.Statement

open Primitive Lexeme

/-- An equals sign, a bound text and a semicolon, with white space before each of them or not. -/
def Binds (bound : List Char → Prop) (text : List Char) : Prop :=
  ∃ before after operand last,
    text = before ++ ('=' :: (after ++ (operand ++ (last ++ [';'])))) ∧
      IsGap before ∧ IsGap after ∧ bound operand ∧ IsGap last

/-- The word `let`, white space, a name and a string literal bound to it. -/
def Declares (text : List Char) (record : Record) : Prop :=
  ∃ gap name content binding,
    text = ['l', 'e', 't'] ++ (gap ++ (name.toList ++ binding)) ∧ IsGap gap ∧ gap ≠ [] ∧
      IsIdentifier name ∧ Binds (LiteralOf content) binding ∧
      record = declarationRecord name content

/-- A target, and an integer or a string literal bound to it. -/
def Assigns (text : List Char) (record : Record) : Prop :=
  ∃ target operand binding,
    text = target.toList ++ binding ∧ IsIdentifier target ∧ Binds operand.SpelledBy binding ∧
      record = assignmentRecord target operand

def States (text : List Char) (tagged : Tagged) : Prop :=
  ∃ record : Record,
    tagged = ⟨"let", record.toValue⟩ ∧ Declares text record ∨
      tagged = ⟨"set", record.toValue⟩ ∧ Assigns text record

/-- Statements with white space between them or not. -/
def IsProgram : List Char → List Tagged → Prop :=
  SeparatedBy IsGap States

/-! ### What is derived is in the language -/

/-- What stands behind the name in a declaration or assignment. -/
def bindingElements {shape : Shape} (part : Grammar shape) : List Element :=
  [.skip maybeWhitespace, .literal "=", .skip maybeWhitespace, .field "value" part,
    .skip maybeWhitespace, .literal ";"]

theorem binds_of_elementsDerive {shape : Shape} {part : Grammar shape} {text : List Char}
    {fields : List (String × Value)}
    (hderives : Grammar.ElementsDerive (bindingElements part) text fields) :
    ∃ content, fields = [("value", shape.toValue content)] ∧
      Binds (fun operand => part.Derives operand content) text := by
  obtain ⟨before, _, _, rfl, hbefore, _, rfl, after, _, _, rfl, hafter, operand, _, content, _,
    rfl, rfl, hoperand, last, _, _, rfl, hlast, _, rfl, rfl, rfl⟩ := hderives
  exact ⟨content, rfl, before, after, operand, last, rfl, isGap_of_derives hbefore,
    isGap_of_derives hafter, hoperand, isGap_of_derives hlast⟩

theorem Binds.imp {bound bound' : List Char → Prop}
    (himp : ∀ operand, bound operand → bound' operand) {text : List Char}
    (hbinds : Binds bound text) : Binds bound' text := by
  obtain ⟨before, after, operand, last, htext, hbefore, hafter, hoperand, hlast⟩ := hbinds
  exact ⟨before, after, operand, last, htext, hbefore, hafter, himp operand hoperand, hlast⟩

theorem declares_of_derives {text : List Char} {record : Record}
    (hderives : declaration.Derives text record) : Declares text record := by
  obtain ⟨fields⟩ := record
  obtain ⟨_, rfl, gap, _, _, rfl, hspace, first, binding, name, more, rfl, rfl, hfirst, hbinding⟩ :=
    hderives
  obtain ⟨hgap, hnonempty⟩ := isGap_of_spells hspace
  obtain ⟨rfl, hname⟩ := isIdentifier_of_spells hfirst
  obtain ⟨content, rfl, hbinds⟩ := binds_of_elementsDerive hbinding
  exact ⟨gap, name, content, binding, rfl, hgap, hnonempty, hname,
    hbinds.imp fun _ hliteral => literalOf_of_spells hliteral, rfl⟩

theorem assigns_of_derives {text : List Char} {record : Record}
    (hderives : assignment.Derives text record) : Assigns text record := by
  obtain ⟨fields⟩ := record
  obtain ⟨first, binding, target, more, rfl, rfl, hfirst, hbinding⟩ := hderives
  obtain ⟨rfl, htarget⟩ := isIdentifier_of_spells hfirst
  obtain ⟨tagged, rfl, before, after, bound, last, htext, hbefore, hafter, hbound, hlast⟩ :=
    binds_of_elementsDerive hbinding
  obtain ⟨operand, rfl, hspelled⟩ := spelledBy_of_derives hbound
  exact ⟨target, operand, binding, rfl, htarget,
    ⟨before, after, bound, last, htext, hbefore, hafter, hspelled, hlast⟩, rfl⟩

theorem states_of_derives {text : List Char} {tagged : Tagged}
    (hderives : statement.Derives text tagged) : States text tagged := by
  obtain ⟨record, rfl, hrecord⟩ | ⟨record, rfl, hrecord⟩ | hnone := hderives
  · exact ⟨record, .inl ⟨rfl, declares_of_derives hrecord⟩⟩
  · exact ⟨record, .inr ⟨rfl, assigns_of_derives hrecord⟩⟩
  · exact hnone.elim

theorem isProgram_of_derives {text : List Char} {content : List Tagged}
    (hderives : statements.Derives text content) : IsProgram text content :=
  hderives.2.imp (fun _ ⟨_, hgap⟩ => isGap_of_derives hgap) fun _ _ => states_of_derives

/-! ### What is in the language is read -/

theorem IsGap.stops {gap : List Char} (hgap : IsGap gap) {part : Char → Bool}
    (hblank : ∀ c, isBlank c = true → part c = false) {rest : List Char} (hrest : Stops part rest) :
    Stops part (gap ++ rest) := by
  cases gap with
  | nil => exact hrest
  | cons c more => exact stops_cons (hblank c (hgap c List.mem_cons_self)) _

theorem not_identifierPart_of_isBlank {c : Char} (hblank : isBlank c = true) :
    isIdentifierPart c = false := by
  rw [Bool.eq_false_iff]
  intro hpart
  rw [not_isBlank_of_identifierPart hpart] at hblank
  cases hblank

theorem not_isDigit_of_isBlank {c : Char} (hblank : isBlank c = true) : c.isDigit = false := by
  have hpart := not_identifierPart_of_isBlank hblank
  simp only [isIdentifierPart, Char.isAlphanum, Bool.or_eq_false_iff] at hpart
  exact hpart.1.2

theorem Binds.stops {bound : List Char → Prop} {text : List Char} (hbinds : Binds bound text)
    (rest : List Char) : Stops isIdentifierPart (text ++ rest) := by
  obtain ⟨before, after, operand, last, rfl, hbefore, -⟩ := hbinds
  rw [List.append_assoc]
  exact hbefore.stops (fun _ => not_identifierPart_of_isBlank) (stops_cons rfl _)

theorem reads_skip_gap {elements : List Element} {record result : Record}
    {gap text rest : List Char} (hgap : IsGap gap) (hstops : Stops isBlank (text ++ rest))
    (hrest : Reads (fun cursor => Grammar.decodeElements elements cursor record) text result rest) :
    Reads (fun cursor => Grammar.decodeElements (.skip maybeWhitespace :: elements) cursor record)
      (gap ++ text) result rest := by
  obtain ⟨content, hreads⟩ := reads_gap hgap hstops
  exact Grammar.reads_skip hreads hrest

theorem Binds.reads {shape : Shape} {part : Grammar shape} {content : shape.Carrier}
    {bound : List Char → Prop}
    (hreads : ∀ operand, bound operand → ∀ rest, Stops Char.isDigit rest →
      Reads part.decode operand content rest)
    (hstops : ∀ operand, bound operand → ∀ rest, Stops isBlank (operand ++ rest))
    {text : List Char} (hbinds : Binds bound text) (record : Record) (rest : List Char) :
    Reads (fun cursor => Grammar.decodeElements (bindingElements part) cursor record) text
      (record.set "value" (shape.toValue content)) rest := by
  obtain ⟨before, after, operand, last, rfl, hbefore, hafter, hoperand, hlast⟩ := hbinds
  have hsemicolon : Stops Char.isDigit ((last ++ [';']) ++ rest) := by
    rw [List.append_assoc]
    exact hlast.stops (fun _ => not_isDigit_of_isBlank) (stops_cons rfl _)
  refine reads_skip_gap hbefore (stops_cons rfl _) (Grammar.reads_literal rfl ?_)
  refine reads_skip_gap hafter ?_ (Grammar.reads_field "value" (hreads operand hoperand _ ?_) ?_)
  · rw [List.append_assoc]
    exact hstops operand hoperand _
  · exact hsemicolon
  refine reads_skip_gap hlast (stops_cons rfl _) ?_
  exact Grammar.reads_literal rfl (Grammar.reads_elements_nil _ rest)

theorem LiteralOf.stops {content : String} {text : List Char} (hliteral : LiteralOf content text)
    (rest : List Char) : Stops isBlank (text ++ rest) := by
  obtain ⟨body, rfl, -⟩ := hliteral
  exact stops_cons rfl _

theorem NumeralOf.stops {n : Int64} {text : List Char} (hnumeral : NumeralOf n text)
    (rest : List Char) : Stops isBlank (text ++ rest) := by
  obtain ⟨negative, digits, rfl, hdigits, -⟩ := hnumeral
  cases negative with
  | true => exact stops_cons rfl _
  | false =>
      have hall := hdigits.isDigit
      obtain ⟨c, more, rfl⟩ := List.exists_cons_of_ne_nil hdigits.ne_nil
      refine stops_cons (not_isBlank_of_identifierPart ?_) _
      simp [isIdentifierPart, Char.isAlphanum, hall c List.mem_cons_self]

theorem Operand.SpelledBy.stops {operand : Operand} {chars : List Char}
    (hspelled : operand.SpelledBy chars) (rest : List Char) : Stops isBlank (chars ++ rest) := by
  cases operand with
  | integer n => exact NumeralOf.stops hspelled rest
  | text content => exact LiteralOf.stops hspelled rest

theorem Declares.reads {text : List Char} {record : Record} (hdeclares : Declares text record)
    (rest : List Char) : Reads declaration.decode text record rest := by
  obtain ⟨gap, name, content, binding, rfl, hgap, hnonempty, hname, hbinds, rfl⟩ := hdeclares
  refine Grammar.reads_literal rfl (Grammar.reads_skip (reads_whitespace hgap hnonempty ?_) ?_)
  · rw [List.append_assoc]
    exact hname.stops_isBlank _
  apply Grammar.reads_field "name" (reads_identifier hname (hbinds.stops rest))
  exact hbinds.reads (fun _ hliteral rest _ => hliteral.reads rest)
    (fun _ hliteral => hliteral.stops) _ rest

theorem Assigns.reads {text : List Char} {record : Record} (hassigns : Assigns text record)
    (rest : List Char) : Reads assignment.decode text record rest := by
  obtain ⟨target, operand, binding, rfl, htarget, hbinds, rfl⟩ := hassigns
  apply Grammar.reads_field "target" (reads_identifier htarget (hbinds.stops rest))
  exact hbinds.reads (fun _ hspelled _ => reads_of_spelledBy hspelled)
    (fun _ hspelled => hspelled.stops) _ rest

/-- Behind the letters `let` at the start of an assignment stands the rest of its target, or the
target ends there. -/
theorem behind_let {target : String} (htarget : IsIdentifier target) {gap more tail : List Char}
    (hgap : IsGap gap)
    (htext : target.toList ++ (gap ++ '=' :: tail) = ['l', 'e', 't'] ++ more) :
    more = gap ++ '=' :: tail ∨ Stops isBlank more := by
  obtain ⟨between, hlet, hrest⟩ | ⟨between, hlist, rfl⟩ := List.append_eq_append_iff.1 htext
  · cases between with
    | nil => exact .inl hrest.symm
    | cons c others =>
        -- The target would end within the word, but no letter of it can follow a target.
        have hpart : isIdentifierPart c = false := by
          have hstops : Stops isIdentifierPart (gap ++ '=' :: tail) :=
            hgap.stops (fun _ => not_identifierPart_of_isBlank) (stops_cons rfl _)
          rw [hrest] at hstops
          exact hstops c rfl
        have hmem : c ∈ ['l', 'e', 't'] := by
          rw [hlet]
          simp
        simp only [List.mem_cons, List.not_mem_nil, or_false] at hmem
        rcases hmem with rfl | rfl | rfl <;> cases hpart
  · cases between with
    | nil => exact .inl rfl
    | cons c others =>
        refine .inr (stops_cons (not_isBlank_of_identifierPart (htarget.all_parts c ?_)) _)
        rw [hlist]
        simp

/-- What a declaration has behind `let` does not start with an equals sign, nor with white space and
an equals sign. -/
theorem refuses_behind_let {gap tail : List Char} (hgap : IsGap gap) (record : Record) :
    Refuses (fun cursor => Grammar.decodeElements declarationElements.tail cursor record)
      (gap ++ '=' :: tail) := by
  by_cases hempty : gap = []
  · subst hempty
    exact Grammar.refuses_skip (refuses_whitespace (stops_cons rfl _))
  · refine Grammar.refuses_behind_skip (reads_whitespace hgap hempty (stops_cons rfl _)) ?_
    exact Grammar.refuses_field "name" (takes_identifier.refuses rfl)

/-- **No assignment is taken for a declaration.** Where a name should follow `let`, there is no
white space, or an equals sign behind it. -/
theorem Assigns.refuses_declaration {text : List Char} {record : Record}
    (hassigns : Assigns text record) (rest : List Char) :
    Refuses declaration.decode (text ++ rest) := by
  obtain ⟨target, operand, binding, rfl, htarget, hbinds, -⟩ := hassigns
  obtain ⟨gap, after, bound, last, rfl, hgap, -⟩ := hbinds
  rw [List.append_assoc, List.append_assoc, List.cons_append]
  generalize (after ++ (bound ++ (last ++ [';']))) ++ rest = tail
  by_cases hlet : ['l', 'e', 't'] <+: target.toList ++ (gap ++ '=' :: tail)
  · obtain ⟨more, hmore⟩ := hlet
    rw [← hmore]
    refine Grammar.refuses_behind_literal rfl ?_
    obtain rfl | hstops := behind_let htarget hgap hmore.symm
    · exact refuses_behind_let hgap _
    · exact Grammar.refuses_skip (refuses_whitespace hstops)
  · exact Grammar.refuses_literal hlet

theorem States.reads {text : List Char} {tagged : Tagged} (hstates : States text tagged)
    (rest : List Char) : Reads statement.decode text tagged rest := by
  obtain ⟨record, ⟨rfl, hdeclares⟩ | ⟨rfl, hassigns⟩⟩ := hstates
  · exact (Grammar.branchesRead_of_reads "let" _ (hdeclares.reads rest)).choice
  · exact (Grammar.branchesRead_of_refuses "let" (hassigns.refuses_declaration rest)
      (Grammar.branchesRead_of_reads "set" [] (hassigns.reads rest))).choice

theorem States.exists_cons {text : List Char} {tagged : Tagged} (hstates : States text tagged) :
    ∃ c rest, text = c :: rest ∧ isBlank c = false := by
  obtain ⟨record, ⟨-, hdeclares⟩ | ⟨-, hassigns⟩⟩ := hstates
  · obtain ⟨gap, name, content, binding, rfl, -⟩ := hdeclares
    exact ⟨'l', _, rfl, rfl⟩
  · obtain ⟨target, operand, binding, rfl, htarget, -⟩ := hassigns
    have hparts := htarget.all_parts
    obtain ⟨c, more, hlist, -⟩ := htarget
    rw [hlist] at hparts ⊢
    exact ⟨c, _, rfl, not_isBlank_of_identifierPart (hparts c List.mem_cons_self)⟩

/-- Step by step: a gap ends where the next statement starts, and a statement ends at its
semicolon. -/
theorem readsAll_of_follows {text : List Char} {content : List Tagged}
    (hfollows : Follows IsGap States text content) :
    ∃ pieces, text = pieces.flatMap Prod.fst ∧ content = pieces.map Prod.snd ∧
      Outcome.ReadsAll (fun here => ((maybeWhitespace.decode here).map Decoded.cursor).bind
        (Outcome.consuming statement.decode)) [] pieces := by
  induction hfollows with
  | nil =>
      have hend : Stops isBlank [] := fun _ hmem => nomatch hmem
      exact ⟨[], rfl, rfl, Outcome.refuses_behind_gap (reads_noSpace hend) refuses_statement_nil⟩
  | @cons between first rest tagged more hgap hstates _ ih =>
      obtain ⟨pieces, rfl, rfl, hpieces⟩ := ih
      refine ⟨(between ++ first, tagged) :: pieces, by simp, rfl, ?_⟩
      have hreads := hstates.reads (pieces.flatMap Prod.fst ++ [])
      obtain ⟨c, others, rfl, hc⟩ := hstates.exists_cons
      obtain ⟨dropped, hdropped⟩ :=
        reads_gap hgap (stops_cons hc (others ++ (pieces.flatMap Prod.fst ++ [])))
      refine ⟨by simp, ?_, hpieces⟩
      exact Outcome.reads_behind_gap (List.cons_ne_nil c others) hdropped hreads

theorem IsProgram.reads {text : List Char} {content : List Tagged}
    (hprogram : IsProgram text content) : Reads statements.decode text content [] := by
  cases hprogram with
  | none => exact Outcome.reads_repetition_nil refuses_statement_nil
  | some hfirst hrest =>
      obtain ⟨pieces, rfl, rfl, hpieces⟩ := readsAll_of_follows hrest
      obtain ⟨c, others, rfl, -⟩ := hfirst.exists_cons
      exact Outcome.reads_repetition false (List.cons_ne_nil c others) (hfirst.reads _) hpieces

/-! ### Parsing and the language -/

/-- Parsing yields what the texts of the language stand for, and no text stands for two things. -/
structure Recognizes {shape : Shape} (grammar : Grammar shape)
    (language : List Char → shape.Carrier → Prop) : Prop where
  parse_eq_ok_iff : ∀ text content,
    grammar.parse text = .ok content ↔ language text.toList content
  unique : Relator.RightUnique language

theorem recognizes_of_reads {shape : Shape} {grammar : Grammar shape} (hbuilt : grammar.Built)
    {language : List Char → shape.Carrier → Prop}
    (hderives : ∀ {text content}, grammar.Derives text content → language text content)
    (hreads : ∀ {text content}, language text content → Reads grammar.decode text content []) :
    Recognizes grammar language := by
  have hiff : ∀ text content,
      grammar.parse text = .ok content ↔ language text.toList content := fun text content =>
    ⟨fun hparse => hderives (Grammar.derives_of_parse hbuilt hparse),
      fun hlanguage => Grammar.parse_of_reads (hreads hlanguage)⟩
  refine ⟨hiff, fun text content other hcontent hother => ?_⟩
  rw [← @String.toList_ofList text, ← hiff] at hcontent hother
  rw [hcontent] at hother
  cases hother
  rfl

/-- **Parsing accepts the language of statements,** with the meaning it has there, and so it does
for single declarations and assignments. -/
theorem statements_recognized :
    Recognizes statements IsProgram ∧ Recognizes declaration Declares ∧
      Recognizes assignment Assigns :=
  ⟨recognizes_of_reads built_statements isProgram_of_derives IsProgram.reads,
    recognizes_of_reads built_declaration declares_of_derives fun hdeclares => hdeclares.reads [],
    recognizes_of_reads built_assignment assigns_of_derives fun hassigns => hassigns.reads []⟩

/-- The word `let` as a target, with white space behind it, and as a name. Where a name stands
between it and the equals sign, only a string literal may follow. -/
theorem statements_recognized_let :
    IsProgram "let = -0;\r\nlet\tlet=\"a\\tb\" ;set=1;".toList
        [⟨"set", (assignmentRecord "let" (.integer 0)).toValue⟩,
          ⟨"let", (declarationRecord "let" "a\tb").toValue⟩,
          ⟨"set", (assignmentRecord "set" (.integer 1)).toValue⟩] ∧
      ∀ content, ¬ IsProgram "let x = 1;".toList content := by
  have hiff := statements_recognized.1.parse_eq_ok_iff
  constructor
  · apply (hiff _ _).1
    rfl
  · intro content hprogram
    have hparse := (hiff _ content).2 hprogram
    have hfails : statements.parse "let x = 1;" = .error (.error (.trailingInput 0 10)) := rfl
    rw [hfails] at hparse
    cases hparse

end TwoWay.Statement
