import TwoWay.CommandLine
import TwoWay.Proofs.Literals
import TwoWay.Proofs.Reading
import TwoWay.Proofs.Stability

/-!
# Statements round-trip

Statements are rendered without any white space but the one behind `let`, each up against the next.
Every piece of such a text ends where the next one starts: names end before an equals sign,
numerals before a semicolon, literals at their closing quote. A target that is `let` or starts with
it is not taken for a declaration, since no white space follows. So the text of every list of
statements is read back, and what is read from any text is such a list.
-/

namespace TwoWay.Statement

open Primitive Lexeme

/-! ### The leaves -/

/-- A letter or underscore, then letters, digits and underscores. -/
def IsIdentifier (name : String) : Prop :=
  ∃ c rest, name.toList = c :: rest ∧ isIdentifierStart c = true ∧
    ∀ d ∈ rest, isIdentifierPart d = true

theorem IsIdentifier.all_parts {name : String} (hname : IsIdentifier name) :
    ∀ c ∈ name.toList, isIdentifierPart c = true := by
  obtain ⟨c, rest, hlist, hc, hrest⟩ := hname
  rw [hlist]
  exact List.forall_mem_cons.2 ⟨isIdentifierPart_of_start hc, hrest⟩

theorem IsIdentifier.stops_isBlank {name : String} (hname : IsIdentifier name)
    (rest : List Char) : Stops isBlank (name.toList ++ rest) := by
  have hparts := hname.all_parts
  obtain ⟨c, more, hlist, -⟩ := hname
  rw [hlist, List.cons_append]
  exact stops_cons (not_isBlank_of_identifierPart (hparts c (hlist ▸ List.mem_cons_self))) _

theorem reads_identifier {name : String} (hname : IsIdentifier name) {rest : List Char}
    (hrest : Stops isIdentifierPart rest) :
    Reads identifierLeaf.decode name.toList name rest := by
  obtain ⟨c, more, hlist, hc, hmore⟩ := hname
  have hlexeme : run? isIdentifierStart isIdentifierPart (name.toList ++ rest) =
      some (name.toList, rest) := by
    rw [hlist]
    exact run?_append hc hmore hrest
  apply takes_identifier.reads hlexeme
  rw [String.ofList_toList]
  rfl

theorem isIdentifier_of_decode {cursor next : Cursor} {name : String}
    (hdecode : identifier.decode cursor = .ok ⟨name, next⟩) : IsIdentifier name := by
  cases hlexeme : run? isIdentifierStart isIdentifierPart cursor.after with
  | none =>
      rw [takes_identifier.decode_of_none hlexeme] at hdecode
      cases hdecode
  | some split =>
      obtain ⟨front, back⟩ := split
      rw [takes_identifier.decode_of_some hlexeme] at hdecode
      cases hdecode
      unfold run? at hlexeme
      split at hlexeme
      · cases hlexeme
      · rename_i c rest _
        split at hlexeme
        · rename_i hc
          cases hlexeme
          refine ⟨c, _, String.toList_ofList, hc, ?_⟩
          exact List.all_eq_true.1 List.all_takeWhile
        · cases hlexeme

theorem reads_string (content : String) (rest : List Char) :
    Reads stringLeaf.decode (Text.escaped content).toList content rest := by
  refine takes_stringLiteral.reads (literal?_escaped content rest) ?_
  simp [stringLiteral, Text.unescape_escaped, Except.mapError]

theorem reads_integer (n : Int64) {rest : List Char} (hrest : Stops Char.isDigit rest) :
    Reads integerLeaf.decode (Text.numeral n.toInt).toList n rest := by
  refine takes_integer.reads (numeral?_numeral n.toInt hrest) ?_
  simp [integer, Conversion.integer, Conversion.readInteger, Text.readInt64_numeral,
    Except.mapError]

theorem refuses_integer (rest : List Char) : Refuses integerLeaf.decode ('"' :: rest) :=
  takes_integer.refuses rfl

theorem refuses_whitespace {rest : List Char} (hrest : Stops isBlank rest) :
    Refuses whitespaceLeaf.decode rest := by
  apply takes_whitespace.refuses
  cases rest with
  | nil => rfl
  | cons c more =>
      have hc : ¬ isBlank c = true := by simp [hrest c rfl]
      rw [run?, if_neg hc]

theorem reads_space {rest : List Char} (hrest : Stops isBlank rest) :
    Reads whitespaceLeaf.decode [' '] " " rest :=
  takes_whitespace.reads (run?_append rfl (fun _ hmem => nomatch hmem) hrest) rfl

theorem reads_noSpace {rest : List Char} (hrest : Stops isBlank rest) :
    Reads maybeWhitespace.decode [] none rest :=
  (refuses_whitespace hrest).reads_optional

/-! ### The texts of statements -/

inductive Operand
  | integer (n : Int64)
  | text (content : String)

def Operand.tagged : Operand → Tagged
  | .integer n => ⟨"int", .int n⟩
  | .text content => ⟨"str", .str content⟩

def Operand.spelling : Operand → String
  | .integer n => Text.numeral n.toInt
  | .text content => Text.escaped content

def declarationRecord (name content : String) : Record :=
  ⟨[("name", .str name), ("value", .str content)]⟩

def assignmentRecord (target : String) (operand : Operand) : Record :=
  ⟨[("target", .str target), ("value", operand.tagged.toValue)]⟩

def declarationText (name content : String) : String :=
  "let" ++ " " ++ name ++ "=" ++ Text.escaped content ++ ";"

def assignmentText (target : String) (operand : Operand) : String :=
  target ++ "=" ++ operand.spelling ++ ";"

theorem reads_operand (operand : Operand) {rest : List Char} (hrest : Stops Char.isDigit rest) :
    Reads Statement.operand.decode operand.spelling.toList operand.tagged rest := by
  cases operand with
  | integer n =>
      exact (Grammar.branchesRead_of_reads "int" _ (reads_integer n hrest)).choice
  | text content =>
      have hrefuses : Refuses integerLeaf.decode ((Text.escaped content).toList ++ rest) := by
        rw [Text.escaped, String.toList_ofList]
        exact refuses_integer _
      exact (Grammar.branchesRead_of_refuses "int" hrefuses
        (Grammar.branchesRead_of_reads "str" [] (reads_string content rest))).choice

theorem Operand.stops_isBlank (operand : Operand) (rest : List Char) :
    Stops isBlank (operand.spelling.toList ++ rest) := by
  cases operand with
  | integer n =>
      rw [spelling, Text.numeral, String.toList_ofList]
      split
      · exact stops_cons rfl _
      · obtain ⟨c, more, hdigits⟩ :=
          List.exists_cons_of_ne_nil (@Nat.toDigits_ne_nil n.toInt.natAbs 10)
        have hdigit := Text.isDigit_of_mem_toDigits n.toInt.natAbs c (hdigits ▸ List.mem_cons_self)
        rw [hdigits, List.cons_append]
        refine stops_cons (not_isBlank_of_identifierPart ?_) _
        simp [isIdentifierPart, Char.isAlphanum, hdigit]
  | text content =>
      rw [spelling, Text.toList_escaped]
      exact stops_cons rfl _

theorem reads_skip_noSpace {elements : List Element} {record result : Record}
    {text rest : List Char} (hstops : Stops isBlank (text ++ rest))
    (hrest : Reads (fun cursor => Grammar.decodeElements elements cursor record) text result rest) :
    Reads (fun cursor => Grammar.decodeElements (.skip maybeWhitespace :: elements) cursor record)
      text result rest :=
  Grammar.reads_skip (reads_noSpace hstops) hrest

theorem toList_declarationText (name content : String) :
    (declarationText name content).toList = ['l', 'e', 't'] ++ ([' '] ++ (name.toList ++ (['='] ++
      ((Text.escaped content).toList ++ ([';'] ++ []))))) := by
  simp [declarationText]

theorem toList_assignmentText (target : String) (operand : Operand) :
    (assignmentText target operand).toList = target.toList ++ (['='] ++
      (operand.spelling.toList ++ ([';'] ++ []))) := by
  simp [assignmentText]

theorem reads_declaration {name : String} (hname : IsIdentifier name) (content : String)
    (rest : List Char) :
    Reads declaration.decode (declarationText name content).toList
      (declarationRecord name content) rest := by
  rw [toList_declarationText]
  refine Grammar.reads_literal rfl (Grammar.reads_skip (reads_space ?_) ?_)
  · rw [List.append_assoc]
    exact hname.stops_isBlank _
  apply Grammar.reads_field "name" (reads_identifier hname (stops_cons rfl _))
  refine reads_skip_noSpace (stops_cons rfl _) (Grammar.reads_literal rfl ?_)
  refine reads_skip_noSpace ?_ (Grammar.reads_field "value" (reads_string content _) ?_)
  · rw [Text.toList_escaped]
    exact stops_cons rfl _
  refine reads_skip_noSpace (stops_cons rfl _) (Grammar.reads_literal rfl ?_)
  exact Grammar.reads_elements_nil _ rest

theorem reads_assignment {target : String} (htarget : IsIdentifier target) (operand : Operand)
    (rest : List Char) :
    Reads assignment.decode (assignmentText target operand).toList
      (assignmentRecord target operand) rest := by
  rw [toList_assignmentText]
  apply Grammar.reads_field "target" (reads_identifier htarget (stops_cons rfl _))
  refine reads_skip_noSpace (stops_cons rfl _) (Grammar.reads_literal rfl ?_)
  refine reads_skip_noSpace ?_
    (Grammar.reads_field "value" (reads_operand operand (stops_cons rfl _)) ?_)
  · rw [List.append_assoc]
    exact operand.stops_isBlank _
  refine reads_skip_noSpace (stops_cons rfl _) (Grammar.reads_literal rfl ?_)
  exact Grammar.reads_elements_nil _ rest

theorem stops_isBlank_behind_let {target : String} (htarget : IsIdentifier target)
    {more tail : List Char} (htext : target.toList ++ '=' :: tail = ['l', 'e', 't'] ++ more) :
    Stops isBlank more := by
  have hparts := htarget.all_parts
  obtain ⟨between, hlet, hrest⟩ | ⟨between, hlist, rfl⟩ := List.append_eq_append_iff.1 htext
  · cases between with
    | nil =>
        rw [List.nil_append] at hrest
        exact hrest ▸ stops_cons rfl _
    | cons c others =>
        have hequals : c = '=' := (List.cons.inj hrest).1.symm
        have hmem : '=' ∈ ['l', 'e', 't'] := by
          rw [hlet, ← hequals]
          simp
        exact absurd hmem (by decide)
  · cases between with
    | nil => exact stops_cons rfl _
    | cons c others =>
        refine stops_cons (not_isBlank_of_identifierPart (hparts c ?_)) _
        rw [hlist]
        simp

/-- **An assignment is never taken for a declaration,** not even where its target is `let` or starts
with it. -/
theorem refuses_declaration {target : String} (htarget : IsIdentifier target) (operand : Operand)
    (rest : List Char) :
    Refuses declaration.decode ((assignmentText target operand).toList ++ rest) := by
  have htext : (assignmentText target operand).toList ++ rest =
      target.toList ++ '=' :: (operand.spelling.toList ++ ';' :: rest) := by
    simp [toList_assignmentText]
  rw [htext]
  by_cases hlet : ['l', 'e', 't'] <+:
      target.toList ++ '=' :: (operand.spelling.toList ++ ';' :: rest)
  · obtain ⟨more, hmore⟩ := hlet
    rw [← hmore]
    refine Grammar.refuses_behind_literal rfl (Grammar.refuses_skip (refuses_whitespace ?_))
    exact stops_isBlank_behind_let htarget hmore.symm
  · exact Grammar.refuses_literal hlet

theorem reads_let {name : String} (hname : IsIdentifier name) (content : String)
    (rest : List Char) :
    Reads statement.decode (declarationText name content).toList
      ⟨"let", (declarationRecord name content).toValue⟩ rest :=
  (Grammar.branchesRead_of_reads "let" _ (reads_declaration hname content rest)).choice

theorem reads_set {target : String} (htarget : IsIdentifier target) (operand : Operand)
    (rest : List Char) :
    Reads statement.decode (assignmentText target operand).toList
      ⟨"set", (assignmentRecord target operand).toValue⟩ rest :=
  (Grammar.branchesRead_of_refuses "let" (refuses_declaration htarget operand rest)
    (Grammar.branchesRead_of_reads "set" [] (reads_assignment htarget operand rest))).choice

theorem refuses_statement_nil : Refuses statement.decode [] := by
  refine Grammar.refuses_choice (List.forall_mem_cons.2 ⟨?_, List.forall_mem_cons.2 ⟨?_, ?_⟩⟩)
  · exact Grammar.refuses_literal (by decide)
  · exact Grammar.refuses_field "target" (takes_identifier.refuses rfl)
  · exact fun _ hmem => nomatch hmem

/-! ### Values that have a rendering -/

/-- The record has the two fields, in either order. -/
def HasFields (record : Record) (first second : String × Value) : Prop :=
  record.fields = [first, second] ∨ record.fields = [second, first]

def IsDeclaration (record : Record) : Prop :=
  ∃ name content, IsIdentifier name ∧
    HasFields record ("name", .str name) ("value", .str content)

def IsAssignment (record : Record) : Prop :=
  ∃ target, ∃ operand : Operand, IsIdentifier target ∧
    HasFields record ("target", .str target) ("value", operand.tagged.toValue)

def IsStatement (tagged : Tagged) : Prop :=
  ∃ record : Record, tagged.content = record.toValue ∧
    (tagged.tag = "let" ∧ IsDeclaration record ∨ tagged.tag = "set" ∧ IsAssignment record)

/-- The value is written as the text, and the canonical value is its normal form and equal to it. -/
structure WrittenAs {shape : Shape} (grammar : Grammar shape) (content canonical : shape.Carrier)
    (text : String) : Prop where
  spelling : grammar.spelling content = .ok text
  normalize : grammar.normalize content = .ok canonical
  same : shape.same canonical content = true
  same_self : shape.same canonical canonical = true

theorem WrittenAs.render {shape : Shape} {grammar : Grammar shape}
    {content canonical : shape.Carrier} {text : String}
    (hwritten : WrittenAs grammar content canonical text)
    (hparse : grammar.parse text = .ok canonical) : grammar.render content = .ok text := by
  refine Grammar.render_eq_ok_iff.2
    ⟨?_, canonical, canonical, hwritten.normalize, hparse, hwritten.same_self⟩
  rw [Grammar.encode_eq_spelling, hwritten.spelling]

theorem agree_of_hasFields {record : Record} {first second : String × Value}
    (hfields : HasFields record first second) (hnames : first.1 ≠ second.1)
    (hfirst : first.2.agree first.2 true = true) (hsecond : second.2.agree second.2 true = true) :
    (Record.toValue ⟨[first, second]⟩).agree record.toValue false = true := by
  obtain ⟨fields⟩ := record
  obtain ⟨name, value⟩ := first
  obtain ⟨name', value'⟩ := second
  have hne : (name' == name) = false := by simp [Ne.symm hnames]
  have hne' : (name == name') = false := by simp [hnames]
  rcases hfields with hfields | hfields <;> cases hfields <;>
    simp [Record.toValue, Value.agree, Value.agreeFields, List.lookup_cons, hne, hne', hfirst,
      hsecond]

theorem writtenAs_declaration {record : Record} {name content : String}
    (hfields : HasFields record ("name", .str name) ("value", .str content)) :
    WrittenAs declaration record (declarationRecord name content)
      (declarationText name content) := by
  have htext : declarationText name content = "let" ++ (" " ++ (name ++ ("" ++ ("=" ++ ("" ++
      (Text.escaped content ++ ("" ++ (";" ++ "")))))))) := by
    simp only [declarationText, String.append_assoc, String.empty_append, String.append_empty]
  have hagree : ∀ {record}, HasFields record ("name", .str name) ("value", .str content) →
      (declarationRecord name content).toValue.agree record.toValue false = true := fun hfields =>
    agree_of_hasFields hfields (by simp) (by simp [Value.agree]) (by simp [Value.agree])
  refine ⟨?_, ?_, hagree hfields, hagree (.inl rfl)⟩
  · obtain ⟨fields⟩ := record
    rw [htext]
    rcases hfields with hfields | hfields <;> cases hfields <;> rfl
  · obtain ⟨fields⟩ := record
    rcases hfields with hfields | hfields <;> cases hfields <;> rfl

theorem writtenAs_assignment {record : Record} {target : String} {operand : Operand}
    (hfields : HasFields record ("target", .str target) ("value", operand.tagged.toValue)) :
    WrittenAs assignment record (assignmentRecord target operand)
      (assignmentText target operand) := by
  have htext : assignmentText target operand = target ++ ("" ++ ("=" ++ ("" ++
      (operand.spelling ++ ("" ++ (";" ++ "")))))) := by
    simp only [assignmentText, String.append_assoc, String.empty_append, String.append_empty]
  have hself : operand.tagged.toValue.agree operand.tagged.toValue true = true := by
    cases operand <;> simp [Operand.tagged, Tagged.toValue, Value.agree]
  have hagree : ∀ {record},
      HasFields record ("target", .str target) ("value", operand.tagged.toValue) →
      (assignmentRecord target operand).toValue.agree record.toValue false = true := fun hfields =>
    agree_of_hasFields hfields (by simp) (by simp [Value.agree]) hself
  refine ⟨?_, ?_, hagree hfields, hagree (.inl rfl)⟩
  · obtain ⟨fields⟩ := record
    rw [htext]
    rcases hfields with hfields | hfields <;> cases hfields <;> cases operand <;> rfl
  · obtain ⟨fields⟩ := record
    rcases hfields with hfields | hfields <;> cases hfields <;> cases operand <;> rfl

theorem WrittenAs.let_statement {record canonical : Record} {text : String}
    (hwritten : WrittenAs declaration record canonical text) :
    WrittenAs statement ⟨"let", record.toValue⟩ ⟨"let", canonical.toValue⟩ text := by
  have hvalue : Shape.normalizeValue declaration.normalize record.toValue =
      .ok canonical.toValue :=
    Shape.normalizeValue_eq_ok_iff.2 ⟨record, canonical, rfl, hwritten.normalize, rfl⟩
  refine ⟨hwritten.spelling, ?_, hwritten.same, hwritten.same_self⟩
  rw [statement, statementBranches, Grammar.normalize, Grammar.normalizeBranch, if_pos rfl, hvalue]
  rfl

theorem WrittenAs.set_statement {record canonical : Record} {text : String}
    (hwritten : WrittenAs assignment record canonical text) :
    WrittenAs statement ⟨"set", record.toValue⟩ ⟨"set", canonical.toValue⟩ text := by
  have hvalue : Shape.normalizeValue assignment.normalize record.toValue =
      .ok canonical.toValue :=
    Shape.normalizeValue_eq_ok_iff.2 ⟨record, canonical, rfl, hwritten.normalize, rfl⟩
  refine ⟨hwritten.spelling, ?_, hwritten.same, hwritten.same_self⟩
  rw [statement, statementBranches, Grammar.normalize, Grammar.normalizeBranch,
    if_neg (by simp), Grammar.normalizeBranch, if_pos rfl, hvalue]
  rfl

/-- The text and the canonical value of a statement, which is read back wherever it stands. -/
structure IsPiece (tagged : Tagged) (piece : String × Tagged) : Prop where
  written : WrittenAs statement tagged piece.2 piece.1
  reads : ∀ rest, Reads statement.decode piece.1.toList piece.2 rest
  stops : ∀ rest, Stops isBlank (piece.1.toList ++ rest)
  nonempty : piece.1.toList ≠ []

theorem IsStatement.exists_isPiece {tagged : Tagged} (htagged : IsStatement tagged) :
    ∃ piece, IsPiece tagged piece := by
  obtain ⟨tag, value⟩ := tagged
  obtain ⟨record, rfl, ⟨rfl, hdeclaration⟩ | ⟨rfl, hassignment⟩⟩ := htagged
  · obtain ⟨name, content, hname, hfields⟩ := hdeclaration
    refine ⟨(declarationText name content, ⟨"let", (declarationRecord name content).toValue⟩),
      (writtenAs_declaration hfields).let_statement, reads_let hname content, ?_, ?_⟩
    · intro rest
      rw [toList_declarationText]
      exact stops_cons rfl _
    · simp [toList_declarationText]
  · obtain ⟨target, operand, htarget, hfields⟩ := hassignment
    refine ⟨(assignmentText target operand, ⟨"set", (assignmentRecord target operand).toValue⟩),
      (writtenAs_assignment hfields).set_statement, reads_set htarget operand, ?_, ?_⟩
    · intro rest
      rw [toList_assignmentText, List.append_assoc]
      exact htarget.stops_isBlank _
    · simp [toList_assignmentText]

/-! ### Lists of statements -/

theorem forall₂_isPiece {content : List Tagged}
    (hcontent : ∀ tagged ∈ content, IsStatement tagged) :
    ∃ pieces, List.Forall₂ IsPiece content pieces := by
  induction content with
  | nil => exact ⟨[], .nil⟩
  | cons tagged rest ih =>
      obtain ⟨htagged, hrest⟩ := List.forall_mem_cons.1 hcontent
      obtain ⟨piece, hpiece⟩ := htagged.exists_isPiece
      obtain ⟨pieces, hpieces⟩ := ih hrest
      exact ⟨piece :: pieces, .cons hpiece hpieces⟩

theorem intercalate_empty (texts : List String) : "".intercalate texts = String.join texts := by
  induction texts with
  | nil => rfl
  | cons text rest ih =>
      cases rest with
      | nil => simp
      | cons next more =>
          rw [String.intercalate_cons_cons, ih, String.append_empty, ← String.join_cons]

theorem readsAll_pieces {pieces : List (String × Tagged)}
    (hpieces : ∀ piece ∈ pieces, ∃ tagged, IsPiece tagged piece) :
    Outcome.ReadsAll (fun here => ((maybeWhitespace.decode here).map Decoded.cursor).bind
      (Outcome.consuming statement.decode)) []
      (pieces.map fun piece => (piece.1.toList, piece.2)) := by
  induction pieces with
  | nil =>
      have hend : Stops isBlank [] := fun _ hmem => nomatch hmem
      exact Outcome.refuses_behind_gap (reads_noSpace hend) refuses_statement_nil
  | cons piece rest ih =>
      obtain ⟨⟨tagged, hpiece⟩, hrest⟩ := List.forall_mem_cons.1 hpieces
      refine ⟨hpiece.nonempty, ?_, ih hrest⟩
      exact Outcome.reads_behind_gap hpiece.nonempty (reads_noSpace (hpiece.stops _))
        (hpiece.reads _)

theorem reads_statements {pieces : List (String × Tagged)}
    (hpieces : ∀ piece ∈ pieces, ∃ tagged, IsPiece tagged piece) :
    Reads statements.decode ("".intercalate (pieces.map Prod.fst)).toList (pieces.map Prod.snd)
      [] := by
  cases pieces with
  | nil => exact Outcome.reads_repetition_nil refuses_statement_nil
  | cons piece rest =>
      obtain ⟨⟨tagged, hpiece⟩, hrest⟩ := List.forall_mem_cons.1 hpieces
      have hreads := Outcome.reads_repetition false hpiece.nonempty (hpiece.reads _)
        (readsAll_pieces hrest)
      rw [List.flatMap_map, List.map_map] at hreads
      rw [intercalate_empty, String.toList_join, List.flatMap_map]
      exact hreads

/-- **Every list of statements is read back from its text.** -/
theorem exists_writtenAs_statements {content : List Tagged}
    (hcontent : ∀ tagged ∈ content, IsStatement tagged) :
    ∃ canonical text, WrittenAs statements content canonical text ∧
      statements.parse text = .ok canonical := by
  obtain ⟨pieces, hpieces⟩ := forall₂_isPiece hcontent
  have hall : ∀ piece ∈ pieces, ∃ tagged, IsPiece tagged piece :=
    forall_mem_of_forall₂ (fun tagged _ hpiece => ⟨tagged, hpiece⟩) hpieces
  refine ⟨pieces.map Prod.snd, "".intercalate (pieces.map Prod.fst), ⟨?_, ?_, ?_, ?_⟩,
    Grammar.parse_of_reads (reads_statements hall)⟩
  · refine spellItems_eq_ok_iff.2 ⟨Nat.not_lt_zero _, _, mapM_eq_ok_iff.2 ?_, rfl⟩
    rw [List.forall₂_map_right_iff]
    exact hpieces.imp fun _ _ hpiece => hpiece.written.spelling
  · apply mapM_eq_ok_iff.2
    rw [List.forall₂_map_right_iff]
    exact hpieces.imp fun _ _ hpiece => hpiece.written.normalize
  · apply Value.agreeItems_of_forall₂
    rw [List.forall₂_map_left_iff]
    exact hpieces.flip.imp fun _ _ hpiece => hpiece.written.same
  · refine Value.agreeItems_of_forall₂ (List.forall₂_same.2 fun canonical hmem => ?_)
    obtain ⟨piece, hpiece, rfl⟩ := List.mem_map.1 hmem
    obtain ⟨tagged, hpiece⟩ := hall piece hpiece
    exact hpiece.written.same_self

/-! ### What is parsed is a list of statements -/

def CanDecode {α : Type} (leaf : Terminal α) (content : α) : Prop :=
  ∃ cursor next, leaf.decode cursor = .ok ⟨content, next⟩

theorem conforms_of_parse {shape : Shape} {grammar : Grammar shape} (hbuilt : grammar.Built)
    {text : String} {content : shape.Carrier} (hparse : grammar.parse text = .ok content) :
    grammar.Conforms (fun leaf content => CanDecode leaf content) content := by
  apply Grammar.conforms_of_parse _ hbuilt _ hparse
  exact fun leaf cursor decoded hleaf => ⟨cursor, decoded.cursor, hleaf⟩

theorem isDeclaration_of_conforms {record : Record}
    (hrecord : declaration.Conforms (fun leaf content => CanDecode leaf content) record) :
    IsDeclaration record := by
  obtain ⟨fields⟩ := record
  obtain ⟨name, more, rfl, ⟨cursor, next, hname⟩, content, rest, rfl, -, rfl⟩ := hrecord
  exact ⟨name, content, isIdentifier_of_decode hname, .inl rfl⟩

theorem exists_operand_of_conforms {tagged : Tagged}
    (htagged : operand.Conforms (fun leaf content => CanDecode leaf content) tagged) :
    ∃ operand : Operand, tagged = operand.tagged := by
  obtain ⟨tag, value⟩ := tagged
  simp only [operand, operandBranches, Grammar.Conforms, Grammar.BranchConforms] at htagged
  split at htagged
  · rename_i htag
    obtain ⟨n, hvalue, -⟩ := htagged
    cases htag
    cases hvalue
    exact ⟨.integer n, rfl⟩
  · split at htagged
    · rename_i htag
      obtain ⟨content, hvalue, -⟩ := htagged
      cases htag
      cases hvalue
      exact ⟨.text content, rfl⟩
    · exact htagged.elim

theorem isAssignment_of_conforms {record : Record}
    (hrecord : assignment.Conforms (fun leaf content => CanDecode leaf content) record) :
    IsAssignment record := by
  obtain ⟨fields⟩ := record
  obtain ⟨target, more, rfl, ⟨cursor, next, htarget⟩, tagged, rest, rfl, htagged, rfl⟩ := hrecord
  obtain ⟨operand, rfl⟩ := exists_operand_of_conforms htagged
  exact ⟨target, operand, isIdentifier_of_decode htarget, .inl rfl⟩

theorem isStatement_of_conforms {tagged : Tagged}
    (htagged : statement.Conforms (fun leaf content => CanDecode leaf content) tagged) :
    IsStatement tagged := by
  obtain ⟨tag, value⟩ := tagged
  simp only [statement, statementBranches, Grammar.Conforms, Grammar.BranchConforms] at htagged
  split at htagged
  · rename_i htag
    obtain ⟨record, hvalue, hrecord⟩ := htagged
    exact ⟨record, hvalue, .inl ⟨htag.symm, isDeclaration_of_conforms hrecord⟩⟩
  · split at htagged
    · rename_i htag
      obtain ⟨record, hvalue, hrecord⟩ := htagged
      exact ⟨record, hvalue, .inr ⟨htag.symm, isAssignment_of_conforms hrecord⟩⟩
    · exact htagged.elim

/-! ### Round trips -/

/-- What is parsed from a text is rendered to a text that parses to the same, and what is valid is
rendered to a text that parses to something equal. -/
def RoundTrips {shape : Shape} (grammar : Grammar shape) (valid : shape.Carrier → Prop) : Prop :=
  (∀ text content, grammar.parse text = .ok content →
    ∃ rendered, grammar.render content = .ok rendered ∧ grammar.parse rendered = .ok content) ∧
  ∀ content, valid content →
    ∃ rendered parsed, grammar.render content = .ok rendered ∧
      grammar.parse rendered = .ok parsed ∧ shape.same parsed content = true

theorem roundTrips_of_writtenAs {shape : Shape} {grammar : Grammar shape} (hbuilt : grammar.Built)
    {valid : shape.Carrier → Prop}
    (hwritten : ∀ content, valid content → ∃ canonical text,
      WrittenAs grammar content canonical text ∧ grammar.parse text = .ok canonical)
    (hvalid : ∀ text content, grammar.parse text = .ok content → valid content) :
    RoundTrips grammar valid := by
  constructor
  · intro text content hparse
    obtain ⟨canonical, rendered, hcontent, hread⟩ := hwritten content (hvalid text content hparse)
    -- A parsed value is normal, so it is its own canonical value.
    have hnormal := Grammar.normalize_of_isNormal grammar hbuilt content
      (Grammar.isNormal_of_parse hbuilt hparse)
    rw [hcontent.normalize] at hnormal
    cases hnormal
    exact ⟨rendered, hcontent.render hread, hread⟩
  · intro content hcontent
    obtain ⟨canonical, rendered, hcontent, hread⟩ := hwritten content hcontent
    exact ⟨rendered, canonical, hcontent.render hread, hread, hcontent.same⟩

theorem roundTrips_declaration : RoundTrips declaration IsDeclaration := by
  refine roundTrips_of_writtenAs built_declaration ?_ ?_
  · rintro record ⟨name, content, hname, hfields⟩
    exact ⟨_, _, writtenAs_declaration hfields,
      Grammar.parse_of_reads (reads_declaration hname content [])⟩
  · exact fun _ _ hparse => isDeclaration_of_conforms (conforms_of_parse built_declaration hparse)

theorem roundTrips_assignment : RoundTrips assignment IsAssignment := by
  refine roundTrips_of_writtenAs built_assignment ?_ ?_
  · rintro record ⟨target, operand, htarget, hfields⟩
    exact ⟨_, _, writtenAs_assignment hfields,
      Grammar.parse_of_reads (reads_assignment htarget operand [])⟩
  · exact fun _ _ hparse => isAssignment_of_conforms (conforms_of_parse built_assignment hparse)

theorem roundTrips_list :
    RoundTrips statements fun content => ∀ tagged ∈ content, IsStatement tagged := by
  refine roundTrips_of_writtenAs built_statements ?_ ?_
  · exact fun _ hcontent => exists_writtenAs_statements hcontent
  · intro text content hparse tagged hmem
    exact isStatement_of_conforms (conforms_of_parse built_statements hparse tagged hmem)

theorem present_ne_encode {shape : Shape} {grammar : Grammar shape} {valid : shape.Carrier → Prop}
    (hround : RoundTrips grammar valid) (text : String) (error : EncodeError) :
    CommandLine.present grammar text ≠ .error (.error (.encode error)) := by
  unfold CommandLine.present
  cases hparse : grammar.parse text with
  | error fault =>
      intro hpresent
      cases fault <;> cases hpresent
  | ok content =>
      obtain ⟨rendered, hrender, -⟩ := hround.1 text content hparse
      simp [hrender, Except.mapError]

/-- **Statements round-trip.** So do single declarations and assignments, and the command line never
fails to render what it has parsed. -/
theorem statements_roundTrip :
    RoundTrips statements (fun content => ∀ tagged ∈ content, IsStatement tagged) ∧
      RoundTrips declaration IsDeclaration ∧ RoundTrips assignment IsAssignment ∧
      ∀ text error, CommandLine.present statements text ≠ .error (.error (.encode error)) :=
  ⟨roundTrips_list, roundTrips_declaration, roundTrips_assignment,
    present_ne_encode roundTrips_list⟩

end TwoWay.Statement
