import TwoWay.Proofs.Derivation
import TwoWay.Proofs.StatementRoundTrip

/-!
# The tokens of statements

White space, names, numerals and string literals, described by the characters they are made of.
Each description is met by what the terminal takes, and a text that meets it is taken whole,
whatever stands behind it that the token cannot run on into.
-/

namespace TwoWay

/-- What a terminal takes is a lexeme that its conversion reads. -/
theorem Terminal.Takes.of_spells {α : Type} {terminal : Terminal α}
    {lexeme? : List Char → Option (List Char × List Char)} (htakes : terminal.Takes lexeme?)
    {text : List Char} {value : α} (hspells : terminal.Spells text value) :
    (∃ rest, lexeme? (text ++ rest) = some (text, rest)) ∧
      terminal.conversion.read (String.ofList text) = .ok value := by
  obtain ⟨cursor, next, hdecode, hafter⟩ := hspells
  cases hlexeme : lexeme? cursor.after with
  | none =>
      rw [htakes.decode_of_none hlexeme] at hdecode
      cases hdecode
  | some split =>
      obtain ⟨front, back⟩ := split
      rw [htakes.decode_of_some hlexeme] at hdecode
      cases hread : terminal.conversion.read (String.ofList front) with
      | error message =>
          rw [hread] at hdecode
          cases hdecode
      | ok found =>
          rw [hread] at hdecode
          cases hdecode
          rw [hafter] at hlexeme
          have hsplit := htakes.splits _ front back hlexeme
          rw [Cursor.after_pass] at hsplit hlexeme
          cases List.append_cancel_right hsplit
          exact ⟨⟨back, hlexeme⟩, hread⟩

namespace Lexeme

theorem exists_of_run? {first part : Char → Bool} {text front back : List Char}
    (hrun : run? first part text = some (front, back)) :
    ∃ c word, front = c :: word ∧ first c = true ∧ ∀ d ∈ word, part d = true := by
  cases text with
  | nil => cases hrun
  | cons c rest =>
      rw [run?] at hrun
      split at hrun
      · rename_i hc
        cases hrun
        exact ⟨c, _, rfl, hc, List.all_eq_true.1 List.all_takeWhile⟩
      · cases hrun

theorem isNatural_of_natural? {text front back : List Char}
    (hnatural : natural? text = some (front, back)) : IsNatural front := by
  unfold natural? at hnatural
  split at hnatural
  · cases hnatural
    exact .inl rfl
  · rename_i hzero
    have hsplit := splits_run? _ _ text front back hnatural
    obtain ⟨c, word, rfl, hc, hword⟩ := exists_of_run? hnatural
    refine .inr ⟨c, word, rfl, ?_, List.forall_mem_cons.2 ⟨hc, hword⟩⟩
    rintro rfl
    exact hzero (word ++ back) hsplit

theorem exists_of_numeral? {text front back : List Char}
    (hnumeral : numeral? text = some (front, back)) :
    ∃ (negative : Bool) (digits : List Char),
      front = (if negative then '-' :: digits else digits) ∧ IsNatural digits := by
  unfold numeral? at hnumeral
  split at hnumeral
  · obtain ⟨⟨digits, rest⟩, hnatural, hsplit⟩ := Option.map_eq_some_iff.1 hnumeral
    cases hsplit
    exact ⟨true, digits, rfl, isNatural_of_natural? hnatural⟩
  · exact ⟨false, front, rfl, isNatural_of_natural? hnumeral⟩

/-- Up to the closing quote there is no quote but in escapes. Which escapes there may be is left to
the reading of the body. -/
theorem exists_of_quoted? {text front back : List Char}
    (hquoted : quoted? text = some (front, back)) :
    ∃ body, front = body ++ ['"'] ∧
      ∀ content, Text.unescapeBody body = .ok content → Text.Quotes body content := by
  fun_induction quoted? text generalizing front back with
  | case1 => cases hquoted
  | case2 rest =>
      cases hquoted
      refine ⟨[], rfl, fun content hbody => ?_⟩
      cases hbody
      exact .nil
  | case3 => cases hquoted
  | case4 rest => cases hquoted
  | case5 letter rest hnewline ih =>
      obtain ⟨⟨front', back'⟩, hinner, hsplit⟩ := Option.map_eq_some_iff.1 hquoted
      cases hsplit
      obtain ⟨body, rfl, hbody⟩ := ih hinner
      refine ⟨'\\' :: letter :: body, rfl, fun content hcontent => ?_⟩
      rw [Text.unescapeBody] at hcontent
      split at hcontent
      · rename_i c hmeaning
        obtain ⟨more, hmore, rfl⟩ := map_eq_ok_iff.1 hcontent
        exact .escape (Text.escapeMeaning?_eq_some_iff.1 hmeaning) (hbody more hmore)
      · cases hcontent
  | case6 c rest hquote hend hescape ih =>
      obtain ⟨⟨front', back'⟩, hinner, hsplit⟩ := Option.map_eq_some_iff.1 hquoted
      cases hsplit
      obtain ⟨body, rfl, hbody⟩ := ih hinner
      have hbackslash : c ≠ '\\' := by
        rintro rfl
        cases rest with
        | nil => exact hend rfl rfl
        | cons d more => exact hescape d more rfl rfl
      refine ⟨c :: body, rfl, fun content hcontent => ?_⟩
      rw [Text.unescapeBody_cons hbackslash] at hcontent
      obtain ⟨more, hmore, rfl⟩ := map_eq_ok_iff.1 hcontent
      exact .plain hquote hbackslash (hbody more hmore)

end Lexeme

namespace Statement

open Primitive Lexeme

/-! ### White space -/

/-- Blanks, tabs and line breaks, or nothing. -/
def IsGap (text : List Char) : Prop :=
  ∀ c ∈ text, isBlank c = true

theorem isGap_of_spells {text : List Char} {content : String}
    (hspells : whitespace.Spells text content) : IsGap text ∧ text ≠ [] := by
  obtain ⟨⟨rest, hrun⟩, -⟩ := takes_whitespace.of_spells hspells
  obtain ⟨c, word, rfl, hc, hword⟩ := exists_of_run? hrun
  exact ⟨List.forall_mem_cons.2 ⟨hc, hword⟩, List.cons_ne_nil c word⟩

theorem reads_whitespace {text : List Char} (hgap : IsGap text) (hnonempty : text ≠ [])
    {rest : List Char} (hrest : Stops isBlank rest) :
    Reads whitespaceLeaf.decode text (String.ofList text) rest := by
  obtain ⟨c, word, rfl⟩ := List.exists_cons_of_ne_nil hnonempty
  obtain ⟨hc, hword⟩ := List.forall_mem_cons.1 hgap
  exact takes_whitespace.reads (run?_append hc hword hrest) rfl

theorem isGap_of_derives {text : List Char} {content : Option String}
    (hderives : maybeWhitespace.Derives text content) : IsGap text := by
  obtain ⟨rfl, -⟩ | ⟨present, -, hspells⟩ := hderives
  · exact fun _ hmem => nomatch hmem
  · exact (isGap_of_spells hspells).1

theorem reads_gap {text : List Char} (hgap : IsGap text) {rest : List Char}
    (hrest : Stops isBlank rest) :
    ∃ content, Reads maybeWhitespace.decode text content rest := by
  by_cases hempty : text = []
  · subst hempty
    exact ⟨none, reads_noSpace hrest⟩
  · refine ⟨some (String.ofList text), fun cursor hafter => ?_⟩
    have hreads := reads_whitespace hgap hempty hrest cursor hafter
    rw [maybeWhitespace, Grammar.decode]
    rw [whitespaceLeaf] at hreads
    rw [hreads]
    rfl

/-! ### Names -/

theorem isIdentifier_of_spells {text : List Char} {name : String}
    (hspells : identifier.Spells text name) : text = name.toList ∧ IsIdentifier name := by
  obtain ⟨-, hread⟩ := takes_identifier.of_spells hspells
  obtain ⟨cursor, next, hdecode, -⟩ := hspells
  refine ⟨?_, isIdentifier_of_decode hdecode⟩
  cases hread
  rw [String.toList_ofList]

/-! ### Numerals -/

/-- Digits that do not start with zero unless that is all, after a minus sign or not, whose number
is the one of 64 bits. -/
def NumeralOf (n : Int64) (text : List Char) : Prop :=
  ∃ (negative : Bool) (digits : List Char),
    text = (if negative then '-' :: digits else digits) ∧ IsNatural digits ∧
      n.toInt = Text.signed negative (Nat.ofDigitChars 10 digits 0)

theorem toInt_ofInt_signed {negative : Bool} {distance : Nat}
    (hreach : distance ≤ Text.reach negative) :
    (Int64.ofInt (Text.signed negative distance)).toInt = Text.signed negative distance := by
  have hbounds : -2 ^ 63 ≤ Text.signed negative distance ∧
      Text.signed negative distance < 2 ^ 63 := by
    cases negative <;> simp only [Text.signed, Text.reach, Bool.false_eq_true, if_false, if_true]
      at hreach ⊢ <;> omega
  exact Int64.toInt_ofInt_of_le hbounds.1 hbounds.2

theorem le_reach_of_toInt {n : Int64} {negative : Bool} {distance : Nat}
    (hn : n.toInt = Text.signed negative distance) : distance ≤ Text.reach negative := by
  have hlow := n.le_toInt
  have hhigh := n.toInt_lt
  cases negative <;> simp only [Text.signed, Text.reach, Bool.false_eq_true, if_false, if_true]
    at hn ⊢ <;> omega

theorem readInt64_eq_ok_iff (negative : Bool) {digits : List Char} (hdigits : IsNatural digits)
    {n : Int64} :
    Text.readInt64 (String.ofList (if negative then '-' :: digits else digits)) = .ok n ↔
      n.toInt = Text.signed negative (Nat.ofDigitChars 10 digits 0) := by
  rw [Text.readInt64_digits negative hdigits.ne_nil hdigits.isDigit]
  constructor
  · intro hread
    split at hread
    · rename_i hreach
      cases hread
      exact toInt_ofInt_signed hreach
    · cases hread
  · intro hn
    rw [if_pos (le_reach_of_toInt hn), ← hn, Int64.ofInt_toInt]

theorem numeralOf_of_spells {text : List Char} {n : Int64} (hspells : integer.Spells text n) :
    NumeralOf n text := by
  obtain ⟨⟨rest, hnumeral⟩, hread⟩ := takes_integer.of_spells hspells
  obtain ⟨negative, digits, rfl, hdigits⟩ := exists_of_numeral? hnumeral
  exact ⟨negative, digits, rfl, hdigits,
    (readInt64_eq_ok_iff negative hdigits).1 (mapError_eq_ok_iff.1 hread)⟩

theorem NumeralOf.reads {n : Int64} {text : List Char} (hnumeral : NumeralOf n text)
    {rest : List Char} (hrest : Stops Char.isDigit rest) :
    Reads integerLeaf.decode text n rest := by
  obtain ⟨negative, digits, rfl, hdigits, hn⟩ := hnumeral
  exact takes_integer.reads (numeral?_append negative hdigits hrest)
    (mapError_eq_ok_iff.2 ((readInt64_eq_ok_iff negative hdigits).2 hn))

/-! ### Literals -/

def LiteralOf (content : String) (text : List Char) : Prop :=
  ∃ body, text = '"' :: (body ++ ['"']) ∧ Text.Quotes body content.toList

theorem literalOf_of_spells {text : List Char} {content : String}
    (hspells : stringLiteral.Spells text content) : LiteralOf content text := by
  obtain ⟨⟨rest, hliteral⟩, hread⟩ := takes_stringLiteral.of_spells hspells
  unfold literal? at hliteral
  split at hliteral
  · obtain ⟨⟨front, back⟩, hquoted, hsplit⟩ := Option.map_eq_some_iff.1 hliteral
    cases hsplit
    obtain ⟨body, rfl, hbody⟩ := exists_of_quoted? hquoted
    refine ⟨body, rfl, hbody _ ?_⟩
    have hunquote : Text.unquote? ('"' :: (body ++ ['"'])) = some body := by simp [Text.unquote?]
    have hunescape := mapError_eq_ok_iff.1 hread
    simp only [Text.unescape, String.toList_ofList, hunquote] at hunescape
    obtain ⟨found, hfound, rfl⟩ := map_eq_ok_iff.1 hunescape
    rw [String.toList_ofList]
    exact hfound
  · cases hliteral

theorem LiteralOf.reads {content : String} {text : List Char} (hliteral : LiteralOf content text)
    (rest : List Char) : Reads stringLeaf.decode text content rest := by
  obtain ⟨body, rfl, hquotes⟩ := hliteral
  have hread := Text.unescape_of_quotes hquotes
  rw [String.ofList_toList] at hread
  exact takes_stringLiteral.reads (literal?_of_quotes hquotes rest) (mapError_eq_ok_iff.2 hread)

/-! ### Operands -/

def Operand.SpelledBy : Operand → List Char → Prop
  | .integer n => NumeralOf n
  | .text content => LiteralOf content

theorem spelledBy_of_derives {text : List Char} {tagged : Tagged}
    (hderives : operand.Derives text tagged) :
    ∃ operand : Operand, tagged = operand.tagged ∧ operand.SpelledBy text := by
  obtain ⟨n, rfl, hspells⟩ | ⟨content, rfl, hspells⟩ | hnone := hderives
  · exact ⟨.integer n, rfl, numeralOf_of_spells hspells⟩
  · exact ⟨.text content, rfl, literalOf_of_spells hspells⟩
  · exact hnone.elim

theorem reads_of_spelledBy {operand : Operand} {text : List Char}
    (hspelled : operand.SpelledBy text) {rest : List Char} (hrest : Stops Char.isDigit rest) :
    Reads Statement.operand.decode text operand.tagged rest := by
  cases operand with
  | integer n =>
      have hnumeral : NumeralOf n text := hspelled
      exact (Grammar.branchesRead_of_reads "int" _ (hnumeral.reads hrest)).choice
  | text content =>
      have hliteral : LiteralOf content text := hspelled
      have hrefuses : Refuses integerLeaf.decode (text ++ rest) := by
        obtain ⟨body, rfl, -⟩ := hliteral
        exact refuses_integer _
      exact (Grammar.branchesRead_of_refuses "int" hrefuses
        (Grammar.branchesRead_of_reads "str" [] (hliteral.reads rest))).choice

end Statement

end TwoWay
