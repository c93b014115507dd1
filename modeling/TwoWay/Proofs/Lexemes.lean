import TwoWay.Primitive
import TwoWay.Terminal

/-!
# The tokens of the terminals

What the four primitive patterns match, said without regular expressions. A token is given by a
function that splits it from a text, and the program of its pattern is followed place by place: at
each place it waits for a few sets of characters that do not meet, so there is only one way on.
-/

namespace TwoWay

namespace Lexeme

def prepend (c : Char) (split : List Char × List Char) : List Char × List Char :=
  (c :: split.1, split.2)

/-- A character of one kind and all characters of another kind that follow it. -/
def run? (first part : Char → Bool) : List Char → Option (List Char × List Char)
  | [] => none
  | c :: rest => if first c then some (c :: rest.takeWhile part, rest.dropWhile part) else none

def isBlank (c : Char) : Bool :=
  c = ' ' || c = '\t' || c = '\r' || c = '\n'

def isIdentifierStart (c : Char) : Bool :=
  c.isAlpha || c = '_'

def isIdentifierPart (c : Char) : Bool :=
  c.isAlphanum || c = '_'

def natural? : List Char → Option (List Char × List Char)
  | '0' :: rest => some (['0'], rest)
  | text => run? Char.isDigit Char.isDigit text

def numeral? : List Char → Option (List Char × List Char)
  | '-' :: rest => (natural? rest).map (prepend '-')
  | text => natural? text

def quoted? : List Char → Option (List Char × List Char)
  | [] => none
  | '"' :: rest => some (['"'], rest)
  | ['\\'] => none
  | '\\' :: c :: rest => if c = '\n' then none else (quoted? rest).map (prepend '\\' ∘ prepend c)
  | c :: rest => (quoted? rest).map (prepend c)

def literal? : List Char → Option (List Char × List Char)
  | '"' :: rest => (quoted? rest).map (prepend '"')
  | _ => none

/-- The bytes in the first part of a split. -/
def taken (split : Option (List Char × List Char)) : Option Nat :=
  split.map fun parts => Text.byteLength parts.1

theorem taken_map_prepend (c : Char) (split : Option (List Char × List Char)) :
    taken (split.map (prepend c)) = (taken split).map (c.utf8Size + ·) := by
  cases split <;> rfl

/-- The split, if there is one, is a split of the text. -/
def Splits (text : List Char) (split : Option (List Char × List Char)) : Prop :=
  ∀ front back, split = some (front, back) → text = front ++ back

theorem Splits.prepend {text : List Char} {split : Option (List Char × List Char)}
    (hsplits : Splits text split) (c : Char) : Splits (c :: text) (split.map (prepend c)) := by
  intro front back hfound
  obtain ⟨⟨front', back'⟩, hinner, heq⟩ := Option.map_eq_some_iff.1 hfound
  cases heq
  rw [hsplits front' back' hinner]
  rfl

theorem splits_run? (first part : Char → Bool) (text : List Char) :
    Splits text (run? first part text) := by
  intro front back hfound
  cases text with
  | nil => cases hfound
  | cons c rest =>
      rw [run?] at hfound
      split at hfound
      · cases hfound
        rw [List.cons_append, List.takeWhile_append_dropWhile]
      · cases hfound

theorem splits_natural? (text : List Char) : Splits text (natural? text) := by
  unfold natural?
  split
  · intro front back hfound
    cases hfound
    rfl
  · exact splits_run? _ _ text

theorem splits_numeral? (text : List Char) : Splits text (numeral? text) := by
  unfold numeral?
  split
  · exact (splits_natural? _).prepend '-'
  · exact splits_natural? text

theorem splits_quoted? (text : List Char) : Splits text (quoted? text) := by
  fun_induction quoted? text with
  | case1 => exact fun _ _ hfound => nomatch hfound
  | case2 rest =>
      intro front back hfound
      cases hfound
      rfl
  | case3 => exact fun _ _ hfound => nomatch hfound
  | case4 => exact fun _ _ hfound => nomatch hfound
  | case5 c rest hnewline ih =>
      rw [← Option.map_map]
      exact (ih.prepend c).prepend '\\'
  | case6 c rest hquote hend hescape ih => exact ih.prepend c

theorem splits_literal? (text : List Char) : Splits text (literal? text) := by
  unfold literal?
  split
  · exact (splits_quoted? _).prepend '"'
  · exact fun _ _ hfound => nomatch hfound

end Lexeme

namespace Regex

/-! ### Following a program -/

variable {program : Program} {c : Char} {rest : List Char} {last : Option Char} {todo : List Nat}

theorem Program.lengthFrom?_of_behind {waiting : List (CharSet × Nat)}
    (hfrontier : program.frontier ⟨last, c :: rest⟩ todo = ⟨waiting, false⟩) {index : Nat}
    (hbehind : (Frontier.mk waiting false).behind c = [index]) :
    program.lengthFrom? (c :: rest) last todo =
      (program.lengthFrom? rest (some c) [index]).map (c.utf8Size + ·) := by
  simp [lengthFrom?, hfrontier, hbehind]

theorem Program.lengthFrom?_of_stuck {waiting : List (CharSet × Nat)}
    (hfrontier : program.frontier ⟨last, c :: rest⟩ todo = ⟨waiting, false⟩)
    (hbehind : (Frontier.mk waiting false).behind c = []) :
    program.lengthFrom? (c :: rest) last todo = none := by
  simp [lengthFrom?, hfrontier, hbehind]

theorem Program.lengthFrom?_of_end {text : List Char}
    (hfrontier : ∀ place, program.frontier place todo = ⟨[], true⟩) :
    program.lengthFrom? text last todo = some 0 := by
  cases text <;> simp [lengthFrom?, hfrontier, Frontier.behind]

/-- A place that waits for the characters of a set and leads to its like takes all of them. -/
theorem Program.lengthFrom?_of_loop {chars : CharSet} {index : Nat}
    (htodo : ∀ place, program.frontier place todo = ⟨[(chars, index)], true⟩)
    (hindex : ∀ place, program.frontier place [index] = ⟨[(chars, index)], true⟩)
    (text : List Char) :
    program.lengthFrom? text last todo =
      some (Text.byteLength (text.takeWhile chars.contains)) := by
  induction text generalizing last todo with
  | nil => simp [lengthFrom?, htodo, Text.byteLength]
  | cons c rest ih =>
      by_cases hc : chars.contains c = true
      · simp [lengthFrom?, htodo, Frontier.behind, hc, ih hindex, Text.byteLength]
      · simp [lengthFrom?, htodo, Frontier.behind, hc, Text.byteLength]

end Regex

namespace Primitive

open Regex Lexeme

/-! ### Sets of characters -/

theorem contains_eq_of_ranges {chars : CharSet} {holds : Char → Bool} (ranges : List (Nat × Nat))
    (hranges : chars.ranges = ranges)
    (hholds : ∀ c, holds c = true ↔ ∃ range ∈ ranges, range.1 ≤ c.toNat ∧ c.toNat ≤ range.2) :
    chars.contains = holds := by
  funext c
  rw [Bool.eq_iff_iff, hholds, CharSet.contains, Text.inRanges, hranges]
  simp

theorem contains_single (d : Char) : (CharSet.single d).contains = fun c => decide (c = d) := by
  apply contains_eq_of_ranges [(d.toNat, d.toNat)] rfl
  intro c
  simp [← Char.toNat_inj]
  omega

theorem contains_blank : blank.contains = isBlank := by
  apply contains_eq_of_ranges [(9, 10), (13, 13), (32, 32)] rfl
  intro c
  simp [isBlank, ← Char.toNat_inj]
  omega

theorem contains_digit : digit.contains = Char.isDigit := by
  apply contains_eq_of_ranges [(48, 57)] rfl
  intro c
  simp [Char.isDigit, UInt32.le_iff_toNat_le]

theorem contains_nonZeroDigit :
    nonZeroDigit.contains = fun c => c.isDigit && decide (c ≠ '0') := by
  apply contains_eq_of_ranges [(49, 57)] rfl
  intro c
  simp [Char.isDigit, UInt32.le_iff_toNat_le, ← Char.toNat_inj]
  omega

theorem isAlpha_iff (c : Char) :
    c.isAlpha = true ↔ 65 ≤ c.toNat ∧ c.toNat ≤ 90 ∨ 97 ≤ c.toNat ∧ c.toNat ≤ 122 := by
  change (decide ('A'.val ≤ c.val ∧ c.val ≤ 'Z'.val) ||
    decide ('a'.val ≤ c.val) && decide (c.val ≤ 'z'.val)) = true ↔ _
  simp [UInt32.le_iff_toNat_le]

theorem contains_identifierStart : identifierStart.contains = isIdentifierStart := by
  apply contains_eq_of_ranges [(65, 90), (95, 95), (97, 122)] rfl
  intro c
  simp [isIdentifierStart, isAlpha_iff, ← Char.toNat_inj]
  omega

theorem contains_identifierPart : identifierPart.contains = isIdentifierPart := by
  apply contains_eq_of_ranges [(48, 57), (65, 90), (95, 95), (97, 122)] rfl
  intro c
  simp [isIdentifierPart, Char.isAlphanum, isAlpha_iff, Char.isDigit, UInt32.le_iff_toNat_le,
    ← Char.toNat_inj]
  omega

theorem toNat_le_lastCodePoint (c : Char) : c.toNat ≤ CharSet.lastCodePoint := by
  have hvalid : c.toNat.isValidChar := c.valid
  simp only [Nat.isValidChar] at hvalid
  rw [CharSet.lastCodePoint]
  omega

theorem contains_unescaped :
    unescaped.contains = fun c => decide (c ≠ '"') && decide (c ≠ '\\') := by
  apply contains_eq_of_ranges [(0, 33), (35, 91), (93, CharSet.lastCodePoint)] rfl
  intro c
  have hle := toNat_le_lastCodePoint c
  simp [← Char.toNat_inj]
  omega

theorem contains_notNewline : CharSet.notNewline.contains = fun c => decide (c ≠ '\n') := by
  apply contains_eq_of_ranges [(0, 9), (11, CharSet.lastCodePoint)] rfl
  intro c
  have hle := toNat_le_lastCodePoint c
  simp [← Char.toNat_inj]
  omega

/-! ### The programs of the patterns -/

def program (body : Regex) : Program :=
  compile (.seq (.assertion .textStart) body)

theorem prefixLength?_of_loop {program : Program} {first part : CharSet} {index next : Nat}
    (hstart : ∀ text, program.frontier ⟨none, text⟩ [0] = ⟨[(first, index)], false⟩)
    (hindex : ∀ place, program.frontier place [index] = ⟨[(part, next)], true⟩)
    (hnext : ∀ place, program.frontier place [next] = ⟨[(part, next)], true⟩)
    (text : List Char) :
    program.prefixLength? text = taken (run? first.contains part.contains text) := by
  unfold Program.prefixLength?
  cases text with
  | nil => simp [Program.lengthFrom?, hstart, run?, taken]
  | cons c rest =>
      rw [run?]
      by_cases hc : first.contains c = true
      · have hbehind : (Frontier.mk [(first, index)] false).behind c = [index] := by
          simp [Frontier.behind, hc]
        rw [Program.lengthFrom?_of_behind (hstart _) hbehind,
          Program.lengthFrom?_of_loop hindex hnext, if_pos hc]
        rfl
      · have hbehind : (Frontier.mk [(first, index)] false).behind c = [] := by
          simp [Frontier.behind, hc]
        rw [Program.lengthFrom?_of_stuck (hstart _) hbehind, if_neg hc]
        rfl

theorem prefixLength?_whitespace (text : List Char) :
    (program whitespaceRegex).prefixLength? text = taken (run? isBlank isBlank text) := by
  rw [← contains_blank]
  exact prefixLength?_of_loop (fun _ => rfl) (fun _ => rfl) (fun _ => rfl) text

theorem prefixLength?_identifier (text : List Char) :
    (program identifierRegex).prefixLength? text =
      taken (run? isIdentifierStart isIdentifierPart text) := by
  rw [← contains_identifierStart, ← contains_identifierPart]
  exact prefixLength?_of_loop (fun _ => rfl) (fun _ => rfl) (fun _ => rfl) text

def naturalFrontier : Frontier :=
  ⟨[(nonZeroDigit, 5), (.single '0', 10)], false⟩

theorem naturalFrontier_behind (c : Char) :
    naturalFrontier.behind c = if c = '0' then [10] else if c.isDigit then [5] else [] := by
  by_cases hzero : c = '0'
  · subst hzero
    rfl
  · by_cases hdigit : c.isDigit = true <;>
      simp [naturalFrontier, Frontier.behind, contains_nonZeroDigit, contains_single, hzero, hdigit]

theorem lengthFrom?_natural (text : List Char) (last : Option Char) :
    (program integerRegex).lengthFrom? text last [3] = taken (natural? text) := by
  have hplace : ∀ place, (program integerRegex).frontier place [3] = naturalFrontier :=
    fun _ => rfl
  cases text with
  | nil => rfl
  | cons c rest =>
      have hbehind := naturalFrontier_behind c
      by_cases hzero : c = '0'
      · rw [if_pos hzero] at hbehind
        rw [Program.lengthFrom?_of_behind (hplace _) hbehind,
          Program.lengthFrom?_of_end fun _ => rfl, hzero]
        rfl
      · have hnatural : natural? (c :: rest) = run? Char.isDigit Char.isDigit (c :: rest) :=
          natural?.eq_2 _ fun _ heq => hzero (List.cons.inj heq).1
        rw [hnatural, run?]
        rw [if_neg hzero] at hbehind
        by_cases hdigit : c.isDigit = true
        · rw [if_pos hdigit] at hbehind
          rw [Program.lengthFrom?_of_behind (hplace _) hbehind, if_pos hdigit,
            Program.lengthFrom?_of_loop (fun _ => rfl) (fun _ => rfl), contains_digit]
          rfl
        · rw [if_neg hdigit] at hbehind
          rw [Program.lengthFrom?_of_stuck (hplace _) hbehind, if_neg hdigit]
          rfl

/-- At the start the program also waits for the sign, and else goes on as behind it. -/
theorem prefixLength?_integer (text : List Char) :
    (program integerRegex).prefixLength? text = taken (numeral? text) := by
  have hstart : ∀ text, (program integerRegex).frontier ⟨none, text⟩ [0] =
      ⟨(.single '-', 3) :: naturalFrontier.waiting, false⟩ := fun _ => rfl
  unfold Program.prefixLength?
  cases text with
  | nil => rfl
  | cons c rest =>
      by_cases hsign : c = '-'
      · subst hsign
        rw [Program.lengthFrom?_of_behind (hstart _) rfl, lengthFrom?_natural, numeral?,
          taken_map_prepend]
      · have hnumeral : numeral? (c :: rest) = natural? (c :: rest) :=
          numeral?.eq_2 _ fun _ heq => hsign (List.cons.inj heq).1
        have hminus : (CharSet.single '-').contains c = false := by
          rw [contains_single]
          exact decide_eq_false hsign
        rw [hnumeral, ← lengthFrom?_natural (c :: rest) none]
        have hplace : (program integerRegex).frontier ⟨none, c :: rest⟩ [3] = naturalFrontier := rfl
        simp only [Program.lengthFrom?, hstart, hplace, Frontier.behind, List.filterMap_cons,
          hminus]
        rfl

def quotedFrontier : Frontier :=
  ⟨[(unescaped, 5), (.single '\\', 7), (.single '"', 10)], false⟩

theorem quotedFrontier_behind (c : Char) :
    quotedFrontier.behind c = if c = '"' then [10] else if c = '\\' then [7] else [5] := by
  by_cases hquote : c = '"'
  · subst hquote
    rfl
  · by_cases hbackslash : c = '\\'
    · subst hbackslash
      rfl
    · simp [quotedFrontier, Frontier.behind, contains_unescaped, contains_single, hquote,
        hbackslash]

/-- Between the quotes the program waits for the same at three places, so it is followed from any
of them. -/
theorem lengthFrom?_quoted (text : List Char) (last : Option Char) {todo : List Nat}
    (htodo : ∀ place, (program stringRegex).frontier place todo = quotedFrontier) :
    (program stringRegex).lengthFrom? text last todo = taken (quoted? text) := by
  have hescape : ∀ place, (program stringRegex).frontier place [7] =
      ⟨[(CharSet.notNewline, 8)], false⟩ := fun _ => rfl
  have hclosing : quotedFrontier.behind '"' = [10] := rfl
  have hbackslash : quotedFrontier.behind '\\' = [7] := rfl
  fun_induction quoted? text generalizing last todo with
  | case1 => simp [Program.lengthFrom?, htodo, quotedFrontier, taken]
  | case2 rest =>
      rw [Program.lengthFrom?_of_behind (htodo _) hclosing,
        Program.lengthFrom?_of_end fun _ => rfl]
      rfl
  | case3 =>
      rw [Program.lengthFrom?_of_behind (htodo _) hbackslash]
      rfl
  | case4 rest =>
      rw [Program.lengthFrom?_of_behind (htodo _) hbackslash,
        Program.lengthFrom?_of_stuck (hescape _) rfl]
      rfl
  | case5 c rest hnewline ih =>
      have hbehind : (Frontier.mk [(CharSet.notNewline, 8)] false).behind c = [8] := by
        simp [Frontier.behind, contains_notNewline, hnewline]
      rw [Program.lengthFrom?_of_behind (htodo _) hbackslash,
        Program.lengthFrom?_of_behind (hescape _) hbehind, ih _ fun _ => rfl, ← Option.map_map,
        taken_map_prepend, taken_map_prepend]
  | case6 c rest hquote hend hescaped ih =>
      have hnotQuote : c ≠ '"' := fun heq => hquote heq
      have hnotBackslash : c ≠ '\\' := by
        rintro rfl
        cases rest with
        | nil => exact hend rfl rfl
        | cons d more => exact hescaped d more rfl rfl
      have hbehind := quotedFrontier_behind c
      rw [if_neg hnotQuote, if_neg hnotBackslash] at hbehind
      rw [Program.lengthFrom?_of_behind (htodo _) hbehind, ih _ fun _ => rfl, taken_map_prepend]

theorem prefixLength?_string (text : List Char) :
    (program stringRegex).prefixLength? text = taken (literal? text) := by
  have hstart : ∀ text, (program stringRegex).frontier ⟨none, text⟩ [0] =
      ⟨[(.single '"', 2)], false⟩ := fun _ => rfl
  unfold Program.prefixLength?
  cases text with
  | nil => rfl
  | cons c rest =>
      by_cases hquote : c = '"'
      · subst hquote
        rw [Program.lengthFrom?_of_behind (hstart _) rfl, lengthFrom?_quoted _ _ fun _ => rfl,
          literal?, taken_map_prepend]
      · have hbehind : (Frontier.mk [(CharSet.single '"', 2)] false).behind c = [] := by
          simp [Frontier.behind, contains_single, hquote]
        rw [Program.lengthFrom?_of_stuck (hstart _) hbehind,
          literal?.eq_2 _ fun _ heq => hquote (List.cons.inj heq).1]
        rfl

end Primitive

/-! ### Terminals and their lexemes -/

/-- The pattern of the terminal matches the lexeme that the function splits off. -/
structure Terminal.Takes {α : Type} (terminal : Terminal α)
    (lexeme? : List Char → Option (List Char × List Char)) : Prop where
  matchAt_eq : ∀ cursor, terminal.pattern.matchAt cursor = Lexeme.taken (lexeme? cursor.after)
  splits : ∀ text, Lexeme.Splits text (lexeme? text)

namespace Terminal.Takes

variable {α : Type} {terminal : Terminal α}
  {lexeme? : List Char → Option (List Char × List Char)} {cursor : Cursor}

theorem decode_of_none (htakes : terminal.Takes lexeme?) (hnone : lexeme? cursor.after = none) :
    terminal.decode cursor = .fail (.patternMismatch cursor.offset terminal.describe) := by
  have hmatch : terminal.pattern.matchAt cursor = none := by
    rw [htakes.matchAt_eq, hnone]
    rfl
  rw [Terminal.decode, hmatch]

theorem decode_of_some (htakes : terminal.Takes lexeme?) {front back : List Char}
    (hsome : lexeme? cursor.after = some (front, back)) :
    terminal.decode cursor =
      match terminal.conversion.read (String.ofList front) with
      | .ok value => .ok ⟨value, cursor.pass front back⟩
      | .error message => .fail (.conversion cursor.offset (String.ofList front) message) := by
  have hmatch : terminal.pattern.matchAt cursor = some (Text.byteLength front) := by
    rw [htakes.matchAt_eq, hsome]
    rfl
  exact Terminal.decode_of_matchAt (htakes.splits _ front back hsome) hmatch

end Terminal.Takes

namespace Primitive

open Lexeme

theorem takes_whitespace : whitespace.Takes (run? isBlank isBlank) :=
  ⟨fun cursor => prefixLength?_whitespace cursor.after, splits_run? _ _⟩

theorem takes_identifier : identifier.Takes (run? isIdentifierStart isIdentifierPart) :=
  ⟨fun cursor => prefixLength?_identifier cursor.after, splits_run? _ _⟩

theorem takes_integer : integer.Takes numeral? :=
  ⟨fun cursor => prefixLength?_integer cursor.after, splits_numeral?⟩

theorem takes_stringLiteral : stringLiteral.Takes literal? :=
  ⟨fun cursor => prefixLength?_string cursor.after, splits_literal?⟩

end Primitive

end TwoWay
