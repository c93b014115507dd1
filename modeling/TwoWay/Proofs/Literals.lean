import Mathlib.Algebra.Group.Nat.Defs
import TwoWay.Proofs.Failure
import TwoWay.Proofs.Lexemes

/-!
# Numerals and string literals

What is printed for an integer or a text is a lexeme, wherever the text behind it does not run on,
and reading it gives the integer or the text back.
-/

namespace TwoWay

namespace Text

/-! ### String literals -/

theorem escapedChar_cases (c : Char) :
    (∃ letter, escapedChar c = ['\\', letter] ∧ escapeMeaning? letter = some c) ∨
      (escapedChar c = [c] ∧ c ≠ '"' ∧ c ≠ '\\') := by
  by_cases hquote : c = '"'
  · subst hquote
    exact .inl ⟨'"', rfl, rfl⟩
  by_cases hbackslash : c = '\\'
  · subst hbackslash
    exact .inl ⟨'\\', rfl, rfl⟩
  by_cases hnewline : c = '\n'
  · subst hnewline
    exact .inl ⟨'n', rfl, rfl⟩
  by_cases htab : c = '\t'
  · subst htab
    exact .inl ⟨'t', rfl, rfl⟩
  by_cases hreturn : c = '\r'
  · subst hreturn
    exact .inl ⟨'r', rfl, rfl⟩
  · refine .inr ⟨?_, hquote, hbackslash⟩
    simp [escapedChar, hquote, hbackslash, hnewline, htab, hreturn]

theorem unescapeBody_cons {c : Char} (hc : c ≠ '\\') (rest : List Char) :
    unescapeBody (c :: rest) = (c :: ·) <$> unescapeBody rest := by
  rw [unescapeBody]
  · exact fun heq _ => hc heq
  · exact fun _ _ heq _ => hc heq

/-- The letters that may stand behind a backslash, each with the character it stands for. -/
def escapes : List (Char × Char) :=
  [('"', '"'), ('\\', '\\'), ('n', '\n'), ('t', '\t'), ('r', '\r')]

theorem escapeMeaning?_eq_some_iff {letter c : Char} :
    escapeMeaning? letter = some c ↔ (letter, c) ∈ escapes := by
  unfold escapeMeaning? escapes
  split_ifs <;> simp_all [eq_comm]

/-- What stands between the quotes of a literal, and the text that it stands for. -/
inductive Quotes : List Char → List Char → Prop
  | nil : Quotes [] []
  | plain {c : Char} {body content : List Char} (hquote : c ≠ '"') (hbackslash : c ≠ '\\')
      (hbody : Quotes body content) : Quotes (c :: body) (c :: content)
  | escape {letter c : Char} {body content : List Char} (hescape : (letter, c) ∈ escapes)
      (hbody : Quotes body content) : Quotes ('\\' :: letter :: body) (c :: content)

theorem unescapeBody_of_quotes {body content : List Char} (hquotes : Quotes body content) :
    unescapeBody body = .ok content := by
  induction hquotes with
  | nil => rfl
  | plain hquote hbackslash _ ih => rw [unescapeBody_cons hbackslash, ih, map_ok]
  | escape hescape _ ih =>
      rw [unescapeBody]
      simp only [escapeMeaning?_eq_some_iff.2 hescape, ih, map_ok]

theorem quotes_flatMap (text : List Char) : Quotes (text.flatMap escapedChar) text := by
  induction text with
  | nil => exact .nil
  | cons c rest ih =>
      rw [List.flatMap_cons]
      obtain ⟨letter, hescaped, hmeaning⟩ | ⟨hescaped, hquote, hbackslash⟩ := escapedChar_cases c
      · rw [hescaped]
        exact .escape (escapeMeaning?_eq_some_iff.1 hmeaning) ih
      · rw [hescaped]
        exact .plain hquote hbackslash ih

theorem toList_escaped (text : String) :
    (escaped text).toList = '"' :: (text.toList.flatMap escapedChar ++ ['"']) := by
  rw [escaped, String.toList_ofList, List.cons_append]

theorem unescape_of_quotes {body content : List Char} (hquotes : Quotes body content) :
    unescape (String.ofList ('"' :: (body ++ ['"']))) = .ok (String.ofList content) := by
  have hunquote : unquote? ('"' :: (body ++ ['"'])) = some body := by simp [unquote?]
  simp only [unescape, String.toList_ofList, hunquote, unescapeBody_of_quotes hquotes, map_ok]

/-- **A literal stands for the text it was made from.** -/
theorem unescape_escaped (text : String) : unescape (escaped text) = .ok text := by
  have hread := unescape_of_quotes (quotes_flatMap text.toList)
  rwa [← toList_escaped, String.ofList_toList, String.ofList_toList] at hread

/-! ### Numerals -/

theorem le_ofDigitChars (digits : List Char) (value : Nat) :
    value ≤ Nat.ofDigitChars 10 digits value := by
  induction digits generalizing value with
  | nil => simp
  | cons c rest ih =>
      rw [Nat.ofDigitChars_cons]
      calc
        value ≤ 10 * value + (c.toNat - '0'.toNat) := by omega
        _ ≤ Nat.ofDigitChars 10 rest (10 * value + (c.toNat - '0'.toNat)) := ih _

def signed (negative : Bool) (distance : Nat) : Int :=
  if negative then -distance else distance

theorem signed_zero (negative : Bool) : signed negative 0 = 0 := by
  cases negative <;> rfl

theorem signed_natAbs (n : Int) : signed (decide (n < 0)) n.natAbs = n := by
  by_cases hnegative : n < 0
  · simp only [signed, hnegative, decide_true, if_true]
    omega
  · simp only [signed, hnegative, decide_false, Bool.false_eq_true, if_false]
    omega

/-- The greatest distance from zero that 64 bits hold in the direction of the sign. -/
def reach (negative : Bool) : Nat :=
  if negative then 2 ^ 63 else 2 ^ 63 - 1

def outOfReach (negative : Bool) : NumeralError :=
  if negative then .tooSmall else .tooLarge

theorem accumulate64_cons {negative : Bool} {c : Char} (hdigit : c.isDigit = true) (value : Nat)
    (rest : List Char) :
    accumulate64 negative (signed negative value) (c :: rest) =
      if 10 * value + (c.toNat - '0'.toNat) ≤ reach negative then
        accumulate64 negative (signed negative (10 * value + (c.toNat - '0'.toNat))) rest
      else .error (outOfReach negative) := by
  have hlow : '0'.toNat ≤ c.toNat := by
    simp [Char.isDigit, UInt32.le_iff_toNat_le] at hdigit
    simpa using hdigit.1
  have hmin : Int64.minValue.toInt = -2 ^ 63 := rfl
  have hmax : Int64.maxValue.toInt = 2 ^ 63 - 1 := rfl
  have hdigitValue : digitValue c = ((c.toNat - '0'.toNat : Nat) : Int) := by
    rw [digitValue]
    omega
  generalize c.toNat - '0'.toNat = digit at hdigitValue ⊢
  rw [accumulate64, if_pos hdigit]
  simp only [hdigitValue, hmin, hmax]
  cases negative with
  | false =>
      simp only [signed, reach, outOfReach, Bool.false_eq_true, if_false]
      by_cases hreach : 10 * value + digit ≤ 2 ^ 63 - 1
      · rw [if_pos hreach, if_neg (by omega), if_neg (by omega)]
        congr 1
        omega
      · rw [if_neg hreach, if_neg (by omega), if_pos (by omega)]
  | true =>
      simp only [signed, reach, outOfReach, if_true]
      by_cases hreach : 10 * value + digit ≤ 2 ^ 63
      · rw [if_pos hreach, if_neg (by omega), if_neg (by omega)]
        congr 1
        omega
      · rw [if_neg hreach, if_pos (by omega)]

/-- Digits are read exactly, if the number that they make is within reach. -/
theorem accumulate64_eq (negative : Bool) {digits : List Char}
    (hdigits : ∀ c ∈ digits, c.isDigit = true) {value : Nat} (hvalue : value ≤ reach negative) :
    accumulate64 negative (signed negative value) digits =
      if Nat.ofDigitChars 10 digits value ≤ reach negative then
        .ok (signed negative (Nat.ofDigitChars 10 digits value))
      else .error (outOfReach negative) := by
  induction digits generalizing value with
  | nil => rw [accumulate64, Nat.ofDigitChars_nil, if_pos hvalue]
  | cons c rest ih =>
      obtain ⟨hdigit, hrest⟩ := List.forall_mem_cons.1 hdigits
      rw [accumulate64_cons hdigit, Nat.ofDigitChars_cons]
      split
      · rename_i hnext
        exact ih hrest hnext
      · rename_i hnext
        -- Later digits only lead further away from zero.
        have hfar := le_ofDigitChars rest (10 * value + (c.toNat - '0'.toNat))
        rw [if_neg (by omega)]

theorem readInt64_digits (negative : Bool) {digits : List Char} (hnonempty : digits ≠ [])
    (hdigits : ∀ c ∈ digits, c.isDigit = true) :
    readInt64 (String.ofList (if negative then '-' :: digits else digits)) =
      if Nat.ofDigitChars 10 digits 0 ≤ reach negative then
        .ok (Int64.ofInt (signed negative (Nat.ofDigitChars 10 digits 0)))
      else .error (outOfReach negative) := by
  obtain ⟨c, rest, rfl⟩ := List.exists_cons_of_ne_nil hnonempty
  have hdigit : c.isDigit = true := hdigits c List.mem_cons_self
  have hread := accumulate64_eq negative hdigits (Nat.zero_le _)
  rw [signed_zero] at hread
  have hstart : readInt64 (String.ofList (if negative then '-' :: c :: rest else c :: rest)) =
      Int64.ofInt <$> accumulate64 negative 0 (c :: rest) := by
    cases negative with
    | true => simp [readInt64]
    | false =>
        have hplus : c ≠ '+' := by
          rintro rfl
          cases hdigit
        have hminus : c ≠ '-' := by
          rintro rfl
          cases hdigit
        simp [readInt64, hplus, hminus]
  rw [hstart, hread]
  split <;> rfl

theorem isDigit_of_mem_toDigits (n : Nat) : ∀ c ∈ Nat.toDigits 10 n, c.isDigit = true :=
  fun _ hmem => Nat.isDigit_of_mem_toDigits (by decide) (by decide) hmem

theorem numeral_eq (n : Int) :
    numeral n = String.ofList (if decide (n < 0) then '-' :: Nat.toDigits 10 n.natAbs
      else Nat.toDigits 10 n.natAbs) := by
  simp only [numeral, decide_eq_true_eq]

theorem natAbs_le_reach (n : Int64) : n.toInt.natAbs ≤ reach (decide (n.toInt < 0)) := by
  have hlow := n.le_toInt
  have hhigh := n.toInt_lt
  by_cases hnegative : n.toInt < 0
  · simp only [reach, hnegative, decide_true, if_true]
    omega
  · simp only [reach, hnegative, decide_false, Bool.false_eq_true, if_false]
    omega

/-- **An integer is read back from its numeral.** -/
theorem readInt64_numeral (n : Int64) : readInt64 (numeral n.toInt) = .ok n := by
  rw [numeral_eq, readInt64_digits _ Nat.toDigits_ne_nil (isDigit_of_mem_toDigits _),
    Nat.ofDigitChars_ten_toDigits, if_pos (natAbs_le_reach n), signed_natAbs, Int64.ofInt_toInt]

end Text

namespace Lexeme

/-! ### Printed texts are lexemes -/

/-- The text does not start with a character of that kind. -/
def Stops (part : Char → Bool) (text : List Char) : Prop :=
  ∀ c ∈ text.head?, part c = false

theorem stops_cons {part : Char → Bool} {c : Char} (hc : part c = false) (rest : List Char) :
    Stops part (c :: rest) := by
  intro d hd
  cases hd
  exact hc

theorem takeWhile_of_stops {part : Char → Bool} {text : List Char} (hstops : Stops part text) :
    text.takeWhile part = [] ∧ text.dropWhile part = text := by
  cases text with
  | nil => exact ⟨rfl, rfl⟩
  | cons c rest =>
      have hc : part c = false := hstops c rfl
      simp [hc]

theorem run?_append {first part : Char → Bool} {c : Char} {word rest : List Char}
    (hfirst : first c = true) (hword : ∀ d ∈ word, part d = true) (hrest : Stops part rest) :
    run? first part (c :: word ++ rest) = some (c :: word, rest) := by
  obtain ⟨htake, hdrop⟩ := takeWhile_of_stops hrest
  rw [List.cons_append, run?, if_pos hfirst, List.takeWhile_append_of_pos hword,
    List.dropWhile_append_of_pos hword, htake, hdrop, List.append_nil]

theorem toDigits_cases (n : Nat) :
    Nat.toDigits 10 n = ['0'] ∨ ∃ c rest, Nat.toDigits 10 n = c :: rest ∧ c ≠ '0' := by
  induction n using Nat.strongRecOn with
  | ind n ih =>
      by_cases hsmall : n < 10
      · rw [Nat.toDigits_of_lt_base hsmall]
        by_cases hzero : n = 0
        · subst hzero
          exact .inl rfl
        · refine .inr ⟨n.digitChar, [], rfl, ?_⟩
          intro heq
          have hvalue := Nat.toNat_digitChar_sub_48_of_lt_ten hsmall
          rw [heq] at hvalue
          exact hzero hvalue.symm
      · rw [Nat.toDigits_of_base_le (by decide) (by omega)]
        -- The leading digit is that of the quotient, which is smaller but not zero.
        obtain hquotient | ⟨c, rest, hquotient, hc⟩ := ih (n / 10) (by omega)
        · have hvalue := congrArg (fun digits => Nat.ofDigitChars 10 digits 0) hquotient
          rw [Nat.ofDigitChars_ten_toDigits] at hvalue
          have hpos : n / 10 = 0 := hvalue
          omega
        · exact .inr ⟨c, rest ++ [(n % 10).digitChar], by rw [hquotient, List.cons_append], hc⟩

/-- Zero, or digits that do not start with zero. -/
def IsNatural (digits : List Char) : Prop :=
  digits = ['0'] ∨ ∃ c rest, digits = c :: rest ∧ c ≠ '0' ∧ ∀ d ∈ digits, d.isDigit = true

theorem isNatural_toDigits (n : Nat) : IsNatural (Nat.toDigits 10 n) := by
  obtain hzero | ⟨c, rest, hdigits, hc⟩ := toDigits_cases n
  · exact .inl hzero
  · exact .inr ⟨c, rest, hdigits, hc, Text.isDigit_of_mem_toDigits n⟩

theorem IsNatural.isDigit {digits : List Char} (hdigits : IsNatural digits) :
    ∀ c ∈ digits, c.isDigit = true := by
  obtain rfl | ⟨c, rest, -, -, hall⟩ := hdigits
  · exact List.forall_mem_singleton.2 rfl
  · exact hall

theorem IsNatural.ne_nil {digits : List Char} (hdigits : IsNatural digits) : digits ≠ [] := by
  obtain rfl | ⟨c, rest, rfl, -⟩ := hdigits <;> exact List.cons_ne_nil _ _

theorem natural?_append {digits rest : List Char} (hdigits : IsNatural digits)
    (hrest : Stops Char.isDigit rest) : natural? (digits ++ rest) = some (digits, rest) := by
  obtain rfl | ⟨c, more, rfl, hc, hall⟩ := hdigits
  · rfl
  · obtain ⟨hfirst, hlater⟩ := List.forall_mem_cons.1 hall
    rw [List.cons_append, natural?.eq_2 _ fun _ heq => hc (List.cons.inj heq).1]
    exact run?_append hfirst hlater hrest

theorem numeral?_of_isDigit {c : Char} (hdigit : c.isDigit = true) (rest : List Char) :
    numeral? (c :: rest) = natural? (c :: rest) := by
  apply numeral?.eq_2
  rintro more ⟨⟩
  cases hdigit

theorem numeral?_append (negative : Bool) {digits rest : List Char} (hdigits : IsNatural digits)
    (hrest : Stops Char.isDigit rest) :
    numeral? ((if negative then '-' :: digits else digits) ++ rest) =
      some (if negative then '-' :: digits else digits, rest) := by
  have hnatural := natural?_append hdigits hrest
  cases negative with
  | true =>
      simp only [if_true, List.cons_append, numeral?, hnatural]
      rfl
  | false =>
      have hall := hdigits.isDigit
      obtain ⟨c, more, rfl⟩ := List.exists_cons_of_ne_nil hdigits.ne_nil
      simp only [Bool.false_eq_true, if_false]
      rw [List.cons_append, numeral?_of_isDigit (hall c List.mem_cons_self)]
      exact hnatural

theorem numeral?_numeral (n : Int) {rest : List Char} (hrest : Stops Char.isDigit rest) :
    numeral? ((Text.numeral n).toList ++ rest) = some ((Text.numeral n).toList, rest) := by
  rw [Text.numeral_eq, String.toList_ofList]
  exact numeral?_append _ (isNatural_toDigits n.natAbs) hrest

theorem quoted?_cons {c : Char} (hquote : c ≠ '"') (hbackslash : c ≠ '\\') (rest : List Char) :
    quoted? (c :: rest) = (quoted? rest).map (prepend c) := by
  rw [quoted?]
  · exact fun heq => hquote heq
  · exact fun heq _ => hbackslash heq
  · exact fun _ _ heq _ => hbackslash heq

theorem quoted?_of_quotes {body content : List Char} (hquotes : Text.Quotes body content)
    (rest : List Char) : quoted? (body ++ '"' :: rest) = some (body ++ ['"'], rest) := by
  induction hquotes with
  | nil => rfl
  | plain hquote hbackslash _ ih =>
      rw [List.cons_append, quoted?_cons hquote hbackslash, ih]
      rfl
  | @escape letter c body content hescape _ ih =>
      have hnewline : letter ≠ '\n' := by
        rintro rfl
        cases Text.escapeMeaning?_eq_some_iff.2 hescape
      simp only [List.cons_append]
      rw [quoted?, if_neg hnewline, ih]
      rfl

/-- A literal ends at its closing quote, whatever follows. -/
theorem literal?_of_quotes {body content : List Char} (hquotes : Text.Quotes body content)
    (rest : List Char) :
    literal? ('"' :: (body ++ ['"']) ++ rest) = some ('"' :: (body ++ ['"']), rest) := by
  rw [List.cons_append, List.append_assoc, List.singleton_append, literal?,
    quoted?_of_quotes hquotes]
  rfl

theorem literal?_escaped (text : String) (rest : List Char) :
    literal? ((Text.escaped text).toList ++ rest) = some ((Text.escaped text).toList, rest) := by
  rw [Text.toList_escaped]
  exact literal?_of_quotes (Text.quotes_flatMap text.toList) rest

/-! ### Kinds of characters -/

theorem isIdentifierPart_of_start {c : Char} (hc : isIdentifierStart c = true) :
    isIdentifierPart c = true := by
  simp only [isIdentifierStart, Bool.or_eq_true] at hc
  rcases hc with halpha | hunderscore
  · simp [isIdentifierPart, Char.isAlphanum, halpha]
  · simp [isIdentifierPart, hunderscore]

theorem not_isBlank_of_identifierPart {c : Char} (hc : isIdentifierPart c = true) :
    isBlank c = false := by
  rw [Bool.eq_false_iff]
  intro hblank
  simp only [isBlank, Bool.or_eq_true, decide_eq_true_eq] at hblank
  rcases hblank with ((rfl | rfl) | rfl) | rfl <;> cases hc

end Lexeme

end TwoWay
