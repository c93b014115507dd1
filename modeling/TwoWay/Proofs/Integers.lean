import Mathlib.Algebra.Group.Int.Defs
import TwoWay.Proofs.MaximalMunch
import TwoWay.Proofs.Spelling

/-!
# Integers

The same numerals are read with and without a limit. Without one the value of a numeral is what its
digits make; with one it is the same number as long as 64 bits hold it, and the direction of the
sign decides what is reported otherwise. What is printed for a number is the numeral that is read
back.
-/

namespace TwoWay

namespace Lexeme

/-- A minus sign or none, and then zero or digits that do not start with zero. -/
structure Numeral where
  negative : Bool
  digits : List Char
  natural : IsNatural digits

namespace Numeral

def chars (numeral : Numeral) : List Char :=
  if numeral.negative then '-' :: numeral.digits else numeral.digits

def value (numeral : Numeral) : Int :=
  Text.signed numeral.negative (Nat.ofDigitChars 10 numeral.digits 0)

/-- The text is the numeral and the rest, and no digit of the rest belongs to the numeral: none
belongs to a zero. -/
def Leads (numeral : Numeral) (text rest : List Char) : Prop :=
  text = numeral.chars ++ rest ∧ (numeral.digits = ['0'] ∨ Stops Char.isDigit rest)

/-- The numeral that is printed for a number. -/
def ofInt (n : Int) : Numeral :=
  ⟨decide (n < 0), Nat.toDigits 10 n.natAbs, isNatural_toDigits n.natAbs⟩

theorem toList_numeral (n : Int) : (Text.numeral n).toList = (ofInt n).chars := by
  rw [Text.numeral_eq, String.toList_ofList]
  rfl

theorem value_ofInt (n : Int) : (ofInt n).value = n := by
  rw [value, ofInt, Nat.ofDigitChars_ten_toDigits, Text.signed_natAbs]

end Numeral

/-! ### Numerals are what the pattern takes -/

theorem numeral?_of_leads {numeral : Numeral} {text rest : List Char}
    (hleads : numeral.Leads text rest) : numeral? text = some (numeral.chars, rest) := by
  obtain ⟨rfl, hzero | hstops⟩ := hleads
  · obtain ⟨negative, digits, hnatural⟩ := numeral
    cases hzero
    cases negative <;> rfl
  · exact numeral?_append numeral.negative numeral.natural hstops

theorem leads_of_natural? {text digits rest : List Char}
    (hnatural : natural? text = some (digits, rest)) :
    text = digits ++ rest ∧ (digits = ['0'] ∨ Stops Char.isDigit rest) := by
  refine ⟨splits_natural? text digits rest hnatural, ?_⟩
  unfold natural? at hnatural
  split at hnatural
  · cases hnatural
    exact .inl rfl
  · exact .inr (stops_of_run? (fun _ => id) hnatural)

theorem exists_leads_of_numeral? {text front rest : List Char}
    (hnumeral : numeral? text = some (front, rest)) :
    ∃ numeral : Numeral, numeral.Leads text rest := by
  unfold numeral? at hnumeral
  split at hnumeral
  · obtain ⟨⟨digits, rest⟩, hnatural, hsplit⟩ := Option.map_eq_some_iff.1 hnumeral
    cases hsplit
    obtain ⟨rfl, hrest⟩ := leads_of_natural? hnatural
    exact ⟨⟨true, digits, isNatural_of_natural? hnatural⟩, rfl, hrest⟩
  · exact ⟨⟨false, front, isNatural_of_natural? hnumeral⟩, leads_of_natural? hnumeral⟩

theorem numeral?_eq_none_iff {text : List Char} :
    numeral? text = none ↔ ¬ ∃ numeral rest, Numeral.Leads numeral text rest := by
  constructor
  · rintro hnone ⟨numeral, rest, hleads⟩
    rw [numeral?_of_leads hleads] at hnone
    cases hnone
  · intro hnot
    cases hnumeral : numeral? text with
    | none => rfl
    | some split =>
        obtain ⟨numeral, hleads⟩ := exists_leads_of_numeral? hnumeral
        exact absurd ⟨numeral, split.2, hleads⟩ hnot

end Lexeme

namespace Text

open Lexeme

/-! ### Reading numerals -/

theorem readDigits_of_natural {digits : List Char} (hnatural : IsNatural digits) :
    readDigits digits = .ok (Nat.ofDigitChars 10 digits 0) := by
  have hdigits := hnatural.isDigit
  obtain ⟨c, rest, rfl⟩ := List.exists_cons_of_ne_nil hnatural.ne_nil
  have hbare : (c :: rest).filter (· ≠ '_') = c :: rest := by
    rw [List.filter_eq_self]
    intro d hd
    have hdigit := hdigits d hd
    simp only [ne_eq, decide_not, Bool.not_eq_true', decide_eq_false_iff_not]
    rintro rfl
    cases hdigit
  have hunderscore : c ≠ '_' := by
    rintro rfl
    cases hdigits '_' List.mem_cons_self
  unfold readDigits
  split
  · contradiction
  · rename_i heq
    exact absurd (List.cons.inj heq).1 hunderscore
  · simp only [hbare, if_pos (List.all_eq_true.2 hdigits)]

/-- Without a limit every numeral is read. -/
theorem readInteger_numeral (numeral : Numeral) :
    readInteger (String.ofList numeral.chars) = .ok numeral.value := by
  obtain ⟨negative, digits, hnatural⟩ := numeral
  have hread := readDigits_of_natural hnatural
  have hdigits := hnatural.isDigit
  obtain ⟨c, rest, rfl⟩ := List.exists_cons_of_ne_nil hnatural.ne_nil
  have hplus : c ≠ '+' := by
    rintro rfl
    cases hdigits '+' List.mem_cons_self
  have hminus : c ≠ '-' := by
    rintro rfl
    cases hdigits '-' List.mem_cons_self
  cases negative with
  | true => simp [readInteger, Numeral.chars, Numeral.value, signed, hplus, hread]
  | false =>
      simp [readInteger, readNatural, Numeral.chars, Numeral.value, signed, hplus, hminus, hread]

def InRange (n : Int) : Prop :=
  -2 ^ 63 ≤ n ∧ n < 2 ^ 63

theorem le_reach_iff (numeral : Numeral) :
    Nat.ofDigitChars 10 numeral.digits 0 ≤ reach numeral.negative ↔ InRange numeral.value := by
  obtain ⟨negative, digits, hnatural⟩ := numeral
  cases negative <;>
    simp only [InRange, Numeral.value, signed, reach, Bool.false_eq_true, if_false, if_true] <;>
    omega

theorem readInt64_of_inRange {numeral : Numeral} (hrange : InRange numeral.value) :
    readInt64 (String.ofList numeral.chars) = .ok (Int64.ofInt numeral.value) := by
  rw [Numeral.chars, readInt64_digits _ numeral.natural.ne_nil numeral.natural.isDigit,
    if_pos ((le_reach_iff numeral).2 hrange)]
  rfl

theorem readInt64_of_not_inRange {numeral : Numeral} (hrange : ¬ InRange numeral.value) :
    readInt64 (String.ofList numeral.chars) = .error (outOfReach numeral.negative) := by
  rw [Numeral.chars, readInt64_digits _ numeral.natural.ne_nil numeral.natural.isDigit,
    if_neg (mt (le_reach_iff numeral).1 hrange)]

theorem message_outOfReach (negative : Bool) :
    (outOfReach negative).message =
      if negative then "number too small to fit in target type"
      else "number too large to fit in target type" := by
  cases negative <;> rfl

end Text

theorem Grammar.encode_terminal {kind : Scalar} (leaf : Terminal kind.Carrier)
    (content : kind.Carrier) :
    (Grammar.terminal leaf).encode content = .ok (leaf.conversion.print content) := by
  rw [encode_eq_spelling]
  rfl

namespace Primitive

open Lexeme

/-! ### Decoding -/

theorem anchored_integerSource :
    Pattern.anchored integerSource = .ok (pattern integerSource integerRegex) :=
  anchored_eq_of_parse? (by decide)

theorem takes_bigInteger : bigInteger.Takes numeral? :=
  ⟨fun cursor => prefixLength?_integer cursor.after, splits_numeral?⟩

variable {cursor : Cursor} {numeral : Numeral} {rest : List Char}

theorem decode_bigInteger_of_leads (hleads : numeral.Leads cursor.after rest) :
    bigInteger.decode cursor = .ok ⟨numeral.value, cursor.pass numeral.chars rest⟩ := by
  have hread : bigInteger.conversion.read (String.ofList numeral.chars) = .ok numeral.value :=
    mapError_eq_ok_iff.2 (Text.readInteger_numeral numeral)
  rw [takes_bigInteger.decode_of_some (numeral?_of_leads hleads), hread]

theorem decode_integer_of_inRange (hleads : numeral.Leads cursor.after rest)
    (hrange : Text.InRange numeral.value) :
    integer.decode cursor =
      .ok ⟨Int64.ofInt numeral.value, cursor.pass numeral.chars rest⟩ := by
  have hread : integer.conversion.read (String.ofList numeral.chars) =
      .ok (Int64.ofInt numeral.value) :=
    mapError_eq_ok_iff.2 (Text.readInt64_of_inRange hrange)
  rw [takes_integer.decode_of_some (numeral?_of_leads hleads), hread]

theorem decode_integer_of_not_inRange (hleads : numeral.Leads cursor.after rest)
    (hrange : ¬ Text.InRange numeral.value) :
    integer.decode cursor =
      .fail (.conversion cursor.offset (String.ofList numeral.chars)
        (if numeral.negative then "number too small to fit in target type"
          else "number too large to fit in target type")) := by
  have hread : integer.conversion.read (String.ofList numeral.chars) =
      .error (Text.outOfReach numeral.negative).message := by
    change (Text.readInt64 _).mapError _ = _
    rw [Text.readInt64_of_not_inRange hrange]
    rfl
  rw [takes_integer.decode_of_some (numeral?_of_leads hleads), hread]
  simp only [Text.message_outOfReach]

theorem decode_integer_eq_ok_iff (hleads : numeral.Leads cursor.after rest) :
    (∃ n : Int64, n.toInt = numeral.value ∧
        integer.decode cursor = .ok ⟨n, cursor.pass numeral.chars rest⟩) ↔
      Text.InRange numeral.value := by
  constructor
  · rintro ⟨n, hn, -⟩
    rw [← hn]
    exact ⟨n.le_toInt, n.toInt_lt⟩
  · intro hrange
    exact ⟨Int64.ofInt numeral.value, Int64.toInt_ofInt_of_le hrange.1 hrange.2,
      decode_integer_of_inRange hleads hrange⟩

/-- **Integers are exact, and the two terminals agree.** Neither matches where no numeral leads the
text. Where one does, its value is read without a limit, and it is read within 64 bits if they hold
it; else the numeral is reported, with the side on which it leaves the range. The numeral of any
number is read back before whatever does not start with a digit. -/
theorem integers_exact :
    Pattern.anchored integerSource = .ok integer.pattern ∧
      Pattern.anchored integerSource = .ok bigInteger.pattern ∧
      (∀ cursor : Cursor, (¬ ∃ numeral rest, Numeral.Leads numeral cursor.after rest) →
        integer.decode cursor = .fail (.patternMismatch cursor.offset "integer") ∧
          bigInteger.decode cursor = .fail (.patternMismatch cursor.offset "big integer")) ∧
      (∀ (cursor : Cursor) (numeral : Numeral) (rest : List Char),
        numeral.Leads cursor.after rest →
        bigInteger.decode cursor = .ok ⟨numeral.value, cursor.pass numeral.chars rest⟩ ∧
          ((∃ n : Int64, n.toInt = numeral.value ∧
              integer.decode cursor = .ok ⟨n, cursor.pass numeral.chars rest⟩) ↔
            -2 ^ 63 ≤ numeral.value ∧ numeral.value < 2 ^ 63) ∧
          (¬ (-2 ^ 63 ≤ numeral.value ∧ numeral.value < 2 ^ 63) →
            integer.decode cursor =
              .fail (.conversion cursor.offset (String.ofList numeral.chars)
                (if numeral.negative then "number too small to fit in target type"
                  else "number too large to fit in target type")))) ∧
      (∀ (n : Int64) (rest : List Char), Stops Char.isDigit rest →
        ∃ text, (Grammar.terminal integer : Grammar (.scalar .integer)).encode n = .ok text ∧
          ∀ cursor : Cursor, cursor.after = text.toList ++ rest →
            integer.decode cursor = .ok ⟨n, cursor.pass text.toList rest⟩) ∧
      ∀ (n : Int) (rest : List Char), Stops Char.isDigit rest →
        ∃ text, (Grammar.terminal bigInteger : Grammar (.scalar .bigInteger)).encode n = .ok text ∧
          ∀ cursor : Cursor, cursor.after = text.toList ++ rest →
            bigInteger.decode cursor = .ok ⟨n, cursor.pass text.toList rest⟩ := by
  refine ⟨anchored_integerSource, anchored_integerSource, ?_, ?_, ?_, ?_⟩
  · intro cursor hnot
    have hnone := numeral?_eq_none_iff.2 hnot
    exact ⟨takes_integer.decode_of_none hnone, takes_bigInteger.decode_of_none hnone⟩
  · intro cursor numeral rest hleads
    exact ⟨decode_bigInteger_of_leads hleads, decode_integer_eq_ok_iff hleads,
      decode_integer_of_not_inRange hleads⟩
  · intro n rest hrest
    refine ⟨Text.numeral n.toInt, @Grammar.encode_terminal .integer integer n,
      fun cursor hafter => ?_⟩
    exact Statement.reads_integer n hrest cursor hafter
  · intro n rest hrest
    refine ⟨Text.numeral n, @Grammar.encode_terminal .bigInteger bigInteger n,
      fun cursor hafter => ?_⟩
    rw [Numeral.toList_numeral] at hafter ⊢
    have hleads : (Numeral.ofInt n).Leads cursor.after rest := ⟨hafter, .inr hrest⟩
    rw [decode_bigInteger_of_leads hleads, Numeral.value_ofInt]

/-- One below the least integer of 64 bits. -/
def belowLeast : Numeral :=
  ⟨true, "9223372036854775809".toList,
    .inr ⟨'9', _, rfl, by decide, List.all_eq_true.1 (by decide)⟩⟩

/-- A sign without digits is no numeral, the low end of the range is read back, and the number below
it is read without a limit only. -/
theorem integers_exact_lowEnd :
    (¬ ∃ numeral rest, Numeral.Leads numeral (Cursor.start "-x").after rest) ∧
      integer.decode (.start "-x") = .fail (.patternMismatch 0 "integer") ∧
      belowLeast.Leads (Cursor.start "-9223372036854775809;").after [';'] ∧
      bigInteger.decode (.start "-9223372036854775809;") =
        .ok ⟨-9223372036854775809,
          (Cursor.start "-9223372036854775809;").pass belowLeast.chars [';']⟩ ∧
      integer.decode (.start "-9223372036854775809;") =
        .fail (.conversion 0 "-9223372036854775809" "number too small to fit in target type") ∧
      Stops Char.isDigit [';'] ∧
      ∃ text, (Grammar.terminal integer : Grammar (.scalar .integer)).encode Int64.minValue =
          .ok text ∧
        ∀ cursor : Cursor, cursor.after = text.toList ++ [';'] →
          integer.decode cursor = .ok ⟨Int64.minValue, cursor.pass text.toList [';']⟩ := by
  have hnone : ¬ ∃ numeral rest, Numeral.Leads numeral (Cursor.start "-x").after rest :=
    numeral?_eq_none_iff.1 (by decide)
  have hstops : Stops Char.isDigit [';'] := stops_cons rfl []
  have hleads : belowLeast.Leads (Cursor.start "-9223372036854775809;").after [';'] :=
    ⟨by decide, .inr hstops⟩
  obtain ⟨-, -, hmismatch, hread, hroundTrip, -⟩ := integers_exact
  obtain ⟨hbig, -, hsmall⟩ := hread _ _ _ hleads
  exact ⟨hnone, (hmismatch _ hnone).1, hleads, hbig, hsmall (by decide), hstops,
    hroundTrip Int64.minValue [';'] hstops⟩

end Primitive

end TwoWay
