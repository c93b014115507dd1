import TwoWay.Proofs.StringLiterals

/-!
# The tokens of string literals

A literal is recognised by a regular expression, and its escapes are resolved by a loop over its
characters. The expression takes any character but a line feed behind a backslash, the loop knows
five of them. Cut into items, a token shows what both of them make of it: the two agree on where an
item ends, so the loop never meets a lone backslash or a missing quote, and all that it may refuse
is an escape it does not know.
-/

namespace TwoWay

namespace Lexeme

/-- A piece of what stands between the quotes: a character, or one behind a backslash. -/
inductive QuotedItem
  | plain (c : Char) (hquote : c ≠ '"') (hbackslash : c ≠ '\\')
  | escape (c : Char) (hnewline : c ≠ '\n')

namespace QuotedItem

def chars : QuotedItem → List Char
  | .plain c _ _ => [c]
  | .escape c _ => ['\\', c]

/-- The character that the item stands for. Most escapes stand for none. -/
def meaning? : QuotedItem → Option Char
  | .plain c _ _ => some c
  | .escape c _ => Text.escapes.lookup c

end QuotedItem

/-- A quote, the items, a quote. -/
def tokenText (items : List QuotedItem) : List Char :=
  '"' :: (items.flatMap QuotedItem.chars ++ ['"'])

theorem tokenText_append (items : List QuotedItem) (rest : List Char) :
    tokenText items ++ rest = '"' :: (items.flatMap QuotedItem.chars ++ '"' :: rest) := by
  simp [tokenText]

/-! ### Tokens are what the pattern takes -/

theorem QuotedItem.chars_append_ne (item : QuotedItem) (text rest : List Char) :
    item.chars ++ text ≠ '"' :: rest := by
  intro hsame
  have hhead := congrArg List.head? hsame
  cases item with
  | plain c hquote _ => exact hquote (Option.some.inj hhead)
  | escape c _ => cases hhead

theorem QuotedItem.chars_unique {item item' : QuotedItem} {text text' : List Char}
    (hsame : item.chars ++ text = item'.chars ++ text') : item = item' ∧ text = text' := by
  cases item with
  | plain c _ hbackslash =>
      cases item' with
      | plain d _ _ =>
          obtain ⟨rfl, htext⟩ := List.cons.inj hsame
          exact ⟨rfl, htext⟩
      | escape d _ => exact absurd (List.cons.inj hsame).1 hbackslash
  | escape c _ =>
      cases item' with
      | plain d _ hbackslash => exact absurd (List.cons.inj hsame).1.symm hbackslash
      | escape d _ =>
          obtain ⟨rfl, htext⟩ := List.cons.inj (List.cons.inj hsame).2
          exact ⟨rfl, htext⟩

theorem items_unique {items items' : List QuotedItem} {rest rest' : List Char}
    (hsame : items.flatMap QuotedItem.chars ++ '"' :: rest =
      items'.flatMap QuotedItem.chars ++ '"' :: rest') : items = items' ∧ rest = rest' := by
  induction items generalizing items' with
  | nil =>
      cases items' with
      | nil => exact ⟨rfl, (List.cons.inj hsame).2⟩
      | cons item' more' =>
          rw [List.flatMap_cons, List.append_assoc] at hsame
          exact absurd hsame.symm (item'.chars_append_ne _ _)
  | cons item more ih =>
      rw [List.flatMap_cons, List.append_assoc] at hsame
      cases items' with
      | nil => exact absurd hsame (item.chars_append_ne _ _)
      | cons item' more' =>
          rw [List.flatMap_cons, List.append_assoc] at hsame
          obtain ⟨rfl, htail⟩ := QuotedItem.chars_unique hsame
          obtain ⟨rfl, hrest⟩ := ih htail
          exact ⟨rfl, hrest⟩

theorem tokenText_unique {items items' : List QuotedItem} {rest rest' : List Char}
    (hsame : tokenText items ++ rest = tokenText items' ++ rest') :
    items = items' ∧ rest = rest' := by
  rw [tokenText_append, tokenText_append] at hsame
  exact items_unique (List.cons.inj hsame).2

theorem quoted?_items (items : List QuotedItem) (rest : List Char) :
    quoted? (items.flatMap QuotedItem.chars ++ '"' :: rest) =
      some (items.flatMap QuotedItem.chars ++ ['"'], rest) := by
  induction items with
  | nil => rfl
  | cons item more ih =>
      cases item with
      | plain c hquote hbackslash =>
          simp only [List.flatMap_cons, QuotedItem.chars, List.cons_append, List.nil_append]
          rw [quoted?_cons hquote hbackslash, ih]
          rfl
      | escape c hnewline =>
          simp only [List.flatMap_cons, QuotedItem.chars, List.cons_append, List.nil_append]
          rw [quoted?, if_neg hnewline, ih]
          rfl

theorem exists_items_of_quoted? {text front back : List Char}
    (hquoted : quoted? text = some (front, back)) :
    ∃ items : List QuotedItem, front = items.flatMap QuotedItem.chars ++ ['"'] := by
  fun_induction quoted? text generalizing front back with
  | case1 => cases hquoted
  | case2 rest =>
      cases hquoted
      exact ⟨[], rfl⟩
  | case3 => cases hquoted
  | case4 rest => cases hquoted
  | case5 c rest hnewline ih =>
      obtain ⟨⟨front', back'⟩, hinner, hsplit⟩ := Option.map_eq_some_iff.1 hquoted
      cases hsplit
      obtain ⟨items, rfl⟩ := ih hinner
      exact ⟨.escape c hnewline :: items, rfl⟩
  | case6 c rest hquote hend hescape ih =>
      obtain ⟨⟨front', back'⟩, hinner, hsplit⟩ := Option.map_eq_some_iff.1 hquoted
      cases hsplit
      obtain ⟨items, rfl⟩ := ih hinner
      have hbackslash : c ≠ '\\' := by
        rintro rfl
        cases rest with
        | nil => exact hend rfl rfl
        | cons d more => exact hescape d more rfl rfl
      exact ⟨.plain c hquote hbackslash :: items, rfl⟩

theorem literal?_tokenText (items : List QuotedItem) (rest : List Char) :
    literal? (tokenText items ++ rest) = some (tokenText items, rest) := by
  rw [tokenText_append, literal?, quoted?_items]
  rfl

theorem exists_items_of_literal? {text front back : List Char}
    (hliteral : literal? text = some (front, back)) : ∃ items, front = tokenText items := by
  unfold literal? at hliteral
  split at hliteral
  · obtain ⟨⟨front', back'⟩, hquoted, hsplit⟩ := Option.map_eq_some_iff.1 hliteral
    cases hsplit
    obtain ⟨items, rfl⟩ := exists_items_of_quoted? hquoted
    exact ⟨items, rfl⟩
  · cases hliteral

theorem literal?_eq_none_iff {text : List Char} :
    literal? text = none ↔ ¬ ∃ items rest, text = tokenText items ++ rest := by
  constructor
  · rintro hnone ⟨items, rest, rfl⟩
    rw [literal?_tokenText] at hnone
    cases hnone
  · intro hnot
    cases hliteral : literal? text with
    | none => rfl
    | some split =>
        obtain ⟨front, back⟩ := split
        have htext := splits_literal? text front back hliteral
        obtain ⟨items, rfl⟩ := exists_items_of_literal? hliteral
        exact absurd ⟨items, back, htext⟩ hnot

/-- The first item that stands for no character. -/
def unknown? (items : List QuotedItem) : Option QuotedItem :=
  items.find? fun item => item.meaning?.isNone

theorem unknown?_eq_none_iff {items : List QuotedItem} :
    unknown? items = none ↔ ∀ item ∈ items, item.meaning?.isSome := by
  simp [unknown?, Option.isSome_iff_ne_none]

/-- Characters stand for themselves, so the first item that stands for none is an escape. -/
theorem exists_escape_of_unknown? {items : List QuotedItem} {item : QuotedItem}
    (hunknown : unknown? items = some item) :
    ∃ front c hnewline back, item = .escape c hnewline ∧
      items = front ++ .escape c hnewline :: back ∧
      (∀ known ∈ front, known.meaning?.isSome) ∧ Text.escapes.lookup c = none := by
  obtain ⟨hitem, front, back, rfl, hfront⟩ := List.find?_eq_some_iff_append.1 hunknown
  cases item with
  | plain c _ _ => cases hitem
  | escape c hnewline =>
      refine ⟨front, c, hnewline, back, rfl, rfl, ?_, Option.isNone_iff_eq_none.1 hitem⟩
      intro known hmem
      simpa [Option.isSome_iff_ne_none] using hfront known hmem

end Lexeme

namespace Text

open Lexeme

/-! ### What the loop makes of the items -/

theorem append_inj_of_byteLength {front front' back back' : List Char}
    (hsame : front ++ back = front' ++ back') (hlength : byteLength front = byteLength front') :
    front = front' ∧ back = back' := by
  have hsplit := splitBytes?_append front back
  rw [hsame, hlength, splitBytes?_append] at hsplit
  simpa [eq_comm] using hsplit

theorem message_unknownEscape (c : Char) :
    (EscapeError.unknownEscape c).message = "unknown escape sequence \\" ++ String.singleton c := by
  have hmessage : (EscapeError.unknownEscape c).message =
      "unknown escape sequence \\" ++ String.ofList [c] := rfl
  rwa [← String.singleton_eq_ofList] at hmessage

theorem lookup_escapes (letter : Char) : escapes.lookup letter = escapeMeaning? letter := by
  unfold escapeMeaning? escapes
  split_ifs with hquote hbackslash hn ht hr
  · rw [hquote]; rfl
  · rw [hbackslash]; rfl
  · rw [hn]; rfl
  · rw [ht]; rfl
  · rw [hr]; rfl
  · simp only [List.lookup_cons, List.lookup_nil, beq_eq_false_iff_ne.2 hquote,
      beq_eq_false_iff_ne.2 hbackslash, beq_eq_false_iff_ne.2 hn, beq_eq_false_iff_ne.2 ht,
      beq_eq_false_iff_ne.2 hr]

theorem unescapeBody_chars {item : QuotedItem} {meaning : Char}
    (hmeaning : item.meaning? = some meaning) (rest : List Char) :
    unescapeBody (item.chars ++ rest) = (meaning :: ·) <$> unescapeBody rest := by
  cases item with
  | plain c hquote hbackslash =>
      cases hmeaning
      exact unescapeBody_cons hbackslash rest
  | escape c hnewline =>
      rw [QuotedItem.meaning?, lookup_escapes] at hmeaning
      rw [QuotedItem.chars, List.cons_append, List.singleton_append, unescapeBody]
      simp only [hmeaning]

/-- Items that stand for characters are resolved one by one. -/
theorem unescapeBody_items {items : List QuotedItem}
    (hknown : ∀ item ∈ items, item.meaning?.isSome) (rest : List Char) :
    unescapeBody (items.flatMap QuotedItem.chars ++ rest) =
      (items.filterMap QuotedItem.meaning? ++ ·) <$> unescapeBody rest := by
  induction items with
  | nil =>
      cases hrest : unescapeBody rest <;> simp [hrest]
  | cons item more ih =>
      obtain ⟨hitem, hmore⟩ := List.forall_mem_cons.1 hknown
      obtain ⟨meaning, hmeaning⟩ := Option.isSome_iff_exists.1 hitem
      rw [List.flatMap_cons, List.append_assoc, unescapeBody_chars hmeaning, ih hmore,
        List.filterMap_cons_some hmeaning]
      cases unescapeBody rest <;> rfl

theorem unescape_tokenText (items : List QuotedItem) :
    unescape (String.ofList (tokenText items)) =
      String.ofList <$> unescapeBody (items.flatMap QuotedItem.chars) := by
  have hunquote : unquote? (tokenText items) = some (items.flatMap QuotedItem.chars) := by
    simp [tokenText, unquote?]
  simp only [unescape, String.toList_ofList, hunquote]

theorem unescape_of_known {items : List QuotedItem}
    (hknown : ∀ item ∈ items, item.meaning?.isSome) :
    unescape (String.ofList (tokenText items)) =
      .ok (String.ofList (items.filterMap QuotedItem.meaning?)) := by
  have hbody := unescapeBody_items hknown []
  rw [List.append_nil, unescapeBody, map_ok, List.append_nil] at hbody
  rw [unescape_tokenText, hbody, map_ok]

theorem unescape_of_unknown {items : List QuotedItem} {c : Char} {hnewline : c ≠ '\n'}
    (hunknown : unknown? items = some (.escape c hnewline)) :
    unescape (String.ofList (tokenText items)) = .error (.unknownEscape c) := by
  obtain ⟨front, c, _, back, heq, rfl, hfront, hc⟩ := exists_escape_of_unknown? hunknown
  cases heq
  have hescape : unescapeBody ('\\' :: c :: back.flatMap QuotedItem.chars) =
      .error (.unknownEscape c) := by
    rw [lookup_escapes] at hc
    rw [unescapeBody]
    simp only [hc]
  have hbody := unescapeBody_items hfront ('\\' :: c :: back.flatMap QuotedItem.chars)
  rw [hescape, map_error] at hbody
  rw [unescape_tokenText, List.flatMap_append, List.flatMap_cons, QuotedItem.chars,
    List.cons_append, List.singleton_append, hbody, map_error]

theorem unescape_tokenText_cases (items : List QuotedItem) :
    (unknown? items = none ∧ unescape (String.ofList (tokenText items)) =
      .ok (String.ofList (items.filterMap QuotedItem.meaning?))) ∨
      ∃ c hnewline, unknown? items = some (.escape c hnewline) ∧
        unescape (String.ofList (tokenText items)) = .error (.unknownEscape c) := by
  cases hunknown : unknown? items with
  | none => exact .inl ⟨rfl, unescape_of_known (unknown?_eq_none_iff.1 hunknown)⟩
  | some item =>
      obtain ⟨-, c, hnewline, -, rfl, -⟩ := exists_escape_of_unknown? hunknown
      exact .inr ⟨c, hnewline, rfl, unescape_of_unknown hunknown⟩

end Text

namespace Primitive

open Lexeme

theorem read_stringLiteral (literal : String) :
    stringLiteral.conversion.read literal =
      (Text.unescape literal).mapError Text.EscapeError.message := rfl

theorem decode_of_token {cursor : Cursor} {items : List QuotedItem} {rest : List Char}
    (hafter : cursor.after = tokenText items ++ rest) :
    stringLiteral.decode cursor =
      match Text.unescape (String.ofList (tokenText items)) with
      | .ok content => .ok ⟨content, cursor.pass (tokenText items) rest⟩
      | .error error =>
          .fail (.conversion cursor.offset (String.ofList (tokenText items)) error.message) := by
  have hliteral := literal?_tokenText items rest
  rw [← hafter] at hliteral
  rw [takes_stringLiteral.decode_of_some hliteral, read_stringLiteral]
  cases Text.unescape (String.ofList (tokenText items)) <;> rfl

theorem decode_of_known {cursor : Cursor} {items : List QuotedItem} {rest : List Char}
    (hafter : cursor.after = tokenText items ++ rest)
    (hknown : ∀ item ∈ items, item.meaning?.isSome) :
    stringLiteral.decode cursor =
      .ok ⟨String.ofList (items.filterMap QuotedItem.meaning?),
        cursor.pass (tokenText items) rest⟩ := by
  rw [decode_of_token hafter, Text.unescape_of_known hknown]

theorem decode_of_unknown {cursor : Cursor} {items : List QuotedItem} {rest : List Char}
    {c : Char} {hnewline : c ≠ '\n'} (hafter : cursor.after = tokenText items ++ rest)
    (hunknown : unknown? items = some (.escape c hnewline)) :
    stringLiteral.decode cursor =
      .fail (.conversion cursor.offset (String.ofList (tokenText items))
        ("unknown escape sequence \\" ++ String.singleton c)) := by
  rw [decode_of_token hafter, Text.unescape_of_unknown hunknown]
  simp only [Text.message_unknownEscape]

/-- What the conversion is given is a token. -/
theorem exists_items_of_matchAt {cursor : Cursor} {front back : List Char}
    (hafter : cursor.after = front ++ back)
    (hmatch : stringLiteral.pattern.matchAt cursor = some (Text.byteLength front)) :
    ∃ items, front = tokenText items := by
  have htaken := takes_stringLiteral.matchAt_eq cursor
  rw [hmatch] at htaken
  obtain ⟨⟨front', back'⟩, hliteral, hlength⟩ := Option.map_eq_some_iff.1 htaken.symm
  have hsplit := splits_literal? _ front' back' hliteral
  obtain ⟨rfl, -⟩ := Text.append_inj_of_byteLength (hafter.symm.trans hsplit) hlength.symm
  exact exists_items_of_literal? hliteral

/-- **String literals decode exactly the quoted tokens.** A text starts with one token at most, and
where it starts with none the pattern does not match. Where it does, the items are resolved if each
of them stands for a character; else the first that does not is reported, with the whole token. The
conversion is only ever given a token, so it never misses a quote or the end of an escape. -/
theorem stringLiteral_decodes_tokens (cursor : Cursor) :
    Pattern.anchored stringSource = .ok stringLiteral.pattern ∧
      (∀ items items' rest rest', cursor.after = tokenText items ++ rest →
        cursor.after = tokenText items' ++ rest' → items = items' ∧ rest = rest') ∧
      ((∃ offset expected,
          stringLiteral.decode cursor = .fail (.patternMismatch offset expected)) ↔
        ¬ ∃ items rest, cursor.after = tokenText items ++ rest) ∧
      (∀ items rest, cursor.after = tokenText items ++ rest →
        ((∀ item ∈ items, item.meaning?.isSome) →
          stringLiteral.decode cursor =
            .ok ⟨String.ofList (items.filterMap QuotedItem.meaning?),
              cursor.pass (tokenText items) rest⟩) ∧
        (¬ (∀ item ∈ items, item.meaning?.isSome) →
          ∃ c hnewline, unknown? items = some (.escape c hnewline) ∧
            stringLiteral.decode cursor =
              .fail (.conversion cursor.offset (String.ofList (tokenText items))
                ("unknown escape sequence \\" ++ String.singleton c)))) ∧
      ∀ front back error, cursor.after = front ++ back →
        stringLiteral.pattern.matchAt cursor = some (Text.byteLength front) →
        Text.unescape (String.ofList front) = .error error → ∃ c, error = .unknownEscape c := by
  refine ⟨Statement.anchored_stringSource, ?_, ?_, ?_, ?_⟩
  · intro items items' rest rest' hafter hafter'
    exact tokenText_unique (hafter.symm.trans hafter')
  · constructor
    · rintro ⟨offset, expected, hfail⟩ ⟨items, rest, hafter⟩
      rw [decode_of_token hafter] at hfail
      split at hfail <;> cases hfail
    · intro hnot
      exact ⟨_, _, takes_stringLiteral.decode_of_none (literal?_eq_none_iff.2 hnot)⟩
  · intro items rest hafter
    refine ⟨decode_of_known hafter, fun hnot => ?_⟩
    obtain ⟨hnone, -⟩ | ⟨c, hnewline, hunknown, -⟩ := Text.unescape_tokenText_cases items
    · exact absurd (unknown?_eq_none_iff.1 hnone) hnot
    · exact ⟨c, hnewline, hunknown, decode_of_unknown hafter hunknown⟩
  · intro front back error hafter hmatch herror
    obtain ⟨items, rfl⟩ := exists_items_of_matchAt hafter hmatch
    obtain ⟨-, hread⟩ | ⟨c, -, -, hread⟩ := Text.unescape_tokenText_cases items
    · rw [hread] at herror
      cases herror
    · rw [hread] at herror
      cases herror
      exact ⟨c, rfl⟩

/-- Of two escapes the second is not known; a stray quote follows the token. -/
theorem stringLiteral_decodes_tokens_unknown :
    (Cursor.start "\"\n\\n\\q\"\"").after =
        tokenText [.plain '\n' (by decide) (by decide), .escape 'n' (by decide),
          .escape 'q' (by decide)] ++ ['"'] ∧
      stringLiteral.decode (.start "\"\n\\n\\q\"\"") =
        .fail (.conversion 0 "\"\n\\n\\q\"" "unknown escape sequence \\q") := by
  have hafter : (Cursor.start "\"\n\\n\\q\"\"").after =
      tokenText [.plain '\n' (by decide) (by decide), .escape 'n' (by decide),
        .escape 'q' (by decide)] ++ ['"'] := by decide
  refine ⟨hafter, ?_⟩
  obtain ⟨-, -, -, hdecodes, -⟩ :=
    stringLiteral_decodes_tokens (.start "\"\n\\n\\q\"\"")
  obtain ⟨c, hnewline, hunknown, hdecode⟩ := (hdecodes _ _ hafter).2 (by decide)
  cases hunknown
  exact hdecode

end Primitive

end TwoWay
