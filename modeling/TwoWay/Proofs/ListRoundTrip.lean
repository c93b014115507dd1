import TwoWay.Proofs.DistinctNames
import TwoWay.Proofs.GreedyRepetition
import TwoWay.Proofs.StatementRoundTrip

/-!
# Repetitions round-trip

A list is written as the texts of its items, joined by the rendering of the separator. Writing puts
a separator before every item that has a predecessor, decoding looks for one behind every item that
it has found. Step by step both come to the same places, so a list is read back as soon as each
piece of the joined text is read back where it stands and no item follows the last one. Numbers with
spaces between them are such pieces, and so are string literals back to back.
-/

namespace TwoWay

/-! ### Places in joined texts -/

section Joined

variable {joint : String} {texts : List String}

/-- Bytes of the first texts with the joint between any two of them. -/
def joinedLength (joint : String) (texts : List String) (count : Nat) : Nat :=
  (joint.intercalate (texts.take count)).utf8ByteSize

/-- Where a text starts among the joined texts: behind the earlier ones and another joint. -/
def textOffset (joint : String) (texts : List String) : Nat → Nat
  | 0 => 0
  | index + 1 => joinedLength joint texts (index + 1) + joint.utf8ByteSize

theorem joinedLength_length (joint : String) (texts : List String) :
    joinedLength joint texts texts.length = (joint.intercalate texts).utf8ByteSize := by
  rw [joinedLength, List.take_length]

theorem joinedLength_succ {index : Nat} {text : String} (htext : texts[index]? = some text) :
    joinedLength joint texts (index + 1) = textOffset joint texts index + text.utf8ByteSize := by
  rw [joinedLength, List.take_add_one, htext, Option.toList_some]
  cases index with
  | zero => simp [textOffset]
  | succ index =>
      have hfront : texts.take (index + 1) ≠ [] := by
        rintro hnil
        rw [List.take_eq_nil_iff] at hnil
        rcases hnil with hzero | rfl
        · cases hzero
        · cases htext
      rw [String.intercalate_append_of_ne_nil hfront (List.cons_ne_nil _ _),
        String.intercalate_singleton, String.utf8ByteSize_append, String.utf8ByteSize_append]
      rfl

theorem Written.trail_append (joint : String) (front back : List String) :
    trail joint (front ++ back) = trail joint front ++ trail joint back := by
  induction front with
  | nil => simp [trail]
  | cons text rest ih => simp_all [trail, String.append_assoc]

theorem intercalate_eq_append_trail (joint : String) (texts : List String) (index : Nat) :
    joint.intercalate texts = joint.intercalate (texts.take (index + 1)) ++
      Written.trail joint (texts.drop (index + 1)) := by
  cases texts with
  | nil => rfl
  | cons text rest =>
      rw [List.take_succ_cons, List.drop_succ_cons, Written.intercalate_cons,
        Written.intercalate_cons, String.append_assoc, ← Written.trail_append,
        List.take_append_drop]

theorem Cursor.after_of_at? {text front back : String} {place : Cursor}
    (htext : text = front ++ back) (hplace : at? text front.utf8ByteSize = some place) :
    place.after = back.toList := by
  obtain ⟨⟨first, rest⟩, hsplit, rfl⟩ := Option.map_eq_some_iff.1 hplace
  rw [htext, String.toList_append, ← Text.byteLength_toList, Text.splitBytes?_append] at hsplit
  cases hsplit
  rfl

theorem after_of_joinedLength {index : Nat} {place : Cursor}
    (hplace : Cursor.at? (joint.intercalate texts) (joinedLength joint texts (index + 1)) =
      some place) : place.after = (Written.trail joint (texts.drop (index + 1))).toList :=
  Cursor.after_of_at? (intercalate_eq_append_trail joint texts index) hplace

theorem after_of_textOffset {index : Nat} {text : String} {place : Cursor}
    (htext : texts[index]? = some text)
    (hplace : Cursor.at? (joint.intercalate texts) (textOffset joint texts index) = some place) :
    place.after = text.toList ++ (Written.trail joint (texts.drop (index + 1))).toList := by
  have hdrop : texts.drop index = text :: texts.drop (index + 1) := by
    obtain ⟨hindex, rfl⟩ := List.getElem?_eq_some_iff.1 htext
    exact List.drop_eq_getElem_cons hindex
  rw [← String.toList_append]
  cases index with
  | zero =>
      have hjoined : joint.intercalate texts =
          "" ++ (text ++ Written.trail joint (texts.drop 1)) := by
        rw [List.drop_zero] at hdrop
        rw [String.empty_append, ← Written.intercalate_cons, ← hdrop]
      exact Cursor.after_of_at? hjoined hplace
  | succ index =>
      have hjoined : joint.intercalate texts =
          joint.intercalate (texts.take (index + 1)) ++ joint ++
            (text ++ Written.trail joint (texts.drop (index + 2))) := by
        rw [intercalate_eq_append_trail joint texts index, hdrop, String.append_assoc]
        rfl
      refine Cursor.after_of_at? hjoined ?_
      rw [String.utf8ByteSize_append]
      exact hplace

theorem after_of_end {text : String} {place : Cursor}
    (hplace : Cursor.at? text text.utf8ByteSize = some place) : place.after = [] :=
  Cursor.after_of_at? (String.append_empty).symm hplace

end Joined

theorem getElem?_of_drop_eq_cons {α : Type} {list rest : List α} {index : Nat} {first : α}
    (hdrop : list.drop index = first :: rest) :
    list[index]? = some first ∧ list.drop (index + 1) = rest := by
  constructor
  · rw [← List.head?_drop, hdrop, List.head?_cons]
  · rw [← List.tail_drop, hdrop, List.tail_cons]

theorem Cursor.at?_zero (text : String) : at? text 0 = some (.start text) := by
  refine at?_eq_some_iff.2 ⟨?_, rfl⟩
  rw [source, start, before_between, after_between, List.nil_append, String.ofList_toList]

theorem Cursor.at?_of_leadsTo {text : String} {offset : Nat} {place next : Cursor}
    (hplace : at? text offset = some place) (hleads : place.LeadsTo next) :
    at? text next.offset = some next := by
  obtain ⟨hsource, -⟩ := at?_eq_some_iff.1 hplace
  exact at?_eq_some_iff.2 ⟨hleads.source_eq.trans hsource, rfl⟩

namespace Grammar

variable {shape : Shape}

/-- The value is written as the text, and the text is read back as its normal form. -/
structure RoundTripsAs (grammar : Grammar shape) (content normal : shape.Carrier)
    (text : String) : Prop where
  normalize : grammar.normalize content = .ok normal
  encode : grammar.encode content = .ok text
  parse : grammar.parse text = .ok normal
  render : grammar.render content = .ok text

theorem roundTripsAs_of_parse {grammar : Grammar shape} {content normal : shape.Carrier}
    {text : String} (hnormalize : grammar.normalize content = .ok normal)
    (hencode : grammar.encode content = .ok text) (hparse : grammar.parse text = .ok normal) :
    grammar.RoundTripsAs content normal text := by
  obtain ⟨cursor, hdecode, -⟩ := parse_eq_ok_iff.1 hparse
  have hself : shape.same normal normal = true :=
    Value.same_self (grammar.decodesDistinct _ _ hdecode)
  exact ⟨hnormalize, hencode, hparse,
    render_eq_ok_iff.2 ⟨hencode, normal, normal, hnormalize, hparse, hself⟩⟩

/-- What is written between two items. -/
def joint : Option (Sigma Grammar) → String
  | none => ""
  | some separator => separator.2.canonical.getD ""

def joined (separator : Option (Sigma Grammar)) (texts : List String) : String :=
  (joint separator).intercalate texts

theorem spelling_repetition (nonEmpty : Bool) (item : Grammar shape)
    (separator : Option (Sigma Grammar)) (content : List shape.Carrier) :
    (repetition nonEmpty item separator).spelling content =
      spellItems nonEmpty item.spelling (joint separator) content := by
  cases separator with
  | none => rfl
  | some separator => rfl

theorem normalize_repetition (nonEmpty : Bool) (item : Grammar shape)
    (separator : Option (Sigma Grammar)) (content : List shape.Carrier) :
    (repetition nonEmpty item separator).normalize content = content.mapM item.normalize := by
  cases separator with
  | none => rfl
  | some separator => rfl

/-! ### Pieces that are read back in their places -/

/-- The items are written as the texts, none of them empty. Where the texts are joined, each of them
is read back as the normal form of its item, the separator is passed between any two, and no item
follows at the end. -/
structure ReadsInPlace (item : Grammar shape) (separator : Option (Sigma Grammar))
    (content : List shape.Carrier) (texts : List String) : Prop where
  encode : List.Forall₂ (fun single text => item.encode single = .ok text) content texts
  nonempty : ∀ text ∈ texts, text ≠ ""
  reads : ∀ index single text place, content[index]? = some single → texts[index]? = some text →
    Cursor.at? (joined separator texts) (textOffset (joint separator) texts index) = some place →
    ∃ normal next, item.normalize single = .ok normal ∧ item.decode place = .ok ⟨normal, next⟩ ∧
      next.offset = place.offset + text.utf8ByteSize
  passes : ∀ index place, index + 1 < texts.length →
    Cursor.at? (joined separator texts) (joinedLength (joint separator) texts (index + 1)) =
      some place →
    ∃ next, gap separator place = .ok next ∧
      next.offset = place.offset + (joint separator).utf8ByteSize
  stops : ∀ place,
    Cursor.at? (joined separator texts) (joined separator texts).utf8ByteSize = some place →
    Outcome.StopsAt (gap separator) item.decode texts.length place

namespace ReadsInPlace

variable {item : Grammar shape} {separator : Option (Sigma Grammar)}
  {content : List shape.Carrier} {texts : List String}
  (hreads : ReadsInPlace item separator content texts)
include hreads

theorem exists_start {index : Nat} (hindex : index < texts.length) {place : Cursor}
    (hplace : Cursor.at? (joined separator texts) (joinedLength (joint separator) texts index) =
      some place) :
    ∃ start, Outcome.startAt (gap separator) index place = .ok start ∧
      Cursor.at? (joined separator texts) (textOffset (joint separator) texts index) =
        some start := by
  cases index with
  | zero => exact ⟨place, rfl, hplace⟩
  | succ index =>
      obtain ⟨start, hgap, hoffset⟩ := hreads.passes index place hindex hplace
      have hstart := Cursor.at?_of_leadsTo hplace (gap_leadsTo separator place start hgap)
      rw [hoffset, (Cursor.at?_eq_some_iff.1 hplace).2] at hstart
      exact ⟨start, hgap, hstart⟩

theorem step {index : Nat} {single : shape.Carrier} {text : String}
    (hsingle : content[index]? = some single) (htext : texts[index]? = some text) {place : Cursor}
    (hplace : Cursor.at? (joined separator texts) (joinedLength (joint separator) texts index) =
      some place) :
    ∃ normal next, item.normalize single = .ok normal ∧
      Outcome.StepsTo (gap separator) item.decode index place normal next ∧
      Cursor.at? (joined separator texts) (joinedLength (joint separator) texts (index + 1)) =
        some next := by
  obtain ⟨hindex, -⟩ := List.getElem?_eq_some_iff.1 htext
  obtain ⟨start, hstart, hat⟩ := hreads.exists_start hindex hplace
  obtain ⟨normal, next, hnormal, hdecode, hoffset⟩ :=
    hreads.reads index single text start hsingle htext hat
  have hpos : 0 < text.utf8ByteSize := by
    have hne := hreads.nonempty text (List.mem_of_getElem? htext)
    rw [← Text.byteLength_toList]
    exact Text.byteLength_pos fun hnil => hne (String.toList_eq_nil_iff.1 hnil)
  refine ⟨normal, next, hnormal, ⟨start, hstart, hdecode, by omega⟩, ?_⟩
  have hnext := Cursor.at?_of_leadsTo hat
    (item.movesOn start next (Outcome.ending_eq_ok_iff.2 ⟨normal, hdecode⟩))
  rwa [hoffset, (Cursor.at?_eq_some_iff.1 hat).2, ← joinedLength_succ htext] at hnext

theorem takesAll {index : Nat} {rest : List shape.Carrier} (hrest : content.drop index = rest)
    (hindex : index ≤ content.length) {place : Cursor}
    (hplace : Cursor.at? (joined separator texts) (joinedLength (joint separator) texts index) =
      some place) :
    ∃ normals last,
      List.Forall₂ (fun single normal => item.normalize single = .ok normal) rest normals ∧
      Outcome.TakesAll (gap separator) item.decode index place normals last ∧
      Cursor.at? (joined separator texts) (joined separator texts).utf8ByteSize = some last := by
  have hlength := hreads.encode.length_eq
  -- By induction on the items that are left: before each of them decoding stands where writing has
  -- put the earlier texts.
  induction rest generalizing index place with
  | nil =>
      have hcount : index = texts.length := by
        rw [List.drop_eq_nil_iff] at hrest
        omega
      subst hcount
      rw [joinedLength_length] at hplace
      exact ⟨[], place, .nil, ⟨rfl, hreads.stops place hplace⟩, hplace⟩
  | cons single rest ih =>
      obtain ⟨hsingle, hbehind⟩ := getElem?_of_drop_eq_cons hrest
      obtain ⟨hlt, -⟩ := List.getElem?_eq_some_iff.1 hsingle
      obtain ⟨normal, next, hnormal, hstep, hnext⟩ :=
        hreads.step hsingle (List.getElem?_eq_getElem (hlength ▸ hlt)) hplace
      obtain ⟨normals, last, hnormals, htakes, hlast⟩ := ih hbehind hlt hnext
      exact ⟨normal :: normals, last, .cons hnormal hnormals, ⟨next, hstep, htakes⟩, hlast⟩

/-- **Pieces that are read back in their places make a list that is read back.** -/
theorem roundTripsAs (nonEmpty : Bool) (henough : nonEmpty.toNat ≤ content.length) :
    ∃ normals, (repetition nonEmpty item separator).RoundTripsAs content normals
      (joined separator texts) := by
  obtain ⟨normals, last, hnormals, htakes, hlast⟩ :=
    hreads.takesAll List.drop_zero (Nat.zero_le _) (Cursor.at?_zero _)
  refine ⟨normals, roundTripsAs_of_parse ?_ ?_ (parse_eq_ok_iff.2 ⟨last, ?_, ?_⟩)⟩
  · rw [normalize_repetition]
    exact mapM_eq_ok_iff.2 hnormals
  · rw [encode_eq_spelling, spelling_repetition]
    refine spellItems_eq_ok_iff.2 ⟨Nat.not_lt.2 henough, texts, mapM_eq_ok_iff.2 ?_, rfl⟩
    exact hreads.encode.imp fun single text hencode =>
      (item.encode_eq_spelling single).symm.trans hencode
  · exact decode_repetition_eq_ok_iff.2 ⟨hnormals.length_eq ▸ henough, htakes⟩
  · rw [Cursor.atEnd, after_of_end hlast]
    rfl

theorem roundTripsAs_self (hnormal : ∀ single, item.normalize single = .ok single) :
    (repetition false item separator).RoundTripsAs content content (joined separator texts) := by
  obtain ⟨normals, hround⟩ := hreads.roundTripsAs false (Nat.zero_le content.length)
  have hnormals := hround.normalize
  have hself := mapM_eq_ok_iff.2 (List.forall₂_same.2 fun single (_ : single ∈ content) =>
    hnormal single)
  rw [normalize_repetition, hself] at hnormals
  cases hnormals
  exact hround

end ReadsInPlace

/-- It is enough that each item is read back before the joined texts of any others. -/
theorem readsInPlace_map (item : Grammar shape) (separator : Option (Sigma Grammar))
    (spell : shape.Carrier → String) (hencode : ∀ single, item.encode single = .ok (spell single))
    (hnormal : ∀ single, item.normalize single = .ok single)
    (hnonempty : ∀ single, spell single ≠ "")
    (hreads : ∀ single (rest : List shape.Carrier), Reads item.decode (spell single).toList single
      (Written.trail (joint separator) (rest.map spell)).toList)
    (hpasses : ∀ single (rest : List shape.Carrier) (place : Cursor),
      place.after = (Written.trail (joint separator) ((single :: rest).map spell)).toList →
      ∃ next, gap separator place = .ok next ∧
        next.offset = place.offset + (joint separator).utf8ByteSize)
    (hstops : ∀ count (place : Cursor), place.after = [] →
      Outcome.StopsAt (gap separator) item.decode count place) (content : List shape.Carrier) :
    ReadsInPlace item separator content (content.map spell) where
  encode := by
    rw [List.forall₂_map_right_iff]
    exact List.forall₂_same.2 fun single _ => hencode single
  nonempty := by
    intro text hmem
    obtain ⟨single, -, rfl⟩ := List.mem_map.1 hmem
    exact hnonempty single
  reads := by
    intro index single text place hsingle htext hplace
    have hafter := after_of_textOffset htext hplace
    rw [List.getElem?_map, hsingle] at htext
    cases htext
    rw [← List.map_drop] at hafter
    refine ⟨single, _, hnormal single, hreads single _ place hafter, ?_⟩
    rw [← Text.byteLength_toList]
    rfl
  passes := by
    intro index place hindex hplace
    have hafter := after_of_joinedLength hplace
    rw [List.length_map] at hindex
    rw [← List.map_drop, List.drop_eq_getElem_cons hindex] at hafter
    exact hpasses _ _ place hafter
  stops := fun place hplace => hstops _ place (after_of_end hplace)

end Grammar

namespace Statement

open Grammar Lexeme Primitive

theorem stops_trail (texts : List String) {part : Char → Bool} (hspace : part ' ' = false) :
    Stops part (Written.trail " " texts).toList := by
  cases texts with
  | nil => exact fun _ hmem => nomatch hmem
  | cons text rest =>
      rw [Written.trail, List.foldr_cons, String.toList_append]
      exact stops_cons hspace _

theorem numeral_ne_empty (n : Int) : Text.numeral n ≠ "" := by
  intro hempty
  have hlist := congrArg String.toList hempty
  rw [Text.numeral_eq, String.toList_ofList] at hlist
  split at hlist
  · cases hlist
  · exact Nat.toDigits_ne_nil hlist

theorem readsInPlace_integers (numbers : List Int64) :
    ReadsInPlace integerLeaf (some ⟨_, whitespaceLeaf⟩) numbers
      (numbers.map fun n => Text.numeral n.toInt) := by
  refine readsInPlace_map integerLeaf (some ⟨_, whitespaceLeaf⟩) (fun n => Text.numeral n.toInt)
    ?_ (fun _ => rfl) (fun n => numeral_ne_empty n.toInt) ?_ ?_ ?_ numbers
  · intro n
    rw [encode_eq_spelling]
    rfl
  · exact fun n rest => reads_integer n (stops_trail _ rfl)
  · intro n rest place hafter
    have hspace := reads_space ((Operand.integer n).stops_isBlank
      (Written.trail " " (rest.map fun n => Text.numeral n.toInt)).toList)
    have htrail : place.after = [' '] ++ ((Operand.integer n).spelling.toList ++
        (Written.trail " " (rest.map fun n => Text.numeral n.toInt)).toList) := by
      rw [hafter, ← String.toList_append]
      exact String.toList_append
    exact ⟨_, Outcome.ending_eq_ok_iff.2 ⟨" ", hspace place htrail⟩, rfl⟩
  · intro count place hafter
    cases count with
    | zero =>
        obtain ⟨error, hdecode, hfatal⟩ := takes_integer.refuses rfl place hafter
        exact ⟨error, hfatal, .inr ⟨place, rfl, hdecode⟩⟩
    | succ count =>
        obtain ⟨error, hdecode, hfatal⟩ := takes_whitespace.refuses rfl place hafter
        exact ⟨error, hfatal, .inl (Outcome.ending_eq_error_iff.2 hdecode)⟩

theorem readsInPlace_strings (contents : List String) :
    ReadsInPlace stringLeaf none contents (contents.map Text.escaped) := by
  refine readsInPlace_map stringLeaf none Text.escaped ?_ (fun _ => rfl) ?_
    (fun content rest => reads_string content _) (fun _ _ place _ => ⟨place, rfl, rfl⟩) ?_ contents
  · intro content
    rw [encode_eq_spelling]
    rfl
  · intro content hempty
    have hlist := congrArg String.toList hempty
    rw [Text.toList_escaped] at hlist
    cases hlist
  · intro count place hafter
    obtain ⟨error, hdecode, hfatal⟩ := takes_stringLiteral.refuses rfl place hafter
    refine ⟨error, hfatal, .inr ⟨place, ?_, hdecode⟩⟩
    cases count <;> rfl

end Statement

namespace Grammar

open Statement

/-- **Repetitions round-trip** whenever their pieces are read back in their places. So does every
list of integers with white space between them, and every list of strings back to back. -/
theorem repetition_roundTrips :
    (∀ {shape : Shape} (nonEmpty : Bool) (item : Grammar shape)
        (separator : Option (Sigma Grammar)) (content : List shape.Carrier) (texts : List String),
      nonEmpty.toNat ≤ content.length → ReadsInPlace item separator content texts →
      ∃ normals, (repetition nonEmpty item separator).RoundTripsAs content normals
        (joined separator texts)) ∧
      (∀ numbers : List Int64,
        (repetition false integerLeaf (some ⟨_, whitespaceLeaf⟩)).RoundTripsAs numbers numbers
          (" ".intercalate (numbers.map fun n => Text.numeral n.toInt))) ∧
      ∀ contents : List String,
        (repetition false stringLeaf none).RoundTripsAs contents contents
          (String.join (contents.map Text.escaped)) := by
  refine ⟨?_, fun numbers => ?_, fun contents => ?_⟩
  · intro shape nonEmpty item separator content texts henough hreads
    exact hreads.roundTripsAs nonEmpty henough
  · exact (readsInPlace_integers numbers).roundTripsAs_self fun _ => rfl
  · rw [← intercalate_empty]
    exact (readsInPlace_strings contents).roundTripsAs_self fun _ => rfl

theorem repetition_roundTrips_numbers :
    ReadsInPlace integerLeaf (some ⟨_, whitespaceLeaf⟩) [1, -2] ["1", "-2"] ∧
      (repetition true integerLeaf (some ⟨_, whitespaceLeaf⟩)).render [1, -2] = .ok "1 -2" := by
  have hplaces := readsInPlace_integers [1, -2]
  obtain ⟨normals, hround⟩ := repetition_roundTrips.1 true _ _ [1, -2] _ (by decide) hplaces
  exact ⟨hplaces, hround.render⟩

end Grammar

end TwoWay
