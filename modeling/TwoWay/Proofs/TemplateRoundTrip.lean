import TwoWay.Proofs.ListRoundTrip
import TwoWay.Proofs.Encodability
import TwoWay.Proofs.Piecewise

/-!
# Templates round-trip

A template writes one fragment for each of its elements: a literal as it is, a field as its part
writes the value that the record holds under its name, a skipped part as its canonical text. Writing
and normalising look fields up by name, decoding stores them in the order in which it comes to them.
Element by element the two stay in step, so a record is read back as soon as each fragment is read
back where it stands. Decoding never sets a name twice, since building has made sure that the names
of fields differ.
-/

namespace TwoWay

namespace Element

/-- The fragment that the element contributes to the text of the record. -/
def Writes (record : Record) (element : Element) (fragment : String) : Prop :=
  match element with
  | .literal text => fragment = text
  | .field name part =>
      ∃ value, record.get? name = some value ∧ part.writeValue value "" = .append "" fragment
  | .skip part => part.canonical = some fragment

/-- At the place the element takes as many bytes as the fragment has, and a field yields the normal
form of its value. -/
def ReadsBack (record : Record) (element : Element) (fragment : String) (place : Cursor) : Prop :=
  ∃ next, next.offset = place.offset + fragment.utf8ByteSize ∧
    match element with
    | .literal text => place.expect text = .ok next
    | .field name part =>
        ∃ value normal, record.get? name = some value ∧
          part.normalizeValue value = .ok normal ∧ part.decodeValue place = .ok ⟨normal, next⟩
    | .skip part => ∃ value, part.decodeValue place = .ok ⟨value, next⟩

/-- Among the fragments with the rest behind them, each element reads its own fragment back where
that fragment stands. -/
def ReadBackInPlace (record : Record) (elements : List Element) (fragments : List String)
    (rest : String) : Prop :=
  ∀ index element fragment place, elements[index]? = some element →
    fragments[index]? = some fragment →
    Cursor.at? (String.join fragments ++ rest)
      (String.join (fragments.take index)).utf8ByteSize = some place →
    element.ReadsBack record fragment place

theorem canonical_isSome_of_check {used : List String} {index : Nat} {elements : List Element}
    (hcheck : check used index elements = .ok ()) {shape : Shape} {part : Grammar shape}
    (hmem : .skip part ∈ elements) : part.canonical.isSome = true :=
  (check_eq_ok_iff.1 hcheck).2 (.skip part) hmem

end Element

namespace Grammar

theorem leadsTo_of_decodeValue {shape : Shape} (grammar : Grammar shape) {cursor : Cursor}
    {decoded : Decoded Value} (hdecode : grammar.decodeValue cursor = .ok decoded) :
    cursor.LeadsTo decoded.cursor := by
  obtain ⟨⟨content, next⟩, hcontent, rfl⟩ := map_eq_ok_iff.1 hdecode
  exact grammar.movesOn cursor next (Outcome.ending_eq_ok_iff.2 ⟨content, hcontent⟩)

/-! ### Fragments -/

theorem exists_writes_of_elementsText? {elements : List Element}
    (hcanonical : ∀ {shape : Shape} {part : Grammar shape}, .skip part ∈ elements →
      part.canonical.isSome = true) {record : Record} {text : String}
    (htext : elementsText? elements record = some text) :
    ∃ fragments, List.Forall₂ (Element.Writes record) elements fragments := by
  induction elements generalizing text with
  | nil => exact ⟨[], .nil⟩
  | cons element rest ih =>
      have hlater : ∀ {shape : Shape} {part : Grammar shape}, .skip part ∈ rest →
          part.canonical.isSome = true := fun hmem => hcanonical (List.mem_cons_of_mem _ hmem)
      cases element with
      | literal written =>
          rw [elementsText?_literal] at htext
          obtain ⟨more, hmore, -⟩ := Option.map_eq_some_iff.1 htext
          obtain ⟨fragments, hwrites⟩ := ih hlater hmore
          exact ⟨written :: fragments, .cons rfl hwrites⟩
      | field name part =>
          rw [elementsText?_field] at htext
          obtain ⟨written, hwritten, htext⟩ := Option.bind_eq_some_iff.1 htext
          obtain ⟨value, hget, hwritten⟩ := Option.bind_eq_some_iff.1 hwritten
          obtain ⟨more, hmore, -⟩ := Option.map_eq_some_iff.1 htext
          obtain ⟨fragments, hwrites⟩ := ih hlater hmore
          exact ⟨written :: fragments,
            .cons ⟨value, hget, writeValue_eq_append_iff.2 hwritten⟩ hwrites⟩
      | skip part =>
          rw [elementsText?_skip] at htext
          obtain ⟨more, hmore, -⟩ := Option.map_eq_some_iff.1 htext
          obtain ⟨fragments, hwrites⟩ := ih hlater hmore
          obtain ⟨written, hwritten⟩ :=
            Option.isSome_iff_exists.1 (@hcanonical _ part List.mem_cons_self)
          exact ⟨written :: fragments, .cons hwritten hwrites⟩

theorem elementsText?_of_writes {elements : List Element} {record : Record}
    {fragments : List String} (hwrites : List.Forall₂ (Element.Writes record) elements fragments) :
    elementsText? elements record = some (String.join fragments) := by
  induction hwrites with
  | nil => rfl
  | @cons element fragment _ _ hfirst _ ih =>
      rw [String.join_cons]
      cases element with
      | literal written =>
          obtain rfl : fragment = written := hfirst
          rw [elementsText?_literal, ih, Option.map_some]
      | field name part =>
          obtain ⟨value, hget, hwritten⟩ := hfirst
          rw [elementsText?_field, hget, Option.bind_some, writeValue_eq_append_iff.1 hwritten,
            Option.bind_some, ih, Option.map_some]
      | skip part =>
          have hcanonical : part.canonical = some fragment := hfirst
          rw [elementsText?_skip, ih, hcanonical, Option.map_some, Option.getD_some]

theorem elementsText?_of_encode {elements : List Element} {record : Record} {text : String}
    (hencode : (template elements).encode record = .ok text) :
    elementsText? elements record = some text := by
  rw [encode_eq_spelling, spelling] at hencode
  split at hencode
  · cases hencode
  · exact toOption_eq_some_iff.2 hencode

/-! ### Reading the fragments back -/

section ReadBack

variable {record : Record} {elements : List Element} {fragments : List String} {rest : String}

/-- An element that reads its fragment back leaves decoding and normalising with the same fields. -/
theorem decodeElements_of_readsBack {element : Element} {fragment : String} {place : Cursor}
    (hreads : element.ReadsBack record fragment place) :
    ∃ next, place.LeadsTo next ∧ next.offset = place.offset + fragment.utf8ByteSize ∧
      ∀ left normal, ∃ normal',
        decodeElements (element :: left) place normal = decodeElements left next normal' ∧
        normalizeElements (element :: left) record normal =
          normalizeElements left record normal' := by
  obtain ⟨next, hoffset, hreads⟩ := hreads
  cases element with
  | literal text =>
      refine ⟨next, Cursor.leadsTo_of_expect hreads, hoffset, fun left normal => ⟨normal, ?_, rfl⟩⟩
      simp only [decodeElements, hreads]
  | field name part =>
      obtain ⟨value, kept, hget, hkept, hdecode⟩ := hreads
      refine ⟨next, part.leadsTo_of_decodeValue hdecode, hoffset, fun left normal =>
        ⟨normal.set name kept, ?_, ?_⟩⟩
      · rw [decodeElements_field, hdecode]
      · have hkept : Shape.normalizeValue part.normalize value = .ok kept := hkept
        simp only [normalizeElements, hget, hkept, ok_bind]
  | skip part =>
      obtain ⟨dropped, hdecode⟩ := hreads
      refine ⟨next, part.leadsTo_of_decodeValue hdecode, hoffset, fun left normal =>
        ⟨normal, ?_, rfl⟩⟩
      rw [decodeElements_skip, hdecode]

theorem decodeElements_of_readBackInPlace (hlength : elements.length = fragments.length)
    (hreads : Element.ReadBackInPlace record elements fragments rest) {index : Nat}
    {left : List Element} (hleft : elements.drop index = left) {place : Cursor}
    (hplace : Cursor.at? (String.join fragments ++ rest)
      (String.join (fragments.take index)).utf8ByteSize = some place) (normal : Record) :
    ∃ result last, decodeElements left place normal = .ok ⟨result, last⟩ ∧
      normalizeElements left record normal = .ok result ∧
      Cursor.at? (String.join fragments ++ rest) (String.join fragments).utf8ByteSize =
        some last := by
  -- By induction on the elements that are left: before each of them decoding stands behind the
  -- fragments of the earlier ones, with the fields that normalising has put together from them.
  induction left generalizing index place normal with
  | nil =>
      rw [List.drop_eq_nil_iff] at hleft
      rw [List.take_of_length_le (hlength ▸ hleft)] at hplace
      exact ⟨normal, place, rfl, rfl, hplace⟩
  | cons element left ih =>
      obtain ⟨helement, hbehind⟩ := getElem?_of_drop_eq_cons hleft
      obtain ⟨hlt, -⟩ := List.getElem?_eq_some_iff.1 helement
      have hfragment := List.getElem?_eq_getElem (hlength ▸ hlt)
      obtain ⟨next, hleads, hoffset, hstep⟩ := decodeElements_of_readsBack
        (hreads index element _ place helement hfragment hplace)
      have hbound : next.offset = (String.join (fragments.take (index + 1))).utf8ByteSize := by
        calc next.offset = place.offset + fragments[index].utf8ByteSize := hoffset
          _ = (String.join (fragments.take index) ++ fragments[index]).utf8ByteSize := by
              rw [(Cursor.at?_eq_some_iff.1 hplace).2, String.utf8ByteSize_append]
          _ = (String.join (fragments.take (index + 1))).utf8ByteSize := by
              rw [List.take_add_one, hfragment, Option.toList_some, String.join_append,
                String.join_cons, String.join_nil, String.append_empty]
      have hnext := Cursor.at?_of_leadsTo hplace hleads
      rw [hbound] at hnext
      obtain ⟨normal', hdecode, hnormalize⟩ := hstep left normal
      rw [hdecode, hnormalize]
      exact ih hbehind hnext normal'

end ReadBack

/-! ### Fields in their places -/

theorem decodeElements_append_eq_bind (front rest : List Element) (cursor : Cursor)
    (record : Record) :
    decodeElements (front ++ rest) cursor record =
      (decodeElements front cursor record).bind fun decoded =>
        decodeElements rest decoded.cursor decoded.value := by
  induction front generalizing cursor record with
  | nil => rfl
  | cons element front ih =>
      cases element with
      | literal text =>
          simp only [List.cons_append, decodeElements]
          cases cursor.expect text with
          | ok next => exact ih next record
          | error fault => rfl
      | field name part =>
          simp only [List.cons_append, decodeElements_field]
          cases part.decodeValue cursor with
          | ok decoded => exact ih decoded.cursor _
          | error fault => rfl
      | skip part =>
          simp only [List.cons_append, decodeElements_skip]
          cases part.decodeValue cursor with
          | ok decoded => exact ih decoded.cursor record
          | error fault => rfl

theorem names_of_decodeElements {elements : List Element}
    (hnodup : (Element.fieldNames elements).Nodup) {cursor : Cursor} {record : Record}
    (hfresh : ∀ name ∈ Element.fieldNames elements, name ∉ record.names)
    {decoded : Decoded Record} (hdecode : decodeElements elements cursor record = .ok decoded) :
    decoded.value.names = record.names ++ Element.fieldNames elements := by
  induction elements generalizing cursor record with
  | nil =>
      cases hdecode
      exact (List.append_nil _).symm
  | cons element rest ih =>
      cases element with
      | literal text =>
          rw [decodeElements] at hdecode
          split at hdecode
          · exact ih hnodup hfresh hdecode
          · cases hdecode
      | skip part =>
          rw [decodeElements] at hdecode
          split at hdecode
          · exact ih hnodup hfresh hdecode
          · cases hdecode
      | field name part =>
          rw [Element.fieldNames_field] at hnodup hfresh ⊢
          obtain ⟨hname, hnodup⟩ := List.nodup_cons.1 hnodup
          obtain ⟨hnew, hfresh⟩ := List.forall_mem_cons.1 hfresh
          rw [decodeElements] at hdecode
          split at hdecode
          · rw [Record.set_of_notMem hnew] at hdecode
            rw [ih hnodup (Record.notMem_names_append hname hfresh _) hdecode, Record.names_append,
              List.append_assoc]
            rfl
          · cases hdecode

/-- Whatever stands before and behind it, a field is decoded where the elements before it have led
to, set under a name that is not there yet, and never set again. -/
theorem field_of_decodeElements {shape : Shape} {front back : List Element} {name : String}
    {part : Grammar shape}
    (hnodup : (Element.fieldNames (front ++ .field name part :: back)).Nodup)
    {cursor next : Cursor} {record : Record}
    (hdecode : decodeElements (front ++ .field name part :: back) cursor .empty =
      .ok ⟨record, next⟩) :
    ∃ earlier place value behind, decodeElements front cursor .empty = .ok ⟨earlier, place⟩ ∧
      part.decodeValue place = .ok ⟨value, behind⟩ ∧ (earlier.insert name value).1 = none ∧
      record.get? name = some value := by
  rw [Element.fieldNames, List.filterMap_append] at hnodup
  obtain ⟨-, hback, hapart⟩ := List.nodup_append.1 hnodup
  have hlater : name ∉ Element.fieldNames back := (List.nodup_cons.1 hback).1
  have hearlier : name ∉ Element.fieldNames front := fun hmem =>
    hapart name hmem name List.mem_cons_self rfl
  rw [decodeElements_append_eq_bind] at hdecode
  obtain ⟨⟨earlier, place⟩, hbefore, hdecode⟩ := bind_eq_ok_iff.1 hdecode
  rw [decodeElements_field] at hdecode
  cases hvalue : part.decodeValue place with
  | error fault =>
      rw [hvalue] at hdecode
      cases hdecode
  | ok decoded =>
      rw [hvalue] at hdecode
      refine ⟨earlier, place, decoded.value, decoded.cursor, hbefore, hvalue, ?_, ?_⟩
      · rw [Record.insert_fst, get?_of_decodeElements hearlier hbefore]
        rfl
      · rw [get?_of_decodeElements hlater hdecode, Record.get?_set_self]

/-- **Templates round-trip when their elements do.** A built template writes one fragment for each
element. If each of them is read back where it stands, the whole is read back as the normal form of
the record, whatever follows. And whatever a template decodes has its fields in the declared order,
each with the value that its part has decoded in its place. -/
theorem template_roundTrips {elements : List Element} {grammar : Grammar .record}
    (hbuilt : buildTemplate elements = .ok grammar) :
    (∀ record text, grammar.encode record = .ok text →
      (∃ fragments, List.Forall₂ (Element.Writes record) elements fragments) ∧
        ∀ fragments, List.Forall₂ (Element.Writes record) elements fragments →
          String.join fragments = text ∧
          ∀ rest, Element.ReadBackInPlace record elements fragments rest →
            ∃ normal next, grammar.normalize record = .ok normal ∧
              grammar.decode (.start (text ++ rest)) = .ok ⟨normal, next⟩ ∧
              next.remaining = rest ∧ next.offset = text.utf8ByteSize) ∧
      ∀ cursor record next, grammar.decode cursor = .ok ⟨record, next⟩ →
        record.names = Element.fieldNames elements ∧
        ∀ {shape : Shape} (front : List Element) (name : String) (part : Grammar shape)
          (back : List Element), elements = front ++ .field name part :: back →
          ∃ earlier place value behind,
            decodeElements front cursor .empty = .ok ⟨earlier, place⟩ ∧
            part.decodeValue place = .ok ⟨value, behind⟩ ∧
            (earlier.insert name value).1 = none ∧ record.get? name = some value := by
  obtain ⟨hcheck, rfl⟩ := buildTemplate_eq_ok_iff.1 hbuilt
  obtain ⟨hnodup, -⟩ := Element.fieldNames_nodup_of_check hcheck
  refine ⟨fun record text hencode => ?_, fun cursor record next hdecode => ⟨?_, ?_⟩⟩
  · have htext := elementsText?_of_encode hencode
    refine ⟨exists_writes_of_elementsText? (Element.canonical_isSome_of_check hcheck) htext, ?_⟩
    intro fragments hwrites
    obtain rfl : String.join fragments = text :=
      Option.some_inj.1 ((elementsText?_of_writes hwrites).symm.trans htext)
    refine ⟨rfl, fun rest hreads => ?_⟩
    obtain ⟨normal, last, hdecode, hnormalize, hlast⟩ := decodeElements_of_readBackInPlace
      hwrites.length_eq hreads List.drop_zero (Cursor.at?_zero _) .empty
    refine ⟨normal, last, hnormalize, hdecode, ?_, (Cursor.at?_eq_some_iff.1 hlast).2⟩
    rw [Cursor.remaining, Cursor.after_of_at? rfl hlast, String.ofList_toList]
  · exact names_of_decodeElements hnodup (fun _ _ => List.not_mem_nil) hdecode
  · rintro shape front name part back rfl
    exact field_of_decodeElements hnodup hdecode

/-- An unlimited amount, and a label behind a colon and a space. -/
def entryElements : List Element :=
  [.field "amount" (@terminal .bigInteger Primitive.bigInteger), .literal ":",
    .skip Statement.whitespaceLeaf, .field "label" Statement.stringLeaf]

/-- The amount has 64 bits and stands behind the label. -/
def entryRecord : Record :=
  ⟨[("label", .str "a"), ("amount", .int 5)]⟩

theorem template_roundTrips_entry :
    buildTemplate entryElements = .ok (.template entryElements) ∧
      (template entryElements).encode entryRecord = .ok "5: \"a\"" ∧
      List.Forall₂ (Element.Writes entryRecord) entryElements ["5", ":", " ", "\"a\""] ∧
      Element.ReadBackInPlace entryRecord entryElements ["5", ":", " ", "\"a\""] "7" ∧
      ∃ normal next, (template entryElements).normalize entryRecord = .ok normal ∧
        (template entryElements).decode (.start "5: \"a\"7") = .ok ⟨normal, next⟩ ∧
        next.remaining = "7" ∧ next.offset = 6 ∧ normal.names = ["amount", "label"] := by
  have hbuilt : buildTemplate entryElements = .ok (.template entryElements) := rfl
  have hencode : (template entryElements).encode entryRecord = .ok "5: \"a\"" := rfl
  have hwrites : List.Forall₂ (Element.Writes entryRecord) entryElements
      ["5", ":", " ", "\"a\""] :=
    .cons ⟨.int 5, rfl, rfl⟩ (.cons rfl (.cons rfl (.cons ⟨.str "a", rfl, rfl⟩ .nil)))
  have hreads : Element.ReadBackInPlace entryRecord entryElements ["5", ":", " ", "\"a\""] "7" := by
    intro index element fragment place helement hfragment hplace
    match index with
    | 0 =>
        cases helement
        cases hfragment
        cases hplace
        exact ⟨_, rfl, .int 5, .big 5, rfl, rfl, rfl⟩
    | 1 =>
        cases helement
        cases hfragment
        cases hplace
        exact ⟨_, rfl, rfl⟩
    | 2 =>
        cases helement
        cases hfragment
        cases hplace
        exact ⟨_, rfl, .str " ", rfl⟩
    | 3 =>
        cases helement
        cases hfragment
        cases hplace
        exact ⟨_, rfl, .str "a", .str "a", rfl, rfl, rfl⟩
    | index + 4 => cases helement
  obtain ⟨htrips, hplaced⟩ := template_roundTrips hbuilt
  obtain ⟨-, hback⟩ := (htrips entryRecord _ hencode).2 _ hwrites
  obtain ⟨normal, next, hnormalize, hdecode, hremaining, hoffset⟩ := hback "7" hreads
  exact ⟨hbuilt, hencode, hwrites, hreads, normal, next, hnormalize, hdecode, hremaining, hoffset,
    (hplaced _ _ _ hdecode).1⟩

end Grammar

end TwoWay
