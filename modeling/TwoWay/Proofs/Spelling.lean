import TwoWay.Grammar.Write
import TwoWay.Proofs.Failure
import TwoWay.Proofs.Parts

/-!
# The text of a value

Writing goes through a buffer, and templates and repetitions take back what they have written when
a part of them fails. What a writer does is nevertheless a matter of the value alone: there is a
text, or an error, and writing puts the text behind the buffer or leaves the buffer as it was. The
text is given here by recursion on the grammar, without a buffer, and the writers are shown to put
down that text. What is said of texts elsewhere rests on this.
-/

namespace TwoWay

def Shape.spellValue {shape : Shape} (spell : shape.Carrier → Except EncodeError String)
    (value : Value) : Except EncodeError String := do
  spell (← shape.ofValue value)

def spellItems {α : Type} (nonEmpty : Bool) (spell : α → Except EncodeError String)
    (separator : String) (content : List α) : Except EncodeError String :=
  if content.length < nonEmpty.toNat then
    .error (.tooFewElements nonEmpty.toNat content.length)
  else separator.intercalate <$> content.mapM spell

namespace Grammar

mutual

/-- The text of a value, or the reason why it has none. -/
def spelling : {shape : Shape} → Grammar shape → shape.Carrier → Except EncodeError String
  | _, .terminal leaf, content => .ok (leaf.conversion.print content)
  | _, .named _ inner, content => inner.spelling content
  | _, .optional _, none => .ok ""
  | _, .optional inner, some content => inner.spelling content
  | _, .repeated nonEmpty item, content => spellItems nonEmpty item.spelling "" content
  | _, .separated nonEmpty item separator, content =>
      spellItems nonEmpty item.spelling (separator.canonical.getD "") content
  | _, .template elements, record =>
      match unknownField? elements record with
      | some name => .error (.unknownField name)
      | none => spellElements elements record
  | _, .choice branches, tagged => spellBranch branches (Branch.names branches) tagged
  | _, .erased inner, value => Shape.spellValue inner.spelling value

def spellElements : List Element → Record → Except EncodeError String
  | [], _ => .ok ""
  | .literal text :: rest, record => (text ++ ·) <$> spellElements rest record
  | .field name part :: rest, record =>
      match record.get? name with
      | some value => do
          return (← Shape.spellValue part.spelling value) ++ (← spellElements rest record)
      | none => .error (.missingField name)
  | .skip part :: rest, record => (part.canonical.getD "" ++ ·) <$> spellElements rest record

def spellBranch : List Branch → List String → Tagged → Except EncodeError String
  | [], names, _ => .error (.tagMissing names)
  | .mk name body :: rest, names, tagged =>
      if name = tagged.tag then Shape.spellValue body.spelling tagged.content
      else spellBranch rest names tagged

end

end Grammar

namespace Written

/-- The text behind the buffer, or the buffer as it was. -/
def of (outcome : Except EncodeError String) (buffer : String) : Written :=
  match outcome with
  | .ok text => append buffer text
  | .error error => fail buffer error

/-- The writer puts the text behind any buffer, or fails with the error and leaves the buffer with
something behind it. -/
def Yields (write : String → Written) : Except EncodeError String → Prop
  | .ok text => ∀ buffer, write buffer = append buffer text
  | .error error => ∀ buffer, ∃ rest, write buffer = fail (buffer ++ rest) error

theorem yields_fail (error : EncodeError) : Yields (fail · error) (.error error) :=
  fun buffer => ⟨"", by rw [String.append_empty]⟩

theorem yields_of_eq {write : String → Written} {outcome : Except EncodeError String}
    (hwrite : ∀ buffer, write buffer = of outcome buffer) : Yields write outcome := by
  obtain rfl : write = of outcome := funext hwrite
  cases outcome with
  | ok text => exact fun _ => rfl
  | error error => exact yields_fail error

/-- What a failed writer has left behind the buffer is cut off again. -/
theorem Yields.restoring_eq {write : String → Written} {outcome : Except EncodeError String}
    (hyields : Yields write outcome) (buffer : String) :
    (write buffer).restoring buffer.utf8ByteSize = of outcome buffer := by
  cases outcome with
  | ok text => rw [hyields buffer]; rfl
  | error error =>
      obtain ⟨rest, hwrite⟩ := hyields buffer
      rw [hwrite, of]
      simp only [restoring, fail, Text.truncate_append]

theorem yields_append (text : String) : Yields (append · text) (.ok text) :=
  fun _ => rfl

/-- Two writers one after the other add the two texts, and the first failure counts. -/
theorem Yields.andThen {first second : String → Written}
    {outcome outcome' : Except EncodeError String} (hfirst : Yields first outcome)
    (hsecond : Yields second outcome') :
    Yields (fun buffer => (first buffer).andThen second)
      (do return (← outcome) ++ (← outcome')) := by
  cases outcome with
  | error error =>
      intro buffer
      obtain ⟨rest, hrest⟩ := hfirst buffer
      exact ⟨rest, by simp only [hrest, Written.andThen, fail]⟩
  | ok text =>
      cases outcome' with
      | error error =>
          intro buffer
          obtain ⟨rest, hrest⟩ := hsecond (buffer ++ text)
          refine ⟨text ++ rest, ?_⟩
          simp only [hfirst buffer, Written.andThen, append, hrest, fail, map_error,
            String.append_assoc]
      | ok text' =>
          intro buffer
          simp only [hfirst buffer, Written.andThen, append, hsecond (buffer ++ text), map_ok,
            String.utf8ByteSize_append, String.append_assoc]

theorem append_andThen {second : String → Written} {outcome : Except EncodeError String}
    (text : String) (hsecond : Yields second outcome) :
    Yields (fun buffer => (append buffer text).andThen second) ((text ++ ·) <$> outcome) := by
  have hboth := (yields_append text).andThen hsecond
  cases outcome <;> exact hboth

theorem ofValue_eq {shape : Shape} {write : shape.Carrier → String → Written}
    {spell : shape.Carrier → Except EncodeError String}
    (hwrite : ∀ content buffer, write content buffer = of (spell content) buffer) (value : Value)
    (buffer : String) : ofValue write value buffer = of (Shape.spellValue spell value) buffer := by
  unfold ofValue Shape.spellValue
  cases shape.ofValue value with
  | ok content => exact hwrite content buffer
  | error error => rfl

section Items

variable {α : Type} {write : α → String → Written} {spell : α → Except EncodeError String}

def trail (separator : String) (texts : List String) : String :=
  texts.foldr (fun text more => separator ++ (text ++ more)) ""

theorem intercalate_cons (separator text : String) (texts : List String) :
    separator.intercalate (text :: texts) = text ++ trail separator texts := by
  induction texts generalizing text with
  | nil => simp [trail]
  | cons next rest ih =>
      rw [String.intercalate_cons_cons, ih next]
      simp [trail, String.append_assoc]

theorem yields_following (hwrite : ∀ item buffer, write item buffer = of (spell item) buffer)
    (separator : String) (content : List α) :
    Yields (following write separator content) (trail separator <$> content.mapM spell) := by
  induction content with
  | nil => exact yields_append ""
  | cons item rest ih =>
      have houtcome : trail separator <$> (item :: rest).mapM spell =
          (separator ++ ·) <$>
            (do return (← spell item) ++ (← trail separator <$> rest.mapM spell)) := by
        rw [List.mapM_cons]
        cases spell item <;> cases rest.mapM spell <;> simp [trail]
      rw [houtcome]
      exact append_andThen separator ((yields_of_eq (hwrite item)).andThen ih)

theorem yields_items (hwrite : ∀ item buffer, write item buffer = of (spell item) buffer)
    (separator : String) (content : List α) :
    Yields (items write separator content) (separator.intercalate <$> content.mapM spell) := by
  cases content with
  | nil => exact yields_append ""
  | cons item rest =>
      have houtcome : separator.intercalate <$> (item :: rest).mapM spell =
          (do return (← spell item) ++ (← trail separator <$> rest.mapM spell)) := by
        rw [List.mapM_cons]
        cases spell item <;> cases rest.mapM spell <;> simp [intercalate_cons]
      rw [houtcome]
      exact (yields_of_eq (hwrite item)).andThen (yields_following hwrite separator rest)

theorem repetition_eq (hwrite : ∀ item buffer, write item buffer = of (spell item) buffer)
    (nonEmpty : Bool) (separator : String) (content : List α) (buffer : String) :
    repetition nonEmpty write separator content buffer =
      of (spellItems nonEmpty spell separator content) buffer := by
  unfold repetition spellItems
  split
  · rfl
  · exact (yields_items hwrite separator content).restoring_eq buffer

end Items

end Written

namespace Grammar

def WritesSpelling {shape : Shape} (grammar : Grammar shape) : Prop :=
  ∀ content buffer, grammar.write content buffer = Written.of (grammar.spelling content) buffer

theorem yields_writeElements {elements : List Element}
    (hparts : ∀ element ∈ elements, element.PartIs WritesSpelling) (record : Record) :
    Written.Yields (writeElements elements record) (spellElements elements record) := by
  induction elements with
  | nil => exact Written.yields_append ""
  | cons element rest ih =>
      obtain ⟨hpart, hrest⟩ := List.forall_mem_cons.1 hparts
      cases element with
      | literal text => exact Written.append_andThen text (ih hrest)
      | skip part => exact Written.append_andThen _ (ih hrest)
      | field name part =>
          cases hget : record.get? name with
          | none =>
              simp only [writeElements, spellElements, hget]
              exact Written.yields_fail _
          | some value =>
              simp only [writeElements, spellElements, hget]
              exact (Written.yields_of_eq (Written.ofValue_eq hpart value)).andThen (ih hrest)

theorem writeBranch_eq {branches : List Branch}
    (hbodies : ∀ branch ∈ branches, branch.BodyIs WritesSpelling) (names : List String)
    (tagged : Tagged) (buffer : String) :
    writeBranch branches names tagged buffer =
      Written.of (spellBranch branches names tagged) buffer := by
  induction branches with
  | nil => rfl
  | cons branch rest ih =>
      obtain ⟨hbody, hrest⟩ := List.forall_mem_cons.1 hbodies
      obtain ⟨name, body⟩ := branch
      rw [writeBranch, spellBranch]
      split
      · exact Written.ofValue_eq hbody tagged.content buffer
      · exact ih hrest

/-- **Writing is spelling.** By induction on the grammar: the writer adds the text of the value or
leaves the buffer as it was. -/
theorem write_eq_spelling {shape : Shape} (grammar : Grammar shape) : grammar.WritesSpelling := by
  induction grammar with
  | terminal leaf => exact fun _ _ => rfl
  | named name inner ih => exact ih
  | optional inner ih =>
      intro content buffer
      cases content with
      | none => rfl
      | some content => exact ih content buffer
  | repeated nonEmpty item ih => exact Written.repetition_eq ih nonEmpty ""
  | separated nonEmpty item separator ih _ => exact Written.repetition_eq ih nonEmpty _
  | template elements ih =>
      intro record buffer
      rw [write, spelling]
      cases unknownField? elements record with
      | some name => rfl
      | none => exact (yields_writeElements ih record).restoring_eq buffer
  | choice branches ih => exact writeBranch_eq ih (Branch.names branches)
  | erased inner ih => exact Written.ofValue_eq ih

theorem encode_eq_spelling {shape : Shape} (grammar : Grammar shape) (content : shape.Carrier) :
    grammar.encode content = grammar.spelling content := by
  rw [encode, write_eq_spelling grammar content ""]
  cases grammar.spelling content with
  | ok text => simp [Written.of, Written.append]
  | error error => rfl

theorem writeValue_eq {shape : Shape} (grammar : Grammar shape) (value : Value) (buffer : String) :
    grammar.writeValue value buffer =
      Written.of (Shape.spellValue grammar.spelling value) buffer :=
  Written.ofValue_eq grammar.write_eq_spelling value buffer

/-- **Writing appends everything or nothing.** Whether a value can be written, and the error if it
cannot, do not depend on the buffer. A failure leaves the buffer as it was; a success adds the text
that is written into an empty buffer, and counts its bytes. -/
theorem writeValue_all_or_nothing {shape : Shape} (grammar : Grammar shape) (value : Value)
    (buffer : String) :
    (grammar.writeValue value buffer).result = (grammar.writeValue value "").result ∧
      (∀ error, (grammar.writeValue value buffer).result = .error error →
        (grammar.writeValue value buffer).buffer = buffer) ∧
      ∀ count, (grammar.writeValue value buffer).result = .ok count →
        (grammar.writeValue value buffer).buffer =
          buffer ++ (grammar.writeValue value "").buffer ∧
        count = (grammar.writeValue value "").buffer.utf8ByteSize := by
  rw [writeValue_eq, writeValue_eq]
  cases Shape.spellValue grammar.spelling value with
  | error error => simp [Written.of, Written.fail]
  | ok text => simp [Written.of, Written.append, eq_comm]

end Grammar

end TwoWay
