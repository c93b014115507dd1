import TwoWay.Proofs.Loop

/-!
# Attempts

Decoding a grammar tries its parts at places that depend on how the earlier attempts ended. The
attempts are given here as a relation, construct by construct, together with what each construct can
do: how it goes on when a part succeeds, and which part decides when it fails. A first consequence
is that decoding only moves forward in its text.
-/

namespace TwoWay

/-- The attempt fails, and another one may follow. -/
def Outcome.IsAbsorbed {α : Type} (outcome : Outcome α) : Prop :=
  ∃ error, outcome = .fail error ∧ error.isFatal = false

/-- A decoding at a cursor, of a grammar or of a literal. -/
inductive Attempt
  | part {shape : Shape} (grammar : Grammar shape) (cursor : Cursor)
  | literal (text : String) (cursor : Cursor)

def Attempt.ending : Attempt → Except (Fault DecodeError) Cursor
  | .part grammar cursor => (grammar.decode cursor).ending
  | .literal text cursor => cursor.expect text

def Element.attempt (cursor : Cursor) : Element → Attempt
  | .literal text => .literal text cursor
  | .field _ part => .part part cursor
  | .skip part => .part part cursor

/-- All elements succeed one after another and lead from the cursor to the place. -/
def Element.Pass : List Element → Cursor → Cursor → Prop
  | [], cursor, place => place = cursor
  | element :: rest, cursor, place =>
      ∃ next, (element.attempt cursor).ending = .ok next ∧ Pass rest next place

def Branch.Fails (cursor : Cursor) (branch : Branch) : Prop :=
  branch.BodyIs fun body => (body.decode cursor).IsAbsorbed

/-- The grammar is a repetition of the item, with the gap between any two items. -/
inductive Grammar.Loops : {shape : Shape} → Grammar (.list shape) →
    (Cursor → Except (Fault DecodeError) Cursor) → Grammar shape → Prop
  | repeated {shape : Shape} (nonEmpty : Bool) (item : Grammar shape) :
      Loops (.repeated nonEmpty item) .ok item
  | separated {shape gap : Shape} (nonEmpty : Bool) (item : Grammar shape)
      (separator : Grammar gap) :
      Loops (.separated nonEmpty item separator) (fun here => (separator.decode here).ending) item

/-- What a decoding tries directly. An element of a template is tried where its predecessors have
led to, a branch of a choice when the earlier ones have failed, the item and the separator of a
repetition at the places that the loop comes to. -/
inductive Attempt.Tries : Attempt → Attempt → Prop
  | named {shape : Shape} (name : String) (inner : Grammar shape) (cursor : Cursor) :
      Tries (.part (.named name inner) cursor) (.part inner cursor)
  | optional {shape : Shape} (inner : Grammar shape) (cursor : Cursor) :
      Tries (.part (.optional inner) cursor) (.part inner cursor)
  | erased {shape : Shape} (inner : Grammar shape) (cursor : Cursor) :
      Tries (.part (.erased inner) cursor) (.part inner cursor)
  | element (front : List Element) (element : Element) (back : List Element)
      {cursor place : Cursor} (hpass : Element.Pass front cursor place) :
      Tries (.part (.template (front ++ element :: back)) cursor) (element.attempt place)
  | branch {shape : Shape} (front : List Branch) (name : String) (body : Grammar shape)
      (back : List Branch) {cursor : Cursor}
      (hfront : ∀ earlier ∈ front, earlier.Fails cursor) :
      Tries (.part (.choice (front ++ .mk name body :: back)) cursor) (.part body cursor)
  | item {shape : Shape} {loop : Grammar (.list shape)}
      {gap : Cursor → Except (Fault DecodeError) Cursor} {item : Grammar shape}
      (hloop : loop.Loops gap item) {cursor start : Cursor}
      (htries : Outcome.TriesAt gap item.decode cursor start) :
      Tries (.part loop cursor) (.part item start)
  | separator {shape gap : Shape} (nonEmpty : Bool) (item : Grammar shape)
      (separator : Grammar gap) {cursor here : Cursor}
      (hlooks : Outcome.LooksAt (fun here => (separator.decode here).ending) item.decode cursor
        here) :
      Tries (.part (.separated nonEmpty item separator) cursor) (.part separator here)

/-- What a decoding tries, directly or through other attempts, itself included. -/
def Attempt.Attempts : Attempt → Attempt → Prop :=
  Relation.ReflTransGen Tries

/-! ### What terminals, templates and choices can do -/

/-- The pattern claims a length at the cursor that does not end between characters of the text. -/
def Pattern.Misjudges (pattern : Pattern) (cursor : Cursor) : Prop :=
  ∃ count, pattern.matchAt cursor = some count ∧ Text.splitBytes? count cursor.after = none

/-- All that a terminal can do at a cursor. -/
inductive Terminal.DecodesTo {α : Type} (terminal : Terminal α) (cursor : Cursor) :
    Outcome α → Prop
  | mismatch : DecodesTo terminal cursor (.fail (.patternMismatch cursor.offset terminal.describe))
  | misjudged (hmisjudges : terminal.pattern.Misjudges cursor) (overrun : Overrun) :
      DecodesTo terminal cursor (.error (.overrun overrun))
  | read {front back : List Char} (hafter : cursor.after = front ++ back)
      (hmatch : terminal.pattern.matchAt cursor = some (Text.byteLength front)) (value : α) :
      DecodesTo terminal cursor (.ok ⟨value, cursor.pass front back⟩)
  | refused {front back : List Char} (hafter : cursor.after = front ++ back) (message : String) :
      DecodesTo terminal cursor (.fail (.conversion cursor.offset (String.ofList front) message))

theorem Terminal.decodesTo {α : Type} (terminal : Terminal α) (cursor : Cursor) :
    terminal.DecodesTo cursor (terminal.decode cursor) := by
  cases hmatch : terminal.pattern.matchAt cursor with
  | none =>
      simp only [decode, hmatch]
      exact .mismatch
  | some count =>
      cases hsplit : Text.splitBytes? count cursor.after with
      | none =>
          obtain ⟨overrun, hadvance⟩ : ∃ overrun, cursor.advance count = .error overrun := by
            rw [Cursor.advance, hsplit]
            dsimp only
            split
            · exact ⟨_, rfl⟩
            · exact ⟨_, rfl⟩
          simp only [decode, hmatch, hadvance]
          exact .misjudged ⟨count, hmatch, hsplit⟩ overrun
      | some parts =>
          obtain ⟨hafter, rfl⟩ := Text.splitBytes?_eq_some_iff.1 hsplit
          rw [decode_of_matchAt hafter hmatch]
          split
          · exact .read hafter hmatch _
          · exact .refused hafter _

theorem Terminal.decode_cases {α : Type} (terminal : Terminal α) (cursor : Cursor) :
    (∃ value next, terminal.decode cursor = .ok ⟨value, next⟩ ∧ cursor.LeadsTo next) ∨
      (terminal.decode cursor).IsAbsorbed ∨
      ∃ overrun, terminal.decode cursor = .error (.overrun overrun) ∧
        terminal.pattern.Misjudges cursor := by
  have hstep := terminal.decodesTo cursor
  generalize terminal.decode cursor = outcome at hstep ⊢
  cases hstep with
  | mismatch => exact .inr (.inl ⟨_, rfl, rfl⟩)
  | misjudged hmisjudges overrun => exact .inr (.inr ⟨overrun, rfl, hmisjudges⟩)
  | read hafter hmatch value =>
      exact .inl ⟨value, _, rfl, Cursor.leadsTo_of_advance (Cursor.advance_byteLength hafter)⟩
  | refused hafter message => exact .inr (.inl ⟨_, rfl, rfl⟩)

namespace Grammar

/-- An element that succeeds leaves the rest to be decoded behind it. -/
theorem decodeElements_of_ok {element : Element} {cursor next : Cursor}
    (hok : (element.attempt cursor).ending = .ok next) (rest : List Element) (record : Record) :
    ∃ record', decodeElements (element :: rest) cursor record =
      decodeElements rest next record' := by
  cases element with
  | literal text =>
      have hexpect : cursor.expect text = .ok next := hok
      exact ⟨record, by simp only [decodeElements, hexpect]⟩
  | @field shape name part =>
      obtain ⟨value, hdecode⟩ := Outcome.ending_eq_ok_iff.1 hok
      exact ⟨record.set name (shape.toValue value), by simp only [decodeElements, hdecode]⟩
  | skip part =>
      obtain ⟨value, hdecode⟩ := Outcome.ending_eq_ok_iff.1 hok
      exact ⟨record, by simp only [decodeElements, hdecode]⟩

theorem decodeElements_of_error {element : Element} {cursor : Cursor} {fault : Fault DecodeError}
    (herror : (element.attempt cursor).ending = .error fault) (rest : List Element)
    (record : Record) : decodeElements (element :: rest) cursor record = .error fault := by
  cases element with
  | literal text =>
      have hexpect : cursor.expect text = .error fault := herror
      simp only [decodeElements, hexpect]
  | field name part =>
      have hdecode := Outcome.ending_eq_error_iff.1 herror
      simp only [decodeElements, hdecode]
  | skip part =>
      have hdecode := Outcome.ending_eq_error_iff.1 herror
      simp only [decodeElements, hdecode]

theorem decodeElements_append {front : List Element} {cursor place : Cursor}
    (hpass : Element.Pass front cursor place) (rest : List Element) (record : Record) :
    ∃ record', decodeElements (front ++ rest) cursor record =
      decodeElements rest place record' := by
  induction front generalizing cursor record with
  | nil =>
      cases hpass
      exact ⟨record, rfl⟩
  | cons element front ih =>
      obtain ⟨next, hnext, hpass⟩ := hpass
      obtain ⟨record', hdecode⟩ := decodeElements_of_ok hnext (front ++ rest) record
      obtain ⟨record'', hrest⟩ := ih hpass record'
      exact ⟨record'', hdecode.trans hrest⟩

/-- **What a template can do.** All its elements succeed, or one fails behind others that succeed,
and its fault is the fault of the template. -/
theorem decodeElements_cases (elements : List Element) (cursor : Cursor) (record : Record) :
    (∃ record' place, decodeElements elements cursor record = .ok ⟨record', place⟩ ∧
        Element.Pass elements cursor place) ∨
      ∃ front element back place fault, elements = front ++ element :: back ∧
        Element.Pass front cursor place ∧ (element.attempt place).ending = .error fault ∧
        decodeElements elements cursor record = .error fault := by
  induction elements generalizing cursor record with
  | nil => exact .inl ⟨record, cursor, rfl, rfl⟩
  | cons element rest ih =>
      cases hfirst : (element.attempt cursor).ending with
      | error fault =>
          exact .inr ⟨[], element, rest, cursor, fault, rfl, rfl, hfirst,
            decodeElements_of_error hfirst rest record⟩
      | ok next =>
          obtain ⟨record', hdecode⟩ := decodeElements_of_ok hfirst rest record
          rw [hdecode]
          rcases ih next record' with ⟨result, place, hresult, hpass⟩ |
            ⟨front, failing, back, place, fault, rfl, hpass, hfault, hresult⟩
          · exact .inl ⟨result, place, hresult, next, hfirst, hpass⟩
          · exact .inr ⟨element :: front, failing, back, place, fault, rfl, ⟨next, hfirst, hpass⟩,
              hfault, hresult⟩

theorem decodeBranches_of_fails {branch : Branch} {cursor : Cursor} (hfails : branch.Fails cursor)
    (rest : List Branch) (tried : List String) (furthest : Nat) :
    ∃ furthest', decodeBranches (branch :: rest) cursor tried furthest =
      decodeBranches rest cursor tried furthest' := by
  obtain ⟨name, body⟩ := branch
  obtain ⟨error, hdecode, hfatal⟩ := hfails
  have hrecover : (Fault.error error).recoverable? = some error :=
    Fault.recoverable?_eq_some_iff.2 ⟨rfl, hfatal⟩
  exact ⟨max furthest error.offset,
    by simp only [decodeBranches, hdecode, Outcome.fail, hrecover]⟩

/-- The first branch that does not fail decides, with a value or with a fault. -/
theorem decodeBranches_of_not_fails {shape : Shape} {name : String} {body : Grammar shape}
    {cursor : Cursor} (hfails : ¬ (Branch.mk name body).Fails cursor) (rest : List Branch)
    (tried : List String) (furthest : Nat) :
    decodeBranches (.mk name body :: rest) cursor tried furthest =
      (body.decode cursor).mapValue fun content => ⟨name, shape.toValue content⟩ := by
  rw [decodeBranches]
  cases hdecode : body.decode cursor with
  | ok decoded => rfl
  | error fault =>
      cases hrecover : fault.recoverable? with
      | none => simp only [hrecover, Outcome.mapValue_error]
      | some error =>
          obtain ⟨rfl, hfatal⟩ := Fault.recoverable?_eq_some_iff.1 hrecover
          exact absurd ⟨error, hdecode, hfatal⟩ hfails

theorem decodeBranches_append {front : List Branch} {cursor : Cursor}
    (hfront : ∀ earlier ∈ front, earlier.Fails cursor) (rest : List Branch) (tried : List String)
    (furthest : Nat) :
    ∃ furthest', decodeBranches (front ++ rest) cursor tried furthest =
      decodeBranches rest cursor tried furthest' := by
  induction front generalizing furthest with
  | nil => exact ⟨furthest, rfl⟩
  | cons branch front ih =>
      obtain ⟨hbranch, hfront⟩ := List.forall_mem_cons.1 hfront
      obtain ⟨further, hdecode⟩ := decodeBranches_of_fails hbranch (front ++ rest) tried furthest
      obtain ⟨furthest', hrest⟩ := ih hfront further
      exact ⟨furthest', hdecode.trans hrest⟩

/-- **What a choice can do.** The first branch that does not fail decides, or there is none. -/
theorem decodeBranches_cases (branches : List Branch) (cursor : Cursor) (tried : List String)
    (furthest : Nat) :
    (∃ (shape : Shape) (front : List Branch) (name : String) (body : Grammar shape)
        (back : List Branch), branches = front ++ .mk name body :: back ∧
        (∀ earlier ∈ front, earlier.Fails cursor) ∧
        decodeBranches branches cursor tried furthest =
          (body.decode cursor).mapValue fun content => ⟨name, shape.toValue content⟩) ∨
      ∃ furthest', decodeBranches branches cursor tried furthest =
        .fail (.alternativesExhausted cursor.offset furthest' tried) := by
  induction branches generalizing furthest with
  | nil => exact .inr ⟨furthest, rfl⟩
  | cons branch rest ih =>
      by_cases hfails : branch.Fails cursor
      · obtain ⟨further, hdecode⟩ := decodeBranches_of_fails hfails rest tried furthest
        rw [hdecode]
        rcases ih further with ⟨shape, front, name, body, back, rfl, hfront, hbody⟩ | hexhausted
        · exact .inl ⟨shape, branch :: front, name, body, back, rfl,
            List.forall_mem_cons.2 ⟨hfails, hfront⟩, hbody⟩
        · exact .inr hexhausted
      · obtain ⟨name, body⟩ := branch
        exact .inl ⟨_, [], name, body, rest, rfl, List.forall_mem_nil _,
          decodeBranches_of_not_fails hfails rest tried furthest⟩

/-! ### Decoding moves on -/

def MovesOn {shape : Shape} (grammar : Grammar shape) : Prop :=
  ∀ cursor next, (grammar.decode cursor).ending = .ok next → cursor.LeadsTo next

end Grammar

theorem Cursor.leadsTo_of_expect {cursor next : Cursor} {literal : String}
    (hexpect : cursor.expect literal = .ok next) : cursor.LeadsTo next := by
  have hstays := staysWithin_expect cursor literal
  rw [hexpect] at hstays
  exact hstays

theorem Element.Pass.leadsTo {elements : List Element}
    (hparts : ∀ element ∈ elements, element.PartIs Grammar.MovesOn) {cursor place : Cursor}
    (hpass : Element.Pass elements cursor place) : cursor.LeadsTo place := by
  induction elements generalizing cursor with
  | nil =>
      cases hpass
      exact .refl _
  | cons element rest ih =>
      obtain ⟨hpart, hrest⟩ := List.forall_mem_cons.1 hparts
      obtain ⟨next, hnext, hpass⟩ := hpass
      have hfirst : cursor.LeadsTo next := by
        cases element with
        | literal text => exact Cursor.leadsTo_of_expect hnext
        | field name part => exact hpart cursor next hnext
        | skip part => exact hpart cursor next hnext
      exact hfirst.trans (ih hrest hpass)

namespace Outcome

variable {α : Type}

theorem ending_optional_cases (outcome : Outcome α) (cursor : Cursor) :
    (outcome.optional cursor).ending = outcome.ending ∨
      (outcome.optional cursor).ending = .ok cursor ∧
        outcome.IsAbsorbed := by
  cases outcome with
  | ok decoded => exact .inl rfl
  | error fault =>
      cases hrecover : fault.recoverable? with
      | none => exact .inl (by simp only [optional, hrecover, ending, Except.map])
      | some error =>
          obtain ⟨rfl, hfatal⟩ := Fault.recoverable?_eq_some_iff.1 hrecover
          exact .inr ⟨by simp only [optional, hrecover, ending, Except.map], error, rfl, hfatal⟩

end Outcome

namespace Grammar

/-- **Decoding moves on.** A grammar that succeeds, whatever its patterns, ends in the same text and
not before its start. -/
theorem movesOn {shape : Shape} (grammar : Grammar shape) : grammar.MovesOn := by
  induction grammar with
  | terminal leaf =>
      intro cursor next hend
      rcases leaf.decode_cases cursor with
        ⟨value, place, hdecode, hleads⟩ | ⟨error, hdecode, -⟩ | ⟨overrun, hdecode, -⟩
      · rw [decode, hdecode] at hend
        cases hend
        exact hleads
      · rw [decode, hdecode] at hend
        cases hend
      · rw [decode, hdecode] at hend
        cases hend
  | named name inner ih => exact ih
  | optional inner ih =>
      intro cursor next hend
      rw [decode] at hend
      rcases (inner.decode cursor).ending_optional_cases cursor with hsame | ⟨habsent, -⟩
      · exact ih cursor next (hsame.symm.trans hend)
      · rw [habsent] at hend
        cases hend
        exact .refl cursor
  | repeated nonEmpty item ih =>
      intro cursor next hend
      refine Outcome.leadsTo_of_repetition ?_ ih nonEmpty hend
      rintro here _ ⟨⟩
      exact .refl here
  | separated nonEmpty item separator ih ihSeparator =>
      intro cursor next hend
      exact Outcome.leadsTo_of_repetition ihSeparator ih nonEmpty hend
  | template elements ih =>
      intro cursor next hend
      rw [decode] at hend
      rcases decodeElements_cases elements cursor .empty with
        ⟨record, place, hdecode, hpass⟩ | ⟨_, _, _, _, fault, _, _, _, hdecode⟩
      · rw [hdecode] at hend
        cases hend
        exact hpass.leadsTo ih
      · rw [hdecode] at hend
        cases hend
  | choice branches ih =>
      intro cursor next hend
      rw [decode] at hend
      rcases decodeBranches_cases branches cursor (Branch.names branches) cursor.offset with
        ⟨shape, front, name, body, back, rfl, -, hdecode⟩ | ⟨furthest, hdecode⟩
      · rw [hdecode, Outcome.ending_mapValue] at hend
        have hbody : (Branch.mk name body).BodyIs MovesOn := ih _ (by simp)
        exact hbody cursor next hend
      · rw [hdecode] at hend
        cases hend
  | erased inner ih =>
      intro cursor next hend
      rw [decode, Outcome.ending_mapValue] at hend
      exact ih cursor next hend

theorem Loops.exists_decode_eq {shape : Shape} {loop : Grammar (.list shape)}
    {gap : Cursor → Except (Fault DecodeError) Cursor} {item : Grammar shape}
    (hloop : loop.Loops gap item) :
    ∃ nonEmpty, ∀ cursor, loop.decode cursor = .repetition nonEmpty gap item.decode cursor := by
  cases hloop with
  | repeated nonEmpty item => exact ⟨nonEmpty, fun _ => rfl⟩
  | separated nonEmpty item separator => exact ⟨nonEmpty, fun _ => rfl⟩

theorem Loops.gap_leadsTo {shape : Shape} {loop : Grammar (.list shape)}
    {gap : Cursor → Except (Fault DecodeError) Cursor} {item : Grammar shape}
    (hloop : loop.Loops gap item) (here start : Cursor) (hgap : gap here = .ok start) :
    here.LeadsTo start := by
  cases hloop with
  | repeated nonEmpty item =>
      cases hgap
      exact .refl _
  | separated nonEmpty item separator => exact separator.movesOn here start hgap

end Grammar

theorem Element.movesOn (element : Element) : element.PartIs Grammar.MovesOn := by
  cases element with
  | literal text => trivial
  | field name part => exact part.movesOn
  | skip part => exact part.movesOn

end TwoWay
