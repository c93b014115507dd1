import TwoWay.Grammar.Render
import TwoWay.Proofs.Lexemes
import TwoWay.Proofs.Parts

/-!
# Reading a known text

A decoder that is put before a known text takes exactly that text, or refuses it. What the parts of
a grammar take or refuse decides what the whole does, whatever follows the text.
-/

namespace TwoWay

/-- Before the text and what follows it, the decoder takes the text and yields the value. -/
def Reads {α : Type} (decode : Cursor → Outcome α) (text : List Char) (value : α)
    (rest : List Char) : Prop :=
  ∀ cursor : Cursor, cursor.after = text ++ rest →
    decode cursor = .ok ⟨value, cursor.pass text rest⟩

/-- Before the text the decoder fails, and another attempt may follow. -/
def Refuses {α : Type} (decode : Cursor → Outcome α) (text : List Char) : Prop :=
  ∀ cursor : Cursor, cursor.after = text → ∃ error : DecodeError,
    decode cursor = .fail error ∧ error.isFatal = false

theorem Reads.behind {α : Type} {decode : Cursor → Outcome α} {text rest : List Char} {value : α}
    (hreads : Reads decode text value rest) (cursor : Cursor) (front : List Char) :
    decode (cursor.pass front (text ++ rest)) = .ok ⟨value, cursor.pass (front ++ text) rest⟩ := by
  rw [hreads _ (Cursor.after_pass ..), Cursor.pass_pass]

/-- A decoder cannot read two things at the beginning of one text. -/
theorem Reads.unique {α : Type} {decode : Cursor → Outcome α} {text text' rest rest' : List Char}
    {value value' : α} (hreads : Reads decode text value rest)
    (hreads' : Reads decode text' value' rest') (htext : text ++ rest = text' ++ rest') :
    value = value' ∧ text = text' ∧ rest = rest' := by
  have hfirst := hreads (.between [] (text ++ rest)) rfl
  have hsecond := hreads' (.between [] (text ++ rest)) htext
  rw [hfirst] at hsecond
  simp only [Except.ok.injEq, Decoded.mk.injEq] at hsecond
  have hrest : rest = rest' := congrArg Cursor.after hsecond.2
  subst hrest
  exact ⟨hsecond.1, List.append_cancel_right htext, rfl⟩

theorem Fault.recoverable?_of_not_fatal {error : DecodeError} (herror : error.isFatal = false) :
    (Fault.error error).recoverable? = some error :=
  recoverable?_eq_some_iff.2 ⟨rfl, herror⟩

/-! ### Terminals and options -/

variable {α : Type} {text rest : List Char} {value : α}

theorem Terminal.Takes.reads {terminal : Terminal α}
    {lexeme? : List Char → Option (List Char × List Char)} (htakes : terminal.Takes lexeme?)
    (hlexeme : lexeme? (text ++ rest) = some (text, rest))
    (hread : terminal.conversion.read (String.ofList text) = .ok value) :
    Reads terminal.decode text value rest := by
  intro cursor hafter
  rw [← hafter] at hlexeme
  rw [htakes.decode_of_some hlexeme, hread]

theorem Terminal.Takes.refuses {terminal : Terminal α}
    {lexeme? : List Char → Option (List Char × List Char)} (htakes : terminal.Takes lexeme?)
    (hlexeme : lexeme? text = none) : Refuses terminal.decode text := by
  rintro cursor rfl
  exact ⟨_, htakes.decode_of_none hlexeme, rfl⟩

theorem Refuses.reads_optional {decode : Cursor → Outcome α} (hrefuses : Refuses decode rest) :
    Reads (fun cursor => (decode cursor).optional cursor) [] none rest := by
  rintro cursor hafter
  obtain ⟨error, hdecode, herror⟩ := hrefuses cursor hafter
  rw [List.nil_append] at hafter
  subst hafter
  simp only [hdecode, Outcome.fail, Outcome.optional, Fault.recoverable?_of_not_fatal herror,
    Cursor.pass_nil]

/-! ### Templates -/

namespace Grammar

variable {elements : List Element} {record result : Record}

theorem reads_elements_nil (record : Record) (rest : List Char) :
    Reads (fun cursor => decodeElements [] cursor record) [] record rest := by
  intro cursor hafter
  rw [List.nil_append] at hafter
  subst hafter
  simp only [decodeElements, Cursor.pass_nil]

theorem reads_literal {literal : String} {chars : List Char} (hliteral : literal.toList = chars)
    (hrest : Reads (fun cursor => decodeElements elements cursor record) text result rest) :
    Reads (fun cursor => decodeElements (.literal literal :: elements) cursor record)
      (chars ++ text) result rest := by
  intro cursor hafter
  subst hliteral
  rw [List.append_assoc] at hafter
  simp only [decodeElements, Cursor.expect_of_append hafter]
  exact hrest.behind cursor _

theorem reads_field {shape : Shape} {part : Grammar shape} {content : shape.Carrier}
    {first : List Char} (name : String) (hpart : Reads part.decode first content (text ++ rest))
    (hrest : Reads
      (fun cursor => decodeElements elements cursor (record.set name (shape.toValue content)))
      text result rest) :
    Reads (fun cursor => decodeElements (.field name part :: elements) cursor record)
      (first ++ text) result rest := by
  intro cursor hafter
  rw [List.append_assoc] at hafter
  simp only [decodeElements, hpart cursor hafter]
  exact hrest.behind cursor _

theorem reads_skip {shape : Shape} {part : Grammar shape} {content : shape.Carrier}
    {first : List Char} (hpart : Reads part.decode first content (text ++ rest))
    (hrest : Reads (fun cursor => decodeElements elements cursor record) text result rest) :
    Reads (fun cursor => decodeElements (.skip part :: elements) cursor record) (first ++ text)
      result rest := by
  intro cursor hafter
  rw [List.append_assoc] at hafter
  simp only [decodeElements, hpart cursor hafter]
  exact hrest.behind cursor _

theorem refuses_literal {literal : String} (hliteral : ¬ literal.toList <+: text) :
    Refuses (fun cursor => decodeElements (.literal literal :: elements) cursor record) text := by
  rintro cursor rfl
  refine ⟨.literalMismatch literal cursor.offset, ?_, rfl⟩
  simp only [decodeElements, Cursor.expect_of_not_prefix hliteral, Outcome.fail]

theorem refuses_behind_literal {literal : String} {chars : List Char}
    (hliteral : literal.toList = chars)
    (hrest : Refuses (fun cursor => decodeElements elements cursor record) text) :
    Refuses (fun cursor => decodeElements (.literal literal :: elements) cursor record)
      (chars ++ text) := by
  intro cursor hafter
  subst hliteral
  simp only [decodeElements, Cursor.expect_of_append hafter]
  exact hrest _ (Cursor.after_pass ..)

theorem refuses_field {shape : Shape} {part : Grammar shape} (name : String)
    (hpart : Refuses part.decode text) :
    Refuses (fun cursor => decodeElements (.field name part :: elements) cursor record) text := by
  intro cursor hafter
  obtain ⟨error, hdecode, herror⟩ := hpart cursor hafter
  exact ⟨error, by simp only [decodeElements, hdecode, Outcome.fail], herror⟩

theorem refuses_skip {shape : Shape} {part : Grammar shape} (hpart : Refuses part.decode text) :
    Refuses (fun cursor => decodeElements (.skip part :: elements) cursor record) text := by
  intro cursor hafter
  obtain ⟨error, hdecode, herror⟩ := hpart cursor hafter
  exact ⟨error, by simp only [decodeElements, hdecode, Outcome.fail], herror⟩

theorem refuses_behind_skip {shape : Shape} {part : Grammar shape} {content : shape.Carrier}
    {first : List Char} (hpart : Reads part.decode first content text)
    (hrest : Refuses (fun cursor => decodeElements elements cursor record) text) :
    Refuses (fun cursor => decodeElements (.skip part :: elements) cursor record)
      (first ++ text) := by
  intro cursor hafter
  simp only [decodeElements, hpart cursor hafter]
  exact hrest _ (Cursor.after_pass ..)

/-! ### Choices -/

/-- Whatever is to be reported in case of failure, the branches take the text. -/
def BranchesRead (branches : List Branch) (text : List Char) (tagged : Tagged)
    (rest : List Char) : Prop :=
  ∀ tried furthest, Reads (fun cursor => decodeBranches branches cursor tried furthest) text tagged
    rest

theorem BranchesRead.choice {branches : List Branch} {tagged : Tagged}
    (hbranches : BranchesRead branches text tagged rest) :
    Reads (Grammar.choice branches).decode text tagged rest :=
  fun cursor hafter => hbranches _ _ cursor hafter

theorem branchesRead_of_reads {shape : Shape} {body : Grammar shape} {content : shape.Carrier}
    (name : String) (branches : List Branch) (hbody : Reads body.decode text content rest) :
    BranchesRead (.mk name body :: branches) text ⟨name, shape.toValue content⟩ rest := by
  intro tried furthest cursor hafter
  simp only [decodeBranches, hbody cursor hafter]

theorem branchesRead_of_refuses {shape : Shape} {body : Grammar shape} {branches : List Branch}
    {tagged : Tagged} (name : String) (hbody : Refuses body.decode (text ++ rest))
    (hbranches : BranchesRead branches text tagged rest) :
    BranchesRead (.mk name body :: branches) text tagged rest := by
  intro tried furthest cursor hafter
  obtain ⟨error, hdecode, herror⟩ := hbody cursor hafter
  simp only [decodeBranches, hdecode, Outcome.fail, Fault.recoverable?_of_not_fatal herror]
  exact hbranches _ _ cursor hafter

theorem refuses_choice {branches : List Branch}
    (hbodies : ∀ branch ∈ branches, branch.BodyIs fun body => Refuses body.decode text) :
    Refuses (Grammar.choice branches).decode text := by
  intro cursor hafter
  rw [decode]
  generalize Branch.names branches = tried
  generalize cursor.offset = furthest
  induction branches generalizing furthest with
  | nil => exact ⟨_, by rw [decodeBranches], rfl⟩
  | cons branch branches ih =>
      obtain ⟨name, body⟩ := branch
      obtain ⟨hbody, hrest⟩ := List.forall_mem_cons.1 hbodies
      obtain ⟨error, hdecode, herror⟩ := hbody cursor hafter
      simp only [decodeBranches, hdecode, Outcome.fail, Fault.recoverable?_of_not_fatal herror]
      exact ih hrest _

end Grammar

/-! ### Repetitions -/

namespace Outcome

theorem reads_consuming {item : Cursor → Outcome α} (htext : text ≠ [])
    (hitem : Reads item text value rest) : Reads (consuming item) text value rest := by
  intro cursor hafter
  have hpos := Text.byteLength_pos htext
  have hmoved : ¬ (cursor.pass text rest).offset = cursor.offset := by
    rw [Cursor.pass]
    dsimp only
    omega
  simp only [consuming, hitem cursor hafter, if_neg hmoved]

theorem refuses_consuming {item : Cursor → Outcome α} (hitem : Refuses item text) :
    Refuses (consuming item) text := by
  intro cursor hafter
  obtain ⟨error, hdecode, herror⟩ := hitem cursor hafter
  exact ⟨error, by simp only [consuming, hdecode, fail], herror⟩

/-- The texts and values of items that stand one after another, the first before all the others,
and behind them what no further attempt takes. -/
def ReadsAll (attempt : Cursor → Outcome α) (rest : List Char) : List (List Char × α) → Prop
  | [] => Refuses attempt rest
  | (text, value) :: pieces =>
      text ≠ [] ∧ Reads attempt text value (pieces.flatMap Prod.fst ++ rest) ∧
        ReadsAll attempt rest pieces

theorem ReadsAll.length_le {attempt : Cursor → Outcome α} {pieces : List (List Char × α)}
    (hall : ReadsAll attempt rest pieces) : pieces.length ≤ (pieces.flatMap Prod.fst).length := by
  induction pieces with
  | nil => simp
  | cons piece pieces ih =>
      obtain ⟨htext, -, hpieces⟩ := hall
      have hpos := List.length_pos_iff.2 htext
      have hmore := ih hpieces
      rw [List.flatMap_cons, List.length_append, List.length_cons]
      omega

theorem ReadsAll.reads_itemsFrom {attempt : Cursor → Outcome α} {pieces : List (List Char × α)}
    (hall : ReadsAll attempt rest pieces) {fuel : Nat} (hfuel : pieces.length < fuel) :
    Reads (itemsFrom attempt fuel) (pieces.flatMap Prod.fst) (pieces.map Prod.snd) rest := by
  induction pieces generalizing fuel with
  | nil =>
      intro cursor hafter
      obtain ⟨error, hattempt, herror⟩ := hall cursor hafter
      rw [List.flatMap_nil, List.nil_append] at hafter
      subst hafter
      cases fuel with
      | zero => cases hfuel
      | succ fuel =>
          simp only [itemsFrom, hattempt, fail, Fault.recoverable?_of_not_fatal herror,
            List.map_nil, List.flatMap_nil, Cursor.pass_nil]
  | cons piece pieces ih =>
      intro cursor hafter
      obtain ⟨text, value⟩ := piece
      obtain ⟨-, hfirst, hpieces⟩ := hall
      rw [List.flatMap_cons, List.append_assoc] at hafter
      cases fuel with
      | zero => cases hfuel
      | succ fuel =>
          have hlater := ih hpieces (Nat.lt_of_succ_lt_succ hfuel)
          simp only [itemsFrom, hfirst cursor hafter, hlater.behind cursor text]
          rfl

/-- **Items are read back.** The first is taken where the repetition starts, the others behind their
gaps, and there is fuel enough for all since each takes some text. -/
theorem reads_repetition {gap : Cursor → Except (Fault DecodeError) Cursor}
    {item : Cursor → Outcome α} {pieces : List (List Char × α)} (nonEmpty : Bool)
    (htext : text ≠ [])
    (hfirst : Reads item text value (pieces.flatMap Prod.fst ++ rest))
    (hall : ReadsAll (fun here => (gap here).bind (consuming item)) rest pieces) :
    Reads (repetition nonEmpty gap item) (text ++ pieces.flatMap Prod.fst)
      (value :: pieces.map Prod.snd) rest := by
  intro cursor hafter
  rw [List.append_assoc] at hafter
  have hfuel : pieces.length < (pieces.flatMap Prod.fst ++ rest).length + 1 := by
    have hlength := hall.length_le
    rw [List.length_append]
    omega
  have hlater := (hall.reads_itemsFrom hfuel).behind cursor text
  simp only [repetition, reads_consuming htext hfirst cursor hafter, Cursor.after_pass, hlater]
  rfl

theorem reads_repetition_nil {gap : Cursor → Except (Fault DecodeError) Cursor}
    {item : Cursor → Outcome α} (hitem : Refuses item rest) :
    Reads (repetition false gap item) [] [] rest := by
  intro cursor hafter
  obtain ⟨error, hattempt, herror⟩ := refuses_consuming hitem cursor hafter
  rw [List.nil_append] at hafter
  subst hafter
  simp [repetition, hattempt, fail, Fault.recoverable?_of_not_fatal herror]

theorem reads_behind_gap {shape : Shape} {separator : Grammar shape} {content : shape.Carrier}
    {item : Cursor → Outcome α} {front : List Char} (htext : text ≠ [])
    (hgap : Reads separator.decode front content (text ++ rest))
    (hitem : Reads item text value rest) :
    Reads (fun here => ((separator.decode here).map Decoded.cursor).bind (consuming item))
      (front ++ text) value rest := by
  intro cursor hafter
  rw [List.append_assoc] at hafter
  simp only [hgap cursor hafter]
  exact (reads_consuming htext hitem).behind cursor front

theorem refuses_behind_gap {shape : Shape} {separator : Grammar shape} {content : shape.Carrier}
    {item : Cursor → Outcome α} {front : List Char}
    (hgap : Reads separator.decode front content rest) (hitem : Refuses item rest) :
    Refuses (fun here => ((separator.decode here).map Decoded.cursor).bind (consuming item))
      (front ++ rest) := by
  intro cursor hafter
  simp only [hgap cursor hafter]
  exact refuses_consuming hitem _ (Cursor.after_pass ..)

end Outcome

/-! ### Whole texts -/

theorem Grammar.parse_of_reads {shape : Shape} {grammar : Grammar shape} {content : shape.Carrier}
    {text : String} (hreads : Reads grammar.decode text.toList content []) :
    grammar.parse text = .ok content := by
  have hdecode := hreads (.start text) (by simp [Cursor.start])
  simp [parse, hdecode, Cursor.atEnd]

end TwoWay
