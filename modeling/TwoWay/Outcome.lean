import TwoWay.Error

/-!
The outcome of decoding at a cursor: a value with the cursor behind it, or a fault.
-/

namespace TwoWay

/-- The cursor behind a literal that must come next. -/
def Cursor.expect (cursor : Cursor) (literal : String) : Except (Fault DecodeError) Cursor :=
  if cursor.startsWith literal then (cursor.advance literal.utf8ByteSize).mapError .overrun
  else .error (.error (.literalMismatch literal cursor.offset))

theorem Cursor.expect_of_append {cursor : Cursor} {literal : String} {rest : List Char}
    (hafter : cursor.after = literal.toList ++ rest) :
    cursor.expect literal = .ok (cursor.pass literal.toList rest) := by
  have hstarts : cursor.startsWith literal = true := by
    rw [startsWith, hafter, List.isPrefixOf_iff_prefix]
    exact List.prefix_append _ _
  rw [expect, if_pos hstarts, ← Text.byteLength_toList, advance_byteLength hafter]
  rfl

theorem Cursor.expect_of_not_prefix {cursor : Cursor} {literal : String}
    (hafter : ¬ literal.toList <+: cursor.after) :
    cursor.expect literal = .error (.error (.literalMismatch literal cursor.offset)) := by
  have hstarts : ¬ cursor.startsWith literal = true := by
    rwa [startsWith, List.isPrefixOf_iff_prefix]
  rw [expect, if_neg hstarts]

structure Decoded (α : Type) where
  value : α
  cursor : Cursor

def Decoded.map {α β : Type} (f : α → β) (decoded : Decoded α) : Decoded β :=
  ⟨f decoded.value, decoded.cursor⟩

abbrev Outcome (α : Type) :=
  Except (Fault DecodeError) (Decoded α)

namespace Outcome

variable {α β : Type}

def fail (error : DecodeError) : Outcome α :=
  .error (.error error)

def mapValue (f : α → β) (outcome : Outcome α) : Outcome β :=
  Except.map (Decoded.map f) outcome

/-- Absence in place of a value where the attempt failed and another one may follow. -/
def optional (outcome : Outcome α) (cursor : Cursor) : Outcome (Option α) :=
  match outcome with
  | .ok decoded => .ok (decoded.map some)
  | .error fault =>
      match fault.recoverable? with
      | some _ => .ok ⟨none, cursor⟩
      | none => .error fault

/-- A success that takes no text is a fault of the grammar. -/
def consuming (item : Cursor → Outcome α) (cursor : Cursor) : Outcome α :=
  match item cursor with
  | .ok decoded =>
      if decoded.cursor.offset = cursor.offset then fail (.zeroWidthRepetition cursor.offset)
      else .ok decoded
  | .error fault => .error fault

/-- Items as long as attempts succeed. Each takes some text, so fuel that exceeds the length of
the remaining text does not run out. -/
def itemsFrom (attempt : Cursor → Outcome α) : Nat → Cursor → Outcome (List α)
  | 0, cursor => .ok ⟨[], cursor⟩
  | fuel + 1, cursor =>
      match attempt cursor with
      | .ok first => (itemsFrom attempt fuel first.cursor).mapValue (first.value :: ·)
      | .error fault =>
          match fault.recoverable? with
          | some _ => .ok ⟨[], cursor⟩
          | none => .error fault

/-- Items with a gap between any two of them. A gap that no item follows is left in the text. -/
def repetition (nonEmpty : Bool) (gap : Cursor → Except (Fault DecodeError) Cursor)
    (item : Cursor → Outcome α) (cursor : Cursor) : Outcome (List α) :=
  match consuming item cursor with
  | .ok first =>
      (itemsFrom (fun here => (gap here).bind (consuming item)) (first.cursor.after.length + 1)
        first.cursor).mapValue (first.value :: ·)
  | .error fault =>
      match fault.recoverable? with
      | some error =>
          if nonEmpty then fail (.repetitionTooFew cursor.offset error) else .ok ⟨[], cursor⟩
      | none => .error fault

end Outcome

end TwoWay
