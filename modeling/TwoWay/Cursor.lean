import TwoWay.Text.Bytes

/-!
A cursor is a place between two characters of a text. It is kept as the characters on both sides of
it, so every cursor lies on a character boundary and inside its text.
-/

namespace TwoWay

/-- Offsets are numbers of 64 bits. -/
def offsetBound : Nat :=
  0x10000000000000000

/-- Steps that cannot be taken: one that would leave the text or end inside a character, one whose
end is not even an offset, and a look back to a mark from which no text leads to the cursor. -/
inductive Overrun
  | outside (count offset sourceLength : Nat)
  | overflow
  | lookBack
deriving DecidableEq, Repr

def Overrun.message : Overrun → String
  | .outside count offset sourceLength =>
      s!"cannot advance cursor by {count} bytes from offset {offset} " ++
        s!"(source length {sourceLength})"
  | .overflow => "attempt to add with overflow"
  | .lookBack => "the mark is not before the cursor"

/-- The characters passed, the last one first, and those that follow. The number of bytes passed is
kept beside them. -/
structure Cursor where
  passed : List Char
  after : List Char
  offset : Nat
  offset_eq : offset = Text.byteLength passed
deriving DecidableEq

namespace Cursor

/-- The cursor between two parts of a text. -/
def between (front back : List Char) : Cursor :=
  ⟨front.reverse, back, Text.byteLength front, (Text.byteLength_reverse front).symm⟩

/-- The cursor before the first character. -/
def start (text : String) : Cursor :=
  between [] text.toList

/-- The cursor `offset` bytes into the text, if a character starts or the text ends there. -/
def at? (text : String) (offset : Nat) : Option Cursor :=
  (Text.splitBytes? offset text.toList).map fun (front, back) => between front back

/-- The text before the cursor. -/
def before (cursor : Cursor) : List Char :=
  cursor.passed.reverse

def source (cursor : Cursor) : String :=
  String.ofList (cursor.before ++ cursor.after)

/-- Bytes after the cursor. -/
def remainingLength (cursor : Cursor) : Nat :=
  Text.byteLength cursor.after

def sourceLength (cursor : Cursor) : Nat :=
  cursor.offset + cursor.remainingLength

def remaining (cursor : Cursor) : String :=
  String.ofList cursor.after

def atEnd (cursor : Cursor) : Bool :=
  cursor.after.isEmpty

def startsWith (cursor : Cursor) (literal : String) : Bool :=
  literal.toList.isPrefixOf cursor.after

/-- The cursor behind the next characters, given those and what follows them. -/
def pass (cursor : Cursor) (front back : List Char) : Cursor where
  passed := front.reverse ++ cursor.passed
  after := back
  offset := cursor.offset + Text.byteLength front
  offset_eq := by
    rw [Text.byteLength_append, Text.byteLength_reverse, cursor.offset_eq, Nat.add_comm]

/-- Moves `count` bytes on. -/
def advance (cursor : Cursor) (count : Nat) : Except Overrun Cursor :=
  match Text.splitBytes? count cursor.after with
  | some (front, back) => .ok (cursor.pass front back)
  | none =>
      if cursor.offset + count < offsetBound then
        .error (.outside count cursor.offset cursor.sourceLength)
      else .error .overflow

/-- The text between an earlier mark and the cursor, found by going back from the cursor; `none`
when the mark is the later one or lies inside a character. -/
def consumedSince? (cursor mark : Cursor) : Option String :=
  if mark.offset ≤ cursor.offset then
    (Text.splitBytes? (cursor.offset - mark.offset) cursor.passed).map fun (consumed, _) =>
      String.ofList consumed.reverse
  else none

@[simp]
theorem before_between (front back : List Char) : (between front back).before = front := by
  simp [between, before]

@[simp]
theorem after_between (front back : List Char) : (between front back).after = back := rfl

@[simp]
theorem before_pass (cursor : Cursor) (front back : List Char) :
    (cursor.pass front back).before = cursor.before ++ front := by
  simp [pass, before]

@[simp]
theorem after_pass (cursor : Cursor) (front back : List Char) :
    (cursor.pass front back).after = back := rfl

theorem offset_eq_byteLength (cursor : Cursor) :
    cursor.offset = Text.byteLength cursor.before := by
  rw [before, Text.byteLength_reverse, cursor.offset_eq]

/-- A cursor is determined by the text on its two sides. -/
theorem eq_of_before_of_after {first second : Cursor} (hbefore : first.before = second.before)
    (hafter : first.after = second.after) : first = second := by
  obtain ⟨passed, after, offset, hoffset⟩ := first
  obtain ⟨passed', after', offset', hoffset'⟩ := second
  simp only [before, List.reverse_inj] at hbefore
  simp only at hafter
  subst hbefore hafter hoffset hoffset'
  rfl

theorem between_before_after (cursor : Cursor) : between cursor.before cursor.after = cursor :=
  eq_of_before_of_after (before_between _ _) rfl

/-- The cursor at an offset is the one that splits the text there. -/
theorem at?_eq_some_iff {text : String} {offset : Nat} {cursor : Cursor} :
    at? text offset = some cursor ↔ cursor.source = text ∧ cursor.offset = offset := by
  constructor
  · intro h
    obtain ⟨⟨front, back⟩, hsplit, rfl⟩ := Option.map_eq_some_iff.1 h
    obtain ⟨htext, hlength⟩ := Text.splitBytes?_eq_some_iff.1 hsplit
    refine ⟨?_, hlength⟩
    rw [source, before_between, after_between, ← htext, String.ofList_toList]
  · rintro ⟨rfl, rfl⟩
    have hsplit := Text.splitBytes?_append cursor.before cursor.after
    simp only [at?, source, String.toList_ofList, offset_eq_byteLength, hsplit, Option.map_some,
      between_before_after]

theorem advance_byteLength {cursor : Cursor} {front back : List Char}
    (hafter : cursor.after = front ++ back) :
    cursor.advance (Text.byteLength front) = .ok (cursor.pass front back) := by
  rw [advance, hafter, Text.splitBytes?_append]

@[simp]
theorem consumedSince?_pass (cursor : Cursor) (front back : List Char) :
    (cursor.pass front back).consumedSince? cursor = some (String.ofList front) := by
  have hsplit := Text.splitBytes?_append front.reverse cursor.passed
  rw [Text.byteLength_reverse] at hsplit
  simp [consumedSince?, pass, hsplit]

@[simp]
theorem pass_nil (cursor : Cursor) : cursor.pass [] cursor.after = cursor :=
  eq_of_before_of_after (by simp) rfl

@[simp]
theorem pass_pass (cursor : Cursor) (front middle rest back : List Char) :
    (cursor.pass front middle).pass rest back = cursor.pass (front ++ rest) back :=
  eq_of_before_of_after (by simp) rfl

theorem advance_eq_ok_iff {cursor next : Cursor} {count : Nat} :
    cursor.advance count = .ok next ↔
      ∃ front, cursor.after = front ++ next.after ∧ next.before = cursor.before ++ front ∧
        Text.byteLength front = count := by
  unfold advance
  constructor
  · intro h
    split at h
    · rename_i front back hsplit
      obtain ⟨hafter, hlength⟩ := Text.splitBytes?_eq_some_iff.1 hsplit
      cases h
      exact ⟨front, by rw [after_pass, hafter], before_pass cursor front back, hlength⟩
    · split at h <;> cases h
  · rintro ⟨front, hafter, hbefore, rfl⟩
    rw [hafter, Text.splitBytes?_append]
    have hnext : cursor.pass front next.after = next :=
      eq_of_before_of_after (by rw [before_pass, hbefore]) rfl
    simp [hnext]

/-- Advancing moves along the source and does not change it. -/
theorem source_of_advance {cursor next : Cursor} {count : Nat}
    (h : cursor.advance count = .ok next) : next.source = cursor.source := by
  obtain ⟨front, hafter, hbefore, _⟩ := advance_eq_ok_iff.1 h
  simp [source, hafter, hbefore]

theorem offset_of_advance {cursor next : Cursor} {count : Nat}
    (h : cursor.advance count = .ok next) : next.offset = cursor.offset + count := by
  obtain ⟨front, _, hbefore, hcount⟩ := advance_eq_ok_iff.1 h
  rw [offset_eq_byteLength, hbefore, Text.byteLength_append, hcount, offset_eq_byteLength]

def display (cursor : Cursor) : String :=
  s!"offset {cursor.offset} of {cursor.sourceLength}"

end Cursor

end TwoWay
