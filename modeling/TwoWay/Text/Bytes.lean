/-!
Texts are scanned as lists of characters, and places in them are counted in UTF-8 bytes.
-/

namespace TwoWay.Text

/-- Number of bytes of the text's UTF-8 form. -/
def byteLength : List Char → Nat
  | [] => 0
  | c :: rest => c.utf8Size + byteLength rest

/-- Splits off the first `count` bytes. There is no such split when the count runs past the end
or falls inside a character. -/
def splitBytes? : Nat → List Char → Option (List Char × List Char)
  | 0, text => some ([], text)
  | _ + 1, [] => none
  | count + 1, c :: rest =>
      if c.utf8Size ≤ count + 1 then
        (splitBytes? (count + 1 - c.utf8Size) rest).map fun (front, back) => (c :: front, back)
      else none

theorem byteLength_append (front back : List Char) :
    byteLength (front ++ back) = byteLength front + byteLength back := by
  induction front with
  | nil => simp [byteLength]
  | cons c rest ih => simp [byteLength, ih, Nat.add_assoc]

theorem byteLength_reverse (text : List Char) : byteLength text.reverse = byteLength text := by
  induction text with
  | nil => rfl
  | cons c rest ih => simp [byteLength_append, byteLength, ih, Nat.add_comm]

theorem byteLength_toList (text : String) : byteLength text.toList = text.utf8ByteSize := by
  obtain ⟨chars, rfl⟩ : ∃ chars, text = String.ofList chars := ⟨text.toList, by simp⟩
  rw [String.toList_ofList]
  induction chars with
  | nil => rfl
  | cons c rest ih =>
    rw [byteLength, ih, String.ofList_cons, String.utf8ByteSize_append,
      String.utf8ByteSize_singleton]

theorem byteLength_pos {text : List Char} (h : text ≠ []) : 0 < byteLength text := by
  obtain ⟨c, rest, rfl⟩ := List.exists_cons_of_ne_nil h
  have hpos := c.utf8Size_pos
  rw [byteLength]
  omega

theorem splitBytes?_append (front back : List Char) :
    splitBytes? (byteLength front) (front ++ back) = some (front, back) := by
  induction front with
  | nil => simp [byteLength, splitBytes?]
  | cons c rest ih =>
    have hpos := c.utf8Size_pos
    obtain ⟨count, hcount⟩ : ∃ count, byteLength (c :: rest) = count + 1 :=
      ⟨byteLength (c :: rest) - 1, by simp only [byteLength]; omega⟩
    have hrest : count + 1 - c.utf8Size = byteLength rest := by
      rw [← hcount, byteLength]
      omega
    have hle : c.utf8Size ≤ count + 1 := by
      rw [← hcount, byteLength]
      omega
    simp [hcount, splitBytes?, hle, hrest, ih]

/-- A split by bytes is a split of the text into two parts, the first of that many bytes. -/
theorem splitBytes?_eq_some_iff {count : Nat} {text front back : List Char} :
    splitBytes? count text = some (front, back) ↔
      text = front ++ back ∧ byteLength front = count := by
  constructor
  · intro h
    induction text generalizing count front with
    | nil => cases count <;> simp_all [splitBytes?, byteLength]
    | cons c rest ih =>
      cases count with
      | zero => simp_all [splitBytes?, byteLength]
      | succ count =>
        simp only [splitBytes?] at h
        split at h
        · obtain ⟨⟨first, second⟩, hsplit, heq⟩ := Option.map_eq_some_iff.1 h
          simp only [Prod.mk.injEq] at heq
          obtain ⟨rfl, rfl⟩ := heq
          obtain ⟨rfl, hlength⟩ := ih hsplit
          refine ⟨rfl, ?_⟩
          rw [byteLength, hlength]
          omega
        · simp at h
  · rintro ⟨rfl, rfl⟩
    exact splitBytes?_append front back

/-- The first `count` bytes, or the whole text where there is no such split. -/
def truncate (count : Nat) (text : String) : String :=
  match splitBytes? count text.toList with
  | some (front, _) => String.ofList front
  | none => text

theorem truncate_append (front back : String) :
    truncate front.utf8ByteSize (front ++ back) = front := by
  rw [truncate, String.toList_append, ← byteLength_toList, splitBytes?_append]
  exact String.ofList_toList

/-- Bytes before the first occurrence of `word`. -/
def indexOf? (word : List Char) : List Char → Option Nat
  | [] => if word.isEmpty then some 0 else none
  | c :: rest =>
      if word.isPrefixOf (c :: rest) then some 0
      else (indexOf? word rest).map (c.utf8Size + ·)

end TwoWay.Text
