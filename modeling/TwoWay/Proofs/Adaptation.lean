import TwoWay.Proofs.Acceptance

/-!
# Values in the types of grammars

A value enters the type of a grammar as a whole. What stands for an unlimited integer may be a
64-bit one, and what stands for a tagged value may be a record with one field; nothing else is
changed on the way, and nothing where the type does not ask for it. So a value that came from the
type goes back to what it was, and a grammar treats it as it treats what it came from.
-/

namespace TwoWay

namespace Shape

/-- The value with a 64-bit integer widened and a record with one field taken for a tagged value,
wherever the shape asks for that. -/
def adapt : Shape → Value → Value
  | .scalar .bigInteger, .int n => .big n.toInt
  | .tagged, .record [(tag, content)] => .tagged tag content
  | .list item, .list items => .list (items.map item.adapt)
  | .optional inner, .optional content => .optional (content.map inner.adapt)
  | _, value => value

theorem ofValue_scalar_iff {kind : Scalar} {value : Value} {content : kind.Carrier} :
    kind.ofValue value = .ok content ↔ adapt (.scalar kind) value = kind.toValue content := by
  cases kind <;> cases value <;> simp [Scalar.ofValue, Scalar.toValue, adapt]

theorem ofValue_record_iff {value : Value} {content : Record} :
    ofValue .record value = .ok content ↔ adapt .record value = content.toValue := by
  obtain ⟨fields⟩ := content
  cases value <;> simp [ofValue, Record.toValue, adapt]

theorem ofValue_tagged_iff {value : Value} {tagged : Tagged} :
    Tagged.ofValue value = .ok tagged ↔ adapt .tagged value = tagged.toValue := by
  rw [Grammar.ofValue_tagged_eq_ok_iff, Tagged.toValue]
  cases value with
  | record fields =>
      match fields with
      | [] => simp [adapt]
      | [(tag, content)] => simp [adapt]
      | _ :: _ :: _ => simp [adapt]
  | _ => simp [adapt]

/-- **A value is taken in as it is adapted,** and refused if that leaves something that did not come
from the shape. By induction on the shape. -/
theorem ofValue_eq_ok_iff {shape : Shape} {value : Value} {content : shape.Carrier} :
    shape.ofValue value = .ok content ↔ shape.adapt value = shape.toValue content := by
  induction shape generalizing value with
  | scalar kind => exact ofValue_scalar_iff
  | record => exact ofValue_record_iff
  | tagged => exact ofValue_tagged_iff
  | any => simp [ofValue, toValue, adapt]
  | list item ih =>
      cases value with
      | list values =>
          -- Both sides go through the items one by one.
          rw [ofValue, adapt, toValue, Value.list.injEq, mapM_eq_ok_iff, ← List.forall₂_eq_eq_eq,
            List.forall₂_map_left_iff, List.forall₂_map_right_iff]
          simp only [ih]
      | _ => simp [ofValue, toValue, adapt]
  | optional inner ih =>
      cases value with
      | optional present =>
          cases present with
          | none => cases content <;> simp [ofValue, toValue, adapt]
          | some value => cases content <;> simp [ofValue, toValue, adapt, map_eq_ok_iff, ih]
      | _ => simp [ofValue, toValue, adapt]

-- What stands behind the name of the field stays as it is: nobody asks for it to be widened.
example :
    ofValue (.list (.optional .tagged)) (.list [.optional (some (.record [("n", .int 5)]))]) =
      .ok [some ⟨"n", .int 5⟩] := rfl

theorem normalizeValue_embedded {shape : Shape}
    (normalize : shape.Carrier → Except EncodeError shape.Carrier) (content : shape.Carrier) :
    Shape.normalizeValue normalize (shape.toValue content) =
      shape.toValue <$> normalize content := by
  rw [normalizeValue, ofValue_toValue, ok_bind]
  cases normalize content <;> rfl

end Shape

theorem Written.ofValue_embedded {shape : Shape} (write : shape.Carrier → String → Written)
    (content : shape.Carrier) (buffer : String) :
    Written.ofValue write (shape.toValue content) buffer = write content buffer := by
  rw [ofValue, Shape.ofValue_toValue]

/-- **What comes from a type goes back to what it was.** A value is taken for one of the type if and
only if it comes from there up to the two allowances, which are made where the type asks for them.
So a grammar writes and normalises a value of its type as it does the value freed from its type, and
this is so for any way to write and to normalise. -/
theorem Shape.embedding_undone (shape : Shape) :
    (∀ content, shape.ofValue (shape.toValue content) = .ok content) ∧
      (∀ value content, shape.ofValue value = .ok content ↔
        shape.adapt value = shape.toValue content) ∧
      (∀ (write : shape.Carrier → String → Written) content buffer,
        Written.ofValue write (shape.toValue content) buffer = write content buffer) ∧
      (∀ (normalize : shape.Carrier → Except EncodeError shape.Carrier) content,
        Shape.normalizeValue normalize (shape.toValue content) =
          shape.toValue <$> normalize content) ∧
      ∀ (grammar : Grammar shape) content,
        (∀ buffer, grammar.writeValue (shape.toValue content) buffer =
          grammar.write content buffer) ∧
        grammar.normalizeValue (shape.toValue content) =
          shape.toValue <$> grammar.normalize content := by
  refine ⟨shape.ofValue_toValue, fun value content => Shape.ofValue_eq_ok_iff,
    Written.ofValue_embedded, Shape.normalizeValue_embedded, fun grammar content => ⟨?_, ?_⟩⟩
  · exact Written.ofValue_embedded grammar.write content
  · exact Shape.normalizeValue_embedded grammar.normalize content

end TwoWay
