import TwoWay.Proofs.StatementRoundTrip

/-!
# String literals

A text is written as a literal by escaping its characters one by one, a literal is recognised by a
regular expression that knows nothing of the escapes, and the escapes are resolved by a third piece
of code. The three agree on every text. The closing quote is the first quote that does not follow
the backslash of an escape, so a literal says itself where it ends, whatever stands behind it.
-/

namespace TwoWay

namespace Statement

open Primitive

theorem anchored_stringSource : Pattern.anchored stringSource = .ok stringLiteral.pattern := by
  have hparse : Regex.parse? (Pattern.anchoredSource stringSource) =
      some (.seq (.assertion .textStart) stringRegex) := by decide
  exact Pattern.ofSourceWithin_eq_ok_iff.2 ⟨_, hparse, rfl⟩

theorem encode_stringLeaf (content : String) :
    stringLeaf.encode content = .ok (Text.escaped content) := by
  rw [Grammar.encode_eq_spelling]
  rfl

/-- **String literals are lossless and delimit themselves.** Recognised by the compiled source of
their pattern, the literal of any text decodes to that text before anything that may follow, and the
decoder stops where the rest begins. So no text starts with two literals, and different contents
never have the same literal. -/
theorem stringLiteral_delimits_itself :
    Pattern.anchored stringSource = .ok stringLiteral.pattern ∧
      (∀ content : String, stringLeaf.encode content = .ok (Text.escaped content)) ∧
      (∀ (content rest : String) (cursor : Cursor),
        cursor.remaining = Text.escaped content ++ rest →
        ∃ next, stringLeaf.decode cursor = .ok ⟨content, next⟩ ∧ next.remaining = rest ∧
          next.offset = cursor.offset + (Text.escaped content).utf8ByteSize) ∧
      ∀ content other rest rest' : String,
        Text.escaped content ++ rest = Text.escaped other ++ rest' →
        content = other ∧ rest = rest' := by
  refine ⟨anchored_stringSource, encode_stringLeaf, ?_, ?_⟩
  · intro content rest cursor hremaining
    have hafter : cursor.after = (Text.escaped content).toList ++ rest.toList := by
      rw [← String.toList_append, ← hremaining, Cursor.remaining, String.toList_ofList]
    refine ⟨_, reads_string content rest.toList cursor hafter, ?_, ?_⟩
    · rw [Cursor.remaining, Cursor.after_pass, String.ofList_toList]
    · rw [← Text.byteLength_toList]
      rfl
  · intro content other rest rest' hsame
    have hlists := congrArg String.toList hsame
    rw [String.toList_append, String.toList_append] at hlists
    obtain ⟨hcontent, -, hrest⟩ :=
      (reads_string content rest.toList).unique (reads_string other rest'.toList) hlists
    exact ⟨hcontent, String.toList_inj.1 hrest⟩

/-- The content has a quote, a backslash and a line feed, and a stray quote and backslash follow. -/
theorem stringLiteral_delimits_itself_quotes :
    (Cursor.start "\"\\\"\\\\\\n\"\"\\").remaining =
        Text.escaped "\"\\\n" ++ "\"\\" ∧
      ∃ next, stringLeaf.decode (.start "\"\\\"\\\\\\n\"\"\\") = .ok ⟨"\"\\\n", next⟩ ∧
        next.remaining = "\"\\" ∧ next.offset = 8 := by
  have hremaining : (Cursor.start "\"\\\"\\\\\\n\"\"\\").remaining =
      Text.escaped "\"\\\n" ++ "\"\\" := by decide
  obtain ⟨-, -, hdecodes, -⟩ := stringLiteral_delimits_itself
  exact ⟨hremaining, hdecodes _ _ _ hremaining⟩

end Statement

end TwoWay
