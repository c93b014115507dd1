import TwoWay.Proofs.StatementTokens

/-!
# Words and blanks run as far as they can

An identifier or a run of white space ends before the first character that cannot belong to it, or
at the end of the text. That places of this kind delimit each other is what the grammars of
statements rest on.
-/

namespace TwoWay

namespace Lexeme

/-- The longest beginning of a text that is made of characters of one kind. -/
structure IsLongestRun (kind : Char → Bool) (text front : List Char) : Prop where
  begins : front <+: text
  all_kind : ∀ c ∈ front, kind c = true
  longest : ∀ other, other <+: text → (∀ c ∈ other, kind c = true) → other <+: front

theorem isLongestRun_takeWhile (kind : Char → Bool) (text : List Char) :
    IsLongestRun kind text (text.takeWhile kind) := by
  constructor
  · exact List.takeWhile_prefix kind
  · exact List.all_eq_true.1 List.all_takeWhile
  · rintro other ⟨rest, rfl⟩ hother
    rw [List.takeWhile_append_of_pos hother]
    exact List.prefix_append _ _

/-- If the next character could be added, there would be a longer run. -/
theorem IsLongestRun.stops {kind : Char → Bool} {front back : List Char}
    (hrun : IsLongestRun kind (front ++ back) front) : Stops kind back := by
  intro c hc
  obtain ⟨more, rfl⟩ := List.head?_eq_some_iff.1 hc
  rw [Bool.eq_false_iff]
  intro hkind
  have hlonger : front ++ [c] <+: front := by
    apply hrun.longest
    · exact List.prefix_append_right_inj front |>.2 ⟨more, rfl⟩
    · intro d hd
      obtain hd | hd := List.mem_append.1 hd
      · exact hrun.all_kind d hd
      · rwa [List.mem_singleton.1 hd]
  have hlength := hlonger.length_le
  rw [List.length_append, List.length_singleton] at hlength
  omega

theorem run?_eq_none_iff {first part : Char → Bool} {text : List Char} :
    run? first part text = none ↔ ¬ ∃ c ∈ text.head?, first c = true := by
  cases text <;> simp [run?]

theorem isLongestRun_of_run? {first part : Char → Bool}
    (hfirst : ∀ c, first c = true → part c = true) {text front back : List Char}
    (hrun : run? first part text = some (front, back)) : IsLongestRun part text front := by
  cases text with
  | nil => cases hrun
  | cons c rest =>
      rw [run?] at hrun
      split at hrun
      · rename_i hc
        cases hrun
        rw [← List.takeWhile_cons_of_pos (hfirst c hc)]
        exact isLongestRun_takeWhile part (c :: rest)
      · cases hrun

theorem stops_of_run? {first part : Char → Bool} (hfirst : ∀ c, first c = true → part c = true)
    {text front back : List Char} (hrun : run? first part text = some (front, back)) :
    Stops part back := by
  have hlongest := isLongestRun_of_run? hfirst hrun
  rw [splits_run? _ _ _ front back hrun] at hlongest
  exact hlongest.stops

end Lexeme

namespace Terminal

open Lexeme

/-- The terminal takes a run that starts with a character of one kind and goes on with another kind
as far as it can. -/
structure Munches (terminal : Terminal String) (first part : Char → Bool) : Prop where
  succeeds_iff : ∀ cursor : Cursor,
    (∃ decoded, terminal.decode cursor = .ok decoded) ↔
      ∃ c ∈ cursor.after.head?, first c = true
  longest : ∀ (cursor next : Cursor) (content : String),
    terminal.decode cursor = .ok ⟨content, next⟩ →
      cursor.after = content.toList ++ next.after ∧
        IsLongestRun part cursor.after content.toList ∧
        next = cursor.pass content.toList next.after ∧ Stops part next.after

theorem Takes.munches {terminal : Terminal String} {first part : Char → Bool}
    (htakes : terminal.Takes (run? first part))
    (hread : ∀ text, terminal.conversion.read text = .ok text)
    (hfirst : ∀ c, first c = true → part c = true) : terminal.Munches first part := by
  constructor
  · intro cursor
    cases hrun : run? first part cursor.after with
    | none =>
        rw [htakes.decode_of_none hrun]
        exact iff_of_false (fun ⟨_, hdecode⟩ => nomatch hdecode) (run?_eq_none_iff.1 hrun)
    | some split =>
        obtain ⟨front, back⟩ := split
        rw [htakes.decode_of_some hrun, hread]
        refine iff_of_true ⟨_, rfl⟩ (not_not.1 fun hnot => ?_)
        rw [run?_eq_none_iff.2 hnot] at hrun
        cases hrun
  · intro cursor next content hdecode
    cases hrun : run? first part cursor.after with
    | none =>
        rw [htakes.decode_of_none hrun] at hdecode
        cases hdecode
    | some split =>
        obtain ⟨front, back⟩ := split
        rw [htakes.decode_of_some hrun, hread] at hdecode
        cases hdecode
        rw [String.toList_ofList, Cursor.after_pass]
        exact ⟨splits_run? _ _ _ front back hrun, isLongestRun_of_run? hfirst hrun, rfl,
          stops_of_run? hfirst hrun⟩

end Terminal

namespace Primitive

open Lexeme

theorem anchored_eq_of_parse? {source : String} {body : Regex}
    (hparse : Regex.parse? (Pattern.anchoredSource source) =
      some (.seq (.assertion .textStart) body)) :
    Pattern.anchored source = .ok (pattern source body) :=
  Pattern.ofSourceWithin_eq_ok_iff.2 ⟨_, hparse, rfl⟩

theorem munches_identifier : identifier.Munches isIdentifierStart isIdentifierPart :=
  takes_identifier.munches (fun _ => rfl) fun _ => isIdentifierPart_of_start

theorem munches_whitespace : whitespace.Munches isBlank isBlank :=
  takes_whitespace.munches (fun _ => rfl) fun _ => id

theorem decode_maybeWhitespace_of_stops {cursor : Cursor} (hstops : Stops isBlank cursor.after) :
    maybeWhitespace.decode cursor = .ok ⟨none, cursor⟩ := by
  have hreads := Statement.reads_noSpace hstops cursor rfl
  rwa [Cursor.pass_nil] at hreads

theorem decode_maybeWhitespace_of_ok {cursor : Cursor} {decoded : Decoded String}
    (hdecode : whitespace.decode cursor = .ok decoded) :
    maybeWhitespace.decode cursor = .ok (decoded.map some) := by
  rw [maybeWhitespace, Grammar.decode, Grammar.decode, hdecode]
  rfl

/-- **Identifiers and white space are maximal munch.** Each is taken where the text starts with a
character that may start it, and then it is the longest run of the characters that may belong to it,
verbatim. Optional white space is taken everywhere, and is absent where the longest run is empty. -/
theorem words_and_blanks_run_on :
    Pattern.anchored identifierSource = .ok identifier.pattern ∧
      Pattern.anchored whitespaceSource = .ok whitespace.pattern ∧
      identifier.Munches isIdentifierStart isIdentifierPart ∧
      whitespace.Munches isBlank isBlank ∧
      ∀ cursor : Cursor, ∃ content next,
        maybeWhitespace.decode cursor = .ok ⟨content, next⟩ ∧
          cursor.after = content.elim [] String.toList ++ next.after ∧
          IsLongestRun isBlank cursor.after (content.elim [] String.toList) ∧
          next = cursor.pass (content.elim [] String.toList) next.after ∧
          (content = none ↔ IsLongestRun isBlank cursor.after []) ∧ Stops isBlank next.after := by
  refine ⟨anchored_eq_of_parse? (by decide), anchored_eq_of_parse? (by decide),
    munches_identifier, munches_whitespace, fun cursor => ?_⟩
  by_cases hblank : ∃ c ∈ cursor.after.head?, isBlank c = true
  · obtain ⟨⟨content, next⟩, hdecode⟩ := (munches_whitespace.succeeds_iff cursor).2 hblank
    obtain ⟨hafter, hlongest, hnext, hstops⟩ :=
      munches_whitespace.longest cursor next content hdecode
    refine ⟨some content, next, decode_maybeWhitespace_of_ok hdecode, hafter, hlongest, hnext, ?_,
      hstops⟩
    refine iff_of_false (fun hnone => nomatch hnone) fun hempty => ?_
    -- The longest run is not empty, since the first character is one.
    obtain ⟨c, hc, hkind⟩ := hblank
    obtain ⟨rest, hrest⟩ := List.head?_eq_some_iff.1 hc
    have hbegins := hempty.longest [c] ⟨rest, hrest.symm⟩ (List.forall_mem_singleton.2 hkind)
    cases List.prefix_nil.1 hbegins
  · have hstops : Stops isBlank cursor.after := by
      intro c hc
      rw [Bool.eq_false_iff]
      exact fun hkind => hblank ⟨c, hc, hkind⟩
    have hempty := isLongestRun_takeWhile isBlank cursor.after
    rw [(takeWhile_of_stops hstops).1] at hempty
    exact ⟨none, cursor, decode_maybeWhitespace_of_stops hstops, rfl, hempty,
      cursor.pass_nil.symm, iff_of_true rfl hempty, hstops⟩

end Primitive

end TwoWay
