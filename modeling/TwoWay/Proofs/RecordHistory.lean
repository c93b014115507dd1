import Mathlib.Data.Finset.Card
import TwoWay.Proofs.FieldOrder

/-!
# Records over their histories

A record is made by setting fields one after another, and a name that is set again keeps its place.
Whatever the history, the names of the record are those that were set, in the order in which they
first came up, and each has the value that was set last. An insertion gives back the value that it
replaces, and no other field notices it.
-/

namespace TwoWay.Record

inductive Update
  | insert (name : String) (value : Value)
  | set (name : String) (value : Value)
  /-- A new record, whatever there was. -/
  | ofList (pairs : List (String × Value))

namespace Update

def apply : Update → Record → Record
  | .insert name value, record => (record.insert name value).2
  | .set name value, record => record.set name value
  | .ofList pairs, _ => Record.ofList pairs

/-- The insertions that a record goes back to after the update, earliest first. -/
def extend (earlier : List (String × Value)) : Update → List (String × Value)
  | .insert name value => earlier ++ [(name, value)]
  | .set name value => earlier ++ [(name, value)]
  | .ofList pairs => pairs

end Update

def replay (history : List Update) : Record :=
  history.foldl (fun record update => update.apply record) empty

/-- All insertions of a history, but for those into records that were given up. -/
def insertions (history : List Update) : List (String × Value) :=
  history.foldl Update.extend []

/-! ### One step -/

theorem names_set_of_mem {record : Record} {name : String} (hmem : name ∈ record.names)
    (value : Value) : (record.set name value).names = record.names :=
  map_fst_setField hmem value

theorem names_set_of_notMem {record : Record} {name : String} (hnew : name ∉ record.names)
    (value : Value) : (record.set name value).names = record.names ++ [name] := by
  rw [set_of_notMem hnew, names_append]
  rfl

theorem mem_names_set_iff (record : Record) (name other : String) (value : Value) :
    other ∈ (record.set name value).names ↔ other ∈ record.names ∨ other = name := by
  by_cases hmem : name ∈ record.names
  · rw [names_set_of_mem hmem]
    refine ⟨Or.inl, ?_⟩
    rintro (hother | rfl)
    · exact hother
    · exact hmem
  · rw [names_set_of_notMem hmem, List.mem_append, List.mem_singleton]

/-- Fields of other names are neither changed nor moved. -/
theorem getElem?_insert_iff (record : Record) {name other : String} (hother : other ≠ name)
    (value old : Value) (place : Nat) :
    (record.insert name value).2.fields[place]? = some (other, old) ↔
      record.fields[place]? = some (other, old) := by
  obtain ⟨fields⟩ := record
  suffices hfields : (setField name value fields).2[place]? = some (other, old) ↔
      fields[place]? = some (other, old) from hfields
  induction fields generalizing place with
  | nil => cases place <;> simp [setField, Ne.symm hother]
  | cons field rest ih =>
      obtain ⟨first, found⟩ := field
      by_cases hfirst : first = name
      · cases place <;> simp [setField, hfirst, Ne.symm hother]
      · cases place with
        | zero => simp [setField, hfirst]
        | succ place => simp [setField, hfirst, ih]

def firstPlace (inserted : List (String × Value)) (name : String) : Nat :=
  (inserted.map Prod.fst).idxOf name

theorem firstPlace_append {inserted : List (String × Value)} {name : String}
    (hmem : name ∈ inserted.map Prod.fst) (more : List (String × Value)) :
    firstPlace (inserted ++ more) name = firstPlace inserted name := by
  rw [firstPlace, List.map_append, List.idxOf_append_of_mem hmem, firstPlace]

/-- A name that was not there before comes up behind all others. -/
theorem firstPlace_lt_of_new {inserted : List (String × Value)} {first name : String}
    (hfirst : first ∈ inserted.map Prod.fst) (hnew : name ∉ inserted.map Prod.fst) (value : Value) :
    firstPlace inserted first < firstPlace (inserted ++ [(name, value)]) name := by
  calc firstPlace inserted first < (inserted.map Prod.fst).length :=
        List.idxOf_lt_length_iff.2 hfirst
    _ = firstPlace (inserted ++ [(name, value)]) name := by
        rw [firstPlace, List.map_append, List.idxOf_append_of_notMem hnew]
        simp

/-- The record is the map that the insertions make. -/
structure Holds (record : Record) (inserted : List (String × Value)) : Prop where
  mem_names : ∀ name, name ∈ record.names ↔ name ∈ inserted.map Prod.fst
  ordered : record.names.Pairwise fun first second =>
    firstPlace inserted first < firstPlace inserted second
  get?_eq : ∀ name, record.get? name = inserted.reverse.lookup name

namespace Holds

variable {record : Record} {inserted : List (String × Value)}

theorem of_empty : empty.Holds [] :=
  ⟨fun _ => Iff.rfl, .nil, fun _ => rfl⟩

/-- First places do not change when more is inserted. -/
theorem ordered_append (hholds : record.Holds inserted) (more : List (String × Value)) :
    record.names.Pairwise fun first second =>
      firstPlace (inserted ++ more) first < firstPlace (inserted ++ more) second := by
  refine hholds.ordered.imp_of_mem fun {first second} hfirst hsecond hlt => ?_
  rw [hholds.mem_names] at hfirst hsecond
  rwa [firstPlace_append hfirst, firstPlace_append hsecond]

theorem ordered_set (hholds : record.Holds inserted) (name : String) (value : Value) :
    (record.set name value).names.Pairwise fun first second =>
      firstPlace (inserted ++ [(name, value)]) first <
        firstPlace (inserted ++ [(name, value)]) second := by
  by_cases hmem : name ∈ record.names
  · rw [names_set_of_mem hmem]
    exact hholds.ordered_append [(name, value)]
  · rw [names_set_of_notMem hmem, List.pairwise_append]
    refine ⟨hholds.ordered_append [(name, value)], List.pairwise_singleton _ _, ?_⟩
    intro first hfirst last hlast
    obtain rfl : last = name := List.mem_singleton.1 hlast
    rw [hholds.mem_names] at hmem hfirst
    rw [firstPlace_append hfirst]
    exact firstPlace_lt_of_new hfirst hmem value

/-- **One insertion** makes the map that has it as the last one. -/
theorem set (hholds : record.Holds inserted) (name : String) (value : Value) :
    (record.set name value).Holds (inserted ++ [(name, value)]) := by
  refine ⟨fun other => ?_, hholds.ordered_set name value, fun other => ?_⟩
  · rw [mem_names_set_iff, hholds.mem_names, List.map_append, List.mem_append, List.map_singleton,
      List.mem_singleton]
  · rw [List.reverse_append, List.reverse_singleton, List.singleton_append, List.lookup_cons]
    by_cases hother : other = name
    · rw [hother, get?_set_self, beq_self_eq_true]
    · have hbeq : (other == name) = false := by simp [hother]
      rw [get?_set_of_ne record hother, hholds.get?_eq, hbeq]

theorem foldl_set (hholds : record.Holds inserted) (pairs : List (String × Value)) :
    (pairs.foldl (fun record pair => record.set pair.1 pair.2) record).Holds
      (inserted ++ pairs) := by
  induction pairs generalizing record inserted with
  | nil => simpa using hholds
  | cons pair rest ih => simpa using ih (hholds.set pair.1 pair.2)

theorem apply (hholds : record.Holds inserted) (update : Update) :
    (update.apply record).Holds (update.extend inserted) := by
  cases update with
  | insert name value => exact hholds.set name value
  | set name value => exact hholds.set name value
  | ofList pairs => exact of_empty.foldl_set pairs

theorem of_replay (history : List Update) : (replay history).Holds (insertions history) := by
  suffices hrun : ∀ record inserted, Holds record inserted →
      (history.foldl (fun record update => update.apply record) record).Holds
        (history.foldl Update.extend inserted) from hrun empty [] of_empty
  induction history with
  | nil => exact fun _ _ hholds => hholds
  | cons update rest ih => exact fun record inserted hholds => ih _ _ (hholds.apply update)

/-! ### What the map shows -/

theorem nodup_names (hholds : record.Holds inserted) : record.names.Nodup :=
  hholds.ordered.imp fun hlt heq => absurd (heq ▸ hlt) (lt_irrefl _)

theorem contains_iff (hholds : record.Holds inserted) (name : String) :
    record.contains name = true ↔ name ∈ inserted.map Prod.fst := by
  rw [← hholds.mem_names, contains, Option.isSome_iff_ne_none, ne_eq]
  exact not_iff_comm.1 lookup_eq_none_iff.symm

theorem size_eq (hholds : record.Holds inserted) :
    record.size = (inserted.map Prod.fst).toFinset.card := by
  have hnames : record.names.toFinset = (inserted.map Prod.fst).toFinset := by
    ext name
    rw [List.mem_toFinset, List.mem_toFinset, hholds.mem_names]
  calc record.size = record.names.length := (List.length_map Prod.fst).symm
    _ = record.names.toFinset.card := (List.toFinset_card_of_nodup hholds.nodup_names).symm
    _ = (inserted.map Prod.fst).toFinset.card := by rw [hnames]

end Holds

/-- **A record is a map that remembers insertion order,** whatever its history. Its names are those
that were inserted, each once and in the order of their first insertions, and under a name it has
the value of the last insertion. What comes next gives back the value it replaces and leaves all
other fields as they are and where they are. -/
theorem replay_is_ordered_map (history : List Update) :
    (replay history).names.Nodup ∧
      (∀ name, name ∈ (replay history).names ↔ name ∈ (insertions history).map Prod.fst) ∧
      ((replay history).names.Pairwise fun first second =>
        firstPlace (insertions history) first < firstPlace (insertions history) second) ∧
      (∀ name, (replay history).get? name = (insertions history).reverse.lookup name) ∧
      (∀ name, (replay history).contains name = true ↔
        name ∈ (insertions history).map Prod.fst) ∧
      (replay history).size = ((insertions history).map Prod.fst).toFinset.card ∧
      ∀ name value,
        ((replay history).insert name value).1 = (replay history).get? name ∧
        ∀ other, other ≠ name → ∀ (old : Value) (place : Nat),
          (((replay history).insert name value).2.fields[place]? = some (other, old) ↔
            (replay history).fields[place]? = some (other, old)) := by
  have hholds := Holds.of_replay history
  refine ⟨hholds.nodup_names, hholds.mem_names, hholds.ordered, hholds.get?_eq,
    hholds.contains_iff, hholds.size_eq, fun name value => ⟨insert_fst _ name value, ?_⟩⟩
  intro other hother old place
  exact getElem?_insert_iff _ hother value old place

/-- A record is given up for another one, whose fields are then set again. -/
def revision : List Update :=
  [.insert "x" (.int 0), .ofList [("a", .int 1), ("b", .int 2), ("a", .int 3)],
    .set "c" (.int 4), .insert "b" (.int 5)]

/-- Nothing is left of the first record, and the last field stays in its place when the first one is
set once more. -/
theorem replay_is_ordered_map_revision :
    (replay revision).names = ["a", "b", "c"] ∧
      (replay revision).get? "b" = some (.int 5) ∧ (replay revision).contains "x" = false ∧
      ((replay revision).insert "a" (.int 6)).1 = some (.int 3) ∧
      ("c" ≠ "a" ∧ ((replay revision).insert "a" (.int 6)).2.fields[2]? = some ("c", .int 4)) := by
  obtain ⟨-, -, -, hget, hcontains, -, hinsert⟩ := replay_is_ordered_map revision
  have hgone : "x" ∉ (insertions revision).map Prod.fst := by decide
  have hother : "c" ≠ "a" := by decide
  refine ⟨rfl, (hget "b").trans rfl, ?_, (hinsert "a" (.int 6)).1.trans rfl, hother, ?_⟩
  · rw [← Bool.not_eq_true, hcontains]
    exact hgone
  · exact ((hinsert "a" (.int 6)).2 "c" hother (.int 4) 2).2 rfl

end TwoWay.Record
