import TwoWay.Value.Basic

/-!
Records as maps that remember insertion order. A name that is set again keeps its place.
-/

namespace TwoWay.Record

def empty : Record :=
  ⟨[]⟩

def names (record : Record) : List String :=
  record.fields.map Prod.fst

def size (record : Record) : Nat :=
  record.fields.length

def isEmpty (record : Record) : Bool :=
  record.fields.isEmpty

/-- The first value under a name. -/
def get? (record : Record) (name : String) : Option Value :=
  record.fields.lookup name

def contains (record : Record) (name : String) : Bool :=
  (record.get? name).isSome

/-- Sets a name in a list of fields, in place if it is there and at the end if not, and gives back
the value it had. -/
def setField (name : String) (value : Value) :
    List (String × Value) → Option Value × List (String × Value)
  | [] => (none, [(name, value)])
  | (other, old) :: rest =>
      if other = name then (some old, (other, value) :: rest)
      else
        let (replaced, rest) := setField name value rest
        (replaced, (other, old) :: rest)

/-- Sets a name and gives back the value it had. -/
def insert (record : Record) (name : String) (value : Value) : Option Value × Record :=
  let (replaced, fields) := setField name value record.fields
  (replaced, ⟨fields⟩)

/-- The record with a name set. -/
def set (record : Record) (name : String) (value : Value) : Record :=
  (record.insert name value).2

theorem lookup_setField_self (name : String) (value : Value) (fields : List (String × Value)) :
    (setField name value fields).2.lookup name = some value := by
  induction fields with
  | nil => simp [setField]
  | cons field rest ih =>
    obtain ⟨other, old⟩ := field
    by_cases h : other = name
    · simp [setField, h]
    · have hbeq : (name == other) = false := by simp [Ne.symm h]
      simp [setField, h, List.lookup_cons, hbeq, ih]

theorem lookup_setField_of_ne {name other : String} (h : other ≠ name) (value : Value)
    (fields : List (String × Value)) :
    (setField name value fields).2.lookup other = fields.lookup other := by
  have hbeq : (other == name) = false := by simp [h]
  induction fields with
  | nil => simp [setField, List.lookup_cons, hbeq]
  | cons field rest ih =>
    obtain ⟨first, old⟩ := field
    by_cases hfirst : first = name
    · simp [setField, hfirst, List.lookup_cons, hbeq]
    · simp [setField, hfirst, List.lookup_cons, ih]

theorem setField_fst (name : String) (value : Value) (fields : List (String × Value)) :
    (setField name value fields).1 = fields.lookup name := by
  induction fields with
  | nil => simp [setField]
  | cons field rest ih =>
    obtain ⟨other, old⟩ := field
    by_cases h : other = name
    · simp [setField, h]
    · have hbeq : (name == other) = false := by simp [Ne.symm h]
      simp [setField, h, List.lookup_cons, hbeq, ih]

/-- A record gives back what was set last. -/
theorem get?_set_self (record : Record) (name : String) (value : Value) :
    (record.set name value).get? name = some value :=
  lookup_setField_self name value record.fields

theorem get?_set_of_ne (record : Record) {name other : String} (h : other ≠ name)
    (value : Value) : (record.set name value).get? other = record.get? other :=
  lookup_setField_of_ne h value record.fields

/-- Inserting gives back what was under the name before. -/
theorem insert_fst (record : Record) (name : String) (value : Value) :
    (record.insert name value).1 = record.get? name :=
  setField_fst name value record.fields

/-- Sets the pairs one after another, from an empty record. -/
def ofList (pairs : List (String × Value)) : Record :=
  pairs.foldl (fun record pair => record.set pair.1 pair.2) empty

end TwoWay.Record
