import Mathlib.Logic.Relation
import TwoWay.Proofs.FieldOrder

/-!
# Values as nested maps

A record stands for a map from names to values, and a value for a tree of such maps in which the
order of fields is gone. Two values without repeated names are equal if and only if they stand for
the same tree. Equality compares the numbers of fields and looks the fields of one side up in the
other; that there are as many on both sides makes up for the look-ups that are not made.
-/

namespace TwoWay

/-- Values with maps from names in the place of lists of fields. -/
inductive NestedMap
  | int (n : Int64)
  | big (n : Int)
  | str (text : String)
  | list (items : List NestedMap)
  | optional (content : Option NestedMap)
  | record (entries : String → Option NestedMap)
  | tagged (tag : String) (content : NestedMap)

namespace Value

mutual

/-- What a value stands for. -/
def nestedMap : Value → NestedMap
  | .int n => .int n
  | .big n => .big n
  | .str text => .str text
  | .list items => .list (nestedItems items)
  | .optional none => .optional none
  | .optional (some content) => .optional (some content.nestedMap)
  | .record fields => .record (nestedFields fields)
  | .tagged tag content => .tagged tag content.nestedMap

def nestedItems : List Value → List NestedMap
  | [] => []
  | item :: rest => item.nestedMap :: nestedItems rest

def nestedFields : List (String × Value) → String → Option NestedMap
  | [], _ => none
  | (name, value) :: rest, key =>
      if key = name then some value.nestedMap else nestedFields rest key

end

theorem nestedItems_eq_map (items : List Value) : nestedItems items = items.map nestedMap := by
  induction items with
  | nil => rfl
  | cons item rest ih => rw [nestedItems, ih, List.map_cons]

theorem nestedFields_eq_lookup (fields : List (String × Value)) (key : String) :
    nestedFields fields key = (fields.lookup key).map nestedMap := by
  induction fields with
  | nil => rfl
  | cons field rest ih =>
      obtain ⟨name, value⟩ := field
      rw [nestedFields, List.lookup_cons, ih]
      by_cases hkey : key = name
      · simp [hkey]
      · have hbeq : (key == name) = false := by simp [hkey]
        rw [if_neg hkey, hbeq]

theorem nestedMap_optional (content : Option Value) :
    (Value.optional content).nestedMap = .optional (content.map nestedMap) := by
  cases content <;> rfl

/-! ### Equality -/

theorem map_eq_map_of_rel {α β : Type} {related : α → α → Prop} {f : α → β} {x y : Option α}
    (hrel : Option.Rel related x y) (hf : ∀ a ∈ x, ∀ b, related a b → f a = f b) :
    x.map f = y.map f := by
  cases hrel with
  | none => rfl
  | some hrelated => exact congrArg some (hf _ rfl _ hrelated)

/-- From either side, the value is equal to those that stand for the same tree. -/
def ComparesMaps (left : Value) : Prop :=
  ∀ right swapped, left.Distinct → right.Distinct →
    (left.agree right swapped = true ↔ left.nestedMap = right.nestedMap)

theorem agreeItems_iff {items : List Value} (hitems : ∀ item ∈ items, item.ComparesMaps)
    {others : List Value} {swapped : Bool} (hleft : ∀ item ∈ items, item.Distinct)
    (hright : ∀ other ∈ others, other.Distinct) :
    agreeItems items others swapped = true ↔ items.map nestedMap = others.map nestedMap := by
  induction items generalizing others with
  | nil => cases others <;> simp [agreeItems]
  | cons item items ih =>
      cases others with
      | nil => simp [agreeItems]
      | cons other others =>
          obtain ⟨hitem, hitems⟩ := List.forall_mem_cons.1 hitems
          obtain ⟨hdistinct, hleft⟩ := List.forall_mem_cons.1 hleft
          obtain ⟨hdistinct', hright⟩ := List.forall_mem_cons.1 hright
          rw [agreeItems, Bool.and_eq_true, hitem other swapped hdistinct hdistinct',
            ih hitems hleft hright, List.map_cons, List.map_cons, List.cons.injEq]

section Fields

variable {fields others : List (String × Value)}

theorem names_perm_of_nestedFields_eq (hfields : (fields.map Prod.fst).Nodup)
    (hothers : (others.map Prod.fst).Nodup) (hsame : nestedFields fields = nestedFields others) :
    (fields.map Prod.fst).Perm (others.map Prod.fst) := by
  refine (List.perm_ext_iff_of_nodup hfields hothers).2 fun name => ?_
  have hentry := congrFun hsame name
  rw [nestedFields_eq_lookup, nestedFields_eq_lookup] at hentry
  have hmissing : fields.lookup name = none ↔ others.lookup name = none := by
    rw [← Option.map_eq_none_iff (f := nestedMap), hentry, Option.map_eq_none_iff]
  rw [Record.lookup_eq_none_iff, Record.lookup_eq_none_iff] at hmissing
  exact not_iff_not.1 hmissing

/-- What one map has under a name, the other one has as well. -/
theorem exists_lookup_of_nestedFields_eq (hsame : nestedFields fields = nestedFields others)
    {name : String} {value : Value} (hvalue : fields.lookup name = some value) :
    ∃ other, others.lookup name = some other ∧ value.nestedMap = other.nestedMap := by
  have hentry := congrFun hsame name
  rw [nestedFields_eq_lookup, nestedFields_eq_lookup, hvalue, Option.map_some] at hentry
  obtain ⟨other, hother, hequal⟩ := Option.map_eq_some_iff.1 hentry.symm
  exact ⟨other, hother, hequal.symm⟩

theorem nestedFields_eq_of_agree (hvalues : ∀ field ∈ fields, field.2.ComparesMaps)
    (hleft : (Value.record fields).Distinct) (hright : (Value.record others).Distinct)
    {swapped : Bool} (hagree : agree (.record fields) (.record others) swapped = true) :
    nestedFields fields = nestedFields others := by
  funext name
  have hentry : Option.Rel Equal (fields.lookup name) (others.lookup name) :=
    (matches_record_of_agree hleft hright hagree).get?_rel name
  rw [nestedFields_eq_lookup, nestedFields_eq_lookup]
  refine map_eq_map_of_rel hentry fun value hvalue other hequal => ?_
  have hmem := (Record.lookup_eq_some_iff_mem hleft.1).1 hvalue
  obtain ⟨hdistinct, hdistinct', swapped', hsame⟩ := hequal
  exact (hvalues _ hmem other swapped' hdistinct hdistinct').1 hsame

theorem agree_of_nestedFields_eq (hvalues : ∀ field ∈ fields, field.2.ComparesMaps)
    (hleft : (Value.record fields).Distinct) (hright : (Value.record others).Distinct)
    (hsame : nestedFields fields = nestedFields others) (swapped : Bool) :
    agree (.record fields) (.record others) swapped = true := by
  rw [Distinct, fieldsDistinct_iff] at hleft hright
  have hperm := names_perm_of_nestedFields_eq hleft.1 hright.1 hsame
  have hlength : fields.length = others.length := by simpa using hperm.length_eq
  rw [agree, Bool.and_eq_true, beq_iff_eq]
  refine ⟨hlength, ?_⟩
  cases swapped with
  | false =>
      rw [if_neg Bool.false_ne_true, agreeFields_iff]
      intro field hmem
      have hlookup := Record.lookup_eq_some_of_mem hleft.1 hmem
      obtain ⟨other, hother, hequal⟩ := exists_lookup_of_nestedFields_eq hsame hlookup
      have hmem' := (Record.lookup_eq_some_iff_mem hright.1).1 hother
      exact ⟨other, hother,
        (hvalues field hmem other true (hleft.2 _ hmem) (hright.2 _ hmem')).2 hequal⟩
  | true =>
      rw [if_pos rfl, List.all_eq_true]
      intro other hmem'
      have hlookup := Record.lookup_eq_some_of_mem hright.1 hmem'
      obtain ⟨value, hvalue, hequal⟩ := exists_lookup_of_nestedFields_eq hsame.symm hlookup
      have hmem := (Record.lookup_eq_some_iff_mem hleft.1).1 hvalue
      exact agreeFound_iff.2 ⟨value, hvalue,
        (hvalues _ hmem other.2 false (hleft.2 _ hmem) (hright.2 _ hmem')).2 hequal.symm⟩

end Fields

/-- **Equal values stand for the same tree of maps.** By induction on the left value, whichever side
is searched. -/
theorem comparesMaps (left : Value) : left.ComparesMaps := by
  induction left with
  | int n =>
      intro right swapped _ _
      cases right <;> simp [agree, nestedMap, nestedMap_optional]
  | big n =>
      intro right swapped _ _
      cases right <;> simp [agree, nestedMap, nestedMap_optional]
  | str text =>
      intro right swapped _ _
      cases right <;> simp [agree, nestedMap, nestedMap_optional]
  | list items ih =>
      intro right swapped hleft hright
      cases right with
      | list others =>
          rw [Distinct, itemsDistinct_iff] at hleft hright
          rw [agree, agreeItems_iff ih hleft hright, nestedMap, nestedMap, nestedItems_eq_map,
            nestedItems_eq_map, NestedMap.list.injEq]
      | _ => simp [agree, nestedMap, nestedMap_optional]
  | optional content ih =>
      intro right swapped hleft hright
      cases right with
      | optional other =>
          cases content with
          | none => cases other <;> simp [agree, nestedMap]
          | some present =>
              cases other with
              | none => simp [agree, nestedMap]
              | some present' =>
                  rw [agree, ih present rfl present' swapped hleft hright, nestedMap, nestedMap]
                  simp
      | _ => cases content <;> simp [agree, nestedMap]
  | record fields ih =>
      intro right swapped hleft hright
      cases right with
      | record others =>
          rw [nestedMap, nestedMap, NestedMap.record.injEq]
          constructor
          · exact nestedFields_eq_of_agree ih hleft hright
          · exact fun hsame => agree_of_nestedFields_eq ih hleft hright hsame swapped
      | _ => simp [agree, nestedMap, nestedMap_optional]
  | tagged tag content ih =>
      intro right swapped hleft hright
      cases right with
      | tagged tag' other =>
          rw [agree, Bool.and_eq_true, beq_iff_eq, ih other swapped hleft hright, nestedMap,
            nestedMap, NestedMap.tagged.injEq]
      | _ => simp [agree, nestedMap, nestedMap_optional]

theorem same_iff_nestedMap_eq {left right : Value} (hleft : left.Distinct)
    (hright : right.Distinct) :
    left.same right = true ↔ left.nestedMap = right.nestedMap :=
  left.comparesMaps right false hleft hright


theorem equivalence_same :
    Equivalence fun left right : {value : Value // value.Distinct} =>
      left.1.same right.1 = true where
  refl value := same_self value.2
  symm {left right} hsame := by
    rw [same_iff_nestedMap_eq left.2 right.2] at hsame
    rw [same_iff_nestedMap_eq right.2 left.2, hsame]
  trans {left middle right} hfirst hsecond := by
    rw [same_iff_nestedMap_eq left.2 middle.2] at hfirst
    rw [same_iff_nestedMap_eq middle.2 right.2] at hsecond
    rw [same_iff_nestedMap_eq left.2 right.2, hfirst, hsecond]

/-! ### The order of fields -/

/-- The fields of one record, which lies at any depth, are put in another order. -/
inductive Reorders : Value → Value → Prop
  | here {fields others : List (String × Value)} (hperm : fields.Perm others) :
      Reorders (.record fields) (.record others)
  | field {value other : Value} (front : List (String × Value)) (name : String)
      (back : List (String × Value)) (hinner : Reorders value other) :
      Reorders (.record (front ++ (name, value) :: back)) (.record (front ++ (name, other) :: back))
  | item {value other : Value} (front back : List Value) (hinner : Reorders value other) :
      Reorders (.list (front ++ value :: back)) (.list (front ++ other :: back))
  | present {value other : Value} (hinner : Reorders value other) :
      Reorders (.optional (some value)) (.optional (some other))
  | tagged {value other : Value} (tag : String) (hinner : Reorders value other) :
      Reorders (.tagged tag value) (.tagged tag other)

theorem nestedFields_eq_of_perm {fields others : List (String × Value)}
    (hnodup : (fields.map Prod.fst).Nodup) (hperm : fields.Perm others) :
    nestedFields fields = nestedFields others := by
  have hnodup' : (others.map Prod.fst).Nodup := (hperm.map Prod.fst).nodup_iff.1 hnodup
  funext name
  have hlookup : fields.lookup name = others.lookup name := by
    ext value
    rw [Record.lookup_eq_some_iff_mem hnodup, Record.lookup_eq_some_iff_mem hnodup', hperm.mem_iff]
  rw [nestedFields_eq_lookup, nestedFields_eq_lookup, hlookup]

theorem nestedFields_replace {value other : Value} (hsame : value.nestedMap = other.nestedMap)
    (front : List (String × Value)) (name : String) (back : List (String × Value)) :
    nestedFields (front ++ (name, value) :: back) =
      nestedFields (front ++ (name, other) :: back) := by
  funext key
  induction front with
  | nil => simp only [List.nil_append, nestedFields, hsame]
  | cons field rest ih =>
      obtain ⟨first, found⟩ := field
      simp only [List.cons_append, nestedFields, ih]

/-- **One step of reordering** leaves names distinct and the tree of maps as it is. -/
theorem Reorders.keeps {value other : Value} (hreorders : value.Reorders other)
    (hdistinct : value.Distinct) : other.Distinct ∧ value.nestedMap = other.nestedMap := by
  induction hreorders with
  | @here fields others hperm =>
      rw [Distinct, fieldsDistinct_iff] at hdistinct
      refine ⟨⟨(hperm.map Prod.fst).nodup_iff.1 hdistinct.1, (fieldsDistinct_iff _).2 ?_⟩, ?_⟩
      · exact fun field hmem => hdistinct.2 field (hperm.mem_iff.2 hmem)
      · rw [nestedMap, nestedMap, nestedFields_eq_of_perm hdistinct.1 hperm]
  | @field value other front name back _ ih =>
      rw [Distinct, fieldsDistinct_iff] at hdistinct
      obtain ⟨hnodup, hvalues⟩ := hdistinct
      rw [List.forall_mem_append, List.forall_mem_cons] at hvalues
      obtain ⟨hother, hsame⟩ := ih hvalues.2.1
      refine ⟨⟨by simpa using hnodup, (fieldsDistinct_iff _).2 ?_⟩, ?_⟩
      · rw [List.forall_mem_append, List.forall_mem_cons]
        exact ⟨hvalues.1, hother, hvalues.2.2⟩
      · rw [nestedMap, nestedMap, nestedFields_replace hsame front name back]
  | item front back _ ih =>
      rw [Distinct, itemsDistinct_iff, List.forall_mem_append, List.forall_mem_cons] at hdistinct
      obtain ⟨hother, hsame⟩ := ih hdistinct.2.1
      rw [Distinct, itemsDistinct_iff, List.forall_mem_append, List.forall_mem_cons]
      refine ⟨⟨hdistinct.1, hother, hdistinct.2.2⟩, ?_⟩
      simp [nestedMap, nestedItems_eq_map, hsame]
  | present _ ih =>
      obtain ⟨hother, hsame⟩ := ih hdistinct
      exact ⟨hother, by rw [nestedMap, nestedMap, hsame]⟩
  | tagged tag _ ih =>
      obtain ⟨hother, hsame⟩ := ih hdistinct
      exact ⟨hother, by rw [nestedMap, nestedMap, hsame]⟩

/-- Any number of such steps. -/
def Reordered : Value → Value → Prop :=
  Relation.ReflTransGen Reorders

theorem Reordered.keeps {value other : Value} (hreordered : value.Reordered other)
    (hdistinct : value.Distinct) : other.Distinct ∧ value.nestedMap = other.nestedMap := by
  induction hreordered with
  | refl => exact ⟨hdistinct, rfl⟩
  | tail _ hstep ih =>
      obtain ⟨hmiddle, hsame⟩ := ih
      obtain ⟨hother, hstepSame⟩ := hstep.keeps hmiddle
      exact ⟨hother, hsame.trans hstepSame⟩

/-- **Equality of values is equality of nested maps.** On values without repeated names it is an
equivalence, it holds exactly of values that stand for the same tree of maps, and it does not matter
how often and at which depths fields change places. -/
theorem equality_of_nested_maps :
    (Equivalence fun left right : {value : Value // value.Distinct} =>
      left.1.same right.1 = true) ∧
      ∀ left right : Value, left.Distinct → right.Distinct →
        (left.same right = true ↔ left.nestedMap = right.nestedMap) ∧
          ∀ left' right', left.Reordered left' → right.Reordered right' →
            left'.same right' = left.same right := by
  refine ⟨equivalence_same, fun left right hleft hright =>
    ⟨same_iff_nestedMap_eq hleft hright, fun left' right' hreordered hreordered' => ?_⟩⟩
  obtain ⟨hleft', hmap⟩ := hreordered.keeps hleft
  obtain ⟨hright', hmap'⟩ := hreordered'.keeps hright
  rw [Bool.eq_iff_iff, same_iff_nestedMap_eq hleft' hright', same_iff_nestedMap_eq hleft hright,
    hmap, hmap']

/-- A record behind a tag in the field of a record. -/
def place : Value :=
  .record [("name", .str "p"), ("at", .tagged "point" (.record [("x", .int 1), ("y", .int 2)]))]

/-- The same with the fields of both records the other way round. -/
def turnedPlace : Value :=
  .record [("at", .tagged "point" (.record [("y", .int 2), ("x", .int 1)])), ("name", .str "p")]

theorem equality_of_nested_maps_place :
    place.Distinct ∧ place.Reordered turnedPlace ∧ place.nestedMap = turnedPlace.nestedMap ∧
      turnedPlace.same place = true ∧ place.same turnedPlace = true := by
  have hdistinct : place.Distinct := by simp [place, Distinct, FieldsDistinct]
  have hreordered : place.Reordered turnedPlace := by
    refine .tail (.single ?_) (.here (.swap _ _ _))
    exact .field [("name", .str "p")] "at" [] (.tagged "point" (.here (.swap _ _ _)))
  have hturned : turnedPlace.Distinct := by simp [turnedPlace, Distinct, FieldsDistinct]
  obtain ⟨-, hsame⟩ := equality_of_nested_maps
  obtain ⟨hiff, hreorder⟩ := hsame place place hdistinct hdistinct
  have hself : place.same place = true := hiff.2 rfl
  have hright : place.same turnedPlace = true :=
    (hreorder place turnedPlace .refl hreordered).trans hself
  refine ⟨hdistinct, hreordered, (hsame place turnedPlace hdistinct hturned).1.1 hright, ?_, hright⟩
  exact (hreorder turnedPlace place hreordered .refl).trans hself

end Value

end TwoWay
