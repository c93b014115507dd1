import Mathlib.Data.Nat.Digits.Defs
import TwoWay.Proofs.DistinctNames

/-!
# Serial forms are read back

Every value has a serial form, and reading that form gives the value back: integers up to the ends
of their range, unlimited integers from their sign and digits, records with their fields in order.
An absent option is the null tree, which is not the serial form of any value, so options inside
options are told apart. The serial form is a well-formed tree also where a record repeats a name,
since its fields are listed and are not members of an object.
-/

namespace TwoWay

/-! ### Digits of unlimited integers -/

theorem limbs_eq_digits (n : Nat) : limbs n = Nat.digits limbBase n := by
  fun_induction limbs n with
  | case1 => simp
  | case2 n hn ih => rw [Nat.digits_def' (by decide) (Nat.pos_of_ne_zero hn), ih]

theorem ofLimbs_eq_ofDigits (digits : List Nat) :
    ofLimbs digits = Nat.ofDigits limbBase digits := by
  induction digits with
  | nil => rfl
  | cons digit rest ih => rw [ofLimbs, Nat.ofDigits_cons, ih]

theorem ofLimbs_limbs (n : Nat) : ofLimbs (limbs n) = n := by
  rw [ofLimbs_eq_ofDigits, limbs_eq_digits, Nat.ofDigits_digits]

theorem lt_limbBase_of_mem_limbs {n limb : Nat} (hmem : limb ∈ limbs n) : limb < limbBase := by
  rw [limbs_eq_digits] at hmem
  exact Nat.digits_lt_base (by decide) hmem

namespace Value

@[simp]
theorem asInt?_int (n : Int) : (Json.int n).asInt? = some n := rfl

theorem mapM_asInt?_int (digits : List Nat) :
    (digits.map fun digit => Json.int (Int.ofNat digit)).mapM Json.asInt? =
      some (digits.map Int.ofNat) := by
  induction digits with
  | nil => rfl
  | cons digit rest ih =>
      rw [List.map_cons, List.mapM_cons, ih]
      rfl

/-- Digits below the base pass the check of their range. -/
theorem all_inRange {digits : List Nat} {base : Nat} (hdigits : ∀ digit ∈ digits, digit < base) :
    (digits.map Int.ofNat).all (fun digit => 0 ≤ digit && digit < base) = true := by
  rw [List.all_map, List.all_eq_true]
  intro digit hmem
  have hlt := hdigits digit hmem
  simp only [Function.comp_apply, Int.ofNat_eq_natCast, Bool.and_eq_true, decide_eq_true_eq]
  omega

theorem sign_mul_ofLimbs (n : Int) :
    n.sign * ofLimbs (((limbs n.natAbs).map Int.ofNat).map Int.toNat) = n := by
  have hround : ((limbs n.natAbs).map Int.ofNat).map Int.toNat = limbs n.natAbs := by
    rw [List.map_map]
    exact List.map_id _
  rw [hround, ofLimbs_limbs, Int.sign_mul_natAbs]

/-- The sign and the digits of the absolute value determine the number, also where it is zero and
has no digits. -/
theorem bigOfJson?_bigToJson (n : Int) : bigOfJson? (bigToJson n) = some n := by
  have hdigits := all_inRange fun _ => lt_limbBase_of_mem_limbs (n := n.natAbs)
  have hsign : -1 ≤ n.sign ∧ n.sign ≤ 1 := by
    rcases Int.sign_trichotomy n with hn | hn | hn <;> rw [hn] <;> decide
  simp only [bigToJson, bigOfJson?, Json.asArray?, Option.bind_eq_bind, Option.bind_some,
    mapM_asInt?_int, asInt?_int, hdigits, sign_mul_ofLimbs]
  simp [hsign]

theorem intOfJson?_int (n : Int64) : intOfJson? (.int n.toInt) = some n := by
  have hlow : Int64.minValue.toInt ≤ n.toInt := n.minValue_le_toInt
  have hhigh : n.toInt ≤ Int64.maxValue.toInt := n.toInt_le
  simp only [intOfJson?, asInt?_int, Option.bind_eq_bind, Option.bind_some, decide_eq_true hlow,
    decide_eq_true hhigh, Bool.and_self, if_true, Int64.ofInt_toInt, Option.pure_def]

/-! ### Values -/

theorem isNull_toJson (value : Value) : value.toJson.isNull = false := by
  cases value with
  | optional content => cases content <;> rfl
  | _ => rfl

/-- The serial form is read back. -/
def ReadsBack (value : Value) : Prop :=
  ofJson? value.toJson = some value

theorem itemListOfJson?_itemsToJson {items : List Value} (hitems : ∀ item ∈ items, item.ReadsBack) :
    itemListOfJson? (itemsToJson items) = some items := by
  induction items with
  | nil => rfl
  | cons item rest ih =>
      obtain ⟨hitem, hrest⟩ := List.forall_mem_cons.1 hitems
      rw [itemsToJson, itemListOfJson?, hitem, ih hrest]
      rfl

theorem fieldListOfJson?_fieldsToJson {fields : List (String × Value)}
    (hfields : ∀ field ∈ fields, field.2.ReadsBack) :
    fieldListOfJson? (fieldsToJson fields) = some fields := by
  induction fields with
  | nil => rfl
  | cons field rest ih =>
      obtain ⟨name, value⟩ := field
      obtain ⟨hvalue, hrest⟩ := List.forall_mem_cons.1 hfields
      have hvalue : ofJson? value.toJson = some value := hvalue
      rw [fieldsToJson, fieldListOfJson?, hvalue, ih hrest]
      rfl

/-- **The serial form loses nothing.** Reading the serial form of a value gives the value back, with
the fields of its records in the same order. -/
theorem ofJson?_toJson (value : Value) : ofJson? value.toJson = some value := by
  induction value with
  | int n => simp [toJson, ofJson?, intOfJson?_int]
  | big n => simp [toJson, ofJson?, bigOfJson?_bigToJson]
  | str text => rfl
  | list items ih => simp [toJson, ofJson?, itemsOfJson?, itemListOfJson?_itemsToJson ih]
  | optional content ih =>
      cases content with
      | none => rfl
      | some present =>
          have hpresent : ofJson? present.toJson = some present := ih present rfl
          simp [toJson, ofJson?, isNull_toJson, hpresent]
  | record fields ih =>
      simp [toJson, ofJson?, recordOfJson?, recordMember?, fieldsOfJson?,
        fieldListOfJson?_fieldsToJson ih]
  | tagged tag content ih =>
      simp [toJson, ofJson?, taggedOfJson?, contentMember?, Json.asString?, ih]

/-! ### Names of members -/

theorem wellFormed_single {name : String} {body : Json} (hbody : body.WellFormed) :
    (Json.object [(name, body)]).WellFormed :=
  .object (by simp) (List.forall_mem_singleton.2 hbody)

theorem wellFormed_bigToJson (n : Int) : (bigToJson n).WellFormed := by
  have hdigits : ∀ json ∈ (limbs n.natAbs).map fun limb => Json.int (Int.ofNat limb),
      json.WellFormed := by
    intro json hmem
    obtain ⟨limb, -, rfl⟩ := List.mem_map.1 hmem
    exact .number _ _
  exact .array (List.forall_mem_cons.2 ⟨.number _ _, List.forall_mem_singleton.2 (.array hdigits)⟩)

theorem wellFormed_itemsToJson {items : List Value}
    (hitems : ∀ item ∈ items, item.toJson.WellFormed) :
    ∀ json ∈ itemsToJson items, json.WellFormed := by
  induction items with
  | nil => exact List.forall_mem_nil _
  | cons item rest ih =>
      obtain ⟨hitem, hrest⟩ := List.forall_mem_cons.1 hitems
      exact List.forall_mem_cons.2 ⟨hitem, ih hrest⟩

theorem wellFormed_fieldsToJson {fields : List (String × Value)}
    (hfields : ∀ field ∈ fields, field.2.toJson.WellFormed) :
    ∀ json ∈ fieldsToJson fields, json.WellFormed := by
  induction fields with
  | nil => exact List.forall_mem_nil _
  | cons field rest ih =>
      obtain ⟨name, value⟩ := field
      obtain ⟨hvalue, hrest⟩ := List.forall_mem_cons.1 hfields
      have hpair : (Json.array [.string name, value.toJson]).WellFormed :=
        .array (List.forall_mem_cons.2 ⟨.string name, List.forall_mem_singleton.2 hvalue⟩)
      exact List.forall_mem_cons.2 ⟨hpair, ih hrest⟩

/-- No object in a serial form has two members of one name. -/
theorem wellFormed_toJson (value : Value) : value.toJson.WellFormed := by
  induction value with
  | int n => exact wellFormed_single (.number _ _)
  | big n => exact wellFormed_single (wellFormed_bigToJson n)
  | str text => exact wellFormed_single (.string text)
  | list items ih => exact wellFormed_single (.array (wellFormed_itemsToJson ih))
  | optional content ih =>
      cases content with
      | none => exact wellFormed_single .null
      | some present => exact wellFormed_single (ih present rfl)
  | record fields ih =>
      exact wellFormed_single (wellFormed_single (.array (wellFormed_fieldsToJson ih)))
  | tagged tag content ih =>
      have hnames : ["tag", "value"].Nodup := by decide
      exact wellFormed_single (.object hnames
        (List.forall_mem_cons.2 ⟨.string tag, List.forall_mem_singleton.2 ih⟩))

end Value

end TwoWay
