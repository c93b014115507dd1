import TwoWay.Proofs.Attempts
import TwoWay.Proofs.Stability
import TwoWay.Value.Serial

/-!
# Records without repeated names

A record is a map from names to values, kept as a list of fields. Equality looks values up by name,
so it is an equality only where no name occurs twice. Setting fields one by one keeps names apart,
and so does decoding, but reading a record from its serial form takes the fields as they are listed.
The records that are read have distinct names if the lists they are read from have, and a list with
a repeated name gives a record that does not equal itself.
-/

namespace TwoWay

namespace Value

@[induction_eliminator]
theorem induct {motive : Value → Prop}
    (int : ∀ n, motive (.int n)) (big : ∀ n, motive (.big n)) (str : ∀ text, motive (.str text))
    (list : ∀ items, (∀ item ∈ items, motive item) → motive (.list items))
    (optional : ∀ content, (∀ present ∈ content, motive present) → motive (.optional content))
    (record : ∀ fields, (∀ field ∈ fields, motive field.2) → motive (.record fields))
    (tagged : ∀ tag content, motive content → motive (.tagged tag content))
    (value : Value) : motive value := by
  -- The motives are those of values, lists of them, options, lists of fields and fields.
  refine @Value.rec motive (fun items => ∀ item ∈ items, motive item)
    (fun content => ∀ present ∈ content, motive present)
    (fun fields => ∀ field ∈ fields, motive field.2) (fun field => motive field.2)
    int big str list optional record tagged ?_ ?_ ?_ ?_ ?_ ?_ ?_ value
  · exact List.forall_mem_nil _
  · exact fun _ _ hfirst hrest => List.forall_mem_cons.2 ⟨hfirst, hrest⟩
  · exact fun _ habsent => nomatch habsent
  · rintro present hpresent _ ⟨⟩
    exact hpresent
  · exact List.forall_mem_nil _
  · exact fun _ _ hfirst hrest => List.forall_mem_cons.2 ⟨hfirst, hrest⟩
  · exact fun _ _ hvalue => hvalue

mutual

/-- No record inside the value has a name twice. -/
def Distinct : Value → Prop
  | .int _ | .big _ | .str _ | .optional none => True
  | .list items => ItemsDistinct items
  | .optional (some content) => content.Distinct
  | .record fields => (fields.map Prod.fst).Nodup ∧ FieldsDistinct fields
  | .tagged _ content => content.Distinct

def ItemsDistinct : List Value → Prop
  | [] => True
  | item :: rest => item.Distinct ∧ ItemsDistinct rest

def FieldsDistinct : List (String × Value) → Prop
  | [] => True
  | (_, value) :: rest => value.Distinct ∧ FieldsDistinct rest

end

theorem itemsDistinct_iff (items : List Value) :
    ItemsDistinct items ↔ ∀ item ∈ items, item.Distinct := by
  induction items with
  | nil => simp [ItemsDistinct]
  | cons item rest ih => simp [ItemsDistinct, ih]

theorem fieldsDistinct_iff (fields : List (String × Value)) :
    FieldsDistinct fields ↔ ∀ field ∈ fields, field.2.Distinct := by
  induction fields with
  | nil => simp [FieldsDistinct]
  | cons field rest ih =>
      obtain ⟨name, value⟩ := field
      simp [FieldsDistinct, ih]

/-- **A value without repeated names equals itself,** whichever side its parts are compared from. -/
theorem agree_self {value : Value} (hdistinct : value.Distinct) (swapped : Bool) :
    value.agree value swapped = true := by
  induction value generalizing swapped with
  | int n => simp [agree]
  | big n => simp [agree]
  | str text => simp [agree]
  | list items ih =>
      rw [Distinct, itemsDistinct_iff] at hdistinct
      rw [agree]
      have hall : List.Forall₂ (fun item other => agree item other swapped = true) items items :=
        List.forall₂_same.2 fun item hmem => ih item hmem (hdistinct item hmem) swapped
      simpa using @agreeItems_of_forall₂ _ id id _ _ _ hall
  | optional content ih =>
      cases content with
      | none => rfl
      | some present => exact ih present rfl hdistinct swapped
  | record fields ih =>
      rw [Distinct, fieldsDistinct_iff] at hdistinct
      obtain ⟨hnodup, hvalues⟩ := hdistinct
      -- A field is the first one of its name, so it is compared with itself.
      have hfound : ∀ field ∈ fields, fields.lookup field.1 = some field.2 := fun field hmem =>
        Record.lookup_eq_some_of_mem hnodup hmem
      rw [agree, beq_self_eq_true, Bool.true_and]
      cases swapped with
      | false =>
          rw [if_neg Bool.false_ne_true, agreeFields_iff]
          exact fun field hmem =>
            ⟨field.2, hfound field hmem, ih field hmem (hvalues field hmem) true⟩
      | true =>
          rw [if_pos rfl, List.all_eq_true]
          exact fun field hmem => agreeFound_iff.2
            ⟨field.2, hfound field hmem, ih field hmem (hvalues field hmem) false⟩
  | tagged tag content ih =>
      rw [agree, beq_self_eq_true, Bool.true_and]
      exact ih hdistinct swapped

theorem same_self {value : Value} (hdistinct : value.Distinct) : value.same value = true :=
  agree_self hdistinct false

end Value

/-! ### Decoding -/

theorem Record.map_fst_setField {name : String} {fields : List (String × Value)}
    (hmem : name ∈ fields.map Prod.fst) (value : Value) :
    (setField name value fields).2.map Prod.fst = fields.map Prod.fst := by
  induction fields with
  | nil => cases hmem
  | cons field rest ih =>
      obtain ⟨other, old⟩ := field
      by_cases hname : other = name
      · simp [setField, hname]
      · have hrest : name ∈ rest.map Prod.fst := by
          rcases List.mem_cons.1 hmem with rfl | hrest
          · exact absurd rfl hname
          · exact hrest
        simp [setField, hname, ih hrest]

theorem Record.fieldsDistinct_setField {value : Value} (hvalue : value.Distinct) (name : String)
    {fields : List (String × Value)} (hfields : Value.FieldsDistinct fields) :
    Value.FieldsDistinct (setField name value fields).2 := by
  induction fields with
  | nil => exact ⟨hvalue, trivial⟩
  | cons field rest ih =>
      obtain ⟨other, old⟩ := field
      by_cases hname : other = name
      · simp only [setField, hname, if_true]
        exact ⟨hvalue, hfields.2⟩
      · simp only [setField, hname, if_false]
        exact ⟨hfields.1, ih hfields.2⟩

theorem Record.distinct_set {record : Record} (hrecord : record.toValue.Distinct) (name : String)
    {value : Value} (hvalue : value.Distinct) : (record.set name value).toValue.Distinct := by
  refine ⟨?_, fieldsDistinct_setField hvalue name hrecord.2⟩
  by_cases hmem : name ∈ record.names
  · have hnames := map_fst_setField hmem value
    exact hnames ▸ hrecord.1
  · rw [set_of_notMem hmem, List.map_append]
    refine List.nodup_append.2 ⟨hrecord.1, by simp, ?_⟩
    rintro other hother _ hname rfl
    obtain rfl : other = name := List.mem_singleton.1 hname
    exact hmem hother

namespace Grammar

def DecodesDistinct {shape : Shape} (grammar : Grammar shape) : Prop :=
  ∀ cursor, (grammar.decode cursor).Gives fun content => (shape.toValue content).Distinct

theorem distinct_of_decodeElements {elements : List Element}
    (hparts : ∀ element ∈ elements, element.PartIs DecodesDistinct) {cursor : Cursor}
    {record : Record} (hrecord : record.toValue.Distinct) :
    (decodeElements elements cursor record).Gives fun result => result.toValue.Distinct := by
  intro decoded hdecode
  induction elements generalizing cursor record with
  | nil =>
      cases hdecode
      exact hrecord
  | cons element rest ih =>
      obtain ⟨hpart, hrest⟩ := List.forall_mem_cons.1 hparts
      cases element with
      | literal text =>
          rw [decodeElements] at hdecode
          split at hdecode
          · exact ih hrest hrecord hdecode
          · cases hdecode
      | skip part =>
          rw [decodeElements] at hdecode
          split at hdecode
          · exact ih hrest hrecord hdecode
          · cases hdecode
      | field name part =>
          rw [decodeElements] at hdecode
          split at hdecode
          · rename_i inner hinner
            exact ih hrest (Record.distinct_set hrecord name (hpart cursor inner hinner)) hdecode
          · cases hdecode

theorem distinct_list {shape : Shape} {items : List shape.Carrier}
    (hitems : ∀ item ∈ items, (shape.toValue item).Distinct) :
    (Shape.toValue (.list shape) items).Distinct := by
  refine (Value.itemsDistinct_iff _).2 fun value hvalue => ?_
  obtain ⟨item, hmem, rfl⟩ := List.mem_map.1 hvalue
  exact hitems item hmem

/-- **No decoded record has a name twice,** not even where a template does, since fields are set one
by one. -/
theorem decodesDistinct {shape : Shape} (grammar : Grammar shape) : grammar.DecodesDistinct := by
  induction grammar with
  | @terminal kind leaf =>
      intro cursor decoded hdecode
      cases kind <;> trivial
  | named name inner ih => exact ih
  | optional inner ih =>
      intro cursor decoded hdecode
      have hpresent := Outcome.gives_optional (ih cursor) cursor decoded hdecode
      obtain ⟨content, next⟩ := decoded
      cases content with
      | none => trivial
      | some present => exact hpresent present rfl
  | repeated nonEmpty item ih =>
      intro cursor decoded hdecode
      exact distinct_list (Outcome.gives_repetition nonEmpty _ ih cursor decoded hdecode)
  | separated nonEmpty item separator ih _ =>
      intro cursor decoded hdecode
      exact distinct_list (Outcome.gives_repetition nonEmpty _ ih cursor decoded hdecode)
  | template elements ih =>
      exact fun cursor => distinct_of_decodeElements ih ⟨List.nodup_nil, trivial⟩
  | choice branches ih =>
      intro cursor
      rw [decode]
      rcases decodeBranches_cases branches cursor (Branch.names branches) cursor.offset with
        ⟨shape, front, name, body, back, rfl, -, hdecode⟩ | ⟨furthest, hdecode⟩
      · have hbody : (Branch.mk name body).BodyIs DecodesDistinct := ih _ (by simp)
        rw [hdecode]
        exact Outcome.gives_mapValue (hbody cursor)
      · rw [hdecode]
        intro _ hfail
        cases hfail
  | erased inner ih => exact fun cursor => Outcome.gives_mapValue (ih cursor)

end Grammar

/-! ### Reading serial forms -/

namespace Json

/-- The name in a pair of a name and a tree. -/
def listedName? : Json → Option String
  | .array [.string name, _] => some name
  | _ => none

mutual

/-- No array in the tree lists a name twice. -/
def Distinct : Json → Prop
  | .null | .bool _ | .number _ _ | .string _ => True
  | .array items => (items.filterMap listedName?).Nodup ∧ ItemsDistinct items
  | .object members => MembersDistinct members

def ItemsDistinct : List Json → Prop
  | [] => True
  | item :: rest => item.Distinct ∧ ItemsDistinct rest

def MembersDistinct : List (String × Json) → Prop
  | [] => True
  | (_, member) :: rest => member.Distinct ∧ MembersDistinct rest

end

theorem itemsDistinct_iff (items : List Json) :
    ItemsDistinct items ↔ ∀ item ∈ items, item.Distinct := by
  induction items with
  | nil => simp [ItemsDistinct]
  | cons item rest ih => simp [ItemsDistinct, ih]

theorem distinct_object_single (name : String) (tree : Json) :
    (object [(name, tree)]).Distinct ↔ tree.Distinct := by
  simp [Distinct, MembersDistinct]

end Json

namespace Value

/-- What the body of a value's serial form is read as. -/
def ReadFrom (body : Json) : Value → Prop
  | .int n => intOfJson? body = some n
  | .big n => bigOfJson? body = some n
  | .str text => body.asString? = some text
  | .list items => itemsOfJson? body = some items
  | .optional none => body.isNull = true
  | .optional (some content) => ofJson? body = some content
  | .record fields => recordOfJson? body = some fields
  | .tagged tag content => taggedOfJson? body = some (.tagged tag content)

theorem exists_tagged_of_taggedOfJson? {body : Json} {value : Value}
    (hread : taggedOfJson? body = some value) : ∃ tag content, value = .tagged tag content := by
  unfold taggedOfJson? at hread
  split at hread
  · simp only [Option.bind_eq_bind, Option.bind_eq_some_iff, Option.pure_def] at hread
    obtain ⟨tag, -, content, -, hvalue⟩ := hread
    exact ⟨tag, content, (Option.some.inj hvalue).symm⟩
  · obtain ⟨content, -, hvalue⟩ := Option.map_eq_some_iff.1 hread
    exact ⟨_, content, hvalue.symm⟩
  · cases hread

/-- A value is read from an object with one member. -/
theorem exists_readFrom {json : Json} {value : Value} (hread : ofJson? json = some value) :
    ∃ variant body, json = .object [(variant, body)] ∧ value.ReadFrom body := by
  unfold ofJson? at hread
  split at hread
  · rename_i variant body
    refine ⟨variant, body, rfl, ?_⟩
    simp only [Option.map_eq_map] at hread
    split at hread
    · obtain ⟨n, hn, rfl⟩ := Option.map_eq_some_iff.1 hread
      exact hn
    split at hread
    · obtain ⟨n, hn, rfl⟩ := Option.map_eq_some_iff.1 hread
      exact hn
    split at hread
    · obtain ⟨text, htext, rfl⟩ := Option.map_eq_some_iff.1 hread
      exact htext
    split at hread
    · obtain ⟨items, hitems, rfl⟩ := Option.map_eq_some_iff.1 hread
      exact hitems
    split at hread
    · split at hread
      · rename_i hnull
        cases hread
        exact hnull
      · obtain ⟨content, hcontent, rfl⟩ := Option.map_eq_some_iff.1 hread
        exact hcontent
    split at hread
    · obtain ⟨fields, hfields, rfl⟩ := Option.map_eq_some_iff.1 hread
      exact hfields
    split at hread
    · obtain ⟨tag, content, rfl⟩ := exists_tagged_of_taggedOfJson? hread
      exact hread
    · cases hread
  · cases hread

theorem forall₂_of_itemListOfJson? {trees : List Json} {items : List Value}
    (hread : itemListOfJson? trees = some items) :
    List.Forall₂ (fun tree item => ofJson? tree = some item) trees items := by
  induction trees generalizing items with
  | nil =>
      cases hread
      exact .nil
  | cons tree rest ih =>
      simp only [itemListOfJson?, Option.bind_eq_bind, Option.bind_eq_some_iff,
        Option.pure_def] at hread
      obtain ⟨item, hitem, others, hothers, hitems⟩ := hread
      cases hitems
      exact .cons hitem (ih hothers)

/-- Fields are read in order, each from a pair of its name and a tree. -/
theorem forall₂_of_fieldListOfJson? {trees : List Json} {fields : List (String × Value)}
    (hread : fieldListOfJson? trees = some fields) :
    List.Forall₂ (fun tree field => ∃ inner, tree = .array [.string field.1, inner] ∧
      ofJson? inner = some field.2) trees fields := by
  induction trees generalizing fields with
  | nil =>
      cases hread
      exact .nil
  | cons tree rest ih =>
      unfold fieldListOfJson? at hread
      split at hread
      · rename_i hempty
        cases hempty
      · rename_i name inner others hcons
        cases hcons
        simp only [Option.bind_eq_bind, Option.bind_eq_some_iff, Option.pure_def] at hread
        obtain ⟨value, hvalue, more, hmore, hfields⟩ := hread
        cases hfields
        exact .cons ⟨inner, rfl, hvalue⟩ (ih hmore)
      · cases hread

theorem exists_itemList_of_itemsOfJson? {body : Json} {items : List Value}
    (hread : itemsOfJson? body = some items) (honce : body.Distinct) :
    ∃ trees : List Json, (∀ tree ∈ trees, tree.Distinct) ∧ itemListOfJson? trees = some items := by
  unfold itemsOfJson? at hread
  split at hread
  · rename_i trees
    exact ⟨trees, (Json.itemsDistinct_iff trees).1 honce.2, hread⟩
  · cases hread

theorem exists_fieldList_of_recordOfJson? {body : Json} {fields : List (String × Value)}
    (hread : recordOfJson? body = some fields) (honce : body.Distinct) :
    ∃ trees, (Json.array trees).Distinct ∧ fieldListOfJson? trees = some fields := by
  have hlist : ∀ {tree : Json}, fieldsOfJson? tree = some fields → tree.Distinct →
      ∃ trees, (Json.array trees).Distinct ∧ fieldListOfJson? trees = some fields := by
    intro tree htree htreeOnce
    unfold fieldsOfJson? at htree
    split at htree
    · exact ⟨_, htreeOnce, htree⟩
    · cases htree
  unfold recordOfJson? at hread
  split at hread
  · rename_i members
    rw [Json.Distinct] at honce
    induction members with
    | nil => cases hread
    | cons member rest ih =>
        obtain ⟨name, tree⟩ := member
        rw [recordMember?] at hread
        split at hread
        · exact hlist hread honce.1
        · exact ih honce.2 hread
  · exact hlist hread honce.2.1
  · cases hread

theorem exists_content_of_taggedOfJson? {body : Json} {tag : String} {content : Value}
    (hread : taggedOfJson? body = some (.tagged tag content)) (honce : body.Distinct) :
    ∃ tree : Json, tree.Distinct ∧ ofJson? tree = some content := by
  unfold taggedOfJson? at hread
  split at hread
  · rename_i members
    simp only [Option.bind_eq_bind, Option.bind_eq_some_iff, Option.pure_def] at hread
    obtain ⟨_, -, found, hmember, hvalue⟩ := hread
    cases hvalue
    rw [Json.Distinct] at honce
    induction members with
    | nil => cases hmember
    | cons member rest ih =>
        obtain ⟨name, tree⟩ := member
        rw [contentMember?] at hmember
        split at hmember
        · exact ⟨tree, honce.1, hmember⟩
        · exact ih honce.2 hmember
  · obtain ⟨_, hcontent, hvalue⟩ := Option.map_eq_some_iff.1 hread
    cases hvalue
    exact ⟨_, honce.2.2.1, hcontent⟩
  · cases hread

theorem map_fst_eq_listedNames {trees : List Json} {fields : List (String × Value)}
    (hlisted : List.Forall₂ (fun tree field => ∃ inner, tree = .array [.string field.1, inner] ∧
      ofJson? inner = some field.2) trees fields) :
    fields.map Prod.fst = trees.filterMap Json.listedName? := by
  induction hlisted with
  | nil => rfl
  | cons hfirst _ ih =>
      obtain ⟨inner, rfl, -⟩ := hfirst
      rw [List.map_cons, ih]
      rfl

/-- **Reading adds no repeated name.** By induction on the value that is read. -/
theorem distinct_of_ofJson? {json : Json} {value : Value} (hread : ofJson? json = some value)
    (honce : json.Distinct) : value.Distinct := by
  induction value generalizing json with
  | int n => trivial
  | big n => trivial
  | str text => trivial
  | list items ih =>
      obtain ⟨variant, body, rfl, hbody⟩ := exists_readFrom hread
      rw [Json.distinct_object_single] at honce
      obtain ⟨trees, htrees, hlist⟩ := exists_itemList_of_itemsOfJson? hbody honce
      refine (itemsDistinct_iff items).2 fun item hmem => ?_
      obtain ⟨tree, htree, hitem⟩ :=
        exists_mem_of_forall₂ (forall₂_of_itemListOfJson? hlist) item hmem
      exact ih item hmem hitem (htrees tree htree)
  | optional content ih =>
      obtain ⟨variant, body, rfl, hbody⟩ := exists_readFrom hread
      rw [Json.distinct_object_single] at honce
      cases content with
      | none => trivial
      | some present => exact ih present rfl hbody honce
  | record fields ih =>
      obtain ⟨variant, body, rfl, hbody⟩ := exists_readFrom hread
      rw [Json.distinct_object_single] at honce
      obtain ⟨trees, ⟨hnames, htrees⟩, hlist⟩ := exists_fieldList_of_recordOfJson? hbody honce
      have hlisted := forall₂_of_fieldListOfJson? hlist
      rw [Json.itemsDistinct_iff] at htrees
      refine ⟨map_fst_eq_listedNames hlisted ▸ hnames,
        (fieldsDistinct_iff fields).2 fun field hmem => ?_⟩
      obtain ⟨tree, htree, inner, rfl, hinner⟩ := exists_mem_of_forall₂ hlisted field hmem
      exact ih field hmem hinner (htrees _ htree).2.2.1
  | tagged tag content ih =>
      obtain ⟨variant, body, rfl, hbody⟩ := exists_readFrom hread
      rw [Json.distinct_object_single] at honce
      obtain ⟨tree, htree, hcontent⟩ := exists_content_of_taggedOfJson? hbody honce
      exact ih hcontent htree

/-- **What is read is legal, if no name is listed twice.** No record inside the value that is read
has a name twice, and the value equals itself. -/
theorem legal_of_listed_once (json : Json) (value : Value) (hread : ofJson? json = some value)
    (honce : json.Distinct) : value.Distinct ∧ value.same value = true := by
  have hdistinct := distinct_of_ofJson? hread honce
  exact ⟨hdistinct, same_self hdistinct⟩

/-- The serial form of a record with one number under each of the names. -/
def numbersJson (numbers : List (String × Int)) : Json :=
  .object [("Record", .object [("fields", .array
    (numbers.map fun (name, n) => .array [.string name, .object [("Int", .int n)]]))])]

/-- Two records of a list may use the same names, in any order. -/
theorem legal_of_listed_once_nested :
    ofJson? (.object [("List", .array
        [numbersJson [("x", 1), ("y", 2)], numbersJson [("y", 3), ("x", 4)]])]) =
      some (.list [.record [("x", .int 1), ("y", .int 2)],
        .record [("y", .int 3), ("x", .int 4)]]) ∧
      (Value.list [.record [("x", .int 1), ("y", .int 2)],
        .record [("y", .int 3), ("x", .int 4)]]).Distinct := by
  have hread : ofJson? (.object [("List", .array
      [numbersJson [("x", 1), ("y", 2)], numbersJson [("y", 3), ("x", 4)]])]) =
      some (.list [.record [("x", .int 1), ("y", .int 2)],
        .record [("y", .int 3), ("x", .int 4)]]) := rfl
  have honce : (Json.object [("List", .array
      [numbersJson [("x", 1), ("y", 2)], numbersJson [("y", 3), ("x", 4)]])]).Distinct := by
    simp [numbersJson, Json.Distinct, Json.ItemsDistinct, Json.MembersDistinct, Json.listedName?,
      List.filterMap_cons, Json.int]
  exact ⟨hread, (legal_of_listed_once _ _ hread honce).1⟩

/-- Nothing else keeps names apart: a record that lists a name twice is read as it is, and it does
not equal itself, since both of its fields are compared with the first. -/
theorem repeated_name_is_read :
    ofJson? (numbersJson [("x", 1), ("x", 2)]) =
        some (.record [("x", .int 1), ("x", .int 2)]) ∧
      ¬ (Value.record [("x", .int 1), ("x", .int 2)]).Distinct ∧
      (Value.record [("x", .int 1), ("x", .int 2)]).same
        (.record [("x", .int 1), ("x", .int 2)]) = false := by
  refine ⟨rfl, ?_, rfl⟩
  rintro ⟨hnames, -⟩
  exact absurd hnames (by decide)

end Value

end TwoWay
