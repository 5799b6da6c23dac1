import TableShell.Proofs.Except.Traversal
import TableShell.Proofs.Json.TextLength
import TableShell.Proofs.OrderedMap.Written
import TableShell.Request

/-!
# What a JSON value states

A request is read in two steps: the value names an operation and gives its fields (`States`), and
the operation takes the fields (`Takes`). A request holds no more text than its fields, and no less
if no object in them repeats a name (`Takes.textLength_spec`). A value holds the text of its fields
besides names, if all its members are fields (`States.textLength_eq`).
-/

namespace TableShell
namespace Request

open Json

/-- The request that an operation makes of its fields. -/
inductive Takes : String → List (Option Json) → Request → Prop
  | list : Takes "list" [] .list
  | columns : Takes "columns" [] .columns
  | add {field : Option Json} {data : OrderedMap Json} (hdata : readPairs? field = some data) :
      Takes "add" [field] (.add data)
  | addBatch {first second : Option Json} {names : List String} {rows : List (List Json)}
      (hnames : readTexts? first = some names) (hrows : readRows? second = some rows) :
      Takes "add_batch" [first, second] (.addBatch names rows)
  | update {first second : Option Json} {conditions data : OrderedMap Json}
      (hconditions : readPairs? first = some conditions) (hdata : readPairs? second = some data) :
      Takes "update" [first, second] (.update conditions data)
  | delete {first : Option Json} {conditions : OrderedMap Json}
      (hconditions : readPairs? first = some conditions) (second : Option Json) :
      Takes "delete" [first, second] (.delete conditions (readValue second))
  | search (field : Option Json) : Takes "search" [field] (.search (readValue field))
  | searchExact (first second : Option Json) :
      Takes "search_exact" [first, second] (.searchExact (readValue first) (readValue second))
  | error {field : Option Json} {message : Option String}
      (hmessage : readMessage? field = some message) : Takes "error" [field] (.error message)

/-- The value names the operation and gives its fields. -/
inductive States : Json → String → List (Option Json) → Prop
  | object {members : List (String × Json)} {operation : String} {names : List String}
      {fields : List (Option Json)}
      (hoperation : onlyMember? members operationName = some (some (.string operation)))
      (hnames : fieldNames? operation = some names)
      (hfields : names.mapM (onlyMember? members) = some fields) :
      States (.object members) operation fields
  | array {operation : String} {items : List Json} {names : List String}
      (hnames : fieldNames? operation = some names) (hlength : items.length ≤ names.length) :
      States (.array (.string operation :: items)) operation
        (items.map some ++ List.replicate (names.length - items.length) none)

variable {operation : String} {names : List String} {field : Option Json}
  {fields : List (Option Json)} {doc value : Json} {request : Request}

/-! ## Operations -/

/-- The operations and the fields that they take. -/
def operations : List (String × List String) :=
  [("list", []), ("columns", []), ("add", ["data"]), ("add_batch", ["columns", "values"]),
   ("update", ["conditions", "data"]), ("delete", ["conditions", "confirm"]),
   ("search", ["keyword"]), ("search_exact", ["column", "value"]), ("error", ["message"])]

theorem mem_operations_of_fieldNames? (h : fieldNames? operation = some names) :
    (operation, names) ∈ operations := by
  rw [fieldNames?] at h
  split_ifs at h <;> subst operation <;> cases h <;> simp [operations]

theorem ofFields?_eq_some_iff (hnames : fieldNames? operation = some names)
    (hlength : fields.length = names.length) :
    ofFields? operation fields = some request ↔ Takes operation fields request := by
  constructor
  · intro h
    have hmem := mem_operations_of_fieldNames? hnames
    simp only [operations, List.mem_cons, Prod.mk.injEq, List.not_mem_nil, or_false] at hmem
    rcases hmem with ⟨rfl, rfl⟩ | ⟨rfl, rfl⟩ | ⟨rfl, rfl⟩ | ⟨rfl, rfl⟩ | ⟨rfl, rfl⟩ | ⟨rfl, rfl⟩ |
      ⟨rfl, rfl⟩ | ⟨rfl, rfl⟩ | ⟨rfl, rfl⟩
    · cases List.length_eq_zero_iff.mp hlength
      cases h
      exact .list
    · cases List.length_eq_zero_iff.mp hlength
      cases h
      exact .columns
    · obtain ⟨field, rfl⟩ := List.length_eq_one_iff.mp hlength
      obtain ⟨data, hdata, rfl⟩ := Option.map_eq_some_iff.mp h
      exact .add hdata
    · obtain ⟨first, second, rfl⟩ := List.length_eq_two.mp hlength
      obtain ⟨texts, htexts, h⟩ := Option.bind_eq_some_iff.mp h
      obtain ⟨rows, hrows, ⟨⟩⟩ := Option.bind_eq_some_iff.mp h
      exact .addBatch htexts hrows
    · obtain ⟨first, second, rfl⟩ := List.length_eq_two.mp hlength
      obtain ⟨conditions, hconditions, h⟩ := Option.bind_eq_some_iff.mp h
      obtain ⟨data, hdata, ⟨⟩⟩ := Option.bind_eq_some_iff.mp h
      exact .update hconditions hdata
    · obtain ⟨first, second, rfl⟩ := List.length_eq_two.mp hlength
      obtain ⟨conditions, hconditions, ⟨⟩⟩ := Option.bind_eq_some_iff.mp h
      exact .delete hconditions second
    · obtain ⟨field, rfl⟩ := List.length_eq_one_iff.mp hlength
      cases h
      exact .search field
    · obtain ⟨first, second, rfl⟩ := List.length_eq_two.mp hlength
      cases h
      exact .searchExact first second
    · obtain ⟨field, rfl⟩ := List.length_eq_one_iff.mp hlength
      obtain ⟨message, hmessage, rfl⟩ := Option.map_eq_some_iff.mp h
      exact .error hmessage
  · intro h
    cases h with
    | list => rfl
    | columns => rfl
    | add hdata => simp [ofFields?, hdata]
    | addBatch htexts hrows => simp [ofFields?, htexts, hrows]
    | update hconditions hdata => simp [ofFields?, hconditions, hdata]
    | delete hconditions second => simp [ofFields?, hconditions]
    | search field => rfl
    | searchExact first second => rfl
    | error hmessage => simp [ofFields?, hmessage]

/-- A value that names an operation gives as many fields as the operation takes. -/
theorem States.exists_names (h : States doc operation fields) :
    ∃ names, fieldNames? operation = some names ∧ fields.length = names.length := by
  cases h with
  | object hoperation hnames hfields =>
    exact ⟨_, hnames, (Traversal.mapM_eq_some_iff.mp hfields).length_eq.symm⟩
  | array hnames hlength =>
    refine ⟨_, hnames, ?_⟩
    rw [List.length_append, List.length_map, List.length_replicate]
    omega

theorem States.ofJson?_eq (h : States doc operation fields) :
    ofJson? doc = ofFields? operation fields := by
  cases h with
  | object hoperation hnames hfields => simp [ofJson?, hoperation, readText?, hnames, hfields]
  | array hnames hlength => simp [ofJson?, hnames, hlength]

theorem exists_states_of_ofJson? (h : ofJson? doc = some request) :
    ∃ operation fields, States doc operation fields := by
  fun_cases ofJson? doc
  case case1 members =>
    simp only [ofJson?, Option.bind_eq_bind, Option.bind_eq_some_iff] at h
    obtain ⟨_, hmember, operation, ⟨value, rfl, htext⟩, names, hnames, fields, hfields, -⟩ := h
    cases value with
    | string s =>
      cases htext
      exact ⟨_, fields, .object hmember hnames hfields⟩
    | _ => cases htext
  case case2 operation items =>
    simp only [ofJson?, Option.bind_eq_bind, Option.bind_eq_some_iff,
      Option.ite_none_right_eq_some] at h
    obtain ⟨names, hnames, hlength, -⟩ := h
    exact ⟨operation, _, .array hnames hlength⟩
  case case3 hobject harray =>
    rw [ofJson?] at h
    · cases h
    · exact hobject
    · exact harray

theorem ofJson?_eq_some_iff :
    ofJson? doc = some request ↔
      ∃ operation fields, States doc operation fields ∧ Takes operation fields request := by
  constructor
  · intro h
    obtain ⟨operation, fields, hstates⟩ := exists_states_of_ofJson? h
    obtain ⟨names, hnames, hlength⟩ := hstates.exists_names
    rw [hstates.ofJson?_eq, ofFields?_eq_some_iff hnames hlength] at h
    exact ⟨operation, fields, hstates, h⟩
  · rintro ⟨operation, fields, hstates, htakes⟩
    obtain ⟨names, hnames, hlength⟩ := hstates.exists_names
    rw [hstates.ofJson?_eq, ofFields?_eq_some_iff hnames hlength]
    exact htakes

/-- A text states the request that its value states. -/
theorem read?_of_value {text : String} (hvalue : Json.read? text = some doc)
    (hrequest : ofJson? doc = some request) : read? text = some request := by
  rw [read?, hvalue]
  exact hrequest

/-- The operation of a request is the one that the value names. -/
theorem Takes.operation_eq (h : Takes operation fields request) : request.fields.1 = operation := by
  cases h <;> rfl

/-! ## The text of a request -/

/-- The characters in the strings of a field. -/
def fieldLength (field : Option Json) : ℕ :=
  field.elim 0 Json.textLength

/-- The characters in the strings of the fields. -/
def fieldsLength (fields : List (Option Json)) : ℕ :=
  (fields.map fieldLength).sum

/-- No object in the field repeats a name. -/
def DistinctNames (field : Option Json) : Prop :=
  ∀ value ∈ field, value.distinctNames = true

/-- What was made of a field holds so many characters: no more than the field, and no less unless
an object in the field repeats a name. -/
def Holds (field : Option Json) (length : ℕ) : Prop :=
  length ≤ fieldLength field ∧ (DistinctNames field → length = fieldLength field)

/-- The characters in the strings that the fields of a request hold. -/
def textLength (request : Request) : ℕ :=
  itemsLength (request.fields.2.map Prod.snd)

theorem holds_of_eq {length : ℕ} (h : length = fieldLength field) : Holds field length :=
  ⟨Nat.le_of_eq h, fun _ => h⟩

theorem membersLength_insertEntry_le (key : String) (value : Json)
    (entries : List (String × Json)) :
    membersLength (OrderedMap.insertEntry key value entries)
      ≤ key.length + value.textLength + membersLength entries := by
  induction entries with
  | nil => exact Nat.le_refl _
  | cons entry rest ih =>
    rw [OrderedMap.insertEntry]
    split <;> simp only [membersLength] <;> omega

theorem membersLength_ofList_le (pairs : List (String × Json)) :
    membersLength (OrderedMap.ofList pairs).entries ≤ membersLength pairs := by
  induction pairs using List.reverseRecOn with
  | nil => exact Nat.le_refl _
  | append_singleton pairs pair ih =>
    have hinsert := membersLength_insertEntry_le pair.1 pair.2 (OrderedMap.ofList pairs).entries
    rw [OrderedMap.ofList_concat, OrderedMap.entries_insert, membersLength_eq_sum (pairs ++ [pair]),
      List.map_append, List.sum_append, ← membersLength_eq_sum]
    simp only [List.map_cons, List.map_nil, List.sum_cons, List.sum_nil]
    omega

theorem canonicalMembers_eq_map (members : List (String × Json)) :
    canonicalMembers members = members.map fun member => (member.1, member.2.canonical) := by
  induction members with
  | nil => rw [canonicalMembers, List.map_nil]
  | cons member rest ih => rw [canonicalMembers, ih, List.map_cons]

theorem canonicalItems_eq_map (items : List Json) :
    canonicalItems items = items.map Json.canonical := by
  induction items with
  | nil => rw [canonicalItems, List.map_nil]
  | cons item rest ih => rw [canonicalItems, ih, List.map_cons]

theorem holds_pairs {data : OrderedMap Json} (h : readPairs? field = some data) :
    Holds field (pairsJson data).textLength := by
  cases field with
  | none =>
    cases h
    exact holds_of_eq rfl
  | some value =>
    cases value with
    | object members =>
      cases h
      rw [← canonicalMembers_eq_map, pairsJson, Json.textLength]
      -- of equal names the last one is kept, in the map as in the objects below
      constructor
      · exact Nat.le_trans (membersLength_ofList_le _) (membersLength_canonicalMembers_le members)
      · intro hdistinct
        have hmembers := hdistinct _ rfl
        rw [distinctNames, Bool.and_eq_true, decide_eq_true_eq, ← map_fst_canonicalMembers]
          at hmembers
        rw [OrderedMap.entries_ofList hmembers.1]
        exact membersLength_canonicalMembers members hmembers.2
    | _ => cases h

theorem eq_string_of_readText? {s : String} (h : readText? value = some s) : value = .string s := by
  cases value with
  | string s' =>
    cases h
    rfl
  | _ => cases h

theorem eq_array_of_readItems? {items : List Json} (h : readItems? value = some items) :
    value = .array items := by
  cases value with
  | array items' =>
    cases h
    rfl
  | _ => cases h

theorem eq_map_of_readText? {items : List Json} {texts : List String}
    (h : List.Forall₂ (fun item s => readText? item = some s) items texts) :
    items = texts.map .string := by
  induction h with
  | nil => rfl
  | cons htext _ ih => rw [eq_string_of_readText? htext, ih, List.map_cons]

theorem holds_texts {texts : List String} (h : readTexts? field = some texts) :
    Holds field (Json.array (texts.map .string)).textLength := by
  cases field with
  | none =>
    cases h
    exact holds_of_eq rfl
  | some value =>
    obtain ⟨items, hitems, htexts⟩ := Option.bind_eq_some_iff.mp h
    rw [eq_array_of_readItems? hitems, eq_map_of_readText? (Traversal.mapM_eq_some_iff.mp htexts)]
    exact holds_of_eq rfl

theorem holds_canonical (value : Json) : Holds (some value) value.canonical.textLength :=
  ⟨textLength_canonical_le value, fun hdistinct => textLength_canonical value (hdistinct value rfl)⟩

/-- The rows together are the canonical form of what was written. -/
theorem map_array_of_readRows? {items : List Json} {rows : List (List Json)}
    (h : List.Forall₂
      (fun item row => (readItems? item).map (fun row => row.map Json.canonical) = some row)
      items rows) : rows.map .array = canonicalItems items := by
  induction h with
  | nil => rfl
  | cons hrow _ ih =>
    obtain ⟨row, hitems, rfl⟩ := Option.map_eq_some_iff.mp hrow
    rw [eq_array_of_readItems? hitems, List.map_cons, ih, canonicalItems, canonical,
      canonicalItems_eq_map row]

theorem holds_rows {rows : List (List Json)} (h : readRows? field = some rows) :
    Holds field (Json.array (rows.map .array)).textLength := by
  cases field with
  | none =>
    cases h
    exact holds_of_eq rfl
  | some value =>
    obtain ⟨items, hitems, hrows⟩ := Option.bind_eq_some_iff.mp h
    rw [map_array_of_readRows? (Traversal.mapM_eq_some_iff.mp hrows), ← canonical,
      eq_array_of_readItems? hitems]
    exact holds_canonical _

theorem holds_value (field : Option Json) :
    Holds field ((readValue field).getD .null).textLength := by
  cases field with
  | none => exact holds_of_eq rfl
  | some value =>
    cases value with
    | null => exact holds_of_eq rfl
    | _ => exact holds_canonical _

theorem holds_message {message : Option String} (h : readMessage? field = some message) :
    Holds field ((message.map Json.string).getD .null).textLength := by
  cases field with
  | none =>
    cases h
    exact holds_of_eq rfl
  | some value =>
    cases value with
    | null =>
      cases h
      exact holds_of_eq rfl
    | string s =>
      cases h
      exact holds_of_eq rfl
    | _ => cases h

theorem holds_all {values : List Json}
    (h : List.Forall₂ (fun field value => Holds field value.textLength) fields values) :
    itemsLength values ≤ fieldsLength fields ∧
      ((∀ field ∈ fields, DistinctNames field) → itemsLength values = fieldsLength fields) := by
  induction h with
  | nil => exact ⟨Nat.le_refl 0, fun _ => rfl⟩
  | cons hfield _ ih =>
    simp only [itemsLength, fieldsLength, List.map_cons, List.sum_cons] at ih ⊢
    constructor
    · exact Nat.add_le_add hfield.1 ih.1
    · intro hdistinct
      obtain ⟨hfirst, hrest⟩ := List.forall_mem_cons.mp hdistinct
      rw [hfield.2 hfirst, ih.2 hrest]

/-- The text of a request is that of its fields, less what repeated names overwrite. -/
theorem Takes.textLength_spec (h : Takes operation fields request) :
    request.textLength ≤ fieldsLength fields ∧
      ((∀ field ∈ fields, DistinctNames field) → request.textLength = fieldsLength fields) := by
  cases h with
  | list => exact holds_all .nil
  | columns => exact holds_all .nil
  | add hdata => exact holds_all (.cons (holds_pairs hdata) .nil)
  | addBatch htexts hrows =>
    exact holds_all (.cons (holds_texts htexts) (.cons (holds_rows hrows) .nil))
  | update hconditions hdata =>
    exact holds_all (.cons (holds_pairs hconditions) (.cons (holds_pairs hdata) .nil))
  | @delete first conditions hconditions second =>
    -- a field that is not there is not written, which holds as much as a null
    have hnull : (Request.delete conditions (readValue second)).textLength
        = itemsLength [pairsJson conditions, (readValue second).getD .null] := by
      cases readValue second <;> rfl
    rw [hnull]
    exact holds_all (.cons (holds_pairs hconditions) (.cons (holds_value second) .nil))
  | search field => exact holds_all (.cons (holds_value field) .nil)
  | searchExact first second =>
    exact holds_all (.cons (holds_value first) (.cons (holds_value second) .nil))
  | error hmessage => exact holds_all (.cons (holds_message hmessage) .nil)

/-! ## The text of a value that states a request -/

/-- Every member of the value is the operation or one of its fields. -/
def onlyFields (operation : String) : Json → Bool
  | .object members => members.all fun member =>
      member.1 == operationName || ((fieldNames? operation).getD []).contains member.1
  | _ => true

/-- The characters in the names of the members. -/
def namesLength : Json → ℕ
  | .object members => (members.map fun member => member.1.length).sum
  | _ => 0

/-- A field holds what the members of its name hold. -/
theorem fieldLength_of_onlyMember? {members : List (String × Json)} {name : String}
    (h : onlyMember? members name = some field) :
    fieldLength field
      = ((members.filter fun member => member.1 = name).map
          fun member => member.2.textLength).sum := by
  rw [onlyMember?] at h
  split at h <;> rename_i hfilter <;> cases h <;> rw [hfilter] <;> rfl

/-- Members whose names are all among distinct ones may be counted name by name. -/
theorem sum_of_names {members : List (String × Json)} (count : String × Json → ℕ)
    (hnodup : names.Nodup) (hmem : ∀ member ∈ members, member.1 ∈ names) :
    (names.map fun name =>
        ((members.filter fun member => member.1 = name).map count).sum).sum
      = (members.map count).sum := by
  induction names generalizing members with
  | nil =>
    cases members with
    | nil => rfl
    | cons member _ => exact absurd (hmem member List.mem_cons_self) List.not_mem_nil
  | cons name rest ih =>
    obtain ⟨hname, hrest⟩ := List.nodup_cons.mp hnodup
    -- the members of the first name are counted apart from the others
    let others := members.filter fun member => !decide (member.1 = name)
    have hothers : ∀ member ∈ others, member.1 ∈ rest := fun member hmember => by
      obtain ⟨hin, hne⟩ := List.mem_filter.mp hmember
      exact (List.mem_cons.mp (hmem member hin)).resolve_left (by simpa using hne)
    have hsame : ∀ key ∈ rest, (members.filter fun member => member.1 = key)
        = others.filter fun member => member.1 = key := fun key hkey => by
      rw [List.filter_filter]
      refine List.filter_congr fun member _ => ?_
      by_cases hmember : member.1 = key
      · have hne : key ≠ name := fun heq => hname (heq ▸ hkey)
        simp [hmember, hne]
      · simp [hmember]
    have hsplit :=
      (List.filter_append_perm (fun member => decide (member.1 = name)) members).map count
    have hcount := ih hrest hothers
    rw [List.map_cons, List.sum_cons, ← hsplit.sum_eq, List.map_append, List.sum_append, ← hcount]
    congr 2
    exact List.map_congr_left fun key hkey => by rw [hsame key hkey]

/-- Where every member has one of the names, the values of these names are all values. -/
theorem fieldsLength_of_onlyMember? {members : List (String × Json)} (hnodup : names.Nodup)
    (hmem : ∀ member ∈ members, member.1 ∈ names)
    (h : names.mapM (onlyMember? members) = some fields) :
    fieldsLength fields = (members.map fun member => member.2.textLength).sum := by
  rw [← sum_of_names _ hnodup hmem, fieldsLength]
  have hfields := Traversal.mapM_eq_some_iff.mp h
  clear hnodup hmem h
  induction hfields with
  | nil => rfl
  | cons hfield _ ih =>
    rw [List.map_cons, List.sum_cons, List.map_cons, List.sum_cons, ih,
      fieldLength_of_onlyMember? hfield]

theorem States.textLength_eq (h : States doc operation fields)
    (honly : onlyFields operation doc = true) :
    doc.textLength = namesLength doc + operation.length + fieldsLength fields := by
  cases h with
  | @object members operation names fields hoperation hnames hfields =>
    have hmem : (operation, names) ∈ operations := mem_operations_of_fieldNames? hnames
    have hnodup : (operationName :: names).Nodup := by
      have hall : ∀ entry ∈ operations, (operationName :: entry.2).Nodup := by decide
      exact hall _ hmem
    -- the operation is read like one more field
    have hall : (operationName :: names).mapM (onlyMember? members)
        = some (some (.string operation) :: fields) := by
      simp [List.mapM_cons, hoperation, hfields]
    have hknown : ∀ member ∈ members, member.1 ∈ operationName :: names := by
      simpa [onlyFields, hnames] using honly
    have hvalues := fieldsLength_of_onlyMember? hnodup hknown hall
    rw [Json.textLength, membersLength_eq_sum, List.sum_map_add, ← hvalues, namesLength,
      Nat.add_assoc]
    rfl
  | @array operation items names hnames hlength =>
    have hgiven : fieldsLength (items.map some) = itemsLength items := by
      rw [fieldsLength, List.map_map, itemsLength_eq_sum]
      rfl
    have hmissing (n : ℕ) : fieldsLength (List.replicate n none) = 0 := by
      simp [fieldsLength, fieldLength]
    have happend (front back : List (Option Json)) :
        fieldsLength (front ++ back) = fieldsLength front + fieldsLength back := by
      simp [fieldsLength]
    have hnone : namesLength (.array (.string operation :: items)) = 0 := rfl
    rw [happend, hgiven, hmissing, Json.textLength, itemsLength, Json.textLength, hnone]
    omega

theorem distinctNames_of_mem_items {items : List Json} (h : distinctNamesItems items = true)
    (hmem : value ∈ items) : value.distinctNames = true := by
  induction items with
  | nil => cases hmem
  | cons item rest ih =>
    rw [distinctNamesItems, Bool.and_eq_true] at h
    rcases List.mem_cons.mp hmem with rfl | hmem
    · exact h.1
    · exact ih h.2 hmem

theorem distinctNames_of_mem_members {members : List (String × Json)} {member : String × Json}
    (h : distinctNamesMembers members = true) (hmem : member ∈ members) :
    member.2.distinctNames = true := by
  induction members with
  | nil => cases hmem
  | cons first rest ih =>
    rw [distinctNamesMembers, Bool.and_eq_true] at h
    rcases List.mem_cons.mp hmem with rfl | hmem
    · exact h.1
    · exact ih h.2 hmem

theorem mem_of_onlyMember? {members : List (String × Json)} {name : String}
    (h : onlyMember? members name = some (some value)) : (name, value) ∈ members := by
  rw [onlyMember?] at h
  split at h
  · cases h
  · next member hfilter =>
    cases h
    have hmem : member ∈ members.filter fun member => member.1 = name := by
      rw [hfilter]
      exact List.mem_singleton_self member
    obtain ⟨hin, hname⟩ := List.mem_filter.mp hmem
    rwa [← of_decide_eq_true hname]
  · cases h

/-- The fields are parts of the value. -/
theorem States.distinctNames (h : States doc operation fields)
    (hdistinct : doc.distinctNames = true) : ∀ field ∈ fields, DistinctNames field := by
  rintro field hfield value rfl
  cases h with
  | object hoperation hnames hfields =>
    rw [Json.distinctNames, Bool.and_eq_true] at hdistinct
    obtain ⟨name, -, hname⟩ :=
      Traversal.exists_of_mem_forall₂ (Traversal.mapM_eq_some_iff.mp hfields) hfield
    exact distinctNames_of_mem_members hdistinct.2 (mem_of_onlyMember? hname)
  | array hnames hlength =>
    rw [Json.distinctNames, distinctNamesItems, Bool.and_eq_true] at hdistinct
    rcases List.mem_append.mp hfield with hgiven | hmissing
    · obtain ⟨item, hitem, ⟨⟩⟩ := List.mem_map.mp hgiven
      exact distinctNames_of_mem_items hdistinct.2 hitem
    · cases List.eq_of_mem_replicate hmissing

end Request
end TableShell
