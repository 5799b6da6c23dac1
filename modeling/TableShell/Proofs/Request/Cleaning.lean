import TableShell.Proofs.Json.RepairedValue
import TableShell.Proofs.Request.Stated

/-!
# Replies that need no cleaning

A reply that states a request as it stands is no code fence, but it may hold the word for an
undefined value behind a colon, inside a string; there null is written into the string. So the
cleaned reply states a request of the same operation, in which such strings are repaired
(`read_eq_ok_iff_of_accepted`). Without such a run the request is the same. With one it is another
request if all text of the reply counts: if no member is ignored and no name repeated.
-/

namespace TableShell

/-! ## Requests of repaired values -/

namespace Json

open Reply

variable {value' : Json}

theorem MemberRepaired.refl (member : String × Json) : MemberRepaired member member :=
  .mk (Repaired.refl _) (.same _)

theorem ValueRepaired.exists_string {s : String} (h : ValueRepaired (.string s) value') :
    ∃ s', value' = .string s' ∧ Repaired s.toList s'.toList := by
  cases h with
  | same => exact ⟨s, rfl, Repaired.refl _⟩
  | string repaired => exact ⟨_, rfl, repaired⟩

theorem ValueRepaired.string_eq {s : String} (h : ValueRepaired (.string s) value')
    (hcolon : ':' ∉ s.toList) : value' = .string s := by
  obtain ⟨s', rfl, hrepaired⟩ := h.exists_string
  rw [String.toList_inj.mp (hrepaired.eq_of_no_colon hcolon)]

theorem ValueRepaired.exists_array {items : List Json} (h : ValueRepaired (.array items) value') :
    ∃ items', value' = .array items' ∧ List.Forall₂ ValueRepaired items items' := by
  cases h with
  | same => exact ⟨items, rfl, List.forall₂_same.mpr fun item _ => .same item⟩
  | array hitems => exact ⟨_, rfl, hitems⟩

theorem ValueRepaired.exists_object {members : List (String × Json)}
    (h : ValueRepaired (.object members) value') :
    ∃ members', value' = .object members' ∧ List.Forall₂ MemberRepaired members members' := by
  cases h with
  | same => exact ⟨members, rfl, List.forall₂_same.mpr fun member _ => .refl member⟩
  | object hmembers => exact ⟨_, rfl, hmembers⟩

/-- A name without a colon is not repaired, and no name becomes one. -/
theorem MemberRepaired.name_eq_iff {member member' : String × Json} {name : String}
    (h : MemberRepaired member member') (hname : ':' ∉ name.toList) :
    member.1 = name ↔ member'.1 = name := by
  obtain ⟨hrepaired, -⟩ := h
  constructor
  · rintro rfl
    exact String.toList_inj.mp (hrepaired.eq_of_no_colon hname)
  · rintro rfl
    have hcolon := hrepaired.colon_mem_iff.not.mp hname
    exact String.toList_inj.mp (hrepaired.eq_of_no_colon hcolon).symm

end Json

namespace Request

open Json Reply

variable {operation : String} {names : List String} {fields fields' : List (Option Json)}
  {field field' : Option Json} {doc doc' : Json} {request : Request}

theorem no_colon_of_fieldNames? (h : fieldNames? operation = some names) :
    ':' ∉ operation.toList ∧ ∀ name ∈ operationName :: names, ':' ∉ name.toList := by
  have hall : ∀ entry ∈ operations,
      ':' ∉ entry.1.toList ∧ ∀ name ∈ operationName :: entry.2, ':' ∉ name.toList := by decide
  exact hall _ (mem_operations_of_fieldNames? h)

theorem exists_onlyMember?_of_repaired {members members' : List (String × Json)} {name : String}
    (hmembers : List.Forall₂ MemberRepaired members members') (hname : ':' ∉ name.toList)
    (h : onlyMember? members name = some field) :
    ∃ field', onlyMember? members' name = some field' ∧ Option.Rel ValueRepaired field field' := by
  have hfilter : List.Forall₂ MemberRepaired (members.filter fun member => member.1 = name)
      (members'.filter fun member => member.1 = name) :=
    List.rel_filter (fun _ _ hmember => by simpa using hmember.name_eq_iff hname) hmembers
  rw [onlyMember?] at h ⊢
  generalize (members.filter fun member => member.1 = name) = found at hfilter h
  generalize (members'.filter fun member => member.1 = name) = found' at hfilter ⊢
  cases hfilter with
  | nil =>
    cases h
    exact ⟨none, rfl, .none⟩
  | cons hmember hrest =>
    cases hrest with
    | nil =>
      cases h
      obtain ⟨-, hvalue⟩ := hmember
      exact ⟨_, rfl, .some hvalue⟩
    | cons _ _ => cases h

/-- Strings stay strings and arrays stay arrays, so what could be read can be read. -/
theorem exists_pairs_of_repaired {data : OrderedMap Json}
    (hfield : Option.Rel ValueRepaired field field') (h : readPairs? field = some data) :
    ∃ data', readPairs? field' = some data' := by
  cases hfield with
  | none => exact ⟨data, h⟩
  | @some value _ hvalue =>
    cases value with
    | object members =>
      obtain ⟨members', rfl, -⟩ := hvalue.exists_object
      exact ⟨_, rfl⟩
    | _ => cases h

theorem exists_texts_of_repaired {texts : List String}
    (hfield : Option.Rel ValueRepaired field field') (h : readTexts? field = some texts) :
    ∃ texts', readTexts? field' = some texts' := by
  cases hfield with
  | none => exact ⟨texts, h⟩
  | some hvalue =>
    obtain ⟨items, hitems, htexts⟩ := Option.bind_eq_some_iff.mp h
    cases eq_array_of_readItems? hitems
    obtain ⟨items', rfl, hitems'⟩ := hvalue.exists_array
    have hstep (item item' : Json) (s : String) (hitem : ValueRepaired item item')
        (hs : readText? item = some s) : ∃ s', readText? item' = some s' ∧ True := by
      cases eq_string_of_readText? hs
      obtain ⟨s', rfl, -⟩ := hitem.exists_string
      exact ⟨s', rfl, trivial⟩
    obtain ⟨texts', htexts', -⟩ := Traversal.exists_mapM_of_forall₂ hstep hitems' htexts
    exact ⟨texts', htexts'⟩

theorem exists_rows_of_repaired {rows : List (List Json)}
    (hfield : Option.Rel ValueRepaired field field') (h : readRows? field = some rows) :
    ∃ rows', readRows? field' = some rows' := by
  cases hfield with
  | none => exact ⟨rows, h⟩
  | some hvalue =>
    obtain ⟨items, hitems, hrows⟩ := Option.bind_eq_some_iff.mp h
    cases eq_array_of_readItems? hitems
    obtain ⟨items', rfl, hitems'⟩ := hvalue.exists_array
    have hstep (item item' : Json) (row : List Json) (hitem : ValueRepaired item item')
        (hrow : (readItems? item).map (fun row => row.map Json.canonical) = some row) :
        ∃ row', (readItems? item').map (fun row => row.map Json.canonical) = some row' ∧ True := by
      obtain ⟨raw, hraw, -⟩ := Option.map_eq_some_iff.mp hrow
      cases eq_array_of_readItems? hraw
      obtain ⟨raw', rfl, -⟩ := hitem.exists_array
      exact ⟨_, rfl, trivial⟩
    obtain ⟨rows', hrows', -⟩ := Traversal.exists_mapM_of_forall₂ hstep hitems' hrows
    exact ⟨rows', hrows'⟩

theorem exists_message_of_repaired {message : Option String}
    (hfield : Option.Rel ValueRepaired field field') (h : readMessage? field = some message) :
    ∃ message', readMessage? field' = some message' := by
  cases hfield with
  | none => exact ⟨message, h⟩
  | @some value _ hvalue =>
    cases value with
    | null =>
      cases hvalue
      exact ⟨message, h⟩
    | string s =>
      obtain ⟨s', rfl, -⟩ := hvalue.exists_string
      exact ⟨_, rfl⟩
    | _ => cases h

/-- An operation that takes its fields takes them when they are repaired. -/
theorem exists_takes_of_repaired (hfields : List.Forall₂ (Option.Rel ValueRepaired) fields fields')
    (h : Takes operation fields request) : ∃ request', Takes operation fields' request' := by
  cases h with
  | list =>
    cases hfields
    exact ⟨_, .list⟩
  | columns =>
    cases hfields
    exact ⟨_, .columns⟩
  | add hdata =>
    obtain ⟨_, _, hfirst, ⟨⟩, rfl⟩ := List.forall₂_cons_left_iff.mp hfields
    obtain ⟨data', hdata'⟩ := exists_pairs_of_repaired hfirst hdata
    exact ⟨_, .add hdata'⟩
  | addBatch htexts hrows =>
    obtain ⟨_, _, hfirst, hrest, rfl⟩ := List.forall₂_cons_left_iff.mp hfields
    obtain ⟨_, _, hsecond, ⟨⟩, rfl⟩ := List.forall₂_cons_left_iff.mp hrest
    obtain ⟨texts', htexts'⟩ := exists_texts_of_repaired hfirst htexts
    obtain ⟨rows', hrows'⟩ := exists_rows_of_repaired hsecond hrows
    exact ⟨_, .addBatch htexts' hrows'⟩
  | update hconditions hdata =>
    obtain ⟨_, _, hfirst, hrest, rfl⟩ := List.forall₂_cons_left_iff.mp hfields
    obtain ⟨_, _, hsecond, ⟨⟩, rfl⟩ := List.forall₂_cons_left_iff.mp hrest
    obtain ⟨conditions', hconditions'⟩ := exists_pairs_of_repaired hfirst hconditions
    obtain ⟨data', hdata'⟩ := exists_pairs_of_repaired hsecond hdata
    exact ⟨_, .update hconditions' hdata'⟩
  | delete hconditions second =>
    obtain ⟨_, _, hfirst, hrest, rfl⟩ := List.forall₂_cons_left_iff.mp hfields
    obtain ⟨second', _, -, ⟨⟩, rfl⟩ := List.forall₂_cons_left_iff.mp hrest
    obtain ⟨conditions', hconditions'⟩ := exists_pairs_of_repaired hfirst hconditions
    exact ⟨_, .delete hconditions' second'⟩
  | search field =>
    obtain ⟨field', _, -, ⟨⟩, rfl⟩ := List.forall₂_cons_left_iff.mp hfields
    exact ⟨_, .search field'⟩
  | searchExact first second =>
    obtain ⟨first', _, -, hrest, rfl⟩ := List.forall₂_cons_left_iff.mp hfields
    obtain ⟨second', _, -, ⟨⟩, rfl⟩ := List.forall₂_cons_left_iff.mp hrest
    exact ⟨_, .searchExact first' second'⟩
  | error hmessage =>
    obtain ⟨_, _, hfirst, ⟨⟩, rfl⟩ := List.forall₂_cons_left_iff.mp hfields
    obtain ⟨message', hmessage'⟩ := exists_message_of_repaired hfirst hmessage
    exact ⟨_, .error hmessage'⟩

/-- A repaired value names the same operation, and its fields are repaired. -/
theorem exists_states_of_repaired (hdoc : ValueRepaired doc doc')
    (h : States doc operation fields) :
    ∃ fields', States doc' operation fields' ∧
      List.Forall₂ (Option.Rel ValueRepaired) fields fields' := by
  cases h with
  | @object members _ names _ hoperation hnames hfields =>
    obtain ⟨hcolon, hcolons⟩ := no_colon_of_fieldNames? hnames
    obtain ⟨hname, hrest⟩ := List.forall_mem_cons.mp hcolons
    obtain ⟨members', rfl, hmembers⟩ := hdoc.exists_object
    have hstep (name name' : String) (field : Option Json)
        (hsame : name = name' ∧ ':' ∉ name.toList)
        (hfield : onlyMember? members name = some field) :
        ∃ field', onlyMember? members' name' = some field' ∧
          Option.Rel ValueRepaired field field' := by
      obtain ⟨rfl, hcolon⟩ := hsame
      exact exists_onlyMember?_of_repaired hmembers hcolon hfield
    obtain ⟨fields', hfields', hrepaired⟩ := Traversal.exists_mapM_of_forall₂ hstep
      (List.forall₂_same.mpr fun name hmem => ⟨rfl, hrest name hmem⟩) hfields
    obtain ⟨_, hoperation', hvalue⟩ := exists_onlyMember?_of_repaired hmembers hname hoperation
    cases hvalue with
    | some hvalue =>
      rw [hvalue.string_eq hcolon] at hoperation'
      exact ⟨fields', .object hoperation' hnames hfields', hrepaired⟩
  | @array _ items names hnames hlength =>
    obtain ⟨hcolon, -⟩ := no_colon_of_fieldNames? hnames
    obtain ⟨_, rfl, hall⟩ := hdoc.exists_array
    obtain ⟨_, items', hfirst, hitems, rfl⟩ := List.forall₂_cons_left_iff.mp hall
    rw [hfirst.string_eq hcolon]
    have hgiven : List.Forall₂ (Option.Rel ValueRepaired) (items.map some) (items'.map some) :=
      List.rel_map (fun _ _ => Option.Rel.some) hitems
    have hmissing (n : ℕ) : List.Forall₂ (Option.Rel ValueRepaired)
        (List.replicate n none) (List.replicate n none) :=
      List.forall₂_same.mpr fun field hfield => List.eq_of_mem_replicate hfield ▸ .none
    refine ⟨_, .array hnames (hitems.length_eq ▸ hlength), ?_⟩
    rw [hitems.length_eq]
    exact List.rel_append hgiven (hmissing _)

/-- A repaired value states a request of the same operation. -/
theorem exists_request_of_repaired (hdoc : ValueRepaired doc doc')
    (h : ofJson? doc = some request) :
    ∃ request', ofJson? doc' = some request' ∧ request'.fields.1 = request.fields.1 := by
  obtain ⟨operation, fields, hstates, htakes⟩ := ofJson?_eq_some_iff.mp h
  obtain ⟨fields', hstates', hfields⟩ := exists_states_of_repaired hdoc hstates
  obtain ⟨request', htakes'⟩ := exists_takes_of_repaired hfields htakes
  refine ⟨request', ofJson?_eq_some_iff.mpr ⟨operation, fields', hstates', htakes'⟩, ?_⟩
  rw [htakes'.operation_eq, htakes.operation_eq]

/-- Where every member is a field of the operation, no name is repaired. -/
theorem onlyFields_of_repaired (hdoc : ValueRepaired doc doc')
    (hnames : fieldNames? operation = some names) (honly : onlyFields operation doc = true) :
    onlyFields operation doc' = true ∧ namesLength doc' = namesLength doc := by
  cases hdoc with
  | same => exact ⟨honly, rfl⟩
  | string => exact ⟨rfl, rfl⟩
  | array => exact ⟨rfl, rfl⟩
  | @object members members' hmembers =>
    have hcolons := (no_colon_of_fieldNames? hnames).2
    -- only a name with a colon could be another one, and no field has such a name
    have hsame : members'.map Prod.fst = members.map Prod.fst := by
      induction hmembers with
      | nil => rfl
      | @cons member member' _ _ hmember _ ih =>
        simp only [onlyFields, hnames, List.all_cons, Bool.and_eq_true] at honly ih
        have hknown : member.1 ∈ operationName :: names := by simpa using honly.1
        have hname := (hmember.name_eq_iff (hcolons _ hknown)).mp rfl
        rw [List.map_cons, List.map_cons, ih honly.2, hname]
    have hall (members : List (String × Json)) : onlyFields operation (.object members)
        = (members.map Prod.fst).all fun name =>
            name == operationName || ((fieldNames? operation).getD []).contains name := by
      rw [List.all_map]
      rfl
    have hlength (members : List (String × Json)) :
        namesLength (.object members) = ((members.map Prod.fst).map String.length).sum := by
      rw [List.map_map]
      rfl
    rw [hall, hlength, hsame, ← hall, ← hlength]
    exact ⟨honly, rfl⟩

/-- A request that keeps all the text of its value is another one when that value gets shorter. -/
theorem ne_of_textLength_lt {request' : Request} (hdoc : ValueRepaired doc doc')
    (hlt : doc'.textLength < doc.textLength) (h : ofJson? doc = some request)
    (h' : ofJson? doc' = some request') (hdistinct : doc.distinctNames = true)
    (honly : onlyFields request.fields.1 doc = true) : request' ≠ request := by
  rintro rfl
  obtain ⟨operation, fields, hstates, htakes⟩ := ofJson?_eq_some_iff.mp h
  obtain ⟨operation', fields', hstates', htakes'⟩ := ofJson?_eq_some_iff.mp h'
  have hsame : operation' = operation := htakes'.operation_eq.symm.trans htakes.operation_eq
  subst hsame
  obtain ⟨names, hnames, -⟩ := hstates.exists_names
  rw [htakes.operation_eq] at honly
  obtain ⟨honly', hnamesLength⟩ := onlyFields_of_repaired hdoc hnames honly
  -- names and operation are the same, so the shorter value has less text in its fields
  have hlength := hstates.textLength_eq honly
  have hlength' := hstates'.textLength_eq honly'
  have hkept := htakes.textLength_spec.2 (hstates.distinctNames hdistinct)
  have hheld := htakes'.textLength_spec.1
  omega

end Request

/-! ## Cleaning -/

namespace Reply

open Text Json

variable {reply : String} {doc : Json} {request : Request}

/-- A text that begins with no backtick does not begin like a code fence. -/
theorem withoutFence_of_head {cs : List Char} (h : '`' ∉ (trimChars cs).head?) :
    withoutFence cs = trimChars cs := by
  have hfence : fenceStarts.findSome? (fun start => dropPrefix? start.toList (trimChars cs))
      = none := by
    cases htrimmed : trimChars cs with
    | nil => rfl
    | cons c rest =>
      have hc : '`' ≠ c := by
        rintro rfl
        exact h (htrimmed ▸ rfl)
      simp [fenceStarts, dropPrefix?, hc]
  rw [withoutFence, hfence]

/-- No token begins with a backtick. -/
theorem not_mem_head?_of_tokens {cs : List Char} {tokens : List Token}
    (h : Json.tokens cs = some tokens) : '`' ∉ cs.head? := by
  cases cs with
  | nil => exact nofun
  | cons c rest =>
    rintro ⟨⟩
    obtain ⟨out, next, more, hstep, -, -⟩ := tokensFrom_cons_eq_some_iff.mp h
    cases hstep

theorem withoutFence_of_tokens {cs : List Char} {tokens : List Token}
    (h : Json.tokens cs = some tokens) : withoutFence cs = trimChars cs :=
  withoutFence_of_head (not_mem_head?_of_tokens (tokens_trimChars h))

/-- Cleaning a text that holds a value leaves a value. If null was written somewhere in the text,
it was written into a string, and the value is shorter. -/
theorem exists_value_of_clean (h : Json.read? reply = some doc) :
    ∃ doc', Json.read? (clean reply) = some doc' ∧ ValueRepaired doc doc' ∧
      (HasUndefined reply.toList → doc'.textLength < doc.textLength) ∧
      (¬ HasUndefined reply.toList → doc' = doc) := by
  obtain ⟨tokens, htokens, hvalue⟩ := Option.bind_eq_some_iff.mp h
  have hclean : clean reply = .ofList (nullFor 0 (trimChars reply.toList)) := by
    rw [clean, withoutFence_of_tokens htokens]
  have htrim : Json.read? (trim reply) = some doc := by
    rw [Json.read?, toList_trim, tokens_trimChars htokens, Option.bind_some, hvalue]
  -- trimming changes no token, so the value may be repaired from the trimmed text
  have hrepaired : Repaired (trim reply).toList (clean reply).toList := by
    rw [hclean, toList_trim, String.toList_ofList]
    exact repaired_nullFor _
  obtain ⟨doc', hdoc', hvalues, hlength⟩ := exists_read?_of_repaired hrepaired htrim
  refine ⟨doc', hdoc', hvalues, fun hundefined => ?_, fun hundefined => ?_⟩
  · have hlt := length_nullFor_lt (hasUndefined_trimChars_iff.mpr hundefined)
    rw [hclean, String.length_ofList, ← String.length_toList, toList_trim] at hlength
    omega
  · rw [← hasUndefined_trimChars_iff] at hundefined
    rw [hclean, nullFor_eq_self hundefined, ← trim, htrim] at hdoc'
    exact (Option.some.inj hdoc').symm

theorem read_eq_ok_iff_clean :
    read reply = .ok request ↔ Request.read? (clean reply) = some request := by
  delta read
  cases Request.read? (clean reply) with
  | none => exact iff_of_false nofun nofun
  | some found => rw [Except.ok.injEq, Option.some.injEq]

/-- A reply that needs no cleaning gives the request that it states exactly if its value, with the
strings repaired into which null is written, still states that request. This value is the same
exactly if no run is replaced. The operation is always the same. -/
theorem read_eq_ok_iff_of_accepted (h : Request.read? reply = some request) :
    ∃ doc doc', Json.read? reply = some doc ∧ Json.read? (clean reply) = some doc' ∧
      ValueRepaired doc doc' ∧ (doc' = doc ↔ ¬ HasUndefined reply.toList) ∧
      (∃ cleaned, read reply = .ok cleaned ∧ cleaned.fields.1 = request.fields.1) ∧
      (read reply = .ok request ↔ Request.ofJson? doc' = some request) ∧
      (¬ HasUndefined reply.toList → read reply = .ok request) ∧
      (doc.distinctNames = true → Request.onlyFields request.fields.1 doc = true →
        (read reply = .ok request ↔ ¬ HasUndefined reply.toList)) := by
  obtain ⟨doc, hdoc, hrequest⟩ := Option.bind_eq_some_iff.mp h
  obtain ⟨doc', hdoc', hvalues, hshorter, hsame⟩ := exists_value_of_clean hdoc
  obtain ⟨cleaned, hcleaned, hoperation⟩ := Request.exists_request_of_repaired hvalues hrequest
  have hiff (result : Request) : read reply = .ok result ↔ Request.ofJson? doc' = some result := by
    rw [read_eq_ok_iff_clean, Request.read?, hdoc', Option.bind_some]
  have hkeeps (hundefined : ¬ HasUndefined reply.toList) : read reply = .ok request := by
    rw [hiff, hsame hundefined, hrequest]
  refine ⟨doc, doc', hdoc, hdoc', hvalues, ⟨?_, hsame⟩,
    ⟨cleaned, (hiff cleaned).mpr hcleaned, hoperation⟩, hiff request, hkeeps, ?_⟩
  · rintro rfl hundefined
    exact absurd (hshorter hundefined) (Nat.lt_irrefl _)
  · intro hdistinct honly
    refine ⟨fun hok hundefined => ?_, hkeeps⟩
    exact Request.ne_of_textLength_lt hvalues (hshorter hundefined) hrequest ((hiff _).mp hok)
      hdistinct honly rfl

set_option maxRecDepth 2048 in
/-- A keyword with the word and with the opening of a code fence, but without a colon. -/
theorem read_eq_ok_of_fence_in_keyword :
    let reply := "\x7b\"operation\":\"search\",\"keyword\":\"```json undefined\"\x7d"
    let request := Request.search (some (.string "```json undefined"))
    Request.read? reply = some request ∧ ¬ HasUndefined reply.toList ∧
      read reply = .ok request := by
  intro reply request
  have hvalue : Json.read? reply = some (.object [("operation", .string "search"),
      ("keyword", .string "```json undefined")]) := by
    unfold reply
    rfl
  have haccepted : Request.read? reply = some request := Request.read?_of_value hvalue rfl
  have hkept : nullFor 0 reply.toList = reply.toList := by decide +kernel
  have hundefined : ¬ HasUndefined reply.toList := fun hrun =>
    absurd (congrArg List.length hkept) (Nat.ne_of_lt (length_nullFor_lt hrun))
  obtain ⟨_, _, -, -, -, -, -, -, hkeeps, -⟩ := read_eq_ok_iff_of_accepted haccepted
  exact ⟨haccepted, hundefined, hkeeps hundefined⟩

set_option maxRecDepth 2048 in
/-- A keyword in which the word stands behind a colon is searched for as another one. -/
theorem keyword_with_undefined_rewritten :
    let reply := "\x7b\"operation\":\"search\",\"keyword\":\"a: undefined\"\x7d"
    Request.read? reply = some (.search (some (.string "a: undefined"))) ∧
      read reply = .ok (.search (some (.string "a: null"))) ∧
      read reply ≠ .ok (.search (some (.string "a: undefined"))) := by
  intro reply
  let cleaned := "\x7b\"operation\":\"search\",\"keyword\":\"a: null\"\x7d"
  have hvalue : Json.read? reply = some (.object [("operation", .string "search"),
      ("keyword", .string "a: undefined")]) := by
    unfold reply
    rfl
  have haccepted : Request.read? reply = some (.search (some (.string "a: undefined"))) :=
    Request.read?_of_value hvalue rfl
  have hclean : clean reply = cleaned := by decide +kernel
  have hcleaned : Json.read? cleaned = some (.object [("operation", .string "search"),
      ("keyword", .string "a: null")]) := by
    unfold cleaned
    rfl
  have hrequest : Request.read? cleaned = some (.search (some (.string "a: null"))) :=
    Request.read?_of_value hcleaned rfl
  have hread : read reply = .ok (.search (some (.string "a: null"))) := by
    rw [read_eq_ok_iff_clean, hclean, hrequest]
  refine ⟨haccepted, hread, ?_⟩
  simp [hread]

end Reply
end TableShell
