import Mathlib.Algebra.BigOperators.Group.List.Basic
import Mathlib.Algebra.GroupWithZero.Nat
import Mathlib.Data.List.Nodup
import Mathlib.Tactic.Common
import TableShell.Json.Reader

/-!
# How much text a JSON value holds

`textLength` counts the characters of all strings in a value, names of members among them. Putting
tokens together loses none of their text (`textLength_of_ofTokens?`). Sorting the members of objects
may lose some, for of equal names only the last is kept (`textLength_canonical_le`); where no object
repeats a name, it loses none either (`textLength_canonical`).
-/

namespace TableShell
namespace Json

mutual

/-- The number of characters in the strings of a value. -/
def textLength : Json → ℕ
  | null => 0
  | bool _ => 0
  | integer _ => 0
  | float _ => 0
  | string s => s.length
  | array items => itemsLength items
  | object members => membersLength members

/-- The number of characters in the strings of the items. -/
def itemsLength : List Json → ℕ
  | [] => 0
  | item :: rest => textLength item + itemsLength rest

/-- The number of characters in the names and the values of the members. -/
def membersLength : List (String × Json) → ℕ
  | [] => 0
  | (name, value) :: rest => name.length + textLength value + membersLength rest

end

theorem itemsLength_eq_sum (items : List Json) :
    itemsLength items = (items.map textLength).sum := by
  induction items with
  | nil => simp [itemsLength]
  | cons item rest ih => rw [itemsLength, ih, List.map_cons, List.sum_cons]

theorem membersLength_eq_sum (members : List (String × Json)) :
    membersLength members
      = (members.map fun member => member.1.length + textLength member.2).sum := by
  induction members with
  | nil => simp [membersLength]
  | cons member rest ih => rw [membersLength, ih, List.map_cons, List.sum_cons]

@[simp] theorem itemsLength_reverse (items : List Json) :
    itemsLength items.reverse = itemsLength items := by
  rw [itemsLength_eq_sum, itemsLength_eq_sum, List.map_reverse, List.sum_reverse]

@[simp] theorem membersLength_reverse (members : List (String × Json)) :
    membersLength members.reverse = membersLength members := by
  rw [membersLength_eq_sum, membersLength_eq_sum, List.map_reverse, List.sum_reverse]

/-! ## Reading -/

section Reading

variable {state state' : ReadState} {token : Token}

/-- What one token does. -/
inductive Reads : ReadState → Token → ReadState → Prop
  | value {stack : List Frame} {token : Token} {state : ReadState}
      (begins : beginValue stack token = some state) : Reads (.value stack) token state
  | emptyArray (stack : List Frame) :
      Reads (.firstItem stack) .endArray (supply (.array []) stack)
  | firstItem {stack : List Frame} {token : Token} {state : ReadState}
      (begins : beginValue (.array [] :: stack) token = some state) :
      Reads (.firstItem stack) token state
  | name (members : List (String × Json)) (stack : List Frame) (name : String) :
      Reads (.name members stack) (.string name) (.colon members name stack)
  | emptyObject (stack : List Frame) :
      Reads (.firstName stack) .endObject (supply (.object []) stack)
  | firstName (stack : List Frame) (name : String) :
      Reads (.firstName stack) (.string name) (.colon [] name stack)
  | colon (members : List (String × Json)) (name : String) (stack : List Frame) :
      Reads (.colon members name stack) .colon (.value (.member members name :: stack))
  | nextItem (items : List Json) (stack : List Frame) :
      Reads (.next (.array items :: stack)) .comma (.value (.array items :: stack))
  | endArray (items : List Json) (stack : List Frame) :
      Reads (.next (.array items :: stack)) .endArray (supply (.array items.reverse) stack)
  | nextMember (members : List (String × Json)) (stack : List Frame) :
      Reads (.next (.object members :: stack)) .comma (.name members stack)
  | endObject (members : List (String × Json)) (stack : List Frame) :
      Reads (.next (.object members :: stack)) .endObject (supply (.object members.reverse) stack)

theorem readToken_eq_some_iff : readToken state token = some state' ↔ Reads state token state' := by
  constructor
  · intro h
    fun_cases readToken state token
    case case1 => exact .value h
    case case2 => cases h; exact .emptyArray _
    case case3 hfirst => exact .firstItem (by rwa [readToken] at h; exact hfirst)
    case case12 => simp_all [readToken]
    all_goals cases h; constructor
  · intro h
    cases h with
    | value begins => exact begins
    | firstItem begins =>
      rw [readToken]
      · exact begins
      · rintro rfl
        cases begins
    | _ => rfl

end Reading

/-- The characters in the strings of a token. -/
def Token.textLength : Token → ℕ
  | .string s => s.length
  | .atom value => value.textLength
  | _ => 0

/-- The characters in the strings of the tokens. -/
def tokensLength (tokens : List Token) : ℕ :=
  (tokens.map Token.textLength).sum

/-- The characters in the strings that an open array or object holds. -/
def Frame.textLength : Frame → ℕ
  | .array items => itemsLength items
  | .object members => membersLength members
  | .member members name => membersLength members + name.length

/-- The characters in the strings that the open arrays and objects hold. -/
def stackLength (stack : List Frame) : ℕ :=
  (stack.map Frame.textLength).sum

/-- The characters in the strings that were read. -/
def ReadState.textLength : ReadState → ℕ
  | .value stack => stackLength stack
  | .firstItem stack => stackLength stack
  | .name members stack => membersLength members + stackLength stack
  | .firstName stack => stackLength stack
  | .colon members key stack => membersLength members + key.length + stackLength stack
  | .next stack => stackLength stack
  | .done json => json.textLength

/-- The array or object can take a value: it is no object that has no name for it. -/
def Frame.Waits : Frame → Prop
  | .array _ => True
  | .object _ => False
  | .member _ _ => True

/-- Everything around what is being read can take a value. -/
def ReadState.Waits : ReadState → Prop
  | .value stack => ∀ frame ∈ stack, frame.Waits
  | .firstItem stack => ∀ frame ∈ stack, frame.Waits
  | .name _ stack => ∀ frame ∈ stack, frame.Waits
  | .firstName stack => ∀ frame ∈ stack, frame.Waits
  | .colon _ _ stack => ∀ frame ∈ stack, frame.Waits
  -- the innermost array or object waits for a comma
  | .next stack => ∀ frame ∈ stack.tail, frame.Waits
  | .done _ => True

/-- A value that is complete adds its text to that of the frame that takes it. -/
theorem supply_spec (value : Json) {stack : List Frame} (h : ∀ frame ∈ stack, frame.Waits) :
    (supply value stack).Waits ∧
      (supply value stack).textLength = value.textLength + stackLength stack := by
  cases stack with
  | nil => exact ⟨trivial, rfl⟩
  | cons frame stack =>
    have hframe := h frame List.mem_cons_self
    have hstack : ∀ outer ∈ stack, outer.Waits := fun outer hmem =>
      h outer (List.mem_cons_of_mem frame hmem)
    cases frame with
    | array items =>
      refine ⟨hstack, ?_⟩
      simp only [supply, ReadState.textLength, stackLength, List.map_cons, List.sum_cons,
        Frame.textLength, itemsLength]
      omega
    -- an object takes its next value with the name before it
    | object members => exact hframe.elim
    | member members name =>
      refine ⟨hstack, ?_⟩
      simp only [supply, ReadState.textLength, stackLength, List.map_cons, List.sum_cons,
        Frame.textLength, membersLength]
      omega

theorem beginValue_spec {stack : List Frame} {token : Token} {state : ReadState}
    (h : beginValue stack token = some state) (hwaits : ∀ frame ∈ stack, frame.Waits) :
    state.Waits ∧ state.textLength = stackLength stack + token.textLength := by
  cases token with
  | atom value =>
    cases h
    obtain ⟨hstate, hlength⟩ := supply_spec value hwaits
    exact ⟨hstate, hlength.trans (Nat.add_comm _ _)⟩
  | string s =>
    cases h
    obtain ⟨hstate, hlength⟩ := supply_spec (.string s) hwaits
    exact ⟨hstate, hlength.trans (Nat.add_comm _ _)⟩
  | beginArray =>
    obtain ⟨-, ⟨⟩⟩ := Option.ite_none_right_eq_some.mp h
    exact ⟨hwaits, rfl⟩
  | beginObject =>
    obtain ⟨-, ⟨⟩⟩ := Option.ite_none_right_eq_some.mp h
    exact ⟨hwaits, rfl⟩
  | endArray => cases h
  | endObject => cases h
  | colon => cases h
  | comma => cases h

/-- A token adds its own text to what was read. -/
theorem readToken_spec {state state' : ReadState} {token : Token}
    (h : readToken state token = some state') (hwaits : state.Waits) :
    state'.Waits ∧ state'.textLength = state.textLength + token.textLength := by
  have hframe {frame : Frame} {stack : List Frame} (hframe : frame.Waits)
      (hstack : ∀ outer ∈ stack, outer.Waits) : ∀ outer ∈ frame :: stack, outer.Waits :=
    List.forall_mem_cons.mpr ⟨hframe, hstack⟩
  cases readToken_eq_some_iff.mp h with
  | value begins => exact beginValue_spec begins hwaits
  | @firstItem stack _ _ begins =>
    have hempty : stackLength (.array [] :: stack) = stackLength stack := by
      rw [stackLength, List.map_cons, List.sum_cons, Frame.textLength, itemsLength, Nat.zero_add,
        stackLength]
    have hspec := beginValue_spec begins (hframe trivial hwaits)
    rwa [hempty] at hspec
  | emptyArray stack =>
    obtain ⟨hstate, hlength⟩ := supply_spec (.array []) hwaits
    exact ⟨hstate, hlength.trans (Nat.add_comm _ _)⟩
  | emptyObject stack =>
    obtain ⟨hstate, hlength⟩ := supply_spec (.object []) hwaits
    exact ⟨hstate, hlength.trans (Nat.add_comm _ _)⟩
  | name members stack name =>
    refine ⟨hwaits, ?_⟩
    simp only [ReadState.textLength, Token.textLength]
    omega
  | firstName stack name =>
    refine ⟨hwaits, ?_⟩
    simp only [ReadState.textLength, Token.textLength, membersLength]
    omega
  | colon members name stack => exact ⟨hframe trivial hwaits, rfl⟩
  | nextItem items stack => exact ⟨hframe trivial hwaits, rfl⟩
  | nextMember members stack => exact ⟨hwaits, rfl⟩
  | endArray items stack =>
    obtain ⟨hstate, hlength⟩ := supply_spec (.array items.reverse) hwaits
    rw [textLength, itemsLength_reverse] at hlength
    exact ⟨hstate, hlength⟩
  | endObject members stack =>
    obtain ⟨hstate, hlength⟩ := supply_spec (.object members.reverse) hwaits
    rw [textLength, membersLength_reverse] at hlength
    exact ⟨hstate, hlength⟩

theorem textLength_of_reads {tokens : List Token} {state state' : ReadState}
    (h : tokens.foldlM readToken state = some state') (hwaits : state.Waits) :
    state'.textLength = state.textLength + tokensLength tokens := by
  induction tokens generalizing state with
  | nil =>
    cases h
    rfl
  | cons token rest ih =>
    rw [List.foldlM_cons] at h
    obtain ⟨next, hnext, hrest⟩ := Option.bind_eq_some_iff.mp h
    obtain ⟨hwaits', hlength⟩ := readToken_spec hnext hwaits
    rw [ih hrest hwaits', hlength, tokensLength, tokensLength, List.map_cons, List.sum_cons,
      Nat.add_assoc]

theorem ofTokens?_eq_some_iff {tokens : List Token} {value : Json} :
    ofTokens? tokens = some value ↔ tokens.foldlM readToken (.value []) = some (.done value) := by
  rw [ofTokens?]
  split <;> simp_all

/-- A value holds the text of its tokens, all of it. -/
theorem textLength_of_ofTokens? {tokens : List Token} {value : Json}
    (h : ofTokens? tokens = some value) : value.textLength = tokensLength tokens := by
  have hnone : ReadState.Waits (.value []) := fun frame hmem => absurd hmem List.not_mem_nil
  exact (textLength_of_reads (ofTokens?_eq_some_iff.mp h) hnone).trans (Nat.zero_add _)

/-! ## Sorting the members -/

section Sorting

variable {name : String} {members : List (String × Json)}

theorem membersLength_insertSorted_le (name : String) (value : Json)
    (members : List (String × Json)) :
    membersLength (insertSorted name value members)
      ≤ name.length + value.textLength + membersLength members := by
  induction members with
  | nil => exact Nat.le_refl _
  | cons member rest ih =>
    rw [insertSorted]
    split
    · simp only [membersLength]
      omega
    · split
      · exact Nat.le_refl _
      · simp only [membersLength]
        omega

theorem membersLength_sortMembers_le (members : List (String × Json)) :
    membersLength (sortMembers members) ≤ membersLength members := by
  have hfold (sorted : List (String × Json)) :
      membersLength (members.foldl (fun sorted member => insertSorted member.1 member.2 sorted)
        sorted) ≤ membersLength sorted + membersLength members := by
    induction members generalizing sorted with
    | nil => exact Nat.le_refl _
    | cons member rest ih =>
      have hinsert := membersLength_insertSorted_le member.1 member.2 sorted
      have hrest := ih (insertSorted member.1 member.2 sorted)
      rw [List.foldl_cons, membersLength]
      omega
  have hnil := hfold []
  rwa [membersLength, Nat.zero_add] at hnil

/-- A member whose name is new replaces none. -/
theorem perm_insertSorted (value : Json) (h : name ∉ members.map Prod.fst) :
    (insertSorted name value members).Perm ((name, value) :: members) := by
  induction members with
  | nil => exact List.Perm.refl _
  | cons member rest ih =>
    rw [List.map_cons, List.mem_cons, not_or] at h
    rw [insertSorted, if_neg h.1]
    split
    · exact List.Perm.refl _
    · exact ((ih h.2).cons member).trans (List.Perm.swap _ _ _)

/-- Members with distinct names are only reordered. -/
theorem perm_sortMembers (h : (members.map Prod.fst).Nodup) :
    (sortMembers members).Perm members := by
  have hfold (sorted : List (String × Json))
      (hnodup : ((members ++ sorted).map Prod.fst).Nodup) :
      (members.foldl (fun sorted member => insertSorted member.1 member.2 sorted) sorted).Perm
        (members ++ sorted) := by
    clear h
    induction members generalizing sorted with
    | nil => exact List.Perm.refl _
    | cons member rest ih =>
      rw [List.cons_append, List.map_cons, List.nodup_cons] at hnodup
      -- what is sorted already stands behind the members that are still to come
      have hnew : member.1 ∉ sorted.map Prod.fst := fun hmem => hnodup.1 (by
        rw [List.map_append]
        exact List.mem_append_right _ hmem)
      have hinsert := perm_insertSorted member.2 hnew
      have hmiddle : (rest ++ insertSorted member.1 member.2 sorted).Perm
          (member :: (rest ++ sorted)) :=
        (hinsert.append_left rest).trans List.perm_middle
      rw [List.foldl_cons]
      refine (ih _ ?_).trans hmiddle
      rw [(hmiddle.map Prod.fst).nodup_iff, List.map_cons, List.nodup_cons]
      exact hnodup
  have hnil := hfold [] (by rwa [List.append_nil])
  rwa [List.append_nil] at hnil

end Sorting

mutual

/-- No object in the value repeats a name. -/
def distinctNames : Json → Bool
  | null => true
  | bool _ => true
  | integer _ => true
  | float _ => true
  | string _ => true
  | array items => distinctNamesItems items
  | object members => decide (members.map Prod.fst).Nodup && distinctNamesMembers members

/-- No object in the items repeats a name. -/
def distinctNamesItems : List Json → Bool
  | [] => true
  | item :: rest => distinctNames item && distinctNamesItems rest

/-- No object in the values of the members repeats a name. -/
def distinctNamesMembers : List (String × Json) → Bool
  | [] => true
  | (_, value) :: rest => distinctNames value && distinctNamesMembers rest

end

theorem map_fst_canonicalMembers (members : List (String × Json)) :
    (canonicalMembers members).map Prod.fst = members.map Prod.fst := by
  induction members with
  | nil => rw [canonicalMembers]
  | cons member rest ih => rw [canonicalMembers, List.map_cons, List.map_cons, ih]

mutual

/-- Of equal names only the last one is kept, and no text is added. -/
theorem textLength_canonical_le : ∀ value : Json, textLength (canonical value) ≤ textLength value
  | null => Nat.le_refl _
  | bool _ => Nat.le_refl _
  | integer _ => Nat.le_refl _
  | float _ => Nat.le_refl _
  | string _ => Nat.le_refl _
  | array items => by
    rw [canonical, textLength, textLength]
    exact itemsLength_canonicalItems_le items
  | object members => by
    rw [canonical, textLength, textLength]
    exact Nat.le_trans (membersLength_sortMembers_le _) (membersLength_canonicalMembers_le members)

theorem itemsLength_canonicalItems_le :
    ∀ items : List Json, itemsLength (canonicalItems items) ≤ itemsLength items
  | [] => Nat.le_refl _
  | item :: rest => by
    rw [canonicalItems, itemsLength, itemsLength]
    exact Nat.add_le_add (textLength_canonical_le item) (itemsLength_canonicalItems_le rest)

theorem membersLength_canonicalMembers_le :
    ∀ members : List (String × Json),
      membersLength (canonicalMembers members) ≤ membersLength members
  | [] => Nat.le_refl _
  | (name, value) :: rest => by
    rw [canonicalMembers, membersLength, membersLength]
    exact Nat.add_le_add (Nat.add_le_add_left (textLength_canonical_le value) name.length)
      (membersLength_canonicalMembers_le rest)

end

mutual

/-- Without repeated names all the text is kept. -/
theorem textLength_canonical :
    ∀ value : Json, distinctNames value = true → textLength (canonical value) = textLength value
  | null, _ => rfl
  | bool _, _ => rfl
  | integer _, _ => rfl
  | float _, _ => rfl
  | string _, _ => rfl
  | array items, h => by
    rw [canonical, textLength, textLength]
    exact itemsLength_canonicalItems items (by rwa [distinctNames] at h)
  | object members, h => by
    rw [distinctNames, Bool.and_eq_true, decide_eq_true_eq, ← map_fst_canonicalMembers] at h
    have hsort := (perm_sortMembers h.1).map
      fun member => member.1.length + textLength member.2
    rw [canonical, textLength, textLength, membersLength_eq_sum, hsort.sum_eq,
      ← membersLength_eq_sum]
    exact membersLength_canonicalMembers members h.2

theorem itemsLength_canonicalItems :
    ∀ items : List Json, distinctNamesItems items = true →
      itemsLength (canonicalItems items) = itemsLength items
  | [], _ => rfl
  | item :: rest, h => by
    rw [distinctNamesItems, Bool.and_eq_true] at h
    rw [canonicalItems, itemsLength, itemsLength, textLength_canonical item h.1,
      itemsLength_canonicalItems rest h.2]

theorem membersLength_canonicalMembers :
    ∀ members : List (String × Json), distinctNamesMembers members = true →
      membersLength (canonicalMembers members) = membersLength members
  | [], _ => rfl
  | (name, value) :: rest, h => by
    rw [distinctNamesMembers, Bool.and_eq_true] at h
    rw [canonicalMembers, membersLength, membersLength, textLength_canonical value h.1,
      membersLength_canonicalMembers rest h.2]

end

end Json
end TableShell
