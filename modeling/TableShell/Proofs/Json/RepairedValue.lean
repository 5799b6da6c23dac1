import TableShell.Proofs.Json.Repaired

/-!
# The value of a repaired text

Where strings may stand, any string may stand. So the repaired text holds a value again, and that
value is the one of the text with some of its strings repaired, names of members among them
(`exists_read?_of_repaired`).
-/

namespace TableShell
namespace Json

open Text Reply

mutual

/-- The second value is the first one with some of its strings repaired. -/
inductive ValueRepaired : Json → Json → Prop
  | same (value : Json) : ValueRepaired value value
  | string {s s' : String} (repaired : Repaired s.toList s'.toList) :
      ValueRepaired (.string s) (.string s')
  | array {items items' : List Json} (hitems : List.Forall₂ ValueRepaired items items') :
      ValueRepaired (.array items) (.array items')
  | object {members members' : List (String × Json)}
      (hmembers : List.Forall₂ MemberRepaired members members') :
      ValueRepaired (.object members) (.object members')

/-- The same for a member and its name. -/
inductive MemberRepaired : String × Json → String × Json → Prop
  | mk {name name' : String} {value value' : Json} (hname : Repaired name.toList name'.toList)
      (hvalue : ValueRepaired value value') : MemberRepaired (name, value) (name', value')

end

/-- The same for what an open array or object holds. -/
inductive FrameRepaired : Frame → Frame → Prop
  | array {items items' : List Json} (hitems : List.Forall₂ ValueRepaired items items') :
      FrameRepaired (.array items) (.array items')
  | object {members members' : List (String × Json)}
      (hmembers : List.Forall₂ MemberRepaired members members') :
      FrameRepaired (.object members) (.object members')
  | member {members members' : List (String × Json)} {name name' : String}
      (hmembers : List.Forall₂ MemberRepaired members members')
      (hname : Repaired name.toList name'.toList) :
      FrameRepaired (.member members name) (.member members' name')

/-- The same for all that was read. -/
inductive StateRepaired : ReadState → ReadState → Prop
  | value {stack stack' : List Frame} (hstack : List.Forall₂ FrameRepaired stack stack') :
      StateRepaired (.value stack) (.value stack')
  | firstItem {stack stack' : List Frame} (hstack : List.Forall₂ FrameRepaired stack stack') :
      StateRepaired (.firstItem stack) (.firstItem stack')
  | name {members members' : List (String × Json)} {stack stack' : List Frame}
      (hmembers : List.Forall₂ MemberRepaired members members')
      (hstack : List.Forall₂ FrameRepaired stack stack') :
      StateRepaired (.name members stack) (.name members' stack')
  | firstName {stack stack' : List Frame} (hstack : List.Forall₂ FrameRepaired stack stack') :
      StateRepaired (.firstName stack) (.firstName stack')
  | colon {members members' : List (String × Json)} {name name' : String}
      {stack stack' : List Frame} (hmembers : List.Forall₂ MemberRepaired members members')
      (hname : Repaired name.toList name'.toList)
      (hstack : List.Forall₂ FrameRepaired stack stack') :
      StateRepaired (.colon members name stack) (.colon members' name' stack')
  | next {stack stack' : List Frame} (hstack : List.Forall₂ FrameRepaired stack stack') :
      StateRepaired (.next stack) (.next stack')
  | done {value value' : Json} (hvalue : ValueRepaired value value') :
      StateRepaired (.done value) (.done value')

section Reading

variable {stack stack' : List Frame} {token token' : Token} {state state' next : ReadState}
  {value value' : Json}

theorem stateRepaired_supply (hvalue : ValueRepaired value value')
    (hstack : List.Forall₂ FrameRepaired stack stack') :
    StateRepaired (supply value stack) (supply value' stack') := by
  cases hstack with
  | nil => exact .done hvalue
  | cons hframe hstack =>
    cases hframe with
    | array repaired => exact .next (.cons (.array (.cons hvalue repaired)) hstack)
    | object repaired => exact .next (.cons (.object repaired) hstack)
    | member repaired name =>
      exact .next (.cons (.object (.cons (.mk name hvalue) repaired)) hstack)

theorem exists_beginValue_of_repaired (hstack : List.Forall₂ FrameRepaired stack stack')
    (htoken : TokenRepaired token token') (h : beginValue stack token = some next) :
    ∃ next', beginValue stack' token' = some next' ∧ StateRepaired next next' := by
  cases htoken with
  | string repaired =>
    cases h
    exact ⟨_, rfl, stateRepaired_supply (.string repaired) hstack⟩
  | same =>
    cases token with
    | atom value =>
      cases h
      exact ⟨_, rfl, stateRepaired_supply (.same value) hstack⟩
    | string s =>
      cases h
      exact ⟨_, rfl, stateRepaired_supply (.same (.string s)) hstack⟩
    | beginArray =>
      obtain ⟨hdepth, ⟨⟩⟩ := Option.ite_none_right_eq_some.mp h
      rw [hstack.length_eq] at hdepth
      exact ⟨_, if_pos hdepth, .firstItem hstack⟩
    | beginObject =>
      obtain ⟨hdepth, ⟨⟩⟩ := Option.ite_none_right_eq_some.mp h
      rw [hstack.length_eq] at hdepth
      exact ⟨_, if_pos hdepth, .firstName hstack⟩
    | endArray => cases h
    | endObject => cases h
    | colon => cases h
    | comma => cases h

/-- A repaired string is a string. -/
theorem exists_string_of_repaired {s : String} (h : TokenRepaired (.string s) token') :
    ∃ s', token' = .string s' ∧ Repaired s.toList s'.toList := by
  cases h with
  | same => exact ⟨s, rfl, Repaired.refl _⟩
  | string repaired => exact ⟨_, rfl, repaired⟩

theorem exists_array_of_repaired {items : List Json}
    (h : StateRepaired (.next (.array items :: stack)) state') :
    ∃ items' stack', state' = .next (.array items' :: stack') ∧
      List.Forall₂ ValueRepaired items items' ∧ List.Forall₂ FrameRepaired stack stack' := by
  cases h with
  | next hframes =>
    obtain ⟨_, stack', hframe, hstack, rfl⟩ := List.forall₂_cons_left_iff.mp hframes
    cases hframe with
    | array hitems => exact ⟨_, stack', rfl, hitems, hstack⟩

theorem exists_object_of_repaired {members : List (String × Json)}
    (h : StateRepaired (.next (.object members :: stack)) state') :
    ∃ members' stack', state' = .next (.object members' :: stack') ∧
      List.Forall₂ MemberRepaired members members' ∧ List.Forall₂ FrameRepaired stack stack' := by
  cases h with
  | next hframes =>
    obtain ⟨_, stack', hframe, hstack, rfl⟩ := List.forall₂_cons_left_iff.mp hframes
    cases hframe with
    | object hmembers => exact ⟨_, stack', rfl, hmembers, hstack⟩

/-- What may follow may follow in the repaired text. -/
theorem exists_readToken_of_repaired (hstate : StateRepaired state state')
    (htoken : TokenRepaired token token') (h : readToken state token = some next) :
    ∃ next', readToken state' token' = some next' ∧ StateRepaired next next' := by
  simp only [readToken_eq_some_iff] at h ⊢
  cases h with
  | value begins =>
    cases hstate with
    | value hstack =>
      obtain ⟨next', hnext', hrepaired⟩ := exists_beginValue_of_repaired hstack htoken begins
      exact ⟨next', .value hnext', hrepaired⟩
  | firstItem begins =>
    cases hstate with
    | firstItem hstack =>
      obtain ⟨next', hnext', hrepaired⟩ :=
        exists_beginValue_of_repaired (.cons (.array .nil) hstack) htoken begins
      exact ⟨next', .firstItem hnext', hrepaired⟩
  | emptyArray stack =>
    cases htoken
    cases hstate with
    | firstItem hstack =>
      exact ⟨_, .emptyArray _, stateRepaired_supply (.array .nil) hstack⟩
  | emptyObject stack =>
    cases htoken
    cases hstate with
    | firstName hstack =>
      exact ⟨_, .emptyObject _, stateRepaired_supply (.object .nil) hstack⟩
  | name members stack name =>
    obtain ⟨name', rfl, hname⟩ := exists_string_of_repaired htoken
    cases hstate with
    | name hmembers hstack => exact ⟨_, .name _ _ _, .colon hmembers hname hstack⟩
  | firstName stack name =>
    obtain ⟨name', rfl, hname⟩ := exists_string_of_repaired htoken
    cases hstate with
    | firstName hstack => exact ⟨_, .firstName _ _, .colon .nil hname hstack⟩
  | colon members name stack =>
    cases htoken
    cases hstate with
    | colon hmembers hname hstack =>
      exact ⟨_, .colon _ _ _, .value (.cons (.member hmembers hname) hstack)⟩
  | nextItem items stack =>
    cases htoken
    obtain ⟨items', stack', rfl, hitems, hstack⟩ := exists_array_of_repaired hstate
    exact ⟨_, .nextItem _ _, .value (.cons (.array hitems) hstack)⟩
  | endArray items stack =>
    cases htoken
    obtain ⟨items', stack', rfl, hitems, hstack⟩ := exists_array_of_repaired hstate
    have hreverse := List.rel_reverse hitems
    exact ⟨_, .endArray _ _, stateRepaired_supply (.array hreverse) hstack⟩
  | nextMember members stack =>
    cases htoken
    obtain ⟨members', stack', rfl, hmembers, hstack⟩ := exists_object_of_repaired hstate
    exact ⟨_, .nextMember _ _, .name hmembers hstack⟩
  | endObject members stack =>
    cases htoken
    obtain ⟨members', stack', rfl, hmembers, hstack⟩ := exists_object_of_repaired hstate
    have hreverse := List.rel_reverse hmembers
    exact ⟨_, .endObject _ _, stateRepaired_supply (.object hreverse) hstack⟩

theorem exists_foldlM_of_repaired {tokens tokens' : List Token}
    (htokens : List.Forall₂ TokenRepaired tokens tokens') (hstate : StateRepaired state state')
    (h : tokens.foldlM readToken state = some next) :
    ∃ next', tokens'.foldlM readToken state' = some next' ∧ StateRepaired next next' := by
  induction htokens generalizing state state' with
  | nil =>
    cases h
    exact ⟨state', rfl, hstate⟩
  | cons htoken _ ih =>
    rw [List.foldlM_cons] at h
    obtain ⟨middle, hmiddle, hrest⟩ := Option.bind_eq_some_iff.mp h
    obtain ⟨middle', hmiddle', hrepaired⟩ := exists_readToken_of_repaired hstate htoken hmiddle
    rw [List.foldlM_cons, hmiddle']
    exact ih hrepaired hrest

theorem exists_ofTokens?_of_repaired {tokens tokens' : List Token}
    (htokens : List.Forall₂ TokenRepaired tokens tokens') (h : ofTokens? tokens = some value) :
    ∃ value', ofTokens? tokens' = some value' ∧ ValueRepaired value value' := by
  obtain ⟨next', hnext', hdone⟩ :=
    exists_foldlM_of_repaired htokens (.value .nil) (ofTokens?_eq_some_iff.mp h)
  cases hdone with
  | done hvalue => exact ⟨_, ofTokens?_eq_some_iff.mpr hnext', hvalue⟩

/-- A text that holds a value holds one again when it is repaired; what the text is shorter, the
strings of the value are shorter. -/
theorem exists_read?_of_repaired {text text' : String} (htext : Repaired text.toList text'.toList)
    (h : read? text = some value) :
    ∃ value', read? text' = some value' ∧ ValueRepaired value value' ∧
      value.textLength + text'.length = value'.textLength + text.length := by
  obtain ⟨tokens, htokens, hvalue⟩ := Option.bind_eq_some_iff.mp h
  obtain ⟨tokens', htokens', hrepaired, hlength⟩ :=
    exists_tokensFrom_of_repaired htext .between htokens
  obtain ⟨value', hvalue', hvalues⟩ := exists_ofTokens?_of_repaired hrepaired hvalue
  refine ⟨value', Option.bind_eq_some_iff.mpr ⟨tokens', htokens', hvalue'⟩, hvalues, ?_⟩
  rw [textLength_of_ofTokens? hvalue, textLength_of_ofTokens? hvalue', ← String.length_toList,
    ← String.length_toList]
  simpa only [TokenMode.textLength, Nat.zero_add] using hlength

end Reading

end Json
end TableShell
