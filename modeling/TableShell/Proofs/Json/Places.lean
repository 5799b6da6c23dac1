import TableShell.Proofs.Json.Repaired

/-!
# Undefined values outside strings

`Place` tells strings from what stands outside them by quotes and backslashes alone. With it
`WritesUndefined` says that some null members of a text were written as undefined values: a null
outside strings, behind a colon and perhaps spaces, may be another word behind other blanks, and
nothing else may change.

Where no string of the text holds such a word behind a colon (`StringsClear`), writing null for
every undefined value makes good exactly these members: the result is cut into the tokens of the
text (`tokensFrom_nullFor`).
-/

namespace TableShell
namespace Json

open Text Reply

/-- Where a character of a text stands. -/
inductive Place
  /-- Outside strings. -/
  | outside
  | inside
  /-- Inside a string, behind a backslash. -/
  | escaped
deriving DecidableEq

/-- Where the next character stands. -/
def Place.after : Place → Char → Place
  | outside, c => if c = '"' then inside else outside
  | inside, c => if c = '"' then outside else if c = '\\' then escaped else inside
  | escaped, _ => inside

/-- Where the character behind all these stands. -/
def Place.afterAll (place : Place) (cs : List Char) : Place :=
  cs.foldl after place

/-- Where the machine stands, as far as strings go. -/
def TokenMode.place : TokenMode → Place
  | .between | .number _ | .word _ => .outside
  | .string _ | .code _ _ _ | .pair _ _ => .inside
  | .escape _ | .pairEscape _ _ => .escaped

/-- The second text is the first one, which begins at the place, with the word for an undefined
value in place of null for the values of some members, and any blanks before the word. -/
inductive WritesUndefined : Place → List Char → List Char → Prop
  | nil (place : Place) : WritesUndefined place [] []
  | keep {place : Place} (c : Char) {cs ds : List Char}
    (rest : WritesUndefined (place.after c) cs ds) : WritesUndefined place (c :: cs) (c :: ds)
  | null {spaces blanks cs ds : List Char} (hspaces : spaces.all isSpace = true)
    (hblanks : blanks.all isBlank = true) (rest : WritesUndefined .outside cs ds) :
    WritesUndefined .outside (':' :: (spaces ++ ("null".toList ++ cs)))
      (':' :: (blanks ++ (undefinedWord ++ ds)))

/-- In no string of the text, which begins at the place, does the word for an undefined value stand
behind a colon, with blanks or nothing between them. -/
def StringsClear (place : Place) (cs : List Char) : Prop :=
  ∀ front run back, cs = front ++ (run ++ back) → SpellsUndefined run →
    place.afterAll front = .outside

/-! ## Places -/

section Places

variable {place : Place} {mode next : TokenMode} {out : List Token} {c : Char} {cs xs : List Char}

/-- Without quotes, text outside strings stays outside. -/
theorem afterAll_outside (h : '"' ∉ xs) : Place.outside.afterAll xs = .outside := by
  induction xs with
  | nil => rfl
  | cons c xs ih =>
    rw [List.mem_cons, not_or] at h
    have hstep : Place.outside.after c = .outside := if_neg (Ne.symm h.1)
    rw [Place.afterAll, List.foldl_cons, hstep]
    exact ih h.2

theorem StringsClear.behind (h : StringsClear place (xs ++ cs)) :
    StringsClear (place.afterAll xs) cs := by
  rintro front run back rfl hrun
  have hplace := h (xs ++ front) run back (List.append_assoc _ _ _).symm hrun
  rwa [Place.afterAll, List.foldl_append] at hplace

/-- Only a quote takes the machine from between tokens into a string. -/
theorem place_stepBetween (h : stepBetween c = some (out, next)) :
    next.place = Place.outside.after c := by
  by_cases hquote : c = '"'
  · subst hquote
    cases h
    rfl
  rw [Place.after, if_neg hquote]
  have hplace : ∀ result ∈ stepBetween c, result.2.place = .outside := by
    rw [stepBetween, if_neg hquote]
    intro result hresult
    repeat' split at hresult
    all_goals cases hresult
    all_goals rfl
  exact hplace _ h

/-- A digit of a code is no quote and no backslash. -/
theorem after_of_hexValue? {value : ℕ} (h : hexValue? c = some value) :
    Place.inside.after c = .inside := by
  have hquote : c ≠ '"' := by
    rintro rfl
    cases h
  have hback : c ≠ '\\' := by
    rintro rfl
    cases h
  rw [Place.after, if_neg hquote, if_neg hback]

theorem place_endCode {taken : List Char} {high : Option ℕ} {code : ℕ}
    (h : endCode taken high code = some next) : next.place = .inside := by
  cases high with
  | some high =>
    obtain ⟨-, ⟨⟩⟩ := Option.ite_none_right_eq_some.mp h
    rfl
  | none =>
    rw [endCode] at h
    split at h
    · cases h
      rfl
    · obtain ⟨-, ⟨⟩⟩ := Option.ite_none_left_eq_some.mp h
      rfl

/-- The machine knows where it stands. -/
theorem place_step (h : step mode c = some (out, next)) : next.place = mode.place.after c := by
  cases mode with
  | between => exact place_stepBetween h
  | number taken =>
    rw [step] at h
    split at h
    · next hcontinues =>
      cases h
      have hquote : c ≠ '"' := by
        rintro rfl
        cases hcontinues
      exact (if_neg hquote).symm
    · obtain ⟨token, more, -, hmore, -⟩ := exists_of_complete h
      exact place_stepBetween hmore
  | word taken =>
    rw [step] at h
    split at h
    · next hletter =>
      cases h
      have hquote : c ≠ '"' := by
        rintro rfl
        cases hletter
      exact (if_neg hquote).symm
    · obtain ⟨token, more, -, hmore, -⟩ := exists_of_complete h
      exact place_stepBetween hmore
  | string taken =>
    rw [TokenMode.place, Place.after]
    rw [step] at h
    split at h
    · next hquote =>
      cases h
      rw [if_pos hquote]
      rfl
    · next hquote =>
      rw [if_neg hquote]
      split at h
      · next hback =>
        cases h
        rw [if_pos hback]
        rfl
      · next hback =>
        obtain ⟨-, ⟨⟩⟩ := Option.ite_none_left_eq_some.mp h
        rw [if_neg hback]
        rfl
  | escape taken =>
    rw [step] at h
    split at h
    · cases h
      rfl
    · obtain ⟨escaped, -, ⟨⟩⟩ := Option.map_eq_some_iff.mp h
      rfl
  | code taken high digits =>
    rw [step] at h
    split at h
    · obtain ⟨value, hvalue, ⟨⟩⟩ := Option.map_eq_some_iff.mp h
      exact (after_of_hexValue? hvalue).symm
    · obtain ⟨code, hcode, h⟩ := Option.bind_eq_some_iff.mp h
      obtain ⟨last, hlast, ⟨⟩⟩ := Option.bind_eq_some_iff.mp h
      -- the last of the four digits is the one that was just taken
      rw [codeOf?, List.reverse_cons, List.foldlM_append] at hcode
      obtain ⟨before, -, hcode⟩ := Option.bind_eq_some_iff.mp hcode
      rw [List.foldlM_cons] at hcode
      obtain ⟨_, hdigit, -⟩ := Option.bind_eq_some_iff.mp hcode
      obtain ⟨value, hvalue, -⟩ := Option.map_eq_some_iff.mp hdigit
      rw [place_endCode hlast]
      exact (after_of_hexValue? hvalue).symm
  | pair taken high =>
    obtain ⟨rfl, ⟨⟩⟩ := Option.ite_none_right_eq_some.mp h
    rfl
  | pairEscape taken high =>
    obtain ⟨-, ⟨⟩⟩ := Option.ite_none_right_eq_some.mp h
    rfl

end Places

/-! ## Undefined values made good -/

section Undefined

variable {place : Place} {mode : TokenMode} {cs ds run xs : List Char} {tokens : List Token}

/-- Characters at the front, that no undefined value begins with, are those of the text. -/
theorem WritesUndefined.exists_append (h : WritesUndefined place cs (run ++ ds))
    (hrun : ':' ∉ run) : ∃ rest, cs = run ++ rest := by
  generalize hwritten : run ++ ds = written at h
  induction run generalizing place cs written with
  | nil => exact ⟨cs, rfl⟩
  | cons c run ih =>
    rw [List.mem_cons, not_or] at hrun
    cases h with
    | nil => cases hwritten
    | keep d rest =>
      obtain ⟨rfl, hrest⟩ := List.cons.inj hwritten
      obtain ⟨tail, rfl⟩ := ih hrun.2 _ hrest rest
      exact ⟨tail, rfl⟩
    | null => exact absurd (List.cons.inj hwritten).1.symm hrun.1

/-- The same characters may stand before both texts. -/
theorem WritesUndefined.append (xs : List Char)
    (h : WritesUndefined (place.afterAll xs) cs ds) :
    WritesUndefined place (xs ++ cs) (xs ++ ds) := by
  induction xs generalizing place with
  | nil => exact h
  | cons c xs ih => exact .keep c (ih h)

/-- A character that completes no token. -/
theorem tokensFrom_quiet {next : TokenMode} {c : Char} (h : step mode c = some ([], next))
    (cs : List Char) : tokensFrom mode (c :: cs) = tokensFrom next cs := by
  rw [tokensFrom, h]
  simp

theorem tokensFrom_spaces (h : xs.all isSpace = true) (cs : List Char) :
    tokensFrom .between (xs ++ cs) = tokensFrom .between cs := by
  induction xs with
  | nil => rfl
  | cons c xs ih =>
    rw [List.all_cons, Bool.and_eq_true] at h
    have hstep : step .between c = some ([], .between) := if_pos h.1
    rw [List.cons_append, tokensFrom_quiet hstep, ih h.2]

/-- Behind the letters of null the machine waits for the end of the word. -/
theorem tokensFrom_null (cs : List Char) :
    tokensFrom .between ("null".toList ++ cs) = tokensFrom (.word ['l', 'l', 'u', 'n']) cs := by
  have hletters : "null".toList ++ cs = 'n' :: 'u' :: 'l' :: 'l' :: cs := rfl
  rw [hletters, tokensFrom_quiet rfl, tokensFrom_quiet rfl, tokensFrom_quiet rfl,
    tokensFrom_quiet rfl]

/-- No colon stands in the blanks before the word, or in the word. -/
theorem colon_not_mem_blanks_append (h : xs.all isBlank = true) : ':' ∉ xs ++ undefinedWord := by
  rw [List.mem_append, not_or]
  refine ⟨fun hmem => ?_, by decide⟩
  exact absurd (List.all_eq_true.mp h ':' hmem) (by decide)

/-- An undefined value begins only at the colons of the members that were written so. -/
theorem WritesUndefined.undefinedLength?_eq_none {c : Char}
    (h : WritesUndefined (place.after c) cs ds) (hclear : StringsClear place (c :: cs))
    (htokens : tokensFrom mode (c :: cs) = some tokens) (hplace : mode.place = place) :
    undefinedLength? (c :: ds) = none := by
  by_contra hsome
  obtain ⟨length, hlength⟩ := Option.ne_none_iff_exists'.mp hsome
  obtain ⟨_, back, hrun, hsplit, -⟩ := undefinedLength?_eq_some_iff.mp hlength
  have hspells := hrun
  obtain ⟨blanks, hblanks, rfl⟩ := hrun
  obtain ⟨rfl, rfl⟩ := List.cons.inj hsplit
  -- the word stands in the text as well, and there it would stand in a string
  obtain ⟨rest, rfl⟩ := h.exists_append (colon_not_mem_blanks_append hblanks)
  obtain ⟨taken, rfl⟩ := exists_string_of_run hspells htokens
  have houtside := hclear [] _ rest rfl hspells
  rw [← hplace] at houtside
  cases houtside

/-- Where null is written for every undefined value, the text is cut into the tokens of the one in
which null stood. -/
theorem tokensFrom_nullFor (h : WritesUndefined place cs ds) (hclear : StringsClear place cs)
    (htokens : tokensFrom mode cs = some tokens) (hplace : mode.place = place) :
    tokensFrom mode (nullFor 0 ds) = some tokens := by
  induction h generalizing mode tokens with
  | nil => exact htokens
  | keep c rest ih =>
    rw [nullFor_cons (rest.undefinedLength?_eq_none hclear htokens hplace)]
    obtain ⟨out, next, more, hstep, hmore, rfl⟩ := tokensFrom_cons_eq_some_iff.mp htokens
    have hnext := place_step hstep
    rw [hplace] at hnext
    rw [← List.singleton_append] at hclear
    have hbehind := hclear.behind
    exact tokensFrom_cons_eq_some_iff.mpr
      ⟨out, next, more, hstep, ih hbehind hmore hnext, rfl⟩
  | @null spaces blanks cs ds hspaces hblanks rest ih =>
    obtain ⟨out, next, more, hstep, hmore, rfl⟩ := tokensFrom_cons_eq_some_iff.mp htokens
    have hbetween : next = .between := by
      rcases step_colon hstep with rfl | ⟨taken, rfl⟩
      · rfl
      · cases hplace
    subst hbetween
    rw [tokensFrom_spaces hspaces, tokensFrom_null] at hmore
    have hquote : '"' ∉ ':' :: (spaces ++ "null".toList) := by
      simp only [List.mem_cons, List.mem_append, not_or]
      refine ⟨by decide, fun hmem => ?_, by decide⟩
      exact absurd (List.all_eq_true.mp hspaces '"' hmem) (by decide)
    have hbehind : StringsClear .outside cs := by
      rw [← List.append_assoc, ← List.cons_append] at hclear
      have hbehind := hclear.behind
      rwa [afterAll_outside hquote] at hbehind
    have hwritten : nullFor 0 (':' :: (blanks ++ (undefinedWord ++ ds)))
        = ':' :: ([' '] ++ ("null".toList ++ nullFor 0 ds)) := by
      have hspells : SpellsUndefined (':' :: (blanks ++ undefinedWord)) := ⟨blanks, hblanks, rfl⟩
      have hrun := nullFor_append hspells ds
      rwa [List.cons_append, List.append_assoc] at hrun
    rw [hwritten]
    refine tokensFrom_cons_eq_some_iff.mpr ⟨out, .between, more, hstep, ?_, rfl⟩
    rw [tokensFrom_spaces rfl, tokensFrom_null]
    exact ih hbehind hmore rfl

end Undefined

end Json
end TableShell
