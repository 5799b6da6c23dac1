import Mathlib.Data.List.Forall2
import TableShell.Proofs.Json.TextLength
import TableShell.Proofs.Number.Digits
import TableShell.Proofs.Request.Replacing

/-!
# The tokens of a repaired text

Writing null for undefined values knows nothing of tokens. But in a text that can be cut into
tokens the word never stands outside a string, so every run that is replaced lies inside one. The
repaired text is cut into the same tokens, except that strings may be repaired, and it lost no more
characters than those strings (`exists_tokensFrom_of_repaired`).
-/

namespace TableShell
namespace Json

open Text Reply

/-- The second token is the first one, a string perhaps repaired. -/
inductive TokenRepaired : Token → Token → Prop
  | same (token : Token) : TokenRepaired token token
  | string {s s' : String} (repaired : Repaired s.toList s'.toList) :
      TokenRepaired (.string s) (.string s')

/-- The second mode is the first one, a string that is being read perhaps repaired. -/
inductive ModeRepaired : TokenMode → TokenMode → Prop
  | between : ModeRepaired .between .between
  | number (taken : List Char) : ModeRepaired (.number taken) (.number taken)
  | word (taken : List Char) : ModeRepaired (.word taken) (.word taken)
  | string {taken taken' : List Char} (repaired : Repaired taken.reverse taken'.reverse) :
      ModeRepaired (.string taken) (.string taken')
  | escape {taken taken' : List Char} (repaired : Repaired taken.reverse taken'.reverse) :
      ModeRepaired (.escape taken) (.escape taken')
  | code {taken taken' : List Char} (repaired : Repaired taken.reverse taken'.reverse)
      (high : Option Nat) (digits : List Char) :
      ModeRepaired (.code taken high digits) (.code taken' high digits)
  | pair {taken taken' : List Char} (repaired : Repaired taken.reverse taken'.reverse)
      (high : Nat) : ModeRepaired (.pair taken high) (.pair taken' high)
  | pairEscape {taken taken' : List Char} (repaired : Repaired taken.reverse taken'.reverse)
      (high : Nat) : ModeRepaired (.pairEscape taken high) (.pairEscape taken' high)

/-- How many characters of a string the machine has taken. -/
def TokenMode.textLength : TokenMode → ℕ
  | .between => 0
  | .number _ => 0
  | .word _ => 0
  | .string taken => taken.length
  | .escape taken => taken.length
  | .code taken _ _ => taken.length
  | .pair taken _ => taken.length
  | .pairEscape taken _ => taken.length

/-! ## One character -/

section Step

variable {mode mode' next : TokenMode} {out : List Token} {c : Char}

theorem forall₂_same (tokens : List Token) : List.Forall₂ TokenRepaired tokens tokens :=
  List.forall₂_same.mpr fun token _ => .same token

/-- A character behind one more keeps what is taken repaired. -/
theorem repaired_cons {taken taken' : List Char} (h : Repaired taken.reverse taken'.reverse)
    (c : Char) : Repaired (c :: taken).reverse (c :: taken').reverse := by
  rw [List.reverse_cons, List.reverse_cons]
  exact h.append (Repaired.refl [c])

theorem ModeRepaired.refl (mode : TokenMode) : ModeRepaired mode mode := by
  cases mode with
  | between => exact .between
  | number taken => exact .number taken
  | word taken => exact .word taken
  | string taken => exact .string (Repaired.refl _)
  | escape taken => exact .escape (Repaired.refl _)
  | code taken high digits => exact .code (Repaired.refl _) high digits
  | pair taken high => exact .pair (Repaired.refl _) high
  | pairEscape taken high => exact .pairEscape (Repaired.refl _) high

/-- Four digits mean the same whatever was taken before them. -/
theorem exists_endCode_of_repaired {taken taken' : List Char} {high : Option ℕ} {code : ℕ}
    (repaired : Repaired taken.reverse taken'.reverse)
    (h : endCode taken high code = some next) :
    ∃ next', endCode taken' high code = some next' ∧ ModeRepaired next next' ∧
      next.textLength + taken'.length = next'.textLength + taken.length := by
  have hlength (c : Char) : (TokenMode.string (c :: taken)).textLength + taken'.length
      = (TokenMode.string (c :: taken')).textLength + taken.length := by
    simp only [TokenMode.textLength, List.length_cons]
    omega
  cases high with
  | some high =>
    obtain ⟨hrange, ⟨⟩⟩ := Option.ite_none_right_eq_some.mp h
    refine ⟨_, if_pos hrange, ?_, ?_⟩
    · exact .string (repaired_cons repaired _)
    · exact hlength _
  | none =>
    rw [endCode] at h
    split at h
    · next hfirst =>
      cases h
      exact ⟨_, if_pos hfirst, .pair repaired code, Nat.add_comm _ _⟩
    · next hfirst =>
      obtain ⟨hsecond, ⟨⟩⟩ := Option.ite_none_left_eq_some.mp h
      refine ⟨_, (if_neg hfirst).trans (if_neg hsecond), ?_, ?_⟩
      · exact .string (repaired_cons repaired _)
      · exact hlength _

/-- The same character takes repaired modes to repaired modes. -/
theorem exists_step_of_repaired (hmode : ModeRepaired mode mode')
    (h : step mode c = some (out, next)) :
    ∃ out' next', step mode' c = some (out', next') ∧ List.Forall₂ TokenRepaired out out' ∧
      ModeRepaired next next' ∧
      tokensLength out + (next.textLength + mode'.textLength)
        = tokensLength out' + (next'.textLength + mode.textLength) := by
  cases hmode with
  | between => exact ⟨out, next, h, forall₂_same out, .refl next, rfl⟩
  | number taken => exact ⟨out, next, h, forall₂_same out, .refl next, rfl⟩
  | word taken => exact ⟨out, next, h, forall₂_same out, .refl next, rfl⟩
  | @string taken taken' repaired =>
    rw [step] at h ⊢
    by_cases hquote : c = '"'
    · rw [if_pos hquote] at h ⊢
      cases h
      refine ⟨_, _, rfl, .cons (.string ?_) .nil, .between, ?_⟩
      · simpa only [String.toList_ofList] using repaired
      · simp [tokensLength, Token.textLength, TokenMode.textLength]
        omega
    rw [if_neg hquote] at h ⊢
    by_cases hback : c = '\\'
    · rw [if_pos hback] at h ⊢
      cases h
      exact ⟨_, _, rfl, .nil, .escape repaired, by simp only [TokenMode.textLength]; omega⟩
    rw [if_neg hback] at h ⊢
    obtain ⟨hcontrol, ⟨⟩⟩ := Option.ite_none_left_eq_some.mp h
    rw [if_neg hcontrol]
    refine ⟨_, _, rfl, .nil, .string (repaired_cons repaired c), ?_⟩
    simp only [TokenMode.textLength, List.length_cons]
    omega
  | @escape taken taken' repaired =>
    rw [step] at h ⊢
    by_cases hcode : c = 'u'
    · rw [if_pos hcode] at h ⊢
      cases h
      exact ⟨_, _, rfl, .nil, .code repaired none [], by simp only [TokenMode.textLength]; omega⟩
    rw [if_neg hcode] at h ⊢
    obtain ⟨escaped, hescaped, ⟨⟩⟩ := Option.map_eq_some_iff.mp h
    rw [hescaped]
    refine ⟨_, _, rfl, .nil, .string (repaired_cons repaired escaped), ?_⟩
    simp only [TokenMode.textLength, List.length_cons]
    omega
  | @code taken taken' repaired high digits =>
    rw [step] at h ⊢
    by_cases hdigits : digits.length < 3
    · rw [if_pos hdigits] at h ⊢
      obtain ⟨value, hvalue, ⟨⟩⟩ := Option.map_eq_some_iff.mp h
      rw [hvalue]
      exact ⟨_, _, rfl, .nil, .code repaired high (c :: digits), by
        simp only [TokenMode.textLength]; omega⟩
    rw [if_neg hdigits] at h ⊢
    obtain ⟨code, hcode, h⟩ := Option.bind_eq_some_iff.mp h
    obtain ⟨last, hlast, ⟨⟩⟩ := Option.bind_eq_some_iff.mp h
    obtain ⟨last', hlast', hrepaired, hlength⟩ := exists_endCode_of_repaired repaired hlast
    rw [hcode, Option.bind_eq_bind, Option.bind_some, hlast']
    exact ⟨_, _, rfl, .nil, hrepaired, congrArg (tokensLength [] + ·) hlength⟩
  | @pair taken taken' repaired high =>
    obtain ⟨hback, ⟨⟩⟩ := Option.ite_none_right_eq_some.mp h
    exact ⟨_, _, if_pos hback, .nil, .pairEscape repaired high, by
      simp only [TokenMode.textLength]; omega⟩
  | @pairEscape taken taken' repaired high =>
    obtain ⟨hcode, ⟨⟩⟩ := Option.ite_none_right_eq_some.mp h
    exact ⟨_, _, if_pos hcode, .nil, .code repaired (some high) [], by
      simp only [TokenMode.textLength]; omega⟩

end Step

/-! ## The word outside strings -/

section Outside

variable {mode next : TokenMode} {out tokens : List Token} {c : Char} {cs run : List Char}

theorem tokensFrom_cons_eq_some_iff :
    tokensFrom mode (c :: cs) = some tokens ↔
      ∃ out next more, step mode c = some (out, next) ∧ tokensFrom next cs = some more ∧
        out ++ more = tokens := by
  simp [tokensFrom, Option.bind_eq_some_iff]

/-- No blank is a letter or a digit. -/
theorem isAlphanum_of_isBlank (h : isBlank c = true) : c.isAlphanum = false := by
  by_contra halphanum
  have hrange := toNat_of_isAlphanum (Bool.not_eq_false _ ▸ halphanum)
  rw [isBlank_eq_false_of_printable (by omega) (by omega)] at h
  cases h

theorem ne_of_isBlank {mark : Char} (h : isBlank c = true) (hmark : isBlank mark = false) :
    c ≠ mark := by
  rintro rfl
  rw [hmark] at h
  cases h

/-- A blank goes on with no number and no word. -/
theorem continues_of_isBlank (h : isBlank c = true) :
    continuesNumber c = false ∧ c.isAlpha = false := by
  have halphanum : c.isAlpha = false ∧ c.isDigit = false :=
    Bool.or_eq_false_iff.mp (isAlphanum_of_isBlank h)
  have hmarks : c ≠ '.' ∧ c ≠ 'e' ∧ c ≠ 'E' ∧ c ≠ '+' ∧ c ≠ '-' :=
    ⟨ne_of_isBlank h rfl, ne_of_isBlank h rfl, ne_of_isBlank h rfl, ne_of_isBlank h rfl,
      ne_of_isBlank h rfl⟩
  simp [continuesNumber, Decimal.isDigit_eq, halphanum, hmarks]

/-- Between tokens the machine passes over the blanks that it knows and refuses the others. -/
theorem stepBetween_blank (h : isBlank c = true) (hstep : stepBetween c = some (out, next)) :
    out = [] ∧ next = .between := by
  have hcontinues := continues_of_isBlank h
  have hnumber : startsNumber c = false := by
    have hminus : c ≠ '-' := ne_of_isBlank h rfl
    have hdigit : Decimal.isDigit c = false := by
      rw [Decimal.isDigit_eq]
      exact (Bool.or_eq_false_iff.mp (isAlphanum_of_isBlank h)).2
    simp [startsNumber, hminus, hdigit]
  rw [stepBetween] at hstep
  split at hstep
  · cases hstep
    exact ⟨rfl, rfl⟩
  · have hmark {mark : Char} (hmark : isBlank mark = false) : c ≠ mark := ne_of_isBlank h hmark
    rw [if_neg (hmark (by decide)), if_neg (hmark (by decide)), if_neg (hmark (by decide)),
      if_neg (hmark (by decide)), if_neg (hmark (by decide)), if_neg (hmark (by decide)),
      if_neg (hmark (by decide)), hnumber, hcontinues.2] at hstep
    cases hstep

/-- No token is a word with that letter at the front. -/
theorem wordToken?_eq_none (taken : List Char) : wordToken? (taken ++ ['u']) = none := by
  have hne (word : String) (hword : word.toList.head? ≠ some 'u') :
      String.ofList (taken ++ ['u']).reverse ≠ word := by
    rintro rfl
    simp at hword
  rw [wordToken?, if_neg (hne _ (by decide)), if_neg (hne _ (by decide)),
    if_neg (hne _ (by decide))]

theorem tokensFrom_word_eq_none (taken cs : List Char) :
    tokensFrom (.word (taken ++ ['u'])) cs = none := by
  induction cs generalizing taken with
  | nil => rw [tokensFrom, finish, wordToken?_eq_none, Option.map_none]
  | cons c rest ih =>
    rw [tokensFrom, step, wordToken?_eq_none]
    cases c.isAlpha with
    | false => rfl
    | true =>
      have hrest := ih (c :: taken)
      rw [List.cons_append] at hrest
      simp [hrest]

/-- Blanks and the word cannot stand between tokens. -/
theorem tokensFrom_between_ne_some {blanks : List Char} (h : blanks.all isBlank = true)
    (cs : List Char) (tokens : List Token) :
    tokensFrom .between (blanks ++ (undefinedWord ++ cs)) ≠ some tokens := by
  intro htokens
  induction blanks generalizing tokens with
  | nil =>
    have hword : tokensFrom (.word ['u']) ("ndefined".toList ++ cs) = none :=
      tokensFrom_word_eq_none [] _
    obtain ⟨out, next, more, hstep, hmore, -⟩ := tokensFrom_cons_eq_some_iff.mp htokens
    cases hstep
    cases hword.symm.trans hmore
  | cons c blanks ih =>
    rw [List.all_cons, Bool.and_eq_true] at h
    obtain ⟨out, next, more, hstep, hmore, -⟩ := tokensFrom_cons_eq_some_iff.mp htokens
    obtain ⟨-, rfl⟩ := stepBetween_blank h.1 hstep
    exact ih h.2 more hmore

/-- A character that goes on with no number or word completes it and stands between tokens. -/
theorem exists_of_complete {token? : Option Token}
    (h : (do
      let token ← token?
      let (tokens, mode) ← stepBetween c
      return (token :: tokens, mode)) = some (out, next)) :
    ∃ token more, token? = some token ∧ stepBetween c = some (more, next) ∧
      out = token :: more := by
  obtain ⟨token, htoken, h⟩ := Option.bind_eq_some_iff.mp h
  obtain ⟨⟨more, mode⟩, hmore, ⟨⟩⟩ := Option.bind_eq_some_iff.mp h
  exact ⟨token, more, htoken, hmore, rfl⟩

/-- A colon inside a token stands in a string. -/
theorem step_colon (h : step mode ':' = some (out, next)) :
    next = .between ∨ ∃ taken, mode = .string taken := by
  cases mode with
  | between =>
    cases h
    exact .inl rfl
  | number taken =>
    obtain ⟨token, more, -, ⟨⟩, -⟩ := exists_of_complete h
    exact .inl rfl
  | word taken =>
    obtain ⟨token, more, -, ⟨⟩, -⟩ := exists_of_complete h
    exact .inl rfl
  | string taken => exact .inr ⟨taken, rfl⟩
  | escape taken => cases h
  | code taken high digits =>
    rw [step] at h
    split at h
    · cases h
    · have hcode : codeOf? (':' :: digits) = none := by
        have hdigit : hexValue? ':' = none := rfl
        simp [codeOf?, hdigit]
      rw [hcode] at h
      cases h
  | pair taken high => cases h
  | pairEscape taken high => cases h

/-- In a text that can be cut into tokens a run lies inside a string. -/
theorem exists_string_of_run (hrun : SpellsUndefined run)
    (h : tokensFrom mode (run ++ cs) = some tokens) : ∃ taken, mode = .string taken := by
  obtain ⟨blanks, hblanks, rfl⟩ := hrun
  rw [List.cons_append, List.append_assoc] at h
  obtain ⟨out, next, more, hstep, hmore, -⟩ := tokensFrom_cons_eq_some_iff.mp h
  rcases step_colon hstep with rfl | hstring
  · exact absurd hmore (tokensFrom_between_ne_some hblanks cs more)
  · exact hstring

end Outside

/-! ## Inside strings -/

section Inside

variable {mode mode' : TokenMode} {taken run cs cs' : List Char} {tokens : List Token}

/-- The character stands in a string for itself. -/
def StandsForItself (c : Char) : Prop :=
  c ≠ '"' ∧ c ≠ '\\' ∧ ¬ c.toNat < 0x20

instance (c : Char) : Decidable (StandsForItself c) :=
  inferInstanceAs (Decidable (_ ∧ _ ∧ _))

theorem tokensFrom_string_append (hrun : ∀ c ∈ run, StandsForItself c) (taken cs : List Char) :
    tokensFrom (.string taken) (run ++ cs)
      = tokensFrom (.string (run.reverse ++ taken)) cs := by
  induction run generalizing taken with
  | nil => rfl
  | cons c run ih =>
    obtain ⟨⟨hquote, hback, hcontrol⟩, hrest⟩ := List.forall_mem_cons.mp hrun
    have hstep : step (.string taken) c = some ([], .string (c :: taken)) := by
      rw [step, if_neg hquote, if_neg hback, if_neg hcontrol]
    rw [List.cons_append, tokensFrom, hstep, List.reverse_cons, List.append_assoc]
    simpa using ih hrest (c :: taken)

/-- A run in a string holds no control characters, or the text would be refused. -/
theorem standsForItself_of_run (hplain : ∀ c ∈ run, c ≠ '"' ∧ c ≠ '\\')
    (h : tokensFrom (.string taken) (run ++ cs) = some tokens) :
    ∀ c ∈ run, StandsForItself c := by
  induction run generalizing taken tokens with
  | nil => exact fun c hc => absurd hc List.not_mem_nil
  | cons c run ih =>
    obtain ⟨hc, hrun⟩ := List.forall_mem_cons.mp hplain
    obtain ⟨out, next, more, hstep, hmore, -⟩ := tokensFrom_cons_eq_some_iff.mp h
    rw [step, if_neg hc.1, if_neg hc.2] at hstep
    obtain ⟨hcontrol, ⟨⟩⟩ := Option.ite_none_left_eq_some.mp hstep
    exact List.forall_mem_cons.mpr ⟨⟨hc.1, hc.2, hcontrol⟩, ih hrun hmore⟩

end Inside

/-! ## The whole text -/

section Whole

variable {mode mode' : TokenMode} {cs cs' : List Char} {tokens : List Token}

theorem tokensLength_append (tokens more : List Token) :
    tokensLength (tokens ++ more) = tokensLength tokens + tokensLength more := by
  rw [tokensLength, List.map_append, List.sum_append, tokensLength, tokensLength]

/-- A repaired text is cut into the same tokens, except that strings are repaired; what it is
shorter, those strings are shorter. -/
theorem exists_tokensFrom_of_repaired (h : Repaired cs cs') (hmode : ModeRepaired mode mode')
    (htokens : tokensFrom mode cs = some tokens) :
    ∃ tokens', tokensFrom mode' cs' = some tokens' ∧
      List.Forall₂ TokenRepaired tokens tokens' ∧
      tokensLength tokens + (mode'.textLength + cs'.length)
        = tokensLength tokens' + (mode.textLength + cs.length) := by
  induction h generalizing mode mode' tokens with
  | nil =>
    -- the text ends in no string, so nothing in the mode was repaired
    have hsame : mode' = mode := by
      cases hmode with
      | between => rfl
      | number taken => rfl
      | word taken => rfl
      | string repaired => cases htokens
      | escape repaired => cases htokens
      | code repaired high digits => cases htokens
      | pair repaired high => cases htokens
      | pairEscape repaired high => cases htokens
    exact ⟨tokens, hsame ▸ htokens, forall₂_same tokens, by rw [hsame]⟩
  | keep c _ ih =>
    obtain ⟨out, next, more, hstep, hmore, rfl⟩ := tokensFrom_cons_eq_some_iff.mp htokens
    obtain ⟨out', next', hstep', hout, hnext, hlength⟩ := exists_step_of_repaired hmode hstep
    obtain ⟨more', hmore', hrest, hlengths⟩ := ih hnext hmore
    refine ⟨out' ++ more', tokensFrom_cons_eq_some_iff.mpr ⟨_, _, _, hstep', hmore', rfl⟩,
      List.rel_append hout hrest, ?_⟩
    rw [tokensLength_append, tokensLength_append, List.length_cons, List.length_cons]
    omega
  | @replace run cs cs' spells _ ih =>
    -- the run stands in a string, which takes it, and the null for it, character by character
    obtain ⟨taken, rfl⟩ := exists_string_of_run spells htokens
    cases hmode with
    | @string _ taken' repaired =>
      have hrun := standsForItself_of_run (fun c hc => spells.plain hc) htokens
      have hnull : ∀ c ∈ ": null".toList, StandsForItself c := by simp [StandsForItself]
      rw [tokensFrom_string_append hrun] at htokens
      rw [tokensFrom_string_append hnull]
      have hmode : ModeRepaired (.string (run.reverse ++ taken))
          (.string (": null".toList.reverse ++ taken')) := by
        refine .string ?_
        rw [List.reverse_append, List.reverse_append, List.reverse_reverse, List.reverse_reverse]
        have hreplaced : Repaired (run ++ []) (": null".toList ++ []) := .replace spells .nil
        rw [List.append_nil, List.append_nil] at hreplaced
        exact repaired.append hreplaced
      obtain ⟨tokens', htokens', hrest, hlength⟩ := ih hmode htokens
      refine ⟨tokens', htokens', hrest, ?_⟩
      simp only [TokenMode.textLength, List.length_append, List.length_reverse] at hlength ⊢
      omega

/-! ## Blanks around the text -/

/-- Behind four digits the string goes on. -/
theorem finish_of_endCode {taken : List Char} {high : Option ℕ} {code : ℕ} {next : TokenMode}
    (h : endCode taken high code = some next) : finish next = none := by
  cases high with
  | some high =>
    obtain ⟨-, ⟨⟩⟩ := Option.ite_none_right_eq_some.mp h
    rfl
  | none =>
    rw [endCode] at h
    split at h
    · cases h
      rfl
    · obtain ⟨-, ⟨⟩⟩ := Option.ite_none_left_eq_some.mp h
      rfl

/-- A blank at the end of a text completes no token that the end would not. -/
theorem finish_of_blank {next : TokenMode} {out last : List Token} {c : Char}
    (hblank : isBlank c = true) (hstep : step mode c = some (out, next))
    (hfinish : finish next = some last) : finish mode = some (out ++ last) := by
  obtain ⟨hnumber, halpha⟩ := continues_of_isBlank hblank
  cases mode with
  | between =>
    obtain ⟨rfl, rfl⟩ := stepBetween_blank hblank hstep
    exact hfinish
  | number taken =>
    rw [step, if_neg (by rw [hnumber]; exact Bool.false_ne_true)] at hstep
    obtain ⟨token, more, htoken, hmore, rfl⟩ := exists_of_complete hstep
    obtain ⟨rfl, rfl⟩ := stepBetween_blank hblank hmore
    cases hfinish
    rw [finish, htoken]
    rfl
  | word taken =>
    rw [step, if_neg (by rw [halpha]; exact Bool.false_ne_true)] at hstep
    obtain ⟨token, more, htoken, hmore, rfl⟩ := exists_of_complete hstep
    obtain ⟨rfl, rfl⟩ := stepBetween_blank hblank hmore
    cases hfinish
    rw [finish, htoken]
    rfl
  -- a string ends at its quote, which is no blank
  | string taken =>
    rw [step, if_neg (ne_of_isBlank hblank rfl), if_neg (ne_of_isBlank hblank rfl)] at hstep
    obtain ⟨-, ⟨⟩⟩ := Option.ite_none_left_eq_some.mp hstep
    cases hfinish
  | escape taken =>
    rw [step, if_neg (ne_of_isBlank hblank rfl)] at hstep
    obtain ⟨_, -, ⟨⟩⟩ := Option.map_eq_some_iff.mp hstep
    cases hfinish
  | code taken high digits =>
    rw [step] at hstep
    split at hstep
    · obtain ⟨_, -, ⟨⟩⟩ := Option.map_eq_some_iff.mp hstep
      cases hfinish
    · obtain ⟨code, -, hstep⟩ := Option.bind_eq_some_iff.mp hstep
      obtain ⟨mode, hmode, ⟨⟩⟩ := Option.bind_eq_some_iff.mp hstep
      rw [finish_of_endCode hmode] at hfinish
      cases hfinish
  | pair taken high =>
    obtain ⟨-, ⟨⟩⟩ := Option.ite_none_right_eq_some.mp hstep
    cases hfinish
  | pairEscape taken high =>
    obtain ⟨-, ⟨⟩⟩ := Option.ite_none_right_eq_some.mp hstep
    cases hfinish

theorem tokensFrom_concat_blank {c : Char} (hblank : isBlank c = true)
    (h : tokensFrom mode (cs ++ [c]) = some tokens) : tokensFrom mode cs = some tokens := by
  induction cs generalizing mode tokens with
  | nil =>
    obtain ⟨out, next, more, hstep, hmore, rfl⟩ := tokensFrom_cons_eq_some_iff.mp h
    exact finish_of_blank hblank hstep hmore
  | cons d rest ih =>
    obtain ⟨out, next, more, hstep, hmore, rfl⟩ := tokensFrom_cons_eq_some_iff.mp h
    exact tokensFrom_cons_eq_some_iff.mpr ⟨out, next, more, hstep, ih hmore, rfl⟩

/-- Blanks around a text that can be cut into tokens are no part of any token. -/
theorem tokens_of_blanks {lead trail : List Char} (hlead : lead.all isBlank = true)
    (htrail : trail.all isBlank = true)
    (h : Json.tokens (lead ++ (cs ++ trail)) = some tokens) : Json.tokens cs = some tokens := by
  -- in front the machine passes over blanks, at the end they complete no token
  have hleft : Json.tokens (cs ++ trail) = some tokens := by
    induction lead with
    | nil => exact h
    | cons c lead ih =>
      rw [List.all_cons, Bool.and_eq_true] at hlead
      obtain ⟨out, next, more, hstep, hmore, rfl⟩ := tokensFrom_cons_eq_some_iff.mp h
      obtain ⟨rfl, rfl⟩ := stepBetween_blank hlead.1 hstep
      exact ih hlead.2 hmore
  clear h
  induction trail using List.reverseRecOn with
  | nil => rwa [List.append_nil] at hleft
  | append_singleton trail c ih =>
    rw [List.all_append, Bool.and_eq_true, List.all_cons, Bool.and_eq_true] at htrail
    rw [← List.append_assoc] at hleft
    exact ih htrail.1 (tokensFrom_concat_blank htrail.2.1 hleft)

theorem tokens_trimChars (h : Json.tokens cs = some tokens) :
    Json.tokens (trimChars cs) = some tokens := by
  obtain ⟨lead, trail, hlead, htrail, hsplit⟩ := exists_blanks_trimChars cs
  rw [hsplit] at h
  exact tokens_of_blanks hlead htrail h

end Whole

end Json
end TableShell
