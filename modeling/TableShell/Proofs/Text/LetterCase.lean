import Mathlib.Tactic.Common
import TableShell.Text.LetterCase

/-!
# Lower case in context

Only a capital sigma looks around itself, so the lower case of a part of a text is the part's own
lower case but for its capital sigmas. `settled_iff_infix` says for which texts the surroundings
make no difference: those that settle the form of each of their capital sigmas themselves.
-/

namespace TableShell
namespace Text

/-! ## What a capital sigma sees -/

/-- The first of the characters that case does not ignore. -/
def nearest? (cs : List Char) : Option Char :=
  cs.find? fun c => !inRanges caseIgnorableRanges c

theorem nextIsCased_eq (cs : List Char) :
    nextIsCased cs = (nearest? cs).any (inRanges casedRanges) := by
  rw [nextIsCased, nearest?]
  induction cs with
  | nil => rfl
  | cons c cs ih =>
    rw [List.dropWhile_cons, List.find?_cons]
    cases inRanges caseIgnorableRanges c with
    | false => rfl
    | true => exact ih

/-- What is seen in the characters hides what comes farther off. -/
theorem nextIsCased_append_of_isSome {xs : List Char} (h : (nearest? xs).isSome = true)
    (ys : List Char) : nextIsCased (xs ++ ys) = nextIsCased xs := by
  obtain ⟨c, hc⟩ := Option.isSome_iff_exists.mp h
  have happend : nearest? (xs ++ ys) = some c := by
    rw [nearest?, List.find?_append, ← nearest?, hc, Option.some_or]
  rw [nextIsCased_eq, nextIsCased_eq, happend, hc]

/-- Characters that case ignores are looked through. -/
theorem nextIsCased_append_of_none {xs : List Char} (h : nearest? xs = none) (ys : List Char) :
    nextIsCased (xs ++ ys) = nextIsCased ys := by
  have happend : nearest? (xs ++ ys) = nearest? ys := by
    rw [nearest?, List.find?_append, ← nearest?, h, Option.none_or, ← nearest?]
  rw [nextIsCased_eq, nextIsCased_eq, happend]

/-- The form of a capital sigma behind `before`, which stands in reverse, and in front of
`after`. -/
def sigmaAt (before after : List Char) : Char :=
  if nextIsCased before && !nextIsCased after then 'ς' else 'σ'

/-- What stands around a capital sigma settles its form, whatever comes farther off. Of what case
does not ignore, the nearest before it is not cased, or the nearest behind it is, or there is
something on both sides. -/
def SettlesSigma (before after : List Char) : Prop :=
  (nearest? before).isSome = true ∧ nextIsCased before = false ∨ nextIsCased after = true ∨
    (nearest? before).isSome = true ∧ (nearest? after).isSome = true

instance (before after : List Char) : Decidable (SettlesSigma before after) :=
  inferInstanceAs (Decidable (_ ∨ _ ∨ _))

theorem sigmaAt_append {before after : List Char} (h : SettlesSigma before after)
    (farBefore farAfter : List Char) :
    sigmaAt (before ++ farBefore) (after ++ farAfter) = sigmaAt before after := by
  rw [sigmaAt, sigmaAt]
  rcases h with ⟨hsome, huncased⟩ | hcased | ⟨hbefore, hafter⟩
  · rw [nextIsCased_append_of_isSome hsome, huncased, Bool.false_and, Bool.false_and]
  · have hsome : (nearest? after).isSome = true := by
      rw [nextIsCased_eq] at hcased
      exact Option.isSome_of_any hcased
    rw [nextIsCased_append_of_isSome hsome, hcased, Bool.not_true, Bool.and_false, Bool.and_false]
  · rw [nextIsCased_append_of_isSome hbefore, nextIsCased_append_of_isSome hafter]

/-- A letter as near as possible decides a form that is not settled: in front of the characters the
sigma becomes final, or behind them it is final no more. -/
theorem sigmaAt_ne_of_not_settles {before after : List Char} (h : ¬ SettlesSigma before after)
    {front behind : Char} (hfront : nextIsCased [front] = true)
    (hbehind : nextIsCased [behind] = true) :
    sigmaAt (before ++ [front]) after ≠ sigmaAt before after ∨
      sigmaAt before (after ++ [behind]) ≠ sigmaAt before after := by
  rw [SettlesSigma, not_or, not_or] at h
  obtain ⟨hbefore, hafter, hboth⟩ := h
  rw [Bool.not_eq_true] at hafter
  cases hnear : nearest? before with
  | none =>
    left
    have hnone : nextIsCased before = false := by rw [nextIsCased_eq, hnear, Option.any_none]
    rw [sigmaAt, sigmaAt, nextIsCased_append_of_none hnear, hfront, hnone, hafter]
    decide
  | some c =>
    right
    have hsome : (nearest? before).isSome = true := by rw [hnear, Option.isSome_some]
    have hcased : nextIsCased before = true := by
      by_contra hun
      exact hbefore ⟨hsome, Bool.eq_false_iff.mpr hun⟩
    have hnone : nearest? after = none :=
      Option.not_isSome_iff_eq_none.mp fun hsome' => hboth ⟨hsome, hsome'⟩
    rw [sigmaAt, sigmaAt, nextIsCased_append_of_none hnone, hbehind, hcased, hafter]
    decide

/-! ## Lower case in place -/

/-- The lower case of a character behind `before`, which stands in reverse, and in front of
`after`. -/
def lowerAt (before : List Char) (c : Char) (after : List Char) : List Char :=
  if c = 'Σ' then [sigmaAt before after] else lowerChar c

/-- The lower case of the characters `cs` where they stand, behind `before`, which stands in
reverse, and in front of `after`. -/
def lowerWithin (before : List Char) : (cs after : List Char) → List Char
  | [], _ => []
  | c :: rest, after => lowerAt before c (rest ++ after) ++ lowerWithin (c :: before) rest after

theorem lowerAfter_eq (before cs : List Char) :
    lowerAfter before cs = lowerWithin before cs [] := by
  induction cs generalizing before with
  | nil => rfl
  | cons c rest ih =>
    have hat : (if c = 'Σ' then
        if nextIsCased before && !nextIsCased rest then ['ς'] else ['σ']
        else lowerChar c) = lowerAt before c rest := by
      rw [lowerAt, sigmaAt]
      split
      · split <;> rfl
      · rfl
    rw [lowerAfter, lowerWithin, List.append_nil, ← ih, ← hat]

theorem lowerChars_eq (cs : List Char) : lowerChars cs = lowerWithin [] cs [] :=
  lowerAfter_eq [] cs

theorem lowerWithin_append (before xs ys after : List Char) :
    lowerWithin before (xs ++ ys) after
      = lowerWithin before xs (ys ++ after) ++ lowerWithin (xs.reverse ++ before) ys after := by
  induction xs generalizing before with
  | nil => rfl
  | cons x xs ih =>
    rw [List.cons_append, lowerWithin, lowerWithin, ih, List.append_assoc, List.append_assoc,
      List.reverse_cons, List.append_assoc, List.singleton_append]

/-- In a text, each part is in the lower case of its place. -/
theorem lowerChars_append_append (before cs after : List Char) :
    lowerChars (before ++ cs ++ after)
      = lowerWithin [] before (cs ++ after) ++ lowerWithin before.reverse cs after ++
        lowerWithin (cs.reverse ++ before.reverse) after [] := by
  rw [lowerChars_eq, lowerWithin_append, lowerWithin_append, List.append_nil, List.append_nil,
    List.reverse_append, List.append_nil]

/-- Both forms of a capital sigma are one character. -/
theorem length_lowerAt (before after before' after' : List Char) (c : Char) :
    (lowerAt before c after).length = (lowerAt before' c after').length := by
  rw [lowerAt, lowerAt]
  split <;> rfl

theorem length_lowerWithin (cs before after before' after' : List Char) :
    (lowerWithin before cs after).length = (lowerWithin before' cs after').length := by
  induction cs generalizing before before' with
  | nil => rfl
  | cons c rest ih =>
    rw [lowerWithin, lowerWithin, List.length_append, List.length_append,
      ih (c :: before) (c :: before'), length_lowerAt before _ before' (rest ++ after')]

/-- The lower case of a capital sigma in place, and of what stands around it. -/
theorem lowerWithin_sigma (far before after farther : List Char) :
    lowerWithin far (before ++ 'Σ' :: after) farther
      = lowerWithin far before ('Σ' :: after ++ farther) ++
        sigmaAt (before.reverse ++ far) (after ++ farther) ::
          lowerWithin ('Σ' :: (before.reverse ++ far)) after farther := by
  rw [lowerWithin_append, lowerWithin, lowerAt, if_pos rfl, List.singleton_append]

/-- Where a capital sigma takes another form, the lower case is another. -/
theorem lowerWithin_ne {before after far farther far' farther' : List Char}
    (h : sigmaAt (before.reverse ++ far) (after ++ farther)
      ≠ sigmaAt (before.reverse ++ far') (after ++ farther')) :
    lowerWithin far (before ++ 'Σ' :: after) farther
      ≠ lowerWithin far' (before ++ 'Σ' :: after) farther' := by
  rw [lowerWithin_sigma, lowerWithin_sigma]
  intro heq
  have htails := (List.append_inj heq (length_lowerWithin before _ _ _ _)).2
  exact h (List.cons.inj htails).1

/-! ## Texts that settle their lower case -/

/-- The text settles the form of each of its capital sigmas. -/
def Settled (cs : List Char) : Prop :=
  ∀ before after, cs = before ++ 'Σ' :: after → SettlesSigma before.reverse after

/-- Each place of the text is a cut of it. -/
theorem settled_iff_getElem? {cs : List Char} :
    Settled cs ↔ ∀ i < cs.length, cs[i]? = some 'Σ' →
      SettlesSigma (cs.take i).reverse (cs.drop (i + 1)) := by
  constructor
  · intro h i hi hat
    apply h
    rw [List.getElem?_eq_getElem hi] at hat
    rw [← Option.some.inj hat, List.getElem_cons_drop, List.take_append_drop]
  · rintro h before after rfl
    have hlength : before.length < (before ++ 'Σ' :: after).length := by
      rw [List.length_append, List.length_cons]
      omega
    have hat := h before.length hlength (by simp)
    rwa [List.take_left, List.drop_append, List.drop_eq_nil_of_le (Nat.le_succ _),
      Nat.add_sub_cancel_left, List.nil_append, List.drop_one, List.tail_cons] at hat

instance (cs : List Char) : Decidable (Settled cs) :=
  decidable_of_iff _ settled_iff_getElem?.symm

/-- Without a capital sigma there is nothing to settle. -/
theorem settled_of_not_mem {cs : List Char} (h : 'Σ' ∉ cs) : Settled cs := by
  rintro before after rfl
  exact absurd (List.mem_append_right before List.mem_cons_self) h

/-- What is settled by the characters and those close before them is not changed by what comes
farther off. -/
theorem lowerWithin_append_far (before : List Char) {cs : List Char}
    (h : ∀ xs ys, cs = xs ++ 'Σ' :: ys → SettlesSigma (xs.reverse ++ before) ys)
    (far after : List Char) :
    lowerWithin (before ++ far) cs after = lowerWithin before cs [] := by
  induction cs generalizing before with
  | nil => rfl
  | cons c rest ih =>
    have hhead : lowerAt (before ++ far) c (rest ++ after) = lowerAt before c rest := by
      rw [lowerAt, lowerAt]
      split
      · rename_i hsigma
        have hsettles : SettlesSigma before rest := h [] rest (by rw [hsigma, List.nil_append])
        rw [sigmaAt_append hsettles]
      · rfl
    have hrest : ∀ xs ys, rest = xs ++ 'Σ' :: ys → SettlesSigma (xs.reverse ++ c :: before) ys := by
      intro xs ys hsplit
      have hat := h (c :: xs) ys (by rw [hsplit, List.cons_append])
      rwa [List.reverse_cons, List.append_assoc, List.singleton_append] at hat
    rw [lowerWithin, lowerWithin, List.append_nil, hhead, ← ih _ hrest, List.cons_append]

/-- In any text, a settled part has its own lower case. -/
theorem Settled.lowerWithin_eq {cs : List Char} (h : Settled cs) (before after : List Char) :
    lowerWithin before cs after = lowerChars cs := by
  rw [lowerChars_eq]
  refine lowerWithin_append_far [] (fun xs ys hsplit => ?_) before after
  rw [List.append_nil]
  exact h xs ys hsplit

/-- There is a letter other than the given character that is its own lower case. -/
theorem exists_letter (other : Option Char) :
    ∃ letter, (∀ before after, lowerAt before letter after = [letter]) ∧
      nextIsCased [letter] = true ∧ other ≠ some letter := by
  by_cases h : other = some 'a'
  · refine ⟨'b', fun before after => ?_, by decide +kernel, by rw [h]; decide⟩
    rw [lowerAt, if_neg (by decide)]
    rfl
  · refine ⟨'a', fun before after => ?_, by decide +kernel, h⟩
    rw [lowerAt, if_neg (by decide)]
    rfl

/-- If a letter in front makes another lower case, it makes one in which the old one does not
occur. -/
theorem not_infix_of_letter_before {cs : List Char} {letter : Char}
    (hletter : ∀ before after, lowerAt before letter after = [letter])
    (hhead : (lowerChars cs).head? ≠ some letter) (hnil : lowerChars cs ≠ [])
    (hne : lowerWithin [letter] cs [] ≠ lowerChars cs) :
    ¬ lowerChars cs <:+: lowerChars (letter :: cs) := by
  rw [lowerChars_eq (letter :: cs), lowerWithin, hletter, List.singleton_append]
  intro hpart
  rcases List.infix_cons_iff.mp hpart with hstart | hlater
  · rcases List.prefix_cons_iff.mp hstart with hempty | ⟨rest, heq, -⟩
    · exact hnil hempty
    · rw [heq] at hhead
      exact hhead rfl
  · have hlength : (lowerChars cs).length = (lowerWithin [letter] cs []).length := by
      rw [lowerChars_eq, length_lowerWithin]
    exact hne (hlater.eq_of_length hlength).symm

/-- If a letter behind makes another lower case, it makes one in which the old one does not
occur. -/
theorem not_infix_of_letter_after {cs : List Char} {letter : Char}
    (hletter : ∀ before after, lowerAt before letter after = [letter])
    (hlast : (lowerChars cs).getLast? ≠ some letter) (hnil : lowerChars cs ≠ [])
    (hne : lowerWithin [] cs [letter] ≠ lowerChars cs) :
    ¬ lowerChars cs <:+: lowerChars (cs ++ [letter]) := by
  rw [lowerChars_eq (cs ++ [letter]), lowerWithin_append, lowerWithin, hletter, lowerWithin]
  intro hpart
  rcases List.infix_concat_iff.mp hpart with hstop | hearlier
  · rcases List.suffix_concat_iff.mp hstop with hempty | ⟨rest, heq, -⟩
    · exact hnil hempty
    · rw [heq, List.getLast?_concat] at hlast
      exact hlast rfl
  · have hlength : (lowerChars cs).length = (lowerWithin [] cs [letter]).length := by
      rw [lowerChars_eq, length_lowerWithin]
    exact hne (hearlier.eq_of_length hlength).symm

/-- A text has its own lower case in every text that holds it exactly if it settles the form of each
of its capital sigmas. -/
theorem settled_iff_infix {cs : List Char} :
    Settled cs ↔ ∀ text, cs <:+: text → lowerChars cs <:+: lowerChars text := by
  constructor
  · rintro h text ⟨before, after, rfl⟩
    refine ⟨lowerWithin [] before (cs ++ after),
      lowerWithin (cs.reverse ++ before.reverse) after [], ?_⟩
    rw [lowerChars_append_append, h.lowerWithin_eq]
  · rintro h before after rfl
    by_contra hopen
    have hnil : lowerChars (before ++ 'Σ' :: after) ≠ [] := by
      rw [lowerChars_eq, lowerWithin_sigma]
      exact List.append_ne_nil_of_right_ne_nil _ (List.cons_ne_nil _ _)
    obtain ⟨front, hfront, hcased, hhead⟩ :=
      exists_letter (lowerChars (before ++ 'Σ' :: after)).head?
    obtain ⟨behind, hbehind, hcased', hlast⟩ :=
      exists_letter (lowerChars (before ++ 'Σ' :: after)).getLast?
    rcases sigmaAt_ne_of_not_settles hopen hcased hcased' with hform | hform
    · have hne : lowerWithin [front] (before ++ 'Σ' :: after) []
          ≠ lowerChars (before ++ 'Σ' :: after) := by
        rw [lowerChars_eq]
        refine lowerWithin_ne ?_
        rwa [List.append_nil, List.append_nil]
      exact not_infix_of_letter_before hfront hhead hnil hne
        (h _ (List.infix_cons (List.infix_refl _)))
    · have hne : lowerWithin [] (before ++ 'Σ' :: after) [behind]
          ≠ lowerChars (before ++ 'Σ' :: after) := by
        rw [lowerChars_eq]
        refine lowerWithin_ne ?_
        rwa [List.append_nil, List.append_nil]
      exact not_infix_of_letter_after hbehind hlast hnil hne
        (h _ (List.prefix_append _ _).isInfix)

end Text
end TableShell
