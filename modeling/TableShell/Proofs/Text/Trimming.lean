import Mathlib.Data.List.DropRight
import Mathlib.Tactic.Common
import TableShell.Text.Blank

/-!
# Blanks at the edges of a text

Printable characters of ASCII other than the space are not blank, so a text that consists of them
keeps all its characters when it is trimmed. Of any text, blanks alone leave nothing
(`trim_eq_empty_iff`), and what is trimmed has no blanks left at its edges (`trim_trim`). Blanks
that are put around a text are trimmed off with its own (`trimChars_append_of_blanks`).
-/

namespace TableShell
namespace Text

/-- A printable character of ASCII is no blank, the space apart. -/
theorem isBlank_eq_false_of_printable {c : Char} (hlo : 0x20 < c.toNat) (hhi : c.toNat < 0x7F) :
    isBlank c = false := by
  simp only [isBlank, blankRanges, List.any_cons, List.any_nil, Bool.or_false,
    Bool.or_eq_false_iff, Bool.and_eq_false_iff, decide_eq_false_iff_not]
  omega

/-- Letters and digits of ASCII are printable, and no quotes. -/
theorem toNat_of_isAlphanum {c : Char} (h : c.isAlphanum = true) :
    0x30 ≤ c.toNat ∧ c.toNat ≤ 0x7A ∧ c.toNat ≠ 0x5C := by
  have hranges : ((decide (0x41 ≤ c.toNat ∧ c.toNat ≤ 0x5A) ||
      (decide (0x61 ≤ c.toNat) && decide (c.toNat ≤ 0x7A))) ||
      (decide (0x30 ≤ c.toNat) && decide (c.toNat ≤ 0x39))) = true := h
  simp only [Bool.or_eq_true, Bool.and_eq_true, decide_eq_true_eq] at hranges
  omega

/-- Without blanks at the left edge there is nothing to trim there. -/
theorem trimLeft_eq_self {cs : List Char} (h : ∀ c ∈ cs, isBlank c = false) :
    trimLeft cs = cs := by
  cases cs with
  | nil => rfl
  | cons c rest =>
    rw [trimLeft, List.dropWhile_cons, h c List.mem_cons_self]
    rfl

/-- A text without blanks is its own trimmed form. -/
theorem trimChars_eq_self {cs : List Char} (h : ∀ c ∈ cs, isBlank c = false) :
    trimChars cs = cs := by
  have hrev : cs.reverse.dropWhile isBlank = cs.reverse :=
    trimLeft_eq_self fun c hc => h c (List.mem_reverse.mp hc)
  rw [trimChars, trimLeft_eq_self h, trimRight, hrev, List.reverse_reverse]

/-! ## Any text -/

/-- Nothing is left of blanks alone. -/
theorem trimChars_eq_nil_iff {cs : List Char} : trimChars cs = [] ↔ cs.all isBlank = true := by
  have hright : trimChars cs = [] ↔ ∀ c ∈ trimLeft cs, isBlank c = true :=
    List.rdropWhile_eq_nil_iff
  rw [hright, List.all_eq_true]
  constructor
  · intro h
    -- the first character behind the leading blanks would be one more of them
    by_cases hnil : cs.dropWhile isBlank = []
    · exact List.dropWhile_eq_nil_iff.mp hnil
    · have hfirst := List.head_dropWhile_not isBlank hnil
      rw [h _ (List.head_mem hnil)] at hfirst
      cases hfirst
  · intro h c hc
    exact h c ((List.dropWhile_suffix isBlank).mem hc)

theorem trim_eq_empty_iff {s : String} : trim s = "" ↔ s.toList.all isBlank = true := by
  rw [← trimChars_eq_nil_iff, ← toList_trim, String.toList_eq_nil_iff]

/-- Trimming takes characters away and adds none. -/
theorem mem_of_mem_trimChars {cs : List Char} {c : Char} (h : c ∈ trimChars cs) : c ∈ cs := by
  have hleft : c ∈ trimLeft cs := (List.rdropWhile_prefix isBlank (trimLeft cs)).mem h
  exact (List.dropWhile_suffix isBlank).mem hleft

/-- A first character that is not blank stays the first. -/
theorem exists_trimChars_cons {c : Char} (h : isBlank c = false) (cs : List Char) :
    ∃ rest, trimChars (c :: cs) = c :: rest := by
  have hleft : trimLeft (c :: cs) = c :: cs := by
    rw [trimLeft, List.dropWhile_cons_of_neg (by rw [h]; exact Bool.false_ne_true)]
  have hstart : trimChars (c :: cs) <+: c :: cs := by
    rw [trimChars, hleft]
    exact List.rdropWhile_prefix isBlank (c :: cs)
  cases htrim : trimChars (c :: cs) with
  | nil =>
    rw [trimChars_eq_nil_iff, List.all_cons, h] at htrim
    cases htrim
  | cons d rest =>
    rw [htrim, List.cons_prefix_cons] at hstart
    exact ⟨rest, by rw [hstart.1]⟩

/-- What is trimmed keeps all its characters when it is trimmed again. -/
theorem trimChars_trimChars (cs : List Char) : trimChars (trimChars cs) = trimChars cs := by
  have hleft : trimLeft (trimChars cs) = trimChars cs := by
    apply List.dropWhile_eq_self_iff.mpr
    intro hlength
    -- its first character is the first behind the leading blanks
    obtain ⟨rest, hrest⟩ : trimChars cs <+: trimLeft cs := List.rdropWhile_prefix isBlank _
    have hfirst := List.dropWhile_eq_self_iff.mp (List.dropWhile_idempotent isBlank cs)
    have hsame : trimLeft cs = cs.dropWhile isBlank := rfl
    rw [← hsame] at hfirst
    simp only [← hrest] at hfirst
    have hlength' : 0 < (trimChars cs ++ rest).length := by
      rw [List.length_append]
      omega
    have hnot := hfirst hlength'
    rwa [List.getElem_append_left hlength] at hnot
  have hright : trimRight (trimChars cs) = trimChars cs :=
    List.rdropWhile_idempotent isBlank (trimLeft cs)
  have hagain : trimChars (trimChars cs) = trimRight (trimLeft (trimChars cs)) := rfl
  rw [hagain, hleft, hright]

/-- Characters that stand in a text and begin with none that is dropped are not dropped. -/
theorem infix_dropWhile {α : Type} {p : α → Bool} {first : α} {run xs : List α}
    (hfirst : p first = false) (h : first :: run <:+: xs) : first :: run <:+: xs.dropWhile p := by
  induction xs with
  | nil => exact h
  | cons x xs ih =>
    cases hx : p x with
    | false => rwa [List.dropWhile_cons_of_neg (by rw [hx]; exact Bool.false_ne_true)]
    | true =>
      rw [List.dropWhile_cons_of_pos hx]
      rcases List.infix_cons_iff.mp h with hprefix | hpart
      · obtain ⟨rfl, -⟩ := List.cons_prefix_cons.mp hprefix
        rw [hfirst] at hx
        cases hx
      · exact ih hpart

/-- Characters with no blank at either edge still stand in the text when it is trimmed. -/
theorem infix_trimChars {cs inner : List Char} {first last : Char} (hfirst : isBlank first = false)
    (hlast : isBlank last = false) (h : first :: (inner ++ [last]) <:+: cs) :
    first :: (inner ++ [last]) <:+: trimChars cs := by
  have hreverse (inner : List Char) :
      (first :: (inner ++ [last])).reverse = last :: (first :: inner).reverse := by
    rw [← List.cons_append, List.reverse_append]
    rfl
  have hleft : first :: (inner ++ [last]) <:+: trimLeft cs := infix_dropWhile hfirst h
  rw [trimChars, trimRight, ← List.reverse_infix, List.reverse_reverse, hreverse]
  rw [← List.reverse_infix, hreverse] at hleft
  exact infix_dropWhile hlast hleft

theorem trim_trim (s : String) : trim (trim s) = trim s := by
  rw [trim, toList_trim, trimChars_trimChars]
  rfl

/-! ## Blanks around a text -/

theorem trimLeft_append_of_blanks {gap : List Char} (h : gap.all isBlank = true)
    (cs : List Char) : trimLeft (gap ++ cs) = trimLeft cs :=
  List.dropWhile_append_of_pos (List.all_eq_true.mp h)

theorem trimRight_append_of_blanks {gap : List Char} (h : gap.all isBlank = true)
    (cs : List Char) : trimRight (cs ++ gap) = trimRight cs := by
  have hgap : gap.reverse.all isBlank = true := by rwa [List.all_reverse]
  have hleft : (gap.reverse ++ cs.reverse).dropWhile isBlank = cs.reverse.dropWhile isBlank :=
    trimLeft_append_of_blanks hgap cs.reverse
  rw [trimRight, List.reverse_append, hleft, trimRight]

/-- Blanks around a text are trimmed off with its own. -/
theorem trimChars_append_of_blanks {lead trail : List Char} (hlead : lead.all isBlank = true)
    (htrail : trail.all isBlank = true) (cs : List Char) :
    trimChars (lead ++ (cs ++ trail)) = trimChars cs := by
  rw [trimChars, trimLeft_append_of_blanks hlead, trimChars]
  by_cases hcs : trimLeft cs = []
  · -- then the text is blank, and all of it is trimmed off at the left
    have hblank : cs.all isBlank = true := List.all_eq_true.mpr (List.dropWhile_eq_nil_iff.mp hcs)
    have htrimmed : trimLeft trail = [] :=
      List.dropWhile_eq_nil_iff.mpr (List.all_eq_true.mp htrail)
    rw [trimLeft_append_of_blanks hblank, hcs, htrimmed]
  · have hleft : trimLeft (cs ++ trail) = trimLeft cs ++ trail := by
      have hne : (cs.dropWhile isBlank).isEmpty = false := List.isEmpty_eq_false_iff.mpr hcs
      rw [trimLeft, List.dropWhile_append, hne, if_neg Bool.false_ne_true]
      rfl
    rw [hleft, trimRight_append_of_blanks htrail]

/-- What is trimmed off are blanks. -/
theorem exists_blanks_trimChars (cs : List Char) :
    ∃ lead trail, lead.all isBlank = true ∧ trail.all isBlank = true ∧
      cs = lead ++ (trimChars cs ++ trail) := by
  refine ⟨cs.takeWhile isBlank, (trimLeft cs).rtakeWhile isBlank, ?_, ?_, ?_⟩
  · exact List.all_eq_true.mpr fun c hc => List.mem_takeWhile_imp hc
  · exact List.all_eq_true.mpr fun c hc => List.mem_rtakeWhile_imp hc
  · have hright : trimChars cs ++ (trimLeft cs).rtakeWhile isBlank = trimLeft cs :=
      List.rdropWhile_append_rtakeWhile
    rw [hright]
    exact List.takeWhile_append_dropWhile.symm

/-- A trimmed text does not begin with a blank. -/
theorem isBlank_of_trimChars_eq_cons {cs rest : List Char} {c : Char}
    (h : trimChars cs = c :: rest) : isBlank c = false := by
  by_contra hc
  rw [Bool.not_eq_false] at hc
  have hlead : [c].all isBlank = true := by
    rw [List.all_cons, hc]
    rfl
  have htrail : ([] : List Char).all isBlank = true := rfl
  -- trimmed again, it would lose the blank
  have hagain : trimChars rest = c :: rest := by
    have hrest := trimChars_append_of_blanks hlead htrail rest
    rw [List.append_nil, List.singleton_append, ← h, trimChars_trimChars, h] at hrest
    exact hrest.symm
  obtain ⟨lead, trail, -, -, hsplit⟩ := exists_blanks_trimChars rest
  have hlength := congrArg List.length hsplit
  rw [List.length_append, List.length_append, hagain, List.length_cons] at hlength
  omega

/-- A text with no blank at either edge is its own trimmed form. -/
theorem trimChars_of_edges {first last : Char} {inner : List Char}
    (hfirst : isBlank first = false) (hlast : isBlank last = false) :
    trimChars (first :: (inner ++ [last])) = first :: (inner ++ [last]) := by
  have hpart := infix_trimChars hfirst hlast (List.infix_refl (first :: (inner ++ [last])))
  obtain ⟨lead, trail, -, -, hsplit⟩ := exists_blanks_trimChars (first :: (inner ++ [last]))
  have hlength := congrArg List.length hsplit
  rw [List.length_append, List.length_append] at hlength
  exact (hpart.eq_of_length_le (by omega)).symm

end Text
end TableShell
