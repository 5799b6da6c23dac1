import Mathlib.Tactic.Common
import TableShell.Text.Split

/-!
# Cutting joined texts

Texts that do not hold the mark are got back when they are joined by it and cut again. What is cut
off behind an opening is what was put there (`dropPrefix?_eq_some_iff`).
-/

namespace TableShell
namespace Text

/-- The characters of the pieces are characters of the text. -/
theorem mem_of_mem_pieces {mark c : Char} {cs piece : List Char} (h : piece ∈ pieces mark cs)
    (hc : c ∈ piece) : c ∈ cs := by
  induction cs generalizing piece with
  | nil =>
    rw [pieces, List.mem_singleton] at h
    rw [h] at hc
    exact hc
  | cons first rest ih =>
    rw [pieces] at h
    split at h
    · rcases List.mem_cons.mp h with rfl | hmem
      · cases hc
      · exact List.mem_cons_of_mem first (ih hmem hc)
    · split at h
      · rename_i head more hpieces
        have hhead : head ∈ pieces mark rest := by
          rw [hpieces]
          exact List.mem_cons_self
        rcases List.mem_cons.mp h with rfl | hmem
        · rcases List.mem_cons.mp hc with rfl | hc
          · exact List.mem_cons_self
          · exact List.mem_cons_of_mem first (ih hhead hc)
        · apply List.mem_cons_of_mem first
          apply ih _ hc
          rw [hpieces]
          exact List.mem_cons_of_mem head hmem
      · rw [List.mem_singleton] at h
        rw [h] at hc
        exact List.mem_cons.mpr (Or.inl (List.mem_singleton.mp hc))

/-- No piece holds the mark. -/
theorem not_mem_of_mem_pieces {mark : Char} {cs piece : List Char} (h : piece ∈ pieces mark cs) :
    mark ∉ piece := by
  induction cs generalizing piece with
  | nil =>
    rw [pieces, List.mem_singleton] at h
    rw [h]
    exact List.not_mem_nil
  | cons c rest ih =>
    rw [pieces] at h
    split at h
    · rcases List.mem_cons.mp h with rfl | hmem
      · exact List.not_mem_nil
      · exact ih hmem
    · rename_i hc
      split at h
      · rename_i first more hpieces
        rcases List.mem_cons.mp h with rfl | hmem
        · rw [List.mem_cons, not_or]
          exact ⟨Ne.symm hc, ih (hpieces ▸ List.mem_cons_self)⟩
        · exact ih (hpieces ▸ List.mem_cons_of_mem first hmem)
      · rename_i hpieces
        exact absurd hpieces (pieces_ne_nil mark rest)

/-- There is one piece more than there are marks. -/
theorem length_pieces (mark : Char) (cs : List Char) :
    (pieces mark cs).length = cs.count mark + 1 := by
  induction cs with
  | nil => rfl
  | cons c rest ih =>
    rw [pieces]
    split
    · rename_i hc
      rw [List.length_cons, ih, hc, List.count_cons_self]
    · rename_i hc
      rw [List.count_cons_of_ne hc]
      split
      · rename_i piece more hpieces
        rw [hpieces] at ih
        exact ih
      · rename_i hpieces
        exact absurd hpieces (pieces_ne_nil mark rest)

/-- A text without the mark is its only piece. -/
theorem pieces_of_not_mem {mark : Char} {cs : List Char} (h : mark ∉ cs) :
    pieces mark cs = [cs] := by
  induction cs with
  | nil => rfl
  | cons c rest ih =>
    rw [List.mem_cons, not_or] at h
    rw [pieces, if_neg (Ne.symm h.1), ih h.2]

/-- The first piece ends at the first mark. -/
theorem pieces_append_cons {mark : Char} {cs : List Char} (h : mark ∉ cs) (rest : List Char) :
    pieces mark (cs ++ mark :: rest) = cs :: pieces mark rest := by
  induction cs with
  | nil => rw [List.nil_append, pieces, if_pos rfl]
  | cons c cs ih =>
    rw [List.mem_cons, not_or] at h
    rw [List.cons_append, pieces, if_neg (Ne.symm h.1), ih h.2]

/-- Joined by a mark that none of them holds, the texts are the pieces of what they give. -/
theorem pieces_intercalate {mark : Char} {texts : List (List Char)} (hne : texts ≠ [])
    (h : ∀ t ∈ texts, mark ∉ t) : pieces mark ([mark].intercalate texts) = texts := by
  induction texts with
  | nil => exact absurd rfl hne
  | cons t rest ih =>
    cases rest with
    | nil =>
      rw [List.intercalate_singleton]
      exact pieces_of_not_mem (h t List.mem_cons_self)
    | cons u rest =>
      rw [List.intercalate_cons_cons, List.append_assoc, List.singleton_append,
        pieces_append_cons (h t List.mem_cons_self),
        ih (List.cons_ne_nil u rest) fun v hv => h v (List.mem_cons_of_mem t hv)]

/-- The separator stands once between two runs of texts. -/
theorem intercalate_append {α : Type} {separator : List α} {first second : List (List α)}
    (hfirst : first ≠ []) (hsecond : second ≠ []) :
    separator.intercalate (first ++ second)
      = separator.intercalate first ++ separator ++ separator.intercalate second := by
  induction first with
  | nil => exact absurd rfl hfirst
  | cons part parts ih =>
    cases parts with
    | nil =>
      rw [List.singleton_append, List.intercalate_cons_of_ne_nil hsecond,
        List.intercalate_singleton]
    | cons next parts =>
      have hnext : next :: parts ≠ [] := List.cons_ne_nil _ _
      rw [List.cons_append, List.intercalate_cons_of_ne_nil
        (List.append_ne_nil_of_left_ne_nil hnext second), ih hnext, List.intercalate_cons_cons]
      simp only [List.append_assoc]

/-- Texts that are joined from parts are joined from all the parts. -/
theorem intercalate_flatten {α : Type} (separator : List α) {partss : List (List (List α))}
    (h : ∀ parts ∈ partss, parts ≠ []) :
    separator.intercalate (partss.map separator.intercalate)
      = separator.intercalate partss.flatten := by
  induction partss with
  | nil => rfl
  | cons parts partss ih =>
    rw [List.forall_mem_cons] at h
    cases partss with
    | nil => rw [List.map_singleton, List.intercalate_singleton, List.flatten_singleton]
    | cons next partss =>
      have hne : (next :: partss).flatten ≠ [] := by
        rw [List.flatten_cons]
        exact List.append_ne_nil_of_left_ne_nil (h.2 next List.mem_cons_self) _
      rw [List.flatten_cons, intercalate_append h.1 hne, ← ih h.2, List.map_cons, List.map_cons,
        List.intercalate_cons_cons]

/-- What follows an opening is what is left without it. -/
theorem dropPrefix?_eq_some_iff {start cs rest : List Char} :
    dropPrefix? start cs = some rest ↔ cs = start ++ rest := by
  induction start generalizing cs with
  | nil => simp [dropPrefix?]
  | cons s start ih =>
    cases cs with
    | nil => simp [dropPrefix?]
    | cons c cs =>
      rw [dropPrefix?, List.cons_append, List.cons.injEq]
      split
      · rename_i hsame
        rw [ih, and_iff_right hsame.symm]
      · rename_i hother
        exact iff_of_false (by simp) fun h => hother h.1.symm

/-- What comes before an ending is what is left without it. -/
theorem dropSuffix?_append (stop cs : List Char) : dropSuffix? stop (cs ++ stop) = some cs := by
  have hdrop : dropPrefix? stop.reverse (cs ++ stop).reverse = some cs.reverse :=
    dropPrefix?_eq_some_iff.mpr List.reverse_append
  rw [dropSuffix?, hdrop, Option.map_some, List.reverse_reverse]

/-- A run occurs in a text exactly if it is a part of it. -/
theorem occursIn_iff_infix {run cs : List Char} : occursIn run cs = true ↔ run <:+: cs := by
  induction cs with
  | nil => rw [occursIn, List.isEmpty_iff, List.infix_nil]
  | cons c cs ih =>
    rw [occursIn, Bool.or_eq_true, List.isPrefixOf_iff_prefix, List.infix_cons_iff, ih]

end Text
end TableShell
