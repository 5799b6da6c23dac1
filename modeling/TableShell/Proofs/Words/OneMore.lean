import TableShell.Proofs.Except.Traversal
import TableShell.Proofs.Words.Quoting

/-!
# Lines with a word more

A line that has words keeps them when a blank and more text are put behind it (`scan_append`): at
its end the reader stands outside quotes, and the blank ends the word at hand. So a word that is
written behind a line is one word more (`read_append_word`).
-/

namespace TableShell
namespace Words

open Text

/-- Behind a text that has words, a blank ends the last of them, and reading goes on. -/
theorem scan_append {mode : Mode} {position : ℕ} {cs : List Char} {words : List (List Char)}
    (h : scan mode position cs = .ok words) (rest : List Char) :
    ∃ next, scan mode position (cs ++ ' ' :: rest)
      = (scan (.outside none) next rest).map (words ++ ·) := by
  have hblank : isBlank ' ' = true := by decide
  fun_induction scan mode position cs generalizing words
  case case1 position word =>
    cases h
    exact ⟨_, scan_outside_blank hblank word position rest⟩
  case case4 hc ih =>
    -- the text has the word at hand and those of what follows the blank
    obtain ⟨later, hlater, rfl⟩ := Traversal.map_eq_ok_iff.mp h
    obtain ⟨next, hnext⟩ := ih hlater
    refine ⟨next, ?_⟩
    rw [List.cons_append, scan_outside_blank hc, hnext]
    cases scan (.outside none) next rest with
    | error e => rfl
    | ok more => simp only [Except.map, List.append_assoc]
  -- a text that ends inside quotes or behind a backslash has no words
  case case2 => cases h
  case case3 => cases h
  case case7 => cases h
  case case13 =>
    rw [scan] at h
    cases h
  case case5 ih =>
    obtain ⟨next, hnext⟩ := ih h
    exact ⟨next, by rw [← hnext, List.cons_append, scan_outside_single]⟩
  case case6 ih =>
    obtain ⟨next, hnext⟩ := ih h
    exact ⟨next, by rw [← hnext, List.cons_append, scan_outside_double]⟩
  case case8 ih =>
    obtain ⟨next, hnext⟩ := ih h
    refine ⟨next, ?_⟩
    rw [← hnext, List.cons_append, List.cons_append, scan_outside_cons]
    rfl
  case case9 hc hsingle hdouble hbackslash ih =>
    obtain ⟨next, hnext⟩ := ih h
    have hbare : IsBare _ := ⟨Bool.eq_false_iff.mpr hc, hsingle, hdouble, hbackslash⟩
    exact ⟨next, by rw [← hnext, List.cons_append, scan_outside_bare hbare]⟩
  case case10 ih =>
    obtain ⟨next, hnext⟩ := ih h
    exact ⟨next, by rw [← hnext, List.cons_append, scan_single_close]⟩
  case case11 hc ih =>
    obtain ⟨next, hnext⟩ := ih h
    exact ⟨next, by rw [← hnext, List.cons_append, scan_single_char hc]⟩
  case case12 | case14 | case15 | case16 | case17 =>
    rename_i ih
    obtain ⟨next, hnext⟩ := ih h
    refine ⟨next, ?_⟩
    rw [← hnext, List.cons_append, scan_double_cons]
    simp [*]

/-- A word that is written behind a line is one word more. -/
theorem read_append_word {line written word : String} {words : List String}
    (h : read line = .ok words) (hword : Writes written word) :
    read (line ++ " " ++ written) = .ok (words ++ [word]) := by
  obtain ⟨charWords, hscan, rfl⟩ := Traversal.map_eq_ok_iff.mp h
  obtain ⟨next, hnext⟩ := scan_append hscan written.toList
  have hmore : scan (.outside none) next written.toList = .ok [word.toList] := by
    have hone := scan_intercalate (.cons hword .nil) next
    rwa [List.intercalate_singleton] at hone
  have htext : (line ++ " " ++ written).toList = line.toList ++ ' ' :: written.toList := by
    rw [String.toList_append, String.toList_append, List.append_assoc]
    rfl
  rw [read, htext, hnext, hmore]
  simp [Except.map]

end Words
end TableShell
