import TableShell.Proofs.Effect.SelectedRows
import TableShell.Proofs.Text.LetterCase

/-!
# Searching for a keyword

The command `search` shows, in their order, the rows with a cell whose lower case holds the lower
case of the keyword (`foundRows_spec`). A row with a cell that holds the keyword itself is always
among them exactly if the keyword settles the form of each of its capital sigmas.
-/

namespace TableShell
namespace Table

open Text

/-- The rows that the command `search` shows. -/
def foundRows (t : Table) (keyword : String) : List Row :=
  ((t.search keyword).table.map Table.rows).getD []

/-- The text of some cell of the row holds the keyword as it is written. -/
def RowHolds (keyword : String) (row : Row) : Prop :=
  ∃ cell ∈ row, keyword.toList <:+: cell.searchText.toList

/-- The rows that pass the test are shown, in the order of the table. -/
theorem foundRows_eq (t : Table) (keyword : String) :
    t.foundRows keyword = t.rows.filter (rowContains keyword) := by
  rw [foundRows, search, filter_map_eq]
  split
  · rename_i hempty
    rw [List.isEmpty_iff.mp hempty]
    rfl
  · dsimp only
    split
    · rename_i hnone
      exact (List.isEmpty_iff.mp hnone).symm
    · rfl

theorem rowContains_iff (keyword : String) (row : Row) :
    rowContains keyword row = true ↔
      ∃ cell ∈ row, lowerChars keyword.toList <:+: lowerChars cell.searchText.toList := by
  simp only [rowContains, List.any_eq_true, occursIn_iff_infix]

/-- A row that holds a settled keyword passes the test. -/
theorem rowContains_of_rowHolds {keyword : String} (h : Settled keyword.toList) {row : Row}
    (hrow : RowHolds keyword row) : rowContains keyword row = true := by
  obtain ⟨cell, hmem, hpart⟩ := hrow
  exact (rowContains_iff keyword row).mpr ⟨cell, hmem, settled_iff_infix.mp h _ hpart⟩

/-- The search shows the rows, in their order, with a cell that holds the keyword when both are in
lower case. It shows every row that holds the keyword as it is written, in any table, exactly if
the keyword settles the form of each of its capital sigmas. -/
theorem foundRows_spec (keyword : String) :
    (∀ t : Table, t.foundRows keyword = t.rows.filter (rowContains keyword)) ∧
      (∀ row : Row, rowContains keyword row = true ↔
        ∃ cell ∈ row, lowerChars keyword.toList <:+: lowerChars cell.searchText.toList) ∧
      ((∀ t : Table, ∀ row ∈ t.rows, RowHolds keyword row → row ∈ t.foundRows keyword) ↔
        Settled keyword.toList) := by
  refine ⟨fun t => t.foundRows_eq keyword, rowContains_iff keyword, fun h => ?_, fun h => ?_⟩
  · refine settled_iff_infix.mpr fun text hpart => ?_
    -- the text stands alone in a table
    let row : Row := [.text (.ofList text)]
    have htext : (Cell.text (.ofList text)).searchText.toList = text := String.toList_ofList
    have hholds : RowHolds keyword row := ⟨_, List.mem_singleton_self _, by rwa [htext]⟩
    have hfound := h ⟨[⟨"text", .text⟩], [row]⟩ row (List.mem_singleton_self row) hholds
    rw [foundRows_eq, List.mem_filter, rowContains_iff] at hfound
    obtain ⟨-, cell, hmem, hlower⟩ := hfound
    rwa [List.mem_singleton.mp hmem, htext] at hlower
  · intro t row hrow hholds
    rw [foundRows_eq]
    exact List.mem_filter.mpr ⟨hrow, rowContains_of_rowHolds h hholds⟩

theorem foundRows_spec_two_words :
    let t : Table := ⟨[⟨"a", .text⟩], [[.text "Η ΟΔΟΣ ΣΑΣ"], [.text "ΟΔΟΣ"]]⟩
    Settled "ΟΔΟΣ ΣΑ".toList ∧ RowHolds "ΟΔΟΣ ΣΑ" [.text "Η ΟΔΟΣ ΣΑΣ"] ∧
      [.text "Η ΟΔΟΣ ΣΑΣ"] ∈ t.foundRows "ΟΔΟΣ ΣΑ" := by
  intro t
  have hsettled : Settled "ΟΔΟΣ ΣΑ".toList := by decide +kernel
  have hpart : "ΟΔΟΣ ΣΑ".toList <:+: "Η ΟΔΟΣ ΣΑΣ".toList := ⟨['Η', ' '], ['Σ'], by decide⟩
  have hholds : RowHolds "ΟΔΟΣ ΣΑ" [.text "Η ΟΔΟΣ ΣΑΣ"] := ⟨_, List.mem_singleton_self _, hpart⟩
  have hfound := (foundRows_spec "ΟΔΟΣ ΣΑ").2.2.mpr hsettled t _ List.mem_cons_self hholds
  exact ⟨hsettled, hholds, hfound⟩

/-- A keyword without a capital sigma finds every row that holds it. -/
theorem mem_foundRows_of_not_mem {t : Table} {keyword : String} (h : 'Σ' ∉ keyword.toList)
    {row : Row} (hrow : row ∈ t.rows) (hholds : RowHolds keyword row) :
    row ∈ t.foundRows keyword := by
  rw [foundRows_eq]
  exact List.mem_filter.mpr ⟨hrow, rowContains_of_rowHolds (settled_of_not_mem h) hholds⟩

/-- A sigma that ends the keyword and not the word is looked for in vain. -/
theorem sigma_within_word_not_found :
    let t : Table := ⟨[⟨"a", .text⟩], [[.text "ΑΣΑ"]]⟩
    Delimited.read ',' "a\nΑΣΑ\n" = .ok t ∧ [.text "ΑΣΑ"] ∈ t.rows ∧
      RowHolds "ΑΣ" [.text "ΑΣΑ"] ∧ [.text "ΑΣΑ"] ∉ t.foundRows "ΑΣ" := by
  intro t
  have hread : Delimited.read ',' "a\nΑΣΑ\n" = .ok t :=
    Traversal.toOption_eq_some_iff.mp (by decide +kernel)
  have hpart : "ΑΣ".toList <:+: "ΑΣΑ".toList := ⟨[], ['Α'], by decide⟩
  exact ⟨hread, List.mem_singleton_self _, ⟨_, List.mem_singleton_self _, hpart⟩, by decide +kernel⟩

end Table
end TableShell
