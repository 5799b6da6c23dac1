import TableShell.Proofs.Delimited.Retyping
import TableShell.Proofs.Effect.Appending
import TableShell.Proofs.Shell.Frame

/-!
# Columns that rows were appended to, after the next load

In memory, no column changes its type when rows are appended. The file carries no types, so there a
column is loaded with what its old and new cells show together, and a text that did not fit makes
the whole column one of texts. `appended_columns_come_back` says when a column has its type again.
-/

namespace TableShell
namespace Store

open Delimited Table

variable {location : String} {delimiter : Char} {tree : FileTree} {t : Table}

/-- A column of a table that is written and loaded again has the type that its cells show. -/
theorem getElem?_columns_reload {t' : Table} {j : ℕ} {column : Column}
    (hcolumn : t'.columns[j]? = some column) (hrows : t'.rows ≠ []) :
    (reload t').columns[j]?
      = some ⟨column.name, (ColumnType.mergeAll ((t'.cellsAt j).map shownType)).settled⟩ := by
  simp only [reload, List.getElem?_mapIdx, hcolumn, Option.map_some, reloadedType_eq,
    List.isEmpty_eq_false_iff.mpr hrows, if_neg Bool.false_ne_true]

/-- Rows are appended to a table in a file: in memory, each column that has a cell keeps its type.
The next load finds it again under its name, with its type exactly if the cells that it had and
those that were appended retain it. -/
theorem appended_columns_come_back {text line : String} {command : Command} {answer : Answer}
    {after : Store} (hd : IsDelimiter delimiter)
    (hentry : tree.entry location = .ok (.file (.text text)))
    (hread : Delimited.read delimiter text = .ok t) (hline : Command.read line = .ok command)
    (happends : command.Appends)
    (hrun : (file location delimiter tree).run command = (.ok answer, after)) :
    (file location delimiter tree).execute line = (answer, after) ∧
    ∃ t'', after.load = .ok t'' ∧
      ∀ j column, t.columns[j]? = some column → (∃ cell ∈ t.cellsAt j, cell ≠ .missing) →
        (t.after command).columns[j]? = some column ∧
        ∃ column'', t''.columns[j]? = some column'' ∧ column''.name = column.name ∧
          (column''.type = column.type ↔
            Retains column.type (t.cellsAt j) (appendedAt t (t.after command) j)) := by
  have hwell := wellFormed_of_read hread
  have hload := load_of_read hentry hread
  obtain ⟨applied, happly, hsaved⟩ := run_eq_ok hload hrun
  obtain ⟨columns, rowCount, hchanged⟩ := apply_of_appends happends happly
  have hafter : t.after command = t.append columns rowCount := by
    unfold Table.after
    simp only [happly, hchanged, Option.getD_some]
  have hwell' : (t.append columns rowCount).WellFormed := hwell.append columns rowCount
  constructor
  · unfold execute
    rw [hline]
    simp only [hrun]
  refine ⟨reload (t.append columns rowCount), ?_, ?_⟩
  · -- rows that are appended always make another table, so it was saved
    rcases hsaved with ⟨hnone, -⟩ | ⟨t', hsome, hsave⟩
    · rw [hchanged] at hnone
      cases hnone
    · rw [hchanged] at hsome
      cases hsome
      have hcolumns := columns_ne_nil_of_apply (columns_ne_nil_of_read hread) happly hchanged
      exact load_save hd hwell' hcolumns hsave
  · intro j column hcolumn hcells
    obtain ⟨cell, hcell, -⟩ := hcells
    obtain ⟨row, hrow, -⟩ := List.mem_filterMap.mp hcell
    have hrows : t.rows ≠ [] := List.ne_nil_of_mem hrow
    have htype := hwell.types_known hrows column (List.mem_of_getElem? hcolumn)
    have hstays : (t.append columns rowCount).columns[j]? = some column :=
      getElem?_columns_append hcolumn htype
    have hrows' : (t.append columns rowCount).rows ≠ [] := by
      rw [← List.length_pos_iff, length_rows_append]
      have hpos := List.length_pos_iff.mpr hrows
      omega
    have hwidth : ∀ row ∈ t.rows, j < row.length := by
      intro row hrow
      rw [(hwell.rows_fit row hrow).1]
      exact (List.getElem?_eq_some_iff.mp hcolumn).1
    rw [hafter]
    refine ⟨hstays, _, getElem?_columns_reload hstays hrows', rfl, ?_⟩
    rw [cellsAt_append hwidth]
    apply settled_append_eq_iff hread hcolumn (List.ne_nil_of_mem hcell)
    intro added hadded
    exact mem_appendedAt hcolumn htype hadded

/-- A column of one whole number. -/
def fives : Table :=
  ⟨[⟨"a", .integer⟩], [[.integer 5]]⟩

/-- A tree with a file of that column. -/
def fivesTree : FileTree :=
  ⟨[(["t.csv"], .text "a\n5\n")], []⟩

/-- The store of that file. -/
def fivesFile : Store :=
  .file "t.csv" ',' fivesTree

/-- A number with a fraction is cut off before it is appended, so the column stays one of whole
numbers. -/
theorem appended_columns_come_back_fraction :
    ∃ t'' column'', (fivesFile.execute "add a=7.9").2.load = .ok t'' ∧
      t''.columns[0]? = some column'' ∧ column''.name = "a" ∧ column''.type = .integer := by
  let command : Command := .add (.ofList [("a", "7.9")])
  let answer : Answer := ⟨.touched "Row added successfully: \x7ba: 7\x7d" 1, some "add"⟩
  have hentry : fivesTree.entry "t.csv" = .ok (.file (.text "a\n5\n")) :=
    Traversal.toOption_eq_some_iff.mp (by decide +kernel)
  have hread : Delimited.read ',' "a\n5\n" = .ok fives :=
    Traversal.toOption_eq_some_iff.mp (by decide +kernel)
  have hline : Command.read "add a=7.9" = .ok command :=
    Traversal.toOption_eq_some_iff.mp (by decide +kernel)
  have hanswer : (fivesFile.run command).1 = .ok answer :=
    Traversal.toOption_eq_some_iff.mp (by decide +kernel)
  cases hrun : fivesFile.run command with
  | mk result after =>
  rw [hrun] at hanswer
  obtain rfl : result = .ok answer := hanswer
  obtain ⟨hexecute, t'', hload, hcolumns⟩ :=
    appended_columns_come_back (by decide) hentry hread hline trivial hrun
  have hcell : ∃ cell ∈ fives.cellsAt 0, cell ≠ .missing := ⟨.integer 5, by decide, by decide⟩
  obtain ⟨-, column'', hcolumn'', hname, htype⟩ := hcolumns 0 ⟨"a", .integer⟩ rfl hcell
  refine ⟨t'', column'', ?_, hcolumn'', hname, ?_⟩
  · rw [fivesFile, hexecute]
    exact hload
  · -- the appended cell is the number 7
    have hnew : ∀ cell ∈ appendedAt fives (fives.after command) 0, cell.type ≠ .text := by
      decide +kernel
    exact htype.mpr hnew

/-- A word that could not be cast is kept, and turns the whole column into one of texts; in memory
the column keeps its type. -/
theorem stray_text_retypes_column :
    let command : Command := .add (.ofList [("a", "unknown")])
    fivesFile.load = .ok fives ∧ Command.read "add a=unknown" = .ok command ∧
      (fivesFile.execute "add a=unknown").1.report.severity = .success ∧
      (fivesFile.execute "add a=unknown").2.load
        = .ok ⟨[⟨"a", .text⟩], [[.text "5"], [.text "unknown"]]⟩ ∧
      ((memory fives).execute "add a=unknown").2.load
        = .ok { fives with rows := [[.integer 5], [.text "unknown"]] } := by
  intro command
  refine ⟨?_, ?_, ?_, ?_, ?_⟩
  · exact Traversal.toOption_eq_some_iff.mp (by decide +kernel)
  · exact Traversal.toOption_eq_some_iff.mp (by decide +kernel)
  · decide +kernel
  · exact Traversal.toOption_eq_some_iff.mp (by decide +kernel)
  · exact Traversal.toOption_eq_some_iff.mp (by decide +kernel)

end Store
end TableShell
