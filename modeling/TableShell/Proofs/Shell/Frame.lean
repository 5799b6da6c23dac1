import TableShell.Proofs.Delimited.Printing
import TableShell.Proofs.Effect.Spared
import TableShell.Proofs.Shell.AllOrNothing
import TableShell.Proofs.Table.WellFormed

/-!
# What the next load shows of the cells that a command spares

In memory, a command leaves every cell as it is that it does not address. A file carries no types,
so there the cell is what the next load makes of its text, and that depends on all the other cells
of its column: of the texts `x` and `007`, the second becomes the number 7 once the first is
deleted. A spared cell looks as it did exactly if the type with which its column is loaded the next
time prints it (`spared_cells_come_back`).
-/

namespace TableShell
namespace Store

open Delimited

variable {location : String} {delimiter : Char} {tree : FileTree} {t : Table}

/-! ## Loading what stands in a file -/

/-- A file holds the table that its text is read as; without text, the empty one. -/
theorem load_of_entry {text : String} (hentry : tree.entry location = .ok (.file (.text text))) :
    (file location delimiter tree).load = match Delimited.read delimiter text with
      | .ok table => .ok table
      | .error .emptyText => .ok .empty
      | .error e => .error (.read location (.text e)) := by
  have hstands : tree.standsAt location = true := by
    rw [FileTree.standsAt, hentry]
    rfl
  have htext : tree.readText location = .ok text := by
    rw [FileTree.readText, hentry]
  cases hread : Delimited.read delimiter text with
  | ok table => simp only [load, hstands, if_true, htext, hread]
  | error e => cases e <;> simp only [load, hstands, if_true, htext, hread]

theorem load_of_read {text : String} (hentry : tree.entry location = .ok (.file (.text text)))
    (hread : Delimited.read delimiter text = .ok t) :
    (file location delimiter tree).load = .ok t := by
  rw [load_of_entry hentry, hread]

/-- A well formed table that was saved is loaded as it comes back from its text. -/
theorem load_save (hd : IsDelimiter delimiter) (hwell : t.WellFormed)
    (hcolumns : t.columns ≠ [] ∨ t = .empty) {after : Store}
    (hsave : (file location delimiter tree).save t = (after, none)) :
    after.load = .ok (reload t) := by
  unfold save at hsave
  cases hwrite : tree.write location (.text (Delimited.write delimiter t)) with
  | mk written error =>
    simp only [hwrite] at hsave
    cases error with
    | some e => cases hsave
    | none =>
      cases hsave
      have hentry := FileTree.entry_write hwrite
      rcases hcolumns with hcolumns | rfl
      · apply load_of_read hentry
        apply read_write hd hcolumns hwell.nodup_names
        · intro row hrow
          exact (hwell.rows_fit row hrow).1
        · exact hwell.ne_nan
      · -- without columns no text is written, and that is loaded as the empty table
        have hempty : Delimited.write delimiter .empty = "" := rfl
        have hreload : reload .empty = .empty := rfl
        rw [hempty] at hentry
        rw [hreload, load_of_entry hentry]
        rfl

/-! ## Commands that succeed -/

/-- The command was applied to the loaded table, or to any, as it looks at none. -/
theorem apply_of_load {store : Store} {command : Command} {applied : Applied}
    (hload : store.load = .ok t) (h : store.outcome command = .ok applied) :
    t.apply command = .ok applied := by
  obtain ⟨u, htable, happly⟩ := apply_of_outcome h
  unfold tableFor at htable
  cases hneeds : needsTable command with
  | true =>
    rw [hneeds, if_pos rfl, hload] at htable
    cases htable
    exact happly
  | false =>
    -- what the two commands say is the same over every table
    cases command with
    | help | clear => exact happly
    | _ => cases hneeds

/-- A command that succeeds was applied to the loaded table, and what it changed was saved. -/
theorem run_eq_ok {store after : Store} {command : Command} {answer : Answer}
    (hload : store.load = .ok t) (h : store.run command = (.ok answer, after)) :
    ∃ applied, t.apply command = .ok applied ∧
      ((applied.changed = none ∧ after = store) ∨
        ∃ t', applied.changed = some t' ∧ store.save t' = (after, none)) := by
  cases ran_of_run h with
  | @looked applied houtcome hchanged =>
    exact ⟨applied, apply_of_load hload houtcome, Or.inl ⟨hchanged, rfl⟩⟩
  | @saved applied t' _ houtcome hchanged hsave =>
    exact ⟨applied, apply_of_load hload houtcome, Or.inr ⟨t', hchanged, hsave⟩⟩

/-- What a command makes of a table with columns has columns, or it is the empty table. -/
theorem columns_ne_nil_of_apply {t' : Table} {command : Command} {applied : Applied}
    (hcolumns : t.columns ≠ []) (happly : t.apply command = .ok applied)
    (hchanged : applied.changed = some t') : t'.columns ≠ [] ∨ t' = .empty := by
  by_cases hcommand : ∃ confirmed, command = .deleteAll confirmed
  · right
    obtain ⟨rows, -, hchanges⟩ := (Table.wrote_of_changed happly hchanged).changes
    obtain ⟨confirmed, rfl⟩ := hcommand
    cases hchanges
    rfl
  · left
    rw [not_exists] at hcommand
    obtain ⟨added, hnames⟩ := Table.columnNames_of_apply happly hcommand
    rw [hchanged, Option.getD_some] at hnames
    intro hnil
    rw [Table.columnNames, hnil, List.map_nil] at hnames
    have hempty := (List.append_eq_nil_iff.mp hnames.symm).1
    exact hcolumns (List.map_eq_nil_iff.mp hempty)

/-! ## Spared cells -/

/-- The cell of row `i` and column `j` of `t` is one of row `i'` of `t'`, in the column of the same
name. It looks as it did exactly if the type of that column prints it; so it does if the column has
its type again, or is one of texts, or was one of floating point numbers or truth values. -/
structure ComesBack (t t' : Table) (i j i' : ℕ) (column column' : Column) (cell cell' : Cell) :
    Prop where
  cell_eq : cellAt? t i j = some cell
  column_eq : t.columns[j]? = some column
  cell_eq' : cellAt? t' i' j = some cell'
  column_eq' : t'.columns[j]? = some column'
  name_eq : column'.name = column.name
  shows_iff : cell'.display = cell.display ↔ Prints column'.type cell
  shows : (column'.type = .text ∨ column'.type = column.type ∨ column.type = .float ∨
    column.type = .boolean) → cell'.display = cell.display

/-- A cell of a loaded table that stays comes back as itself. -/
theorem comesBack_self {text : String} (hread : Delimited.read delimiter text = .ok t)
    {i j i' : ℕ} {cell : Cell} (hcell : cellAt? t i j = some cell)
    (hcell' : cellAt? t i' j = some cell) :
    ∃ column, ComesBack t t i j i' column column cell cell := by
  obtain ⟨column, f, hcolumn, htype, -, hfield⟩ := exists_field_of_cellAt? hread hcell
  have hprints : Prints column.type cell := by
    rw [hfield]
    exact prints_cell_self htype
  exact ⟨column, hcell, hcolumn, hcell', hcolumn, rfl, iff_of_true rfl hprints, fun _ => rfl⟩

/-- A cell of a loaded table that stands in another table comes back from the text of that one. -/
theorem comesBack_reload {t' : Table} {text : String}
    (hread : Delimited.read delimiter text = .ok t) {i j i' : ℕ} {cell : Cell}
    (hcell : cellAt? t i j = some cell) (hcell' : cellAt? t' i' j = some cell)
    {added : List String} (hnames : t'.columnNames = t.columnNames ++ added) :
    ∃ column column'' cell'', ComesBack t (reload t') i j i' column column'' cell cell'' := by
  obtain ⟨column, f, hcolumn, htype, hwithin, hfield⟩ := exists_field_of_cellAt? hread hcell
  obtain ⟨column', hcolumn', hname⟩ := Table.exists_column_of_columnNames hnames hcolumn
  refine ⟨column, ⟨column'.name, reloadedType t' j⟩, reloadedCell (reloadedType t' j) cell,
    hcell, hcolumn, ?_, ?_, hname, display_reloadedCell_iff, ?_⟩
  · rw [cellAt?_reload, hcell']
    rfl
  · simp only [reload, List.getElem?_mapIdx, hcolumn', Option.map_some]
  · intro hkept
    rw [display_reloadedCell_iff]
    have hshown := within_reloadedType hcell'
    rw [hfield] at hshown ⊢
    exact prints_cell htype hwithin hshown hkept

/-- After a command that succeeds on a table in a file, the next load shows each cell that the
command does not address in its place; and it shows it as it was exactly if the type that the column
has then prints it, which is so wherever the column has its type again. -/
theorem spared_cells_come_back {text line : String} {command : Command} {answer : Answer}
    {after : Store} (hentry : tree.entry location = .ok (.file (.text text)))
    (hread : Delimited.read ',' text = .ok t) (hline : Command.read line = .ok command)
    (hrun : (file location ',' tree).run command = (.ok answer, after)) :
    (file location ',' tree).execute line = (answer, after) ∧
    ∃ applied t'', t.apply command = .ok applied ∧
      t'' = applied.changed.elim t reload ∧ after.load = .ok t'' ∧
      ∀ i j i' cell, t.Spares i j i' command → cellAt? t i j = some cell →
        ∃ column column'' cell'', ComesBack t t'' i j i' column column'' cell cell'' := by
  have hwell := Table.wellFormed_of_read hread
  have hwidth : ∀ row ∈ t.rows, row.length = t.columns.length :=
    fun row hrow => (hwell.rows_fit row hrow).1
  have hload := load_of_read hentry hread
  obtain ⟨applied, happly, hsaved⟩ := run_eq_ok hload hrun
  constructor
  · unfold execute
    rw [hline]
    simp only [hrun]
  refine ⟨applied, _, happly, rfl, ?_, ?_⟩
  · rcases hsaved with ⟨hnone, rfl⟩ | ⟨t', hchanged, hsave⟩
    · rw [hnone]
      exact hload
    · obtain ⟨names, rows, hnames, hne, -, -⟩ := exists_tableOf_of_read hread
      have hcolumns : t.columns ≠ [] := by
        rw [hnames, ← List.length_pos_iff, length_columns_tableOf, List.length_pos_iff]
        exact hne
      have hwell' : t'.WellFormed := by
        obtain ⟨touched, -, hchanges⟩ := (Table.wrote_of_changed happly hchanged).changes
        exact hwell.of_changes hchanges
      rw [hchanged]
      exact load_save (by decide) hwell' (columns_ne_nil_of_apply hcolumns happly hchanged) hsave
  · intro i j i' cell hspares hcell
    have hcell' := Table.cellAt?_of_apply happly hwidth hspares hcell
    cases hchanged : applied.changed with
    | none =>
      rw [hchanged] at hcell'
      obtain ⟨column, hcomes⟩ := comesBack_self hread hcell hcell'
      exact ⟨column, column, cell, hcomes⟩
    | some t' =>
      have hcommand : ∀ confirmed, command ≠ .deleteAll confirmed := by
        rintro confirmed rfl
        exact hspares
      -- its column stands where it stood, so the cell is found again under the same number
      obtain ⟨added, hnames⟩ := Table.columnNames_of_apply happly hcommand
      rw [hchanged] at hcell' hnames
      exact comesBack_reload hread hcell hcell' hnames

/-- A column of a word and a number with zeros in front. -/
def padded : Table :=
  ⟨[⟨"a", .text⟩], [[.text "x"], [.text "007"]]⟩

/-- A tree with a file of that column. -/
def paddedTree : FileTree :=
  ⟨[(["t.csv"], .text "a\nx\n007\n")], []⟩

/-- The store of that file. -/
def paddedFile : Store :=
  .file "t.csv" ',' paddedTree

/-- With another word, the column is one of texts again, and the number keeps its zeros. -/
theorem spared_cells_come_back_padded :
    ∃ t'' cell'', (paddedFile.execute "add a=y").2.load = .ok t'' ∧
      cellAt? t'' 1 0 = some cell'' ∧ cell''.display = "007" := by
  let answer : Answer := ⟨.touched "Row added successfully: \x7ba: y\x7d" 1, some "add"⟩
  let grown : Table := ⟨[⟨"a", .text⟩], [[.text "x"], [.text "007"], [.text "y"]]⟩
  have hentry : paddedTree.entry "t.csv" = .ok (.file (.text "a\nx\n007\n")) :=
    Traversal.toOption_eq_some_iff.mp (by decide +kernel)
  have hread : Delimited.read ',' "a\nx\n007\n" = .ok padded :=
    Traversal.toOption_eq_some_iff.mp (by decide +kernel)
  have hline : Command.read "add a=y" = .ok (.add (.ofList [("a", "y")])) :=
    Traversal.toOption_eq_some_iff.mp (by decide +kernel)
  cases hrun : paddedFile.run (.add (.ofList [("a", "y")])) with
  | mk result after =>
  have hanswer : (paddedFile.run (.add (.ofList [("a", "y")]))).1 = .ok answer :=
    Traversal.toOption_eq_some_iff.mp (by decide +kernel)
  rw [hrun] at hanswer
  obtain rfl : result = .ok answer := hanswer
  obtain ⟨hexecute, applied, t'', -, -, hload, hcells⟩ :=
    spared_cells_come_back hentry hread hline hrun
  have hcell : cellAt? padded 1 0 = some (.text "007") := rfl
  have hspares : padded.Spares 1 0 1 (.add (.ofList [("a", "y")])) := rfl
  obtain ⟨column, column'', cell'', hcomes⟩ := hcells 1 0 1 (.text "007") hspares hcell
  have hload' : (paddedFile.execute "add a=y").2.load = .ok t'' := by
    rw [paddedFile, hexecute]
    exact hload
  have hgrown : (paddedFile.execute "add a=y").2.load = .ok grown :=
    Traversal.toOption_eq_some_iff.mp (by decide +kernel)
  refine ⟨t'', cell'', hload', hcomes.cell_eq', hcomes.shows (Or.inl ?_)⟩
  have hsame := hcomes.column_eq'
  rw [hgrown] at hload'
  cases hload'
  cases hsame
  rfl

/-- Without any word, the column is one of numbers, and the number loses its zeros; in memory it
keeps them. -/
theorem padded_text_comes_back_as_number :
    let command : Command := .delete (.ofList [("a", "x")]) false
    paddedFile.load = .ok padded ∧ Command.read "delete a=x" = .ok command ∧
      (paddedFile.execute "delete a=x").1.report.severity = .success ∧
      padded.Spares 1 0 0 command ∧ cellAt? padded 1 0 = some (.text "007") ∧
      (paddedFile.execute "delete a=x").2.load = .ok ⟨[⟨"a", .integer⟩], [[.integer 7]]⟩ ∧
      (Cell.integer 7).display ≠ (Cell.text "007").display ∧
      ((memory padded).execute "delete a=x").2.load
        = .ok { padded with rows := [[.text "007"]] } := by
  intro command
  have hmask : padded.IsMaskOf (.ofList [("a", "x")]) [true, false] :=
    Table.isMaskOf_of_selectAll (Traversal.mapError_eq_ok_iff.mpr
      (Traversal.toOption_eq_some_iff.mp (by decide +kernel)))
  have hspared : ¬ padded.SelectedByAll (.ofList [("a", "x")]) 1 := by
    intro hall
    have hselected : [true, false][1]? = some true := (hmask.2 1 (by decide)).mpr hall
    exact absurd hselected (by decide)
  refine ⟨?_, ?_, ?_, ?_, rfl, ?_, ?_, ?_⟩
  · exact Traversal.toOption_eq_some_iff.mp (by decide +kernel)
  · exact Traversal.toOption_eq_some_iff.mp (by decide +kernel)
  · decide +kernel
  · exact ⟨hspared, _, hmask, rfl⟩
  · exact Traversal.toOption_eq_some_iff.mp (by decide +kernel)
  · decide +kernel
  · exact Traversal.toOption_eq_some_iff.mp (by decide +kernel)

end Store
end TableShell
