import TableShell.Effect
import TableShell.Proofs.Cell.CommonType
import TableShell.Proofs.Table.Columns

/-!
# Columns made ready for new rows

Before rows are appended, the columns that are given texts are created or typed one by one. A step
may type a column that had no type yet, but it never moves a column and never changes a known type
(`Readies`); so a column stays as its own step left it until the rows are filled.
-/

namespace TableShell

theorem Cell.inferType_ne_unknown (texts : List String) : inferType texts ≠ .unknown :=
  ColumnType.settled_ne_unknown _

namespace Table

/-- In `t'`, the columns of `t` stand where they were, with the types that were known, and new names
stand behind them. -/
structure Readies (t t' : Table) : Prop where
  names : ∃ added, t'.columnNames = t.columnNames ++ added ∧ ∀ name ∈ added, name ∉ t.columnNames
  known : ∀ {place : ℕ} {column : Column}, t.columns[place]? = some column →
    column.type ≠ .unknown → t'.columns[place]? = some column

namespace Readies

variable {t t' t'' : Table}

theorem refl (t : Table) : Readies t t where
  names := ⟨[], (List.append_nil _).symm, by simp⟩
  known hcolumn _ := hcolumn

theorem columnNames_subset (h : Readies t t') : t.columnNames ⊆ t'.columnNames := by
  obtain ⟨added, hnames, -⟩ := h.names
  rw [hnames]
  exact List.subset_append_left _ _

theorem trans (h : Readies t t') (h' : Readies t' t'') : Readies t t'' where
  names := by
    obtain ⟨added, hnames, hfresh⟩ := h.names
    obtain ⟨added', hnames', hfresh'⟩ := h'.names
    refine ⟨added ++ added', by rw [hnames', hnames, List.append_assoc], ?_⟩
    intro name hname
    rcases List.mem_append.mp hname with hmem | hmem
    · exact hfresh name hmem
    · intro hold
      exact hfresh' name hmem (h.columnNames_subset hold)
  known hcolumn htype := h'.known (h.known hcolumn htype) htype

theorem columnIndex?_eq (h : Readies t t') {name : String} {place : ℕ}
    (hplace : t.columnIndex? name = some place) : t'.columnIndex? name = some place := by
  obtain ⟨added, hnames, hfresh⟩ := h.names
  have hmem : name ∈ t.columnNames := List.mem_of_getElem? (getElem?_of_lastIndex? hplace)
  have hnot : name ∉ added := by
    intro hadded
    exact hfresh name hadded hmem
  rw [columnIndex?, hnames, lastIndex?_append hnot]
  exact hplace

theorem length_le (h : Readies t t') : t.columns.length ≤ t'.columns.length := by
  obtain ⟨added, hnames, -⟩ := h.names
  have hlength := congrArg List.length hnames
  rw [List.length_append, columnNames, columnNames, List.length_map, List.length_map] at hlength
  omega

end Readies

theorem column?_eq_some_iff {t : Table} {name : String} {column : Column} :
    t.column? name = some column ↔
      ∃ place, t.columnIndex? name = some place ∧ t.columns[place]? = some column := by
  rw [column?, Option.bind_eq_some_iff]

theorem Readies.column?_eq {t t' : Table} (h : Readies t t') {name : String} {column : Column}
    (hcolumn : t.column? name = some column) (htype : column.type ≠ .unknown) :
    t'.column? name = some column := by
  obtain ⟨place, hplace, hat⟩ := column?_eq_some_iff.mp hcolumn
  exact column?_eq_some_iff.mpr ⟨place, h.columnIndex?_eq hplace, h.known hat htype⟩

theorem unknown_or_exists_known (t : Table) (name : String) :
    (∀ column, t.column? name = some column → column.type = .unknown) ∨
      ∃ column, t.column? name = some column ∧ column.type ≠ .unknown := by
  by_cases h : ∃ column, t.column? name = some column ∧ column.type ≠ .unknown
  · exact Or.inr h
  · refine Or.inl fun column hcolumn => ?_
    by_contra htype
    exact h ⟨column, hcolumn, htype⟩

/-- A column of that name is there, and has a type. -/
def Known (t : Table) (name : String) : Prop :=
  ∃ place column, t.columnIndex? name = some place ∧ t.columns[place]? = some column ∧
    column.type ≠ .unknown

theorem Known.of_readies {t t' : Table} {name : String} (h : t.Known name) (hr : Readies t t') :
    t'.Known name := by
  obtain ⟨place, column, hplace, hcolumn, htype⟩ := h
  exact ⟨place, column, hr.columnIndex?_eq hplace, hr.known hcolumn htype, htype⟩

/-! ## One column -/

theorem readies_setType {t : Table} {place : ℕ}
    (h : t.columns[place]?.map Column.type = some .unknown) (type : ColumnType) :
    Readies t (t.setType place type) where
  names := ⟨[], by rw [columnNames_setType, List.append_nil], by simp⟩
  known {other column} hcolumn htype := by
    -- the column that is typed had no type, so it is none of the known ones
    have hne : place ≠ other := by
      rintro rfl
      rw [hcolumn] at h
      exact htype (Option.some.inj h)
    rw [setType, List.getElem?_modify, hcolumn]
    simp [hne]

theorem readies_addColumn (t : Table) (name : String) (type : ColumnType) :
    Readies t (t.addColumn name type) := by
  have hwidens := widens_addColumn t name type
  constructor
  · obtain ⟨added, hcolumns, hfresh⟩ := hwidens
    refine ⟨added.map Column.name, ?_, ?_⟩
    · rw [columnNames, hcolumns, List.map_append]
      rfl
    · rw [List.forall_mem_map]
      exact hfresh
  · intro place column hcolumn _
    have hlt : place < t.columns.length := (List.getElem?_eq_some_iff.mp hcolumn).1
    rw [hwidens.getElem?_columns hlt, hcolumn]

theorem readies_prepareColumn (t : Table) (name : String) (texts : List String) :
    Readies t (t.prepareColumn name texts) := by
  unfold prepareColumn
  split
  · split
    · rename_i hunknown
      exact readies_setType hunknown _
    · exact Readies.refl t
  · exact readies_addColumn t name _

/-- The column that was made ready is found where `indexForColumn` says. -/
theorem columnIndex?_prepareColumn (t : Table) (name : String) (texts : List String) :
    (t.prepareColumn name texts).columnIndex? name = some (t.indexForColumn name) := by
  unfold prepareColumn
  cases hplace : t.columnIndex? name with
  | some place =>
    simp only [indexForColumn, hplace, Option.getD_some]
    split
    · rw [columnIndex?_setType, hplace]
    · exact hplace
  | none => exact columnIndex?_addColumn t name (Cell.inferType texts)

/-- A new column stands at the end, with the type that it was given. -/
theorem getElem?_columns_addColumn {t : Table} {name : String} (h : t.columnIndex? name = none)
    (type : ColumnType) :
    (t.addColumn name type).columns[t.columns.length]? = some ⟨name, type⟩ := by
  unfold addColumn
  rw [h]
  exact List.getElem?_concat_length

/-- A column that is made ready for texts and had no type takes theirs. -/
theorem column?_prepareColumn_self {t : Table} {name : String}
    (h : ∀ column, t.column? name = some column → column.type = .unknown) (texts : List String) :
    ∃ column, (t.prepareColumn name texts).column? name = some column ∧
      column.type = Cell.inferType texts := by
  have hplace' := columnIndex?_prepareColumn t name texts
  unfold prepareColumn indexForColumn at *
  cases hplace : t.columnIndex? name with
  | none =>
    simp only [hplace, Option.getD_none] at hplace' ⊢
    exact ⟨_, column?_eq_some_iff.mpr ⟨_, hplace', getElem?_columns_addColumn hplace _⟩, rfl⟩
  | some place =>
    obtain ⟨column, hcolumn, -⟩ := exists_column hplace
    have hunknown := h column (column?_eq_some_iff.mpr ⟨place, hplace, hcolumn⟩)
    simp only [hplace, Option.getD_some, hcolumn, Option.map_some, hunknown, if_true]
      at hplace' ⊢
    refine ⟨{ column with type := Cell.inferType texts },
      column?_eq_some_iff.mpr ⟨place, hplace', ?_⟩, rfl⟩
    simp [setType, hcolumn]

/-- Making another column ready leaves the column as it was. -/
theorem column?_prepareColumn_of_ne {t : Table} {name other : String} (h : name ≠ other)
    (texts : List String) :
    (t.prepareColumn other texts).column? name = t.column? name := by
  unfold prepareColumn
  split
  · rename_i index hindex
    split
    · rw [column?, columnIndex?_setType, column?]
      cases hplace : t.columnIndex? name with
      | none => rfl
      | some place =>
        have hne : index ≠ place := by
          rintro rfl
          obtain ⟨column, hcolumn, hname⟩ := exists_column hplace
          obtain ⟨column', hcolumn', hname'⟩ := exists_column hindex
          obtain rfl : column = column' := Option.some.inj (hcolumn.symm.trans hcolumn')
          exact h (hname.symm.trans hname')
        simp [setType, hne]
    · rfl
  · rename_i hnone
    have hplaces : (t.addColumn other (Cell.inferType texts)).columnIndex? name
        = t.columnIndex? name := by
      rw [addColumn, hnone, columnIndex?, columnNames, List.map_append,
        lastIndex?_append (by simpa)]
      rfl
    rw [column?, hplaces, column?]
    cases hplace : t.columnIndex? name with
    | none => rfl
    | some place =>
      exact (widens_addColumn t other _).getElem?_columns (columnIndex?_lt hplace)

theorem known_prepareColumn (t : Table) (name : String) (texts : List String) :
    (t.prepareColumn name texts).Known name := by
  rcases unknown_or_exists_known t name with hunknown | ⟨column, hcolumn, htype⟩
  · obtain ⟨column, hcolumn, htype⟩ := column?_prepareColumn_self hunknown texts
    obtain ⟨place, hplace, hat⟩ := column?_eq_some_iff.mp hcolumn
    exact ⟨place, column, hplace, hat, htype ▸ Cell.inferType_ne_unknown texts⟩
  · -- a known type stays as it is
    have hcolumn' := (readies_prepareColumn t name texts).column?_eq hcolumn htype
    obtain ⟨place, hplace, hat⟩ := column?_eq_some_iff.mp hcolumn'
    exact ⟨place, column, hplace, hat, htype⟩

theorem length_rows_prepareColumn (t : Table) (name : String) (texts : List String) :
    (t.prepareColumn name texts).rows.length = t.rows.length := by
  unfold prepareColumn
  split
  · split <;> rfl
  · unfold addColumn
    split
    · rfl
    · exact List.length_map _

/-! ## All columns -/

/-- The table with the columns of the entries made ready, one after the other. -/
def prepareEntries (t : Table) (entries : List (String × List String)) : Table :=
  entries.foldl (fun t entry => t.prepareColumn entry.1 entry.2) t

theorem readies_prepareEntries (t : Table) (entries : List (String × List String)) :
    Readies t (prepareEntries t entries) := by
  induction entries generalizing t with
  | nil => exact Readies.refl t
  | cons entry entries ih => exact (readies_prepareColumn t entry.1 entry.2).trans (ih _)

theorem known_prepareEntries {t : Table} {entries : List (String × List String)}
    {entry : String × List String} (h : entry ∈ entries) :
    (prepareEntries t entries).Known entry.1 := by
  induction entries generalizing t with
  | nil => cases h
  | cons first entries ih =>
    rcases List.mem_cons.mp h with rfl | hmem
    · -- its own step makes it known, and no later one undoes that
      have hknown := known_prepareColumn t entry.1 entry.2
      exact hknown.of_readies (readies_prepareEntries _ entries)
    · exact ih hmem

theorem column?_prepareEntries_of_not_mem {t : Table} {name : String}
    {entries : List (String × List String)} (h : name ∉ entries.map Prod.fst) :
    (prepareEntries t entries).column? name = t.column? name := by
  induction entries generalizing t with
  | nil => rfl
  | cons entry entries ih =>
    rw [List.map_cons, List.mem_cons, not_or] at h
    exact (ih h.2).trans (column?_prepareColumn_of_ne h.1 entry.2)

/-- Once all columns are ready, that of an entry has a type; it is that of the texts, if the column
had none before. -/
theorem exists_column?_prepareColumns {t : Table} {columns : OrderedMap (List String)}
    {name : String} {texts : List String} (h : columns.get? name = some texts) :
    ∃ column, (t.prepareColumns columns).column? name = some column ∧ column.type ≠ .unknown ∧
      ((∀ old, t.column? name = some old → old.type = .unknown) →
        column.type = Cell.inferType texts) := by
  rcases unknown_or_exists_known t name with hunknown | ⟨old, hold, htype⟩
  · -- the entries before leave the column as it is, and those behind keep its type
    obtain ⟨before, after, hentries, hbefore⟩ := List.lookup_eq_some_iff.mp h
    have hnot : name ∉ before.map Prod.fst := by
      intro hmem
      obtain ⟨entry, hentry, hname⟩ := List.mem_map.mp hmem
      have hne := hbefore entry hentry
      rw [hname, bne_self_eq_false] at hne
      cases hne
    have hsame := column?_prepareEntries_of_not_mem (t := t) hnot
    obtain ⟨column, hcolumn, htype⟩ := column?_prepareColumn_self (by rwa [hsame]) texts
    have hknown : column.type ≠ .unknown := by
      rw [htype]
      exact Cell.inferType_ne_unknown texts
    have hall : t.prepareColumns columns
        = prepareEntries ((prepareEntries t before).prepareColumn name texts) after := by
      rw [prepareColumns, hentries, List.foldl_append, List.foldl_cons]
      rfl
    rw [hall]
    exact ⟨column, (readies_prepareEntries _ after).column?_eq hcolumn hknown, hknown,
      fun _ => htype⟩
  · exact ⟨old, (readies_prepareEntries t columns.entries).column?_eq hold htype, htype,
      fun hunknown => absurd (hunknown old hold) htype⟩

theorem length_rows_prepareEntries (t : Table) (entries : List (String × List String)) :
    (prepareEntries t entries).rows.length = t.rows.length := by
  induction entries generalizing t with
  | nil => rfl
  | cons entry entries ih =>
    exact (ih _).trans (length_rows_prepareColumn t entry.1 entry.2)

theorem rows_settleTypes (t : Table) : t.settleTypes.rows = t.rows := by
  unfold settleTypes
  split <;> rfl

theorem columnNames_settleTypes (t : Table) : t.settleTypes.columnNames = t.columnNames := by
  unfold settleTypes columnNames
  split
  · rfl
  · apply List.ext_getElem?
    intro i
    simp only [List.getElem?_map, List.getElem?_mapIdx]
    cases t.columns[i]? with
    | none => rfl
    | some column =>
      show some (t.settleColumn i column).name = some column.name
      unfold settleColumn
      split <;> rfl

/-- Appending rows adds as many as were asked for. -/
theorem length_rows_append (t : Table) (columns : OrderedMap (List String)) (rowCount : ℕ) :
    (t.append columns rowCount).rows.length = t.rows.length + rowCount := by
  unfold append
  rw [rows_settleTypes, List.length_append, List.length_map, List.length_range]
  congr 1
  exact length_rows_prepareEntries t columns.entries

/-- Appending rows leaves the columns in their places. -/
theorem columnNames_append (t : Table) (columns : OrderedMap (List String)) (rowCount : ℕ) :
    ∃ added, (t.append columns rowCount).columnNames = t.columnNames ++ added := by
  obtain ⟨added, hnames, -⟩ := (readies_prepareEntries t columns.entries).names
  refine ⟨added, ?_⟩
  rw [← hnames]
  exact columnNames_settleTypes _

end Table
end TableShell
