import Mathlib.Tactic.Common
import TableShell.Table

/-!
# Finding columns

A column is found at the last place of its name. New names at the end of the table leave the places
of the others as they were.
-/

namespace TableShell
namespace Table

/-! ## Places of names -/

theorem lastIndex?_eq_none_iff {names : List String} {name : String} :
    lastIndex? names name = none ↔ name ∉ names := by
  induction names with
  | nil => simp [lastIndex?]
  | cons n names ih =>
    rw [lastIndex?, List.mem_cons, not_or, ← ih]
    cases lastIndex? names name with
    | none => simp [eq_comm]
    | some i => simp

/-- Names behind a text that are others do not move its place. -/
theorem lastIndex?_append {names others : List String} {name : String} (h : name ∉ others) :
    lastIndex? (names ++ others) name = lastIndex? names name := by
  induction names with
  | nil => exact lastIndex?_eq_none_iff.mpr h
  | cons n names ih => rw [List.cons_append, lastIndex?, lastIndex?, ih]

theorem lastIndex?_concat_self (names : List String) (name : String) :
    lastIndex? (names ++ [name]) name = some names.length := by
  induction names with
  | nil => simp [lastIndex?]
  | cons n names ih => rw [List.cons_append, lastIndex?, ih, List.length_cons]

theorem getElem?_of_lastIndex? {names : List String} {name : String} {i : ℕ}
    (h : lastIndex? names name = some i) : names[i]? = some name := by
  induction names generalizing i with
  | nil => cases h
  | cons n names ih =>
    rw [lastIndex?] at h
    split at h
    · rename_i j hj
      cases h
      exact ih hj
    · split at h
      · rename_i hn
        cases h
        rw [hn]
        rfl
      · cases h

/-- Where names are distinct, the last place of a name is its only one. -/
theorem lastIndex?_eq_some_iff {names : List String} (h : names.Nodup) {name : String}
    {place : ℕ} : lastIndex? names name = some place ↔ names[place]? = some name := by
  constructor
  · exact getElem?_of_lastIndex?
  · intro hplace
    cases hlast : lastIndex? names name with
    | none => exact absurd (List.mem_of_getElem? hplace) (lastIndex?_eq_none_iff.mp hlast)
    | some last =>
      have hlast' := getElem?_of_lastIndex? hlast
      have hlt := (List.getElem?_eq_some_iff.mp hlast').1
      rw [(List.getElem?_inj hlt h).mp (hlast'.trans hplace.symm)]

/-! ## Columns of a table -/

theorem columnIndex?_eq_none_iff {t : Table} {name : String} :
    t.columnIndex? name = none ↔ name ∉ t.columnNames :=
  lastIndex?_eq_none_iff

theorem columnIndex?_lt {t : Table} {name : String} {i : ℕ} (h : t.columnIndex? name = some i) :
    i < t.columns.length := by
  have hname := (List.getElem?_eq_some_iff.mp (getElem?_of_lastIndex? h)).1
  rwa [columnNames, List.length_map] at hname

/-- Where a name is found, there is its column. -/
theorem exists_column {t : Table} {name : String} {place : ℕ}
    (h : t.columnIndex? name = some place) :
    ∃ column, t.columns[place]? = some column ∧ column.name = name := by
  have hlt := columnIndex?_lt h
  have hname := getElem?_of_lastIndex? h
  rw [columnNames, List.getElem?_map, List.getElem?_eq_getElem hlt] at hname
  exact ⟨t.columns[place], List.getElem?_eq_getElem hlt, Option.some.inj hname⟩

/-- Where names are distinct, a column is found at its place. -/
theorem columnIndex?_of_getElem? {t : Table} (h : t.columnNames.Nodup) {place : ℕ}
    {column : Column} (hcolumn : t.columns[place]? = some column) :
    t.columnIndex? column.name = some place := by
  rw [columnIndex?, lastIndex?_eq_some_iff h, columnNames, List.getElem?_map, hcolumn]
  rfl

/-- Names behind the others leave each column where it is. -/
theorem exists_column_of_columnNames {t t' : Table} {added : List String}
    (h : t'.columnNames = t.columnNames ++ added) {place : ℕ} {column : Column}
    (hcolumn : t.columns[place]? = some column) :
    ∃ column', t'.columns[place]? = some column' ∧ column'.name = column.name := by
  have hname : t.columnNames[place]? = some column.name := by
    rw [columnNames, List.getElem?_map, hcolumn]
    rfl
  have hname' : t'.columnNames[place]? = some column.name := by
    rw [h, List.getElem?_append_left (List.getElem?_eq_some_iff.mp hname).1, hname]
  rw [columnNames, List.getElem?_map] at hname'
  exact Option.map_eq_some_iff.mp hname'

theorem columnNames_setType (t : Table) (place : ℕ) (type : ColumnType) :
    (t.setType place type).columnNames = t.columnNames := by
  unfold columnNames setType
  apply List.ext_getElem?
  intro i
  simp only [List.getElem?_map, List.getElem?_modify]
  cases t.columns[i]? with
  | none => rfl
  | some column => by_cases hi : place = i <;> simp [hi]

theorem columnIndex?_setType (t : Table) (place : ℕ) (type : ColumnType) (name : String) :
    (t.setType place type).columnIndex? name = t.columnIndex? name := by
  rw [columnIndex?, columnNames_setType, columnIndex?]

/-- The columns of `t'` are those of `t` with new names behind them. -/
def Widens (t t' : Table) : Prop :=
  ∃ added : List Column, t'.columns = t.columns ++ added ∧
    ∀ column ∈ added, column.name ∉ t.columnNames

namespace Widens

variable {t t' t'' : Table}

theorem refl (t : Table) : Widens t t :=
  ⟨[], (List.append_nil _).symm, by simp⟩

theorem length_le (h : Widens t t') : t.columns.length ≤ t'.columns.length := by
  obtain ⟨added, hcolumns, -⟩ := h
  rw [hcolumns, List.length_append]
  exact Nat.le_add_right _ _

theorem columnIndex?_eq (h : Widens t t') {name : String} {i : ℕ}
    (hi : t.columnIndex? name = some i) : t'.columnIndex? name = some i := by
  obtain ⟨added, hcolumns, hfresh⟩ := h
  have hmem : name ∈ t.columnNames := by
    by_contra hnot
    rw [columnIndex?_eq_none_iff.mpr hnot] at hi
    cases hi
  rw [columnIndex?, columnNames, hcolumns, List.map_append, lastIndex?_append]
  · exact hi
  · intro hadded
    obtain ⟨column, hcolumn, rfl⟩ := List.mem_map.mp hadded
    exact hfresh column hcolumn hmem

theorem getElem?_columns (h : Widens t t') {i : ℕ} (hi : i < t.columns.length) :
    t'.columns[i]? = t.columns[i]? := by
  obtain ⟨added, hcolumns, -⟩ := h
  rw [hcolumns, List.getElem?_append_left hi]

theorem columnNames_subset (h : Widens t t') : t.columnNames ⊆ t'.columnNames := by
  obtain ⟨added, hcolumns, -⟩ := h
  rw [columnNames, columnNames, hcolumns, List.map_append]
  exact List.subset_append_left _ _

theorem trans (h : Widens t t') (h' : Widens t' t'') : Widens t t'' := by
  have hsubset := h.columnNames_subset
  obtain ⟨added, hcolumns, hfresh⟩ := h
  obtain ⟨added', hcolumns', hfresh'⟩ := h'
  refine ⟨added ++ added', by rw [hcolumns', hcolumns, List.append_assoc], fun column hcolumn => ?_⟩
  rcases List.mem_append.mp hcolumn with hmem | hmem
  · exact hfresh column hmem
  · exact fun hname => hfresh' column hmem (hsubset hname)

end Widens

/-- A column is added behind the others, unless its name is there. -/
theorem widens_addColumn (t : Table) (name : String) (type : ColumnType) :
    Widens t (t.addColumn name type) := by
  rw [addColumn]
  split
  · exact Widens.refl t
  · rename_i hnone
    refine ⟨[⟨name, type⟩], rfl, ?_⟩
    rw [List.forall_mem_singleton]
    exact columnIndex?_eq_none_iff.mp hnone

/-- After a column was added, it is found where `indexForColumn` says. -/
theorem columnIndex?_addColumn (t : Table) (name : String) (type : ColumnType) :
    (t.addColumn name type).columnIndex? name = some (t.indexForColumn name) := by
  rw [addColumn, indexForColumn]
  split
  · rename_i index hindex
    rw [hindex]
    rfl
  · rename_i hnone
    rw [hnone, columnIndex?, columnNames, List.map_append, List.map_singleton,
      lastIndex?_concat_self, List.length_map]
    rfl

end Table
end TableShell
