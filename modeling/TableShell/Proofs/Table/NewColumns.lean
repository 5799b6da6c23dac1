import TableShell.Proofs.Table.Columns

/-!
# Entries for new columns

A command names columns that are there and others that are not. Those that are not become columns,
in the order of the command (`newEntries`).
-/

namespace TableShell
namespace Table

variable {α : Type} {t t' : Table} {entries : List (String × α)}

/-- The entries whose names are not those of columns. -/
def newEntries (t : Table) (entries : List (String × α)) : List (String × α) :=
  entries.filter fun entry => entry.1 ∉ t.columnNames

theorem mem_newEntries {entry : String × α} :
    entry ∈ t.newEntries entries ↔ entry ∈ entries ∧ entry.1 ∉ t.columnNames := by
  rw [newEntries, List.mem_filter, decide_eq_true_eq]

theorem newEntries_singleton_of_mem {entry : String × α} (h : entry.1 ∈ t.columnNames) :
    t.newEntries [entry] = [] := by
  simp [newEntries, h]

theorem newEntries_singleton_of_not_mem {entry : String × α} (h : entry.1 ∉ t.columnNames) :
    t.newEntries [entry] = [entry] := by
  simp [newEntries, h]

/-- The column of an entry is added if the entry is new. -/
theorem addColumn_entry (t : Table) (entry : String × α) (type : ColumnType) :
    t.addColumn entry.1 type
      = { columns := t.columns ++ (t.newEntries [entry]).map fun new => ⟨new.1, type⟩
          rows := t.rows.map (· ++ List.replicate (t.newEntries [entry]).length .missing) } := by
  unfold addColumn
  split
  · rename_i hindex
    have hmem := List.mem_of_getElem? (getElem?_of_lastIndex? hindex)
    rw [newEntries_singleton_of_mem hmem]
    simp
  · rename_i hnone
    rw [newEntries_singleton_of_not_mem (columnIndex?_eq_none_iff.mp hnone)]
    rfl

/-- The column of the first entry makes none of the others old. -/
theorem newEntries_cons {entry : String × α} (hkey : entry.1 ∉ entries.map Prod.fst)
    (hnames : t'.columnNames = t.columnNames ++ (t.newEntries [entry]).map Prod.fst) :
    t.newEntries (entry :: entries) = t.newEntries [entry] ++ t'.newEntries entries := by
  have hsame : t'.newEntries entries = t.newEntries entries := by
    refine List.filter_congr fun other hother => ?_
    have hnot : other.1 ∉ (t.newEntries [entry]).map Prod.fst := by
      intro hmem
      obtain ⟨new, hnew, hname⟩ := List.mem_map.mp hmem
      obtain rfl := List.mem_singleton.mp (mem_newEntries.mp hnew).1
      exact hkey (hname ▸ List.mem_map_of_mem hother)
    simp [hnames, hnot]
  rw [hsame]
  exact List.filter_append [entry] entries

/-- With their columns behind the others, all names are distinct. -/
theorem nodup_append_newEntries (hnames : t.columnNames.Nodup)
    (hkeys : (entries.map Prod.fst).Nodup) :
    (t.columnNames ++ (t.newEntries entries).map Prod.fst).Nodup := by
  rw [List.nodup_append]
  refine ⟨hnames, (List.Sublist.map Prod.fst List.filter_sublist).nodup hkeys, ?_⟩
  rintro name hname _ hnew rfl
  obtain ⟨entry, hentry, rfl⟩ := List.mem_map.mp hnew
  exact (mem_newEntries.mp hentry).2 hname

end Table
end TableShell
