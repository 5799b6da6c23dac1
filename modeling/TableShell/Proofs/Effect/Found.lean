import TableShell.Proofs.Condition.OwnText
import TableShell.Proofs.Effect.Appending
import TableShell.Proofs.OrderedMap.Written
import TableShell.Proofs.Table.WellFormed

/-!
# Searching for what was added

The command `add` casts a text to a cell, and `search_exact` reads the same text as a condition on
the column. `shows_added_iff` says when the search shows the row that was added: exactly if the text
finds its own cell in a column of that type, and always if the command made the column or gave it
its type.
-/

namespace TableShell
namespace Table

open Text

/-! ## Rows that a search shows -/

/-- The command `search_exact` shows the row. -/
def Shows (t : Table) (column condition : String) (row : Row) : Prop :=
  ∃ message found, t.searchExact column condition = .ok (.showing message found) ∧ row ∈ found.rows

/-- A mask made by a test leaves the rows that pass it. -/
theorem rows_filter_map (t : Table) (p : Row → Bool) :
    (t.filter (t.rows.map p)).rows = t.rows.filter p := by
  show ((t.rows.zip (t.rows.map p)).filter Prod.snd).map Prod.fst = t.rows.filter p
  induction t.rows with
  | nil => rfl
  | cons row rows ih =>
    rw [List.map_cons, List.zip_cons_cons, List.filter_cons, List.filter_cons]
    split
    · rw [List.map_cons, ih]
    · exact ih

/-- A search shows the rows of the table that pass its condition. -/
theorem shows_iff_passes (t : Table) (entry : String × String) (row : Row) :
    t.Shows entry.1 entry.2 row ↔ row ∈ t.rows ∧ t.passes entry row = true := by
  by_cases hname : entry.1 ∈ t.columnNames
  · have hmask := selection?_of_mem hname
    have hfound := rows_filter_map t (t.passes entry)
    rw [← List.mem_filter, Shows, searchExact, hmask]
    simp only [hfound]
    constructor
    · rintro ⟨message, found, h, hmem⟩
      split at h
      · cases h
      · split at h
        · cases h
        · cases h
          rwa [hfound] at hmem
    · intro hmem
      have hrows := List.isEmpty_eq_false_iff.mpr
        (List.ne_nil_of_mem (List.mem_filter.mp hmem).1)
      have hne := List.isEmpty_eq_false_iff.mpr (List.ne_nil_of_mem hmem)
      rw [hrows, if_neg Bool.false_ne_true, hne, if_neg Bool.false_ne_true]
      exact ⟨_, _, rfl, by rwa [hfound]⟩
  · have hpasses : t.passes entry row = false := by
      rw [passes, columnIndex?_eq_none_iff.mpr hname]
    rw [Shows, searchExact, selection?_of_not_mem hname, hpasses]
    refine iff_of_false ?_ fun h => Bool.false_ne_true h.2
    rintro ⟨message, found, h, -⟩
    split at h <;> cases h

/-- A search shows a row exactly if its predicate holds of the cell under the column. -/
theorem shows_iff_holds {t : Table} {name condition : String} {place : ℕ} {column : Column}
    {row : Row} {cell : Cell} (hplace : t.columnIndex? name = some place)
    (hcolumn : t.columns[place]? = some column) (hrow : row ∈ t.rows)
    (hcell : row[place]? = some cell) :
    t.Shows name condition row ↔
      (Predicate.ofCondition condition column.type).holds cell = true := by
  have hpasses : t.passes (name, condition) row
      = (Predicate.ofCondition condition column.type).holds cell := by
    simp only [passes, hplace, hcolumn, Option.map_some, Option.getD_some, rowSatisfies, hcell]
  rw [← hpasses]
  exact (shows_iff_passes t (name, condition) row).trans (and_iff_right hrow)

/-! ## The row that is added -/

/-- In a new row, a text that is supplied stands under its column, cast to its type. -/
theorem getElem?_newRow {prepared : Table} {defaults : List Cell}
    {columns : OrderedMap (List String)} {name s : String} {texts : List String} {i place : ℕ}
    {column : Column} (hplace : prepared.columnIndex? name = some place)
    (hcolumn : prepared.columns[place]? = some column) (htexts : columns.get? name = some texts)
    (hs : texts[i]? = some s) :
    (prepared.newRow defaults columns i)[place]? = some (Cell.cast s column.type) := by
  obtain ⟨column', hcolumn', hname⟩ := exists_column hplace
  obtain rfl : column = column' := Option.some.inj (hcolumn.symm.trans hcolumn')
  have hsupplied : prepared.suppliedText? columns i place column.name = some s := by
    rw [suppliedText?, hname, if_pos hplace, htexts, Option.bind_some, hs]
  rw [newRow, List.getElem?_mapIdx, hcolumn, Option.map_some, hsupplied]

/-- After a row was added, there is one more; each text of the command stands in it under its
column, cast to its type, which is known. -/
theorem exists_row_add (t : Table) {values : Assignments} {name s : String}
    (h : values.get? name = some s) :
    ∃ row place column, (t.after (.add values)).rows.length = t.rows.length + 1 ∧
      (t.after (.add values)).rows[t.rows.length]? = some row ∧
      (t.after (.add values)).columnIndex? name = some place ∧
      (t.after (.add values)).columns[place]? = some column ∧ column.type ≠ .unknown ∧
      row[place]? = some (Cell.cast s column.type) ∧
      ((∀ old, t.column? name = some old → old.type = .unknown) →
        column.type = Cell.inferType [s]) := by
  have htexts : (values.map fun text => [text]).get? name = some [s] := by
    rw [OrderedMap.get?_map, h, Option.map_some]
  have hafter : t.after (.add values) = t.append (values.map fun text => [text]) 1 := rfl
  obtain ⟨column, hcolumn, hknown, htype⟩ := exists_column?_prepareColumns (t := t) htexts
  obtain ⟨place, hplace, hat⟩ := column?_eq_some_iff.mp hcolumn
  have hlength := length_rows_append t (values.map fun text => [text]) 1
  have hdrop := drop_rows_append t (values.map fun text => [text]) 1
  have hrow := congrArg (·[0]?) hdrop
  simp only [List.getElem?_drop, Nat.add_zero] at hrow
  rw [hafter]
  refine ⟨_, place, column, hlength, hrow, ?_, ?_, hknown,
    getElem?_newRow hplace hat htexts rfl, htype⟩
  · rw [append, columnIndex?, columnNames_settleTypes]
    exact hplace
  · rw [append]
    exact getElem?_columns_settleTypes hat hknown

/-- A search for a text that was just added shows the new row exactly if the text finds its own cell
in the column of that type, numbers beyond 64 bits in a column of whole numbers left out; it always
does if the column is new or had no type. -/
theorem shows_added_iff (t : Table) {values : Assignments} {name s : String}
    (h : values.get? name = some s) :
    ∃ row column, (t.after (.add values)).rows.length = t.rows.length + 1 ∧
      (t.after (.add values)).rows[t.rows.length]? = some row ∧
      (t.after (.add values)).column? name = some column ∧
      ((column.type = .integer → ∀ n, wholeNumber? s = some n →
          Integer.least ≤ n ∧ n ≤ Integer.greatest) →
        ((t.after (.add values)).Shows name s row ↔ FindsItself s column.type)) ∧
      ((∀ old, t.column? name = some old → old.type = .unknown) →
        (t.after (.add values)).Shows name s row) := by
  obtain ⟨row, place, column, hlength, hrow, hplace, hat, hknown, hcell, htype⟩ :=
    exists_row_add t h
  have hshows : (t.after (.add values)).Shows name s row ↔
      (Predicate.ofCondition s column.type).holds (Cell.cast s column.type) = true :=
    shows_iff_holds hplace hat (List.mem_of_getElem? hrow) hcell
  refine ⟨row, column, hlength, hrow, column?_eq_some_iff.mpr ⟨place, hplace, hat⟩, ?_, ?_⟩
  · intro hfits
    rw [hshows, Predicate.holds_cast_iff hknown hfits]
  · intro hunknown
    obtain ⟨hfinds, hfits⟩ := Cell.findsItself_inferType s
    rw [hshows, Predicate.holds_cast_iff hknown (by rwa [htype hunknown]), htype hunknown]
    exact hfinds

/-- A table with one whole number. -/
def oneAge : Table :=
  ⟨[⟨"age", .integer⟩], [[.integer 10]]⟩

theorem shows_added_iff_two_columns :
    let values : Assignments := .ofList [("age", " 7"), ("height", ">5")]
    let t := oneAge.after (.add values)
    values.get? "age" = some " 7" ∧ t.Shows "age" " 7" [.integer 7, .text ">5"] ∧
      values.get? "height" = some ">5" ∧ t.Shows "height" ">5" [.integer 7, .text ">5"] := by
  intro values t
  have ht : t = ⟨[⟨"age", .integer⟩, ⟨"height", .text⟩],
      [[.integer 10, .missing], [.integer 7, .text ">5"]]⟩ := by decide +kernel
  have hage : values.get? "age" = some " 7" := by decide
  have hheight : values.get? "height" = some ">5" := by decide
  have hinteger : readInteger? " 7" = some 7 := by decide
  refine ⟨hage, ?_, hheight, ?_⟩
  · obtain ⟨row, column, -, hrow, hcolumn, hshows, -⟩ := shows_added_iff oneAge hage
    obtain ⟨x, hread⟩ := Binary64.exists_of_integerRead? hinteger
    have hrow' : t.rows[1]? = some row := hrow
    have hcolumn' : t.column? "age" = some column := hcolumn
    rw [ht] at hrow' hcolumn'
    obtain rfl : [.integer 7, .text ">5"] = row := Option.some.inj hrow'
    obtain rfl : ⟨"age", .integer⟩ = column := Option.some.inj hcolumn'
    refine (hshows fun _ n hn => ?_).mpr (Or.inr ⟨fun _ => ?_, fun _ y hy => ?_⟩)
    · obtain rfl : 7 = n := Option.some.inj hn
      decide
    · exact Predicate.not_spellsComparison hread
    · exact (Predicate.isWhole_of_readInteger? hinteger hy).1
  · obtain ⟨row, column, -, hrow, -, -, hshows⟩ := shows_added_iff oneAge hheight
    have hrow' : t.rows[1]? = some row := hrow
    rw [ht] at hrow'
    obtain rfl : [.integer 7, .text ">5"] = row := Option.some.inj hrow'
    exact hshows fun old hold => by cases hold

/-- A fraction is cut off when it is added, and then looked for in vain. -/
theorem fraction_not_shown :
    let t := oneAge.after (.add (.ofList [("age", "3.5")]))
    oneAge.WellFormed ∧ t = ⟨oneAge.columns, [[.integer 10], [.integer 3]]⟩ ∧
      t.searchExact "age" "3.5"
        = .ok (.say .info "No rows found where 'age' matches '3.5'.") ∧
      ¬ t.Shows "age" "3.5" [.integer 3] := by
  intro t
  have hread : Delimited.read ',' "age\n10\n" = .ok oneAge :=
    Traversal.toOption_eq_some_iff.mp (by decide +kernel)
  have hsearch : t.searchExact "age" "3.5"
      = .ok (.say .info "No rows found where 'age' matches '3.5'.") :=
    Traversal.toOption_eq_some_iff.mp (by decide +kernel)
  refine ⟨wellFormed_of_read hread, by decide +kernel, hsearch, ?_⟩
  rintro ⟨message, found, hshown, -⟩
  rw [hsearch] at hshown
  cases hshown

end Table
end TableShell
