import TableShell.CommandLine.Options
import TableShell.Proofs.Delimited.Stepping
import TableShell.Proofs.Table.WellFormed

/-!
# Tables written with any delimiter

The command line takes any character for a delimiter. A table survives being written and read with
one exactly if the character stands between fields only (`survives_iff_separates`). With a line feed
the record of the names never ends with their line (`Progress.Exceeds`), a quote opens quotes and
ends no field (`Progress.Undivided`), and a delimiter that occurs in a number cuts it, so that a row
has too many fields (`read_write_of_cut`).
-/

namespace TableShell
namespace Delimited

open Text

/-- The table that is read from the text of a table has its names and as many rows, and the same
cells are missing in it. -/
def Survives (delimiter : Char) (t : Table) : Prop :=
  ∃ t', read delimiter (write delimiter t) = .ok t' ∧ t'.columnNames = t.columnNames ∧
    t'.rows.length = t.rows.length ∧
    ∀ i j, cellAt? t' i j = some .missing ↔ cellAt? t i j = some .missing

variable {delimiter : Char} {t : Table}

/-! ## A quote is no delimiter -/

namespace Progress

variable {p q : Progress} {c : Char}

/-- No record has a second field. -/
structure Undivided (p : Progress) : Prop where
  done : p.reading.done = []
  records : ∀ record ∈ p.records, record.fields.length = 1

theorem undivided_start : Undivided start :=
  ⟨rfl, nofun⟩

theorem length_fields_of_done {r : Reading} (h : r.done = []) : r.fields.length = 1 := by
  rw [Reading.fields, h, List.length_reverse, List.length_singleton]

/-- The quote opens or closes quotes before it can end a field. -/
theorem Undivided.step (hp : Undivided p) (h : Step '"' p c q) : Undivided q := by
  cases h with
  | endField outside hc hquote hfirst => exact absurd hc hquote
  | endRecord outside hc hdelimiter hfirst =>
    refine ⟨rfl, fun record hrecord => ?_⟩
    rcases List.mem_append.mp hrecord with hrecord | hrecord
    · exact hp.records record hrecord
    · rw [fields_of_record? (Or.inl (Option.mem_toList.mp hrecord))]
      exact length_fields_of_done hp.done
  | closeQuote | takeQuoted | reopen | openQuote | secondHalf | ignore | take =>
    exact ⟨hp.done, hp.records⟩

theorem Undivided.run (hp : Undivided p) (cs : List Char) : Undivided (run '"' p cs) :=
  run_induction Undivided.step hp cs

theorem Undivided.finish (hp : Undivided p) {rs : List Record} (h : p.finish = .ok rs) :
    ∀ record ∈ rs, record.fields.length = 1 := by
  obtain ⟨-, rfl⟩ := finish_eq_ok_iff.mp h
  intro record hrecord
  rcases List.mem_append.mp hrecord with hrecord | hrecord
  · exact hp.records record hrecord
  · rw [fields_of_record? (Or.inr (Option.mem_toList.mp hrecord))]
    exact length_fields_of_done hp.done

end Progress

/-- With a quote for a delimiter, a table has one column. -/
theorem length_columns_of_read_quote {s : String} (h : read '"' s = .ok t) :
    t.columns.length = 1 := by
  obtain ⟨header, body, rows, hrecords, -, -, rfl⟩ := exists_records_of_read h
  rw [Progress.records_eq] at hrecords
  rw [length_columns_tableOf, List.length_map]
  exact (Progress.undivided_start.run s.toList).finish hrecords header List.mem_cons_self

/-! ## A line feed is no delimiter -/

namespace Progress

variable {p q : Progress} {c : Char} {bound : ℕ}

/-- The first record has more fields than the bound, or will have them when it ends. -/
structure Exceeds (bound : ℕ) (p : Progress) : Prop where
  done : p.records = [] → p.reading.done ≠ [] ∧ bound ≤ p.reading.done.length
  first : ∀ record ∈ p.records.head?, bound < record.fields.length

/-- Fields that are done are in the record that ends next. -/
theorem Exceeds.append (hp : Exceeds bound p) {record? : Option Record}
    (hrecord : p.records = [] → record? = some ⟨p.reading.start, p.reading.fields⟩) :
    ∃ record rest, p.records ++ record?.toList = record :: rest ∧
      bound < record.fields.length := by
  cases hrecords : p.records with
  | nil =>
    refine ⟨⟨p.reading.start, p.reading.fields⟩, [], by rw [hrecord hrecords]; rfl, ?_⟩
    have hbound := (hp.done hrecords).2
    rw [Reading.fields, List.length_reverse, List.length_cons]
    omega
  | cons record rest =>
    refine ⟨record, rest ++ record?.toList, rfl, hp.first record ?_⟩
    rw [hrecords]
    rfl

/-- A step adds to the record at hand or ends it, and what is finished stays. -/
theorem Exceeds.step (hp : Exceeds bound p) (h : Step delimiter p c q) : Exceeds bound q := by
  cases h with
  | endField outside hc hquote hfirst =>
    refine ⟨fun hrecords => ⟨List.cons_ne_nil _ _, ?_⟩, hp.first⟩
    exact Nat.le_succ_of_le (hp.done hrecords).2
  | endRecord outside hc hdelimiter hfirst =>
    have hrecord : p.records = [] →
        p.reading.record? = some ⟨p.reading.start, p.reading.fields⟩ := by
      intro hrecords
      apply record?_eq_some
      intro hblank
      rw [Reading.fields, List.reverse_eq_iff] at hblank
      exact (hp.done hrecords).1 (List.tail_eq_of_cons_eq hblank)
    obtain ⟨record, rest, hfirst, hbound⟩ := hp.append hrecord
    refine ⟨fun hrecords => ?_, fun record' hmem => ?_⟩
    · rw [endRecord, hfirst] at hrecords
      cases hrecords
    · rw [endRecord, hfirst] at hmem
      cases hmem
      exact hbound
  | closeQuote | takeQuoted | reopen | openQuote | secondHalf | ignore | take =>
    exact ⟨hp.done, hp.first⟩

theorem Exceeds.run (hp : Exceeds bound p) (cs : List Char) :
    Exceeds bound (run delimiter p cs) :=
  run_induction Exceeds.step hp cs

theorem Exceeds.finish (hp : Exceeds bound p) {header : Record} {body : List Record}
    (h : p.finish = .ok (header :: body)) : bound < header.fields.length := by
  have hlast : p.records = [] →
      p.reading.lastRecord? = some ⟨p.reading.start, p.reading.fields⟩ :=
    fun hrecords => if_neg fun hnone => (hp.done hrecords).1 hnone.2.2
  obtain ⟨record, rest, hfirst, hbound⟩ := hp.append hlast
  obtain ⟨-, hrecords⟩ := finish_eq_ok_iff.mp h
  rw [hfirst] at hrecords
  cases hrecords
  exact hbound

end Progress

/-- With a line feed for a delimiter, the line break behind the names ends the last of them, and
not the record. -/
theorem exists_records_write_newline (hcolumns : t.columns ≠ []) :
    ∃ (r : Reading) (rest : List Char), r.done ≠ [] ∧ r.done.length = t.columns.length ∧
      records '\n' (write '\n' t) = scan '\n' r rest := by
  let names := (t.columns.map fun column => escape '\n' column.name).map String.toList
  let rest := ((t.rows.map (rowText '\n')).map String.toList).flatMap (· ++ ['\n'])
  have hnames : names ≠ [] := by simpa [names] using hcolumns
  have htext : (write '\n' t).toList = ['\n'].intercalate names ++ '\n' :: rest := by
    rw [toList_write hcolumns, List.map_cons, List.flatMap_cons, headerText, toList_join,
      List.append_assoc, List.singleton_append]
  have hbreak : ('\n' :: rest).head? ≠ some '"' := by simp
  obtain ⟨r, hfields, houtside, hscan⟩ :=
    scan_intercalate (fieldSpells_header '\n' t) hnames (fun _ => by decide) [] 1 1 hbreak
  refine ⟨r.endField, rest, List.cons_ne_nil _ _, ?_, ?_⟩
  · have hlength := congrArg List.length hfields
    rwa [Reading.fields, List.length_reverse, List.reverse_nil, List.nil_append, headerFields,
      List.length_map] at hlength
  · rw [records, htext, show Reading.fresh 1 = fieldStart [] 1 1 from rfl, hscan,
      scan_delimiter houtside (by decide)]

/-- With a line feed for a delimiter, a table that is read has more columns than were written. -/
theorem length_columns_lt_of_read_newline {t' : Table} (hcolumns : t.columns ≠ [])
    (h : read '\n' (write '\n' t) = .ok t') : t.columns.length < t'.columns.length := by
  obtain ⟨header, body, rows, hrecords, -, -, rfl⟩ := exists_records_of_read h
  obtain ⟨r, rest, hdone, hlength, hscan⟩ := exists_records_write_newline hcolumns
  rw [hscan, Progress.scan_eq_finish] at hrecords
  have hexceeds : Progress.Exceeds t.columns.length ⟨[], r, .nothing⟩ :=
    ⟨fun _ => ⟨hdone, hlength.ge⟩, nofun⟩
  rw [length_columns_tableOf, List.length_map]
  exact (hexceeds.run rest).finish hrecords

/-! ## Cut rows -/

/-- The first row that the delimiter cuts is refused: it has one field too many for each time that
the delimiter occurs in it unescaped. -/
theorem read_write_of_cut (hwell : t.WellFormed) (hcolumns : t.columns ≠ [])
    (hnewline : delimiter ≠ '\n') (hquote : 1 < t.columns.length → delimiter ≠ '"')
    {before after : List Row} {row : Row} (hrows : t.rows = before ++ row :: after)
    (hbefore : ∀ other ∈ before, delimiter ∉ bareRow other) (hcut : delimiter ∈ bareRow row) :
    ∃ line, read delimiter (write delimiter t) = .error (.tooManyFields line t.columns.length
      (t.columns.length + (bareRow row).count delimiter)) := by
  have hlengths : ∀ row ∈ t.rows, (rowFields delimiter row).length
      = t.columns.length + (bareRow row).count delimiter := by
    intro row hrow
    rw [length_rowFields, (hwell.rows_fit row hrow).1]
  obtain ⟨body, hbody, hread⟩ := exists_read_write hnewline hquote hcolumns hwell.nodup_names
    (fun row hrow => (hwell.rows_fit row hrow).1) hwell.ne_nan
  rw [hrows, List.map_append, List.map_cons] at hbody
  obtain ⟨uncut, others, rfl, huncut, hothers⟩ := List.map_eq_append_iff.mp hbody
  obtain ⟨record, later, rfl, hrecord, -⟩ := List.map_eq_cons_iff.mp hothers
  have hfirst : ∀ other ∈ uncut, ∃ fields, fillUp t.columns.length other = .ok fields := by
    intro other hother
    have hmem : other.fields ∈ before.map (rowFields delimiter) :=
      huncut ▸ List.mem_map_of_mem hother
    obtain ⟨otherRow, hotherRow, hfields⟩ := List.mem_map.mp hmem
    have hlength := hlengths otherRow (by rw [hrows]; exact List.mem_append_left _ hotherRow)
    rw [List.count_eq_zero.mpr (hbefore otherRow hotherRow), hfields] at hlength
    exact ⟨other.fields, fillUp_eq_ok hlength⟩
  have hrefused : fillUp t.columns.length record = .error (.tooManyFields record.line
      t.columns.length (t.columns.length + (bareRow row).count delimiter)) := by
    have hlength := hlengths row (by rw [hrows]; simp)
    have hpos := List.count_pos_iff.mpr hcut
    rw [fillUp, hrecord, hlength, if_pos (by omega)]
  refine ⟨record.line, ?_⟩
  rw [hread, Traversal.mapM_append_cons_eq_error hfirst hrefused]
  rfl

/-! ## All delimiters -/

/-- A table survives being written and read exactly if the delimiter stands between fields only.
Then what comes back are the same texts, with the types that they show. -/
theorem survives_iff_separates (hwell : t.WellFormed) (hcolumns : t.columns ≠ [])
    (delimiter : Char) :
    (Survives delimiter t ↔ Separates delimiter t) ∧
      (Separates delimiter t → read delimiter (write delimiter t) = .ok (reload t)) := by
  have hreload : Separates delimiter t → read delimiter (write delimiter t) = .ok (reload t) :=
    fun hd => read_write_of_separates hd hcolumns hwell.nodup_names
      (fun row hrow => (hwell.rows_fit row hrow).1) hwell.ne_nan
  refine ⟨⟨?_, fun hd => ?_⟩, hreload⟩
  · rintro ⟨t', hread, hnames, -, -⟩
    have hlength := congrArg List.length hnames
    rw [Table.columnNames, Table.columnNames, List.length_map, List.length_map] at hlength
    have hnewline : delimiter ≠ '\n' := by
      rintro rfl
      exact absurd hlength (length_columns_lt_of_read_newline hcolumns hread).ne'
    have hquote : 1 < t.columns.length → delimiter ≠ '"' := by
      rintro hmany rfl
      rw [length_columns_of_read_quote hread] at hlength
      exact absurd hlength hmany.ne
    refine ⟨hnewline, hquote, ?_⟩
    -- the first row that is cut would have been refused
    cases hfind : t.rows.find? fun row => decide (delimiter ∈ bareRow row) with
    | none =>
      intro row hrow
      simpa using List.find?_eq_none.mp hfind row hrow
    | some row =>
      obtain ⟨hcut, before, after, hrows, hbefore⟩ := List.find?_eq_some_iff_append.mp hfind
      obtain ⟨line, herror⟩ := read_write_of_cut hwell hcolumns hnewline hquote hrows
        (by simpa using hbefore) (of_decide_eq_true hcut)
      rw [herror] at hread
      cases hread
  · exact ⟨reload t, hreload hd, columnNames_reload t, length_rows_reload t,
      cellAt?_reload_eq_missing t⟩

/-- Two columns, with digits in names, texts and numbers. -/
def numberedTable : Table :=
  ⟨[⟨"n1", .text⟩, ⟨"k", .integer⟩], [[.text "1\"1", .integer 25], [.missing, .missing]]⟩

theorem wellFormed_numberedTable : numberedTable.WellFormed where
  nodup_names := by decide
  rows_fit := by
    unfold numberedTable Table.RowFits Table.CellFits
    decide
  types_known := by decide

/-- A digit separates the fields of a table whose numbers do not have it. -/
theorem survives_iff_separates_digits :
    numberedTable.WellFormed ∧ numberedTable.columns ≠ [] ∧
      write '1' numberedTable = "\"n1\"1k\n\"1\"\"1\"125\n1\n" ∧
      Survives '1' numberedTable ∧ ¬ Survives '2' numberedTable := by
  have hcolumns : numberedTable.columns ≠ [] := by decide
  have hall := survives_iff_separates wellFormed_numberedTable hcolumns
  refine ⟨wellFormed_numberedTable, hcolumns, by decide +kernel, ?_, ?_⟩
  · exact (hall '1').1.mpr (by decide +kernel)
  · exact (hall '2').1.not.mpr (by decide +kernel)

/-- One column with a number that a digit cuts. -/
def fifteen : Table :=
  ⟨[⟨"a", .integer⟩], [[.integer 15]]⟩

/-- The command line takes a digit for a delimiter, and then a table with that digit in a number is
written as a text that cannot be read. -/
theorem digit_cuts_number :
    CommandLine.readDelimiter "5" = .ok '5' ∧ fifteen.WellFormed ∧ fifteen.columns ≠ [] ∧
      write '5' fifteen = "a\n15\n" ∧
      read '5' (write '5' fifteen) = .error (.tooManyFields 2 1 2) ∧ ¬ Survives '5' fifteen := by
  have hwell : fifteen.WellFormed :=
    ⟨by decide, by unfold fifteen Table.RowFits Table.CellFits; decide, by decide⟩
  have hrecords : records '5' (write '5' fifteen)
      = .ok [⟨1, [⟨"a", false⟩]⟩, ⟨2, [⟨"1", false⟩, ⟨"", false⟩]⟩] :=
    Traversal.toOption_eq_some_iff.mp (by decide +kernel)
  have hread : read '5' (write '5' fifteen) = .error (.tooManyFields 2 1 2) := by
    rw [read, hrecords]
    rfl
  refine ⟨rfl, hwell, by decide, by decide +kernel, hread, ?_⟩
  rintro ⟨t', hread', -⟩
  rw [hread] at hread'
  cases hread'

end Delimited
end TableShell
