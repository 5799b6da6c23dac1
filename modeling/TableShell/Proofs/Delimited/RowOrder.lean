import TableShell.Proofs.Delimited.FinalBreak
import TableShell.Proofs.Delimited.Stray

/-!
# Records in another order

The type of a column is the common type of its fields, which does not depend on their order. So the
table of a text with the same records in another order has its rows in that order, and is the same
otherwise (`read_of_reordered`). The records may be given as they are read, or as the lines of a
text: a line that `IsRecord` is read as one record wherever it stands. If no field of a column is
quoted, its type is the one that a new column would get for the texts of its fields.
-/

namespace TableShell

/-! ## Other orders -/

section Orders

variable {α β : Type} {order : List ℕ} {xs : List α}

/-- The elements at the positions, in their order. -/
def inOrder (order : List ℕ) (xs : List α) : List α :=
  order.filterMap (xs[·]?)

theorem map_inOrder (f : α → β) (order : List ℕ) (xs : List α) :
    (inOrder order xs).map f = inOrder order (xs.map f) := by
  rw [inOrder, List.map_filterMap, inOrder]
  refine List.filterMap_congr fun i _ => ?_
  rw [List.getElem?_map]

theorem inOrder_range (xs : List α) : inOrder (List.range xs.length) xs = xs := by
  induction xs using List.reverseRecOn with
  | nil => rfl
  | append_singleton xs x ih =>
    have hfront : ∀ i ∈ List.range xs.length, (xs ++ [x])[i]? = xs[i]? := fun i hi =>
      List.getElem?_append_left (List.mem_range.mp hi)
    rw [List.length_append, List.length_singleton, List.range_succ, inOrder, List.filterMap_append,
      List.filterMap_congr hfront, ← inOrder, ih]
    simp

/-- If each position occurs once, nothing is lost and nothing is added. -/
theorem perm_inOrder (horder : order.Perm (List.range xs.length)) :
    (inOrder order xs).Perm xs := by
  have hperm : (inOrder order xs).Perm (inOrder (List.range xs.length) xs) :=
    horder.filterMap (xs[·]?)
  rwa [inOrder_range] at hperm

end Orders

namespace Delimited

open Text ColumnType

/-! ## Tables of rows in another order -/

section Tables

variable {order : List ℕ}

/-- The type of a column does not depend on the order of the rows. -/
theorem columnType_perm {rows rows' : List (List Field)} (h : rows'.Perm rows) (index : ℕ) :
    columnType rows' index = columnType rows index := by
  have htypes : mergeAll (rows'.filterMap fun row => row[index]?.map Field.type)
      = mergeAll (rows.filterMap fun row => row[index]?.map Field.type) :=
    mergeAll_congr fun t _ => (h.filterMap _).mem_iff
  simp only [columnType, htypes, h.isEmpty_eq]

/-- The same rows in another order make the same table, with its rows in that order. -/
theorem tableOf_inOrder {rows : List (List Field)} (names : List String)
    (horder : order.Perm (List.range rows.length)) :
    tableOf names (inOrder order rows)
      = { tableOf names rows with rows := inOrder order (tableOf names rows).rows } := by
  have htypes : (List.range names.length).map (columnType (inOrder order rows))
      = (List.range names.length).map (columnType rows) :=
    List.map_congr_left fun index _ => columnType_perm (perm_inOrder horder) index
  simp only [tableOf, htypes, map_inOrder]

/-- The fields, filled up to the given width. -/
def padded (width : ℕ) (fields : List Field) : List Field :=
  fields ++ List.replicate (width - fields.length) .blank

/-- Records can be filled up exactly if none is too long. -/
theorem mapM_fillUp_eq_ok_iff {width : ℕ} {body : List Record} {rows : List (List Field)} :
    body.mapM (fillUp width) = .ok rows ↔
      (∀ fields ∈ body.map Record.fields, fields.length ≤ width) ∧
        rows = (body.map Record.fields).map (padded width) := by
  rw [Traversal.mapM_eq_ok_iff, List.forall_mem_map]
  induction body generalizing rows with
  | nil => simp [List.forall₂_nil_left_iff]
  | cons record body ih =>
    rw [List.forall₂_cons_left_iff, List.forall_mem_cons]
    constructor
    · rintro ⟨fields, rest, hfields, hrest, rfl⟩
      obtain ⟨hfits, rfl⟩ := fillUp_eq_ok_iff.mp hfields
      obtain ⟨hall, rfl⟩ := ih.mp hrest
      exact ⟨⟨hfits, hall⟩, rfl⟩
    · rintro ⟨⟨hfits, hall⟩, rfl⟩
      exact ⟨_, _, fillUp_eq_ok_iff.mpr ⟨hfits, rfl⟩, ih.mpr ⟨hall, rfl⟩, rfl⟩

/-- Records with the same fields in another order make the same table, with its rows in that
order. -/
theorem ofRecords_inOrder {header header' : Record} {body body' : List Record} {t : Table}
    (hheader : header'.fields = header.fields) (horder : order.Perm (List.range body.length))
    (hbody : body'.map Record.fields = inOrder order (body.map Record.fields))
    (h : ofRecords (header :: body) = .ok t) : t.rows.length = body.length ∧
      ofRecords (header' :: body') = .ok { t with rows := inOrder order t.rows } := by
  rw [ofRecords] at h ⊢
  rw [hheader]
  generalize header.fields.map Field.text = names at h
  cases hname : repeatedName? [] names with
  | some name =>
    rw [hname] at h
    cases h
  | none =>
    simp only [hname] at h ⊢
    obtain ⟨rows, hrows, rfl⟩ := Traversal.map_eq_ok_iff.mp h
    obtain ⟨hwidth, rfl⟩ := mapM_fillUp_eq_ok_iff.mp hrows
    have horder' : order.Perm (List.range (body.map Record.fields).length) := by
      rwa [List.length_map]
    have hrows' : body'.mapM (fillUp names.length)
        = .ok (inOrder order ((body.map Record.fields).map (padded names.length))) := by
      rw [mapM_fillUp_eq_ok_iff, hbody, map_inOrder]
      exact ⟨fun fields hfields => hwidth fields ((perm_inOrder horder').mem_iff.mp hfields), rfl⟩
    refine ⟨by simp [tableOf], ?_⟩
    rw [hrows', ← tableOf_inOrder names (by rwa [List.length_map])]
    rfl

/-- The two texts have the same header, and the same records behind it: those of the second are
those of the first at the positions, each of which occurs once. -/
def Reordered (delimiter : Char) (order : List ℕ) (s s' : String) : Prop :=
  ∃ header header' body body', records delimiter s = .ok (header :: body) ∧
    records delimiter s' = .ok (header' :: body') ∧ header'.fields = header.fields ∧
    order.Perm (List.range body.length) ∧
    body'.map Record.fields = inOrder order (body.map Record.fields)

/-- The same records in another order make the same table, with its rows in that order. -/
theorem read_of_reordered {delimiter : Char} {s s' : String} {t : Table}
    (h : Reordered delimiter order s s') (hread : read delimiter s = .ok t) :
    order.Perm (List.range t.rows.length) ∧
      read delimiter s' = .ok { t with rows := inOrder order t.rows } := by
  obtain ⟨header, header', body, body', hrecords, hrecords', hheader, horder, hbody⟩ := h
  rw [read, hrecords] at hread
  obtain ⟨hlength, htable⟩ := ofRecords_inOrder hheader horder hbody hread
  rw [read, hrecords', hlength]
  exact ⟨horder, htable⟩

end Tables

/-! ## Lines that are records -/

/-- The lines of the characters end in quotes only. -/
def EndsInQuotes (cs : List Char) : Prop :=
  ∀ i (h : i < cs.length), cs[i] = '\n' ∨ cs[i] = '\r' → ¬ Even ((cs.take i).count '"')

instance (cs : List Char) : Decidable (EndsInQuotes cs) :=
  inferInstanceAs (Decidable (∀ i (_ : i < cs.length), _ → _))

theorem EndsInQuotes.left {cs more : List Char} (h : EndsInQuotes (cs ++ more)) :
    EndsInQuotes cs := by
  intro i hi hend
  have hsame := h i (by rw [List.length_append]; omega)
  rw [List.getElem_append_left hi, List.take_append_of_le_length hi.le] at hsame
  exact hsame hend

theorem endsInQuotes_concat_iff {cs : List Char} {c : Char} : EndsInQuotes (cs ++ [c]) ↔
    EndsInQuotes cs ∧ (c = '\n' ∨ c = '\r' → ¬ Even (cs.count '"')) := by
  constructor
  · intro h
    refine ⟨h.left, ?_⟩
    have hlast := h cs.length (by simp)
    simpa using hlast
  · rintro ⟨hfront, hlast⟩ i hi hend
    by_cases hi' : i < cs.length
    · rw [List.getElem_append_left hi'] at hend
      rw [List.take_append_of_le_length hi'.le]
      exact hfront i hi' hend
    · obtain rfl : i = cs.length := by
        rw [List.length_append, List.length_singleton] at hi
        omega
      simpa using hlast (by simpa using hend)

/-- The characters are one record: lines end in quotes only, all quotes are closed at the end, and
the line is not blank. -/
structure IsRecord (delimiter : Char) (line : List Char) : Prop where
  endsInQuotes : EndsInQuotes line
  closed : Even (line.count '"')
  notBlank : ∃ c ∈ line, isBlank c = false ∨ c = delimiter

instance (delimiter : Char) (line : List Char) : Decidable (IsRecord delimiter line) :=
  decidable_of_iff (EndsInQuotes line ∧ Even (line.count '"') ∧
      line.any (fun c => decide (isBlank c = false ∨ c = delimiter)) = true)
    ⟨fun h => ⟨h.1, h.2.1, by simpa using h.2.2⟩,
      fun h => ⟨h.endsInQuotes, h.closed, by simpa using h.notBlank⟩⟩

namespace Progress

variable {delimiter : Char} {p : Progress} {c : Char} {records : List Record} {line n : ℕ}

/-- Where no record ends, a step does not depend on the lines and the records before. -/
theorem step_moved (hc : c = '\n' ∨ c = '\r' → p.reading.inQuotes = true) :
    ∃ line', step delimiter ⟨records, { p.reading with line := line, start := n }, p.pending⟩ c
        = ⟨records, { (step delimiter p c).reading with line := line', start := n },
            (step delimiter p c).pending⟩ ∧
      (step delimiter p c).pending ≠ .carriage := by
  have hstep := step_spec delimiter p c
  generalize step delimiter p c = q at hstep
  cases hstep with
  | closeQuote inside hc' =>
    exact ⟨line, by simp [step, inside, hc', Reading.closeQuote], by simp⟩
  | takeQuoted inside hc' =>
    refine ⟨if c = '\n' then line + 1 else line, ?_, by simp⟩
    simp [step, inside, hc', Reading.takeQuoted, Reading.take]
  | reopen outside hc' hpending =>
    exact ⟨line, by simp [step, outside, hc', hpending, Reading.reopen, Reading.take], by simp⟩
  | openQuote outside hc' hpending =>
    exact ⟨line, by simp [step, outside, hc', hpending, Reading.openQuote], by simp⟩
  | secondHalf outside hpending hc' =>
    exact absurd (outside.symm.trans (hc (Or.inl hc'))) Bool.false_ne_true
  | endField outside hc' hquote hfirst =>
    subst hc'
    exact ⟨line, by simp [step, outside, hquote, hfirst, Reading.endField, Reading.field], by simp⟩
  | endRecord outside hc' hdelimiter hfirst =>
    exact absurd (outside.symm.trans (hc hc')) Bool.false_ne_true
  | ignore outside hquoted hc' =>
    exact ⟨line, by simp [step, outside, hquoted, hc'], by simp⟩
  | take outside hquoted hc' =>
    exact ⟨line, by simp [step, outside, hquoted, hc', Reading.take], by simp⟩

/-- A run over a record does not depend on the lines and the records before. -/
theorem run_moved {cs : List Char} (h : EndsInQuotes cs) :
    ∃ line', run delimiter ⟨records, .fresh n, .nothing⟩ cs
        = ⟨records, { (run delimiter .start cs).reading with line := line', start := n },
            (run delimiter .start cs).pending⟩ ∧
      (run delimiter .start cs).pending ≠ .carriage := by
  induction cs using List.reverseRecOn with
  | nil => exact ⟨n, rfl, nofun⟩
  | append_singleton cs c ih =>
    obtain ⟨hcs, hlast⟩ := endsInQuotes_concat_iff.mp h
    obtain ⟨line, hrun, -⟩ := ih hcs
    have hc : c = '\n' ∨ c = '\r' → (run delimiter .start cs).reading.inQuotes = true := by
      intro hend
      have hodd := hlast hend
      have heven : (run delimiter start cs).reading.inQuotes = false ↔ Even (cs.count '"') :=
        inQuotes_run_iff rfl cs
      rwa [← heven, Bool.not_eq_false] at hodd
    rw [run_concat, run_concat, hrun]
    exact step_moved hc

end Progress

/-- Lines, each with a line break behind it. -/
def ofLines (lines : List String) : String :=
  .join (lines.map (· ++ "\n"))

/-- The fields of a line. -/
def fieldsOf (delimiter : Char) (line : String) : List Field :=
  (Progress.run delimiter .start line.toList).reading.fields

section Lines

open Progress

variable {delimiter : Char} {line : String}

/-- A record is not read as a blank line. -/
theorem fieldsOf_ne_blank (h : IsRecord delimiter line.toList) :
    fieldsOf delimiter line ≠ [.blank] := by
  have houtside : (run delimiter .start line.toList).reading.inQuotes = false :=
    (inQuotes_run_iff (p := start) rfl _).mpr h.closed
  rw [fieldsOf, Ne, fields_eq_blank_iff houtside]
  rintro ⟨hbare, hblank⟩
  obtain ⟨front, hline, hends, hplain⟩ := exists_line_of_bare _ hbare
  -- no line ends before the last field, as lines end in quotes only
  have hfront : front = [] := by
    rcases List.eq_nil_or_concat' front with hnil | ⟨init, c, rfl⟩
    · exact hnil
    · obtain ⟨heven, hc⟩ := endsLine_concat_iff.mp hends
      have hquotes := h.endsInQuotes
      rw [hline] at hquotes
      exact absurd heven ((endsInQuotes_concat_iff.mp hquotes.left).2 hc)
  obtain ⟨c, hc, hnot⟩ := h.notBlank
  rw [hline, hfront, List.nil_append, List.mem_reverse] at hc
  rcases hnot with hnot | rfl
  · exact Bool.false_ne_true (hnot.symm.trans (hblank c hc))
  · exact (hplain c hc).2.1 rfl

/-- A record is read as its fields wherever it stands. -/
theorem lineSpells_fieldsOf (hdelimiter : delimiter ≠ '\n' ∧ delimiter ≠ '\r')
    (h : IsRecord delimiter line.toList) :
    LineSpells delimiter line.toList (fieldsOf delimiter line) := by
  intro n rest
  obtain ⟨line', hrun, hpending⟩ := @run_moved delimiter [] n line.toList h.endsInQuotes
  have houtside : (run delimiter .start line.toList).reading.inQuotes = false :=
    (inQuotes_run_iff (p := start) rfl _).mpr h.closed
  have hblank := fieldsOf_ne_blank h
  rw [fieldsOf] at hblank ⊢
  generalize run delimiter .start line.toList = q at hrun hpending houtside hblank
  refine ⟨⟨n, q.reading.fields⟩, line' + 1, rfl, ?_⟩
  -- the line feed behind the line ends the record
  have hstep : step delimiter ⟨[], { q.reading with line := line', start := n }, q.pending⟩ '\n'
      = ⟨[⟨n, q.reading.fields⟩], .fresh (line' + 1), .nothing⟩ := by
    have hrecord : Reading.record? { q.reading with line := line', start := n }
        = some ⟨n, q.reading.fields⟩ := record?_eq_some hblank
    simpa [step, houtside, hpending, hdelimiter.1.symm, endRecord] using hrecord
  rw [scan_eq_finish, run_append, run_cons, hrun, hstep, finish_run_eq_map]
  rfl

/-- Records, each with a line break behind it, are read one by one. -/
theorem exists_records_ofLines (hdelimiter : delimiter ≠ '\n' ∧ delimiter ≠ '\r')
    {lines : List String} (h : ∀ line ∈ lines, IsRecord delimiter line.toList) :
    ∃ rs, records delimiter (ofLines lines) = .ok rs ∧
      rs.map Record.fields = lines.map (fieldsOf delimiter) := by
  have hlines : List.Forall₂ (LineSpells delimiter) (lines.map String.toList)
      (lines.map (fieldsOf delimiter)) := by
    rw [List.forall₂_map_left_iff, List.forall₂_map_right_iff, List.forall₂_same]
    exact fun line hline => lineSpells_fieldsOf hdelimiter (h line hline)
  obtain ⟨rs, hfields, hscan⟩ := exists_records_of_lineSpells hlines 1
  refine ⟨rs, ?_, hfields⟩
  have htext : (ofLines lines).toList = (lines.map String.toList).flatMap (· ++ ['\n']) := by
    rw [ofLines, String.toList_join, List.flatMap_map, List.flatMap_map]
    simp only [String.toList_append]
    rfl
  rw [records, htext, hscan]

/-- Lines that are records may be put in any order behind the header. -/
theorem reordered_ofLines (hdelimiter : delimiter ≠ '\n' ∧ delimiter ≠ '\r')
    {header : String} {lines : List String}
    (h : ∀ line ∈ header :: lines, IsRecord delimiter line.toList) {order : List ℕ}
    (horder : order.Perm (List.range lines.length)) :
    Reordered delimiter order (ofLines (header :: lines))
      (ofLines (header :: inOrder order lines)) := by
  rw [List.forall_mem_cons] at h
  have hlines : ∀ line ∈ inOrder order lines, IsRecord delimiter line.toList := fun line hline =>
    h.2 line ((perm_inOrder horder).mem_iff.mp hline)
  obtain ⟨rs, hrecords, hfields⟩ :=
    exists_records_ofLines hdelimiter (List.forall_mem_cons.mpr h)
  obtain ⟨rs', hrecords', hfields'⟩ :=
    exists_records_ofLines hdelimiter (List.forall_mem_cons.mpr ⟨h.1, hlines⟩)
  rw [List.map_cons, List.map_eq_cons_iff] at hfields hfields'
  obtain ⟨first, body, rfl, hfirst, hbody⟩ := hfields
  obtain ⟨first', body', rfl, hfirst', hbody'⟩ := hfields'
  have hlength : body.length = lines.length := by
    simpa using congrArg List.length hbody
  refine ⟨first, first', body, body', hrecords, hrecords', hfirst'.trans hfirst.symm, ?_, ?_⟩
  · rwa [hlength]
  · rw [hbody', hbody, map_inOrder]

end Lines

/-! ## Types of columns without quotes -/

/-- The field of the column at a position; what a short record does not have is blank. -/
def Record.fieldAt (record : Record) (index : ℕ) : Field :=
  record.fields[index]?.getD .blank

theorem getElem?_padded {width j : ℕ} {record : Record} (hfits : record.fields.length ≤ width)
    (hj : j < width) : (padded width record.fields)[j]? = some (record.fieldAt j) := by
  rw [padded, Record.fieldAt]
  by_cases hown : j < record.fields.length
  · rw [List.getElem?_append_left hown, List.getElem?_eq_getElem hown]
    rfl
  · have hfilled : j - record.fields.length < width - record.fields.length := by omega
    rw [List.getElem?_append_right (by omega), List.getElem?_replicate, if_pos hfilled,
      List.getElem?_eq_none (by omega)]
    rfl

/-- Fields without quotes show the types that their texts show. -/
theorem mergeAll_type_of_not_quoted {fields : List Field}
    (h : ∀ f ∈ fields, f.quoted = false ∧ trim f.text = f.text) {texts : List String}
    (htexts : texts.Perm (fields.map fun f => trim f.text)) :
    mergeAll (fields.map Field.type)
      = mergeAll (((texts.filter fun s => !meansMissing s).map Cell.infer).map Cell.type) := by
  have htype : ∀ f ∈ fields, f.type
      = if meansMissing (trim f.text) then .unknown else (Cell.infer (trim f.text)).type := by
    intro f hf
    rw [(h f hf).2, Field.type, Field.isMissing, (h f hf).1, Bool.not_false, Bool.true_and]
  apply mergeAll_congr
  intro t hknown
  simp only [List.mem_map, List.mem_filter, htexts.mem_iff, Bool.not_eq_true',
    exists_exists_and_eq_and]
  constructor
  · rintro ⟨f, hf, rfl⟩
    rw [htype f hf] at hknown ⊢
    split at hknown
    · exact absurd rfl hknown
    · rename_i hmissing
      rw [if_neg hmissing]
      exact ⟨_, ⟨⟨f, hf, rfl⟩, Bool.eq_false_iff.mpr hmissing⟩, rfl⟩
  · rintro ⟨_, ⟨⟨f, hf, rfl⟩, hmissing⟩, rfl⟩
    exact ⟨f, hf, by rw [htype f hf, hmissing, if_neg Bool.false_ne_true]⟩

/-- A column of fields without quotes, at least one, has the type of a new column for their texts,
in any order. -/
theorem type_eq_inferType {delimiter : Char} {s : String} {t : Table} {header : Record}
    {body : List Record} (hrecords : records delimiter s = .ok (header :: body))
    (hread : read delimiter s = .ok t) (hbody : body ≠ []) {j : ℕ} {column : Column}
    {texts : List String} (hcolumn : t.columns[j]? = some column)
    (hquoted : ∀ record ∈ body, (record.fieldAt j).quoted = false)
    (htexts : texts.Perm (body.map fun record => trim (record.fieldAt j).text)) :
    column.type = Cell.inferType texts := by
  obtain ⟨header', body', rows, hrecords', -, hrows, rfl⟩ := exists_records_of_read hread
  rw [hrecords, Except.ok.injEq, List.cons.injEq] at hrecords'
  obtain ⟨rfl, rfl⟩ := hrecords'
  obtain ⟨hfits, rfl⟩ := mapM_fillUp_eq_ok_iff.mp hrows
  have hj : j < (header.fields.map Field.text).length := by
    rw [← length_columns_tableOf]
    exact (List.getElem?_eq_some_iff.mp hcolumn).1
  rw [columns_tableOf hj, Option.some_inj] at hcolumn
  rw [← hcolumn]
  rw [List.length_map] at hj
  have hfields : ((body.map Record.fields).map (padded header.fields.length)).filterMap
      (fun row => row[j]?.map Field.type) = (body.map (Record.fieldAt · j)).map Field.type := by
    rw [List.map_map, List.map_map, List.filterMap_map, ← List.filterMap_eq_map]
    refine List.filterMap_congr fun record hrecord => ?_
    have hfits' := hfits record.fields (List.mem_map_of_mem hrecord)
    simp only [Function.comp_apply, getElem?_padded hfits' hj, Option.map_some]
  -- fields without quotes were trimmed when they were read
  have htrimmed := forall_fields_of_scan (P := fun f => f.quoted = false → trim f.text = f.text)
    trim_field (fun _ hf => by cases hf) hrecords
  have hbare : ∀ f ∈ body.map (Record.fieldAt · j), f.quoted = false ∧ trim f.text = f.text := by
    rw [List.forall_mem_map]
    intro record hrecord
    refine ⟨hquoted record hrecord, ?_⟩
    have hmem := hquoted record hrecord
    rw [Record.fieldAt] at hmem ⊢
    cases hf : record.fields[j]? with
    | none => decide
    | some f =>
      rw [hf] at hmem
      exact (htrimmed record (List.mem_cons_of_mem header hrecord)).2 f
        (List.mem_of_getElem? hf) hmem
  have hmerged := @mergeAll_type_of_not_quoted _ hbare texts (by rwa [List.map_map])
  have hsome : ((body.map Record.fields).map (padded header.fields.length)).isEmpty = false := by
    simpa using hbody
  simp only [columnType, hfields, hmerged, hsome, Bool.false_eq_true, if_false]
  rfl

/-! ## Main result -/

/-- The order of the records decides on nothing but the order of the rows: records in another order
make the same columns and the same cells, each in its row, and so do lines of a text that are
records. A column of fields without quotes, at least one, has the type of a new column for their
texts, in any order. -/
theorem order_of_records (delimiter : Char) :
    (∀ (order : List ℕ) (s s' : String) (t : Table), Reordered delimiter order s s' →
      read delimiter s = .ok t → order.Perm (List.range t.rows.length) ∧
        read delimiter s' = .ok { t with rows := inOrder order t.rows }) ∧
    (∀ (order : List ℕ) (header : String) (lines : List String),
      delimiter ≠ '\n' ∧ delimiter ≠ '\r' →
      (∀ line ∈ header :: lines, IsRecord delimiter line.toList) →
      order.Perm (List.range lines.length) →
      Reordered delimiter order (ofLines (header :: lines))
        (ofLines (header :: inOrder order lines))) ∧
    ∀ (s : String) (t : Table) (header : Record) (body : List Record) (j : ℕ) (column : Column)
      (texts : List String), records delimiter s = .ok (header :: body) →
      read delimiter s = .ok t → body ≠ [] → t.columns[j]? = some column →
      (∀ record ∈ body, (record.fieldAt j).quoted = false) →
      texts.Perm (body.map fun record => trim (record.fieldAt j).text) →
      column.type = Cell.inferType texts :=
  ⟨fun _ _ _ _ h hread => read_of_reordered h hread,
    fun _ _ _ hdelimiter hlines horder => reordered_ofLines hdelimiter hlines horder,
    fun _ _ _ _ _ _ _ hrecords hread hbody hcolumn hquoted htexts =>
      type_eq_inferType hrecords hread hbody hcolumn hquoted htexts⟩

/-- Three records, one of them over two lines and one too short, and their rows in another order. -/
theorem order_of_records_three :
    let lines := ["1,\"x\ny\"", "2.5", "nan, z"]
    let t : Table := ⟨[⟨"a", .float⟩, ⟨"b", .text⟩],
      [[.float (.ofInt 1), .text "x\ny"], [.float (Decimal.nearest false ⟨25, -1⟩), .missing],
        [.missing, .text "z"]]⟩
    (∀ line ∈ "a,b" :: lines, IsRecord ',' line.toList) ∧
      read ',' (ofLines ("a,b" :: lines)) = .ok t ∧
      read ',' (ofLines ["a,b", "nan, z", "1,\"x\ny\"", "2.5"])
        = .ok { t with rows := inOrder [2, 0, 1] t.rows } ∧
      ColumnType.float = Cell.inferType ["nan", "2.5", "1"] := by
  intro lines t
  have hlines : ∀ line ∈ "a,b" :: lines, IsRecord ',' line.toList := by decide
  have hread : read ',' (ofLines ("a,b" :: lines)) = .ok t :=
    Traversal.toOption_eq_some_iff.mp (by decide +kernel)
  obtain ⟨htable, htexts, htype⟩ := order_of_records ','
  have horder := htexts [2, 0, 1] "a,b" lines (by decide) hlines (by decide)
  refine ⟨hlines, hread, (htable _ _ _ t horder hread).2, ?_⟩
  have hrecords : records ',' (ofLines ("a,b" :: lines))
      = .ok [⟨1, [⟨"a", false⟩, ⟨"b", false⟩]⟩, ⟨2, [⟨"1", false⟩, ⟨"x\ny", true⟩]⟩,
          ⟨4, [⟨"2.5", false⟩]⟩, ⟨5, [⟨"nan", false⟩, ⟨"z", false⟩]⟩] :=
    Traversal.toOption_eq_some_iff.mp (by decide +kernel)
  exact htype _ t _ _ 0 ⟨"a", .float⟩ _ hrecords hread (by decide) rfl (by decide) (by decide)

end Delimited
end TableShell
