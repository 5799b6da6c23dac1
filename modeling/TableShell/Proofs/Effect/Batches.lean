import TableShell.Proofs.Effect.AppendedTable
import TableShell.Proofs.Except.Traversal

/-!
# A batch is its rows one by one

Where the lists of a batch are for columns that are there and have their types, each row is filled
by the table as it was (`append_of_known`). So no row depends on those before it, and adding them
one by one by their pairs gives the table of the batch (`addBatch_eq_adds`).
-/

namespace TableShell

/-- The pairs of the row of number `i`: each column with the text of its list for that row. -/
def OrderedMap.rowPairs (lists : OrderedMap (List String)) (i : ℕ) : Assignments :=
  lists.map fun texts => texts.getD i ""

namespace Table

/-- The table after the commands, one after the other, unless one of them is refused. -/
def applyAll (t : Table) (commands : List Command) : Except Refusal Table :=
  commands.foldlM (fun t command => (t.apply command).map fun applied => applied.changed.getD t) t

theorem applyAll_append (t : Table) (commands more : List Command) :
    t.applyAll (commands ++ more) = t.applyAll commands >>= fun t' => t'.applyAll more :=
  List.foldlM_append

/-- The row of number `i` of the lists, with the defaults of the table in the other columns. -/
def batchRow (t : Table) (lists : OrderedMap (List String)) (i : ℕ) : Row :=
  t.newRow (t.columns.map fun column => column.type.defaultCell) lists i

variable {t : Table} {lists : OrderedMap (List String)} {n : ℕ}

/-! ## Appending to known columns -/

/-- A column that is there and has a type is ready. -/
theorem prepareColumn_of_known (hknown : ∀ column ∈ t.columns, column.type ≠ .unknown)
    {name : String} (hname : name ∈ t.columnNames) (texts : List String) :
    t.prepareColumn name texts = t := by
  rw [prepareColumn]
  split
  · rename_i index hindex
    obtain ⟨column, hcolumn, -⟩ := exists_column hindex
    have htype := hknown column (List.mem_of_getElem? hcolumn)
    rw [hcolumn, Option.map_some, if_neg fun h => htype (Option.some.inj h)]
  · rename_i hindex
    exact absurd hname (columnIndex?_eq_none_iff.mp hindex)

theorem prepareEntries_of_known (hknown : ∀ column ∈ t.columns, column.type ≠ .unknown)
    {entries : List (String × List String)} (hkeys : ∀ entry ∈ entries, entry.1 ∈ t.columnNames) :
    prepareEntries t entries = t := by
  induction entries with
  | nil => rfl
  | cons entry entries ih =>
    rw [List.forall_mem_cons] at hkeys
    have hstep : prepareEntries t (entry :: entries)
        = prepareEntries (t.prepareColumn entry.1 entry.2) entries := rfl
    rw [hstep, prepareColumn_of_known hknown hkeys.1, ih hkeys.2]

/-- Where all types are known, none is left to settle. -/
theorem settleTypes_of_known (hknown : ∀ column ∈ t.columns, column.type ≠ .unknown) :
    t.settleTypes = t := by
  rw [settleTypes]
  split
  · rfl
  · have hcolumns : t.columns.mapIdx t.settleColumn = t.columns := by
      apply List.ext_getElem?
      intro place
      rw [List.getElem?_mapIdx]
      cases hcolumn : t.columns[place]? with
      | none => rfl
      | some column =>
        rw [Option.map_some, settleColumn_of_known (hknown column (List.mem_of_getElem? hcolumn))]
    rw [hcolumns]

/-- Rows for known columns are filled by the table as it is, and put behind its rows. -/
theorem append_of_known (hknown : ∀ column ∈ t.columns, column.type ≠ .unknown)
    (hkeys : ∀ name ∈ lists.keys, name ∈ t.columnNames) (n : ℕ) :
    t.append lists n = { t with rows := t.rows ++ (List.range n).map (t.batchRow lists) } := by
  have hprepared : t.prepareColumns lists = t :=
    prepareEntries_of_known hknown fun entry hentry => hkeys _ (List.mem_map_of_mem hentry)
  unfold append
  rw [hprepared]
  exact settleTypes_of_known (t := ⟨t.columns, _⟩) hknown

/-! ## Rows by their pairs -/

/-- The pairs of a row, as lists of one text, supply what the lists supply for that row. -/
theorem batchRow_rowPairs (t : Table) {i : ℕ}
    (hi : ∀ entry ∈ lists.entries, i < entry.2.length) :
    t.batchRow ((lists.rowPairs i).map fun text => [text]) 0 = t.batchRow lists i := by
  have hsupplied : ∀ index name,
      t.suppliedText? ((lists.rowPairs i).map fun text => [text]) 0 index name
        = t.suppliedText? lists i index name := by
    intro index name
    rw [suppliedText?, suppliedText?, OrderedMap.get?_map, OrderedMap.rowPairs,
      OrderedMap.get?_map]
    cases htexts : lists.get? name with
    | none => rfl
    | some texts =>
      obtain ⟨before, after, hentries, -⟩ := List.lookup_eq_some_iff.mp htexts
      have hlt : i < texts.length := hi (name, texts) (by rw [hentries]; simp)
      simp [List.getElem?_eq_getElem hlt]
  simp only [batchRow, newRow, hsupplied]

/-- Adding the pairs of a row puts that row behind the others. -/
theorem applyAll_add (hknown : ∀ column ∈ t.columns, column.type ≠ .unknown)
    (hkeys : ∀ name ∈ lists.keys, name ∈ t.columnNames) {i : ℕ}
    (hi : ∀ entry ∈ lists.entries, i < entry.2.length) :
    t.applyAll [.add (lists.rowPairs i)] = .ok (t.addRow (t.batchRow lists i)) := by
  have hkeys' : ∀ name ∈ ((lists.rowPairs i).map fun text => [text]).keys,
      name ∈ t.columnNames := by
    rw [OrderedMap.keys_map, OrderedMap.rowPairs, OrderedMap.keys_map]
    exact hkeys
  have happend : t.append ((lists.rowPairs i).map fun text => [text]) 1
      = t.addRow (t.batchRow lists i) := by
    rw [append_of_known hknown hkeys', List.range_one, List.map_singleton, batchRow_rowPairs t hi,
      addRow]
  rw [← happend]
  rfl

/-- Adding the rows one by one puts them in order behind the others. -/
theorem applyAll_adds (hknown : ∀ column ∈ t.columns, column.type ≠ .unknown)
    (hkeys : ∀ name ∈ lists.keys, name ∈ t.columnNames) {k : ℕ}
    (hk : ∀ entry ∈ lists.entries, k ≤ entry.2.length) :
    t.applyAll ((List.range k).map fun i => .add (lists.rowPairs i))
      = .ok { t with rows := t.rows ++ (List.range k).map (t.batchRow lists) } := by
  induction k with
  | zero =>
    rw [List.range_zero, List.map_nil, List.map_nil, List.append_nil]
    rfl
  | succ k ih =>
    -- the rows before it leave columns and types, and so the row, as they are
    have hlast := applyAll_add (t := ⟨t.columns, t.rows ++ (List.range k).map (t.batchRow lists)⟩)
      hknown hkeys (i := k) hk
    rw [List.range_succ, List.map_append, applyAll_append,
      ih fun entry hentry => Nat.le_of_succ_le (hk entry hentry)]
    refine hlast.trans ?_
    rw [addRow, List.map_append, List.map_singleton, List.append_assoc]
    rfl

/-- On columns that are there and have types, a batch whose lists are as long as its row count gives
the same table as its rows added one by one. -/
theorem addBatch_eq_adds (hknown : ∀ column ∈ t.columns, column.type ≠ .unknown)
    (hkeys : ∀ name ∈ lists.keys, name ∈ t.columnNames)
    (hlengths : ∀ entry ∈ lists.entries, entry.2.length = n) :
    ∃ t', t.applyAll [.addBatch lists n] = .ok t' ∧
      t.applyAll ((List.range n).map fun i => .add (lists.rowPairs i)) = .ok t' ∧
      t'.columns = t.columns ∧ t'.rows.length = t.rows.length + n := by
  have happend := append_of_known hknown hkeys n
  refine ⟨t.append lists n, rfl, ?_, by rw [happend], by simp [happend]⟩
  rw [happend]
  exact applyAll_adds hknown hkeys fun entry hentry => Nat.le_of_eq (hlengths entry hentry).symm

/-- A table of a member. -/
def members : Table :=
  ⟨[⟨"name", .text⟩, ⟨"age", .integer⟩, ⟨"paid", .boolean⟩],
    [[.text "Ann", .integer 30, .boolean true]]⟩

/-- Of the three ages only the first is a number, and nobody has paid yet. -/
theorem addBatch_eq_adds_members :
    let lists : OrderedMap (List String) :=
      .ofList [("age", ["41", "old", "nan"]), ("name", ["Bob", "Cy", ""])]
    let t' : Table := ⟨members.columns, members.rows ++
      [[.text "Bob", .integer 41, .boolean false], [.text "Cy", .text "old", .boolean false],
        [.missing, .missing, .boolean false]]⟩
    members.applyAll [.addBatch lists 3] = .ok t' ∧
      members.applyAll ((List.range 3).map fun i => .add (lists.rowPairs i)) = .ok t' := by
  intro lists t'
  have hbatch : members.applyAll [.addBatch lists 3] = .ok t' :=
    Traversal.toOption_eq_some_iff.mp (by decide +kernel)
  have hknown : ∀ column ∈ members.columns, column.type ≠ .unknown := by decide
  have hkeys : ∀ name ∈ lists.keys, name ∈ members.columnNames := by decide
  have hlengths : ∀ entry ∈ lists.entries, entry.2.length = 3 := by decide
  obtain ⟨found, hfound, hadds, -, -⟩ := addBatch_eq_adds hknown hkeys hlengths
  rw [hbatch] at hfound
  cases hfound
  exact ⟨hbatch, hadds⟩

end Table
end TableShell
