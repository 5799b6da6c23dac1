import TableShell.Proofs.Command.Arguments
import TableShell.Proofs.Words.Quoting
import TableShell.Request.Line

/-!
# The command of a structured request

A request is carried out through a line. `Request.meaning?` says, with no line in between, which
command a request means. The line of a request is read as exactly that command (`read_line`), so
that quotes, blanks, `=`, commas, the word `set` and spellings of `confirm=yes` in names and values
shift nothing.
-/

namespace TableShell

open Command Words Text

namespace Request

/-! ## Meaning -/

/-- The columns of a batch in the order of their names, each with the trimmed texts of its values
from the first row on. -/
def batchColumns (names : List String) (rows : List (List Json)) : OrderedMap (List String) :=
  .ofList <| names.zipIdx.map fun entry =>
    (entry.1, rows.map fun row => trim (valueText (row[entry.2]?.getD .null)))

/-- The command that a request means, if it means one. -/
def meaning? : Request → Option Command
  | list => some .list
  | columns => some .columns
  | add data => some (.add (data.map valueText))
  | addBatch names rows =>
    if rows.all (·.length = names.length) then
      some (.addBatch (batchColumns names rows) rows.length)
    else
      none
  | update conditions data => some (.update (conditions.map valueText) (data.map valueText))
  | delete conditions confirm => some (.delete (conditions.map valueText) (isTrue confirm))
  | search (some keyword) => some (.search (valueText keyword))
  | searchExact (some column) (some value) =>
    some (.searchExact (valueText column) (valueText value))
  | search none | searchExact _ _ | error _ => none

/-- No request means the deletion of all rows, the help or the clearing of the screen. -/
theorem ne_of_meaning? {request : Request} {command : Command}
    (h : request.meaning? = some command) :
    command ≠ .help ∧ command ≠ .clear ∧ ∀ confirmed, command ≠ .deleteAll confirmed := by
  refine ⟨?_, ?_, fun confirmed => ?_⟩ <;>
  · rintro rfl
    revert h
    unfold meaning?
    split <;> simp

/-! ## Written arguments -/

theorem keyWord_eq_ok_iff {name word : String} :
    keyWord name = .ok word ↔ (name ≠ "" ∧ '=' ∉ name.toList) ∧ quote name = word := by
  rw [keyWord]
  split
  · rename_i h
    exact iff_of_false (fun hok => by cases hok) fun hok => by tauto
  · rename_i h
    rw [not_or] at h
    simp [h]

/-- The `=` of a pair needs no quotes. -/
theorem writes_equals : Writes "=" "=" :=
  writes_of_isSafe (by decide) (by decide)

/-- The argument of a pair is written as its key and its value, quoted one by one. -/
theorem writes_argument (key value : String) :
    Writes (quote key ++ "=" ++ quote value) (argument (key, value)) :=
  ((writes_quote key).append writes_equals).append (writes_quote value)

/-- The pairs are written as the arguments that they are, and their keys have no `=`. -/
theorem writes_pairWords {pairs : OrderedMap Json} {words : List String}
    (h : pairWords pairs = .ok words) :
    KeysFit (pairs.map valueText) ∧
      List.Forall₂ Writes words (arguments (pairs.map valueText)) := by
  have hword : ∀ (entry : String × Json) (word : String), pairWord entry = .ok word →
      '=' ∉ entry.1.toList ∧ Writes word (argument (entry.1, valueText entry.2)) := by
    intro entry word hentry
    obtain ⟨key, hkey, rfl⟩ := Traversal.map_eq_ok_iff.mp hentry
    obtain ⟨⟨-, hfit⟩, rfl⟩ := keyWord_eq_ok_iff.mp hkey
    exact ⟨hfit, writes_argument _ _⟩
  obtain ⟨hfit, hwrites⟩ := (List.forall₂_and_left _ _).mp
    ((Traversal.mapM_eq_ok_iff.mp h).imp hword)
  constructor
  · rw [KeysFit, OrderedMap.entries_map, List.forall_mem_map]
    exact hfit
  · rw [arguments, OrderedMap.entries_map, List.map_map, List.forall₂_map_right_iff]
    exact hwrites.flip

/-! ## The line of each request -/

/-- A line of a command word and written arguments is read by the reader of that word. -/
theorem read_of_writes {word : String} (reader : List String → Except LineError Command)
    (hreader : (word, reader) ∈ readers) {written arguments : List String} {command : Command}
    (hwrites : List.Forall₂ Writes written arguments) (hread : reader arguments = .ok command) :
    Command.read (" ".intercalate (word :: written)) = .ok command := by
  have hsafe : ∀ entry ∈ readers, entry.1.toList ≠ [] ∧ entry.1.toList.all isSafe = true := by
    decide
  have hword : Writes word word :=
    writes_of_isSafe (hsafe _ hreader).1 (hsafe _ hreader).2
  rw [Command.read, wordsOf, read_intercalate (.cons hword hwrites)]
  exact (ofWords_of_mem_readers hreader arguments).trans hread

theorem isEmpty_map (f : Json → String) (pairs : OrderedMap Json) :
    (pairs.map f).isEmpty = pairs.isEmpty := by
  rw [OrderedMap.isEmpty, OrderedMap.isEmpty, OrderedMap.entries_map, List.isEmpty_map]

theorem read_add {data : OrderedMap Json} {words : List String}
    (h : lineWords (add data) = .ok words) :
    Command.read (" ".intercalate words) = .ok (.add (data.map valueText)) := by
  rw [lineWords] at h
  split at h
  · cases h
  · rename_i hne
    obtain ⟨pairs, hpairs, rfl⟩ := Traversal.map_eq_ok_iff.mp h
    obtain ⟨hfit, hwrites⟩ := writes_pairWords hpairs
    exact read_of_writes readAdd (by simp [readers]) hwrites
      (readAdd_arguments hfit (by simpa [isEmpty_map] using hne))

theorem read_update {conditions data : OrderedMap Json} {words : List String}
    (h : lineWords (update conditions data) = .ok words) :
    Command.read (" ".intercalate words)
      = .ok (.update (conditions.map valueText) (data.map valueText)) := by
  rw [lineWords] at h
  split at h
  · cases h
  · rename_i hne
    rw [Bool.or_eq_true, not_or, Bool.not_eq_true, Bool.not_eq_true] at hne
    obtain ⟨before, hbefore, h⟩ := Traversal.bind_eq_ok_iff.mp h
    obtain ⟨after, hafter, h⟩ := Traversal.bind_eq_ok_iff.mp h
    cases h
    obtain ⟨hfit, hwrites⟩ := writes_pairWords hbefore
    obtain ⟨hfit', hwrites'⟩ := writes_pairWords hafter
    have hset : Writes setWord setWord := writes_of_isSafe (by decide) (by decide)
    rw [List.append_assoc, List.cons_append, List.singleton_append]
    exact read_of_writes readUpdate (by simp [readers])
      (List.rel_append hwrites (.cons hset hwrites'))
      (readUpdate_arguments hfit hfit' (by rw [isEmpty_map, hne.1]) (by rw [isEmpty_map, hne.2]))

/-- Whether the deletion is confirmed is up to the request: no written pair spells `confirm=yes`. -/
theorem read_delete {conditions : OrderedMap Json} {confirm : Option Json} {words : List String}
    (h : lineWords (delete conditions confirm) = .ok words) :
    Command.read (" ".intercalate words)
      = .ok (.delete (conditions.map valueText) (isTrue confirm)) := by
  rw [lineWords] at h
  split at h
  · cases h
  · rename_i hne
    split at h
    · cases h
    · rename_i hspells
      obtain ⟨pairs, hpairs, h⟩ := Traversal.bind_eq_ok_iff.mp h
      cases h
      obtain ⟨hfit, hwrites⟩ := writes_pairWords hpairs
      have hno : ∀ s ∈ arguments (conditions.map valueText), isDeleteConfirmation s = false := by
        rw [arguments, OrderedMap.entries_map, List.map_map, List.forall_mem_map]
        intro entry hentry
        rw [Bool.not_eq_true, List.any_eq_false] at hspells
        exact Bool.eq_false_iff.mpr (hspells entry hentry)
      have hconfirmation : List.Forall₂ Writes
          (if isTrue confirm then [deleteConfirmation] else [])
          (if isTrue confirm then [deleteConfirmation] else []) := by
        split
        · exact .cons (writes_of_isSafe (by decide) (by decide)) .nil
        · exact .nil
      exact read_of_writes readDelete (by simp [readers]) (List.rel_append hwrites hconfirmation)
        (readDelete_arguments (isTrue confirm) hfit (by simpa [isEmpty_map] using hne) hno)

theorem read_searchExact {column value : Json} {words : List String}
    (h : lineWords (searchExact (some column) (some value)) = .ok words) :
    Command.read (" ".intercalate words)
      = .ok (.searchExact (valueText column) (valueText value)) := by
  obtain ⟨key, hkey, h⟩ := Traversal.bind_eq_ok_iff.mp h
  cases h
  obtain ⟨⟨-, hfit⟩, rfl⟩ := keyWord_eq_ok_iff.mp hkey
  refine read_of_writes readSearchExact (by simp [readers])
    (.cons (writes_argument (valueText column) (valueText value)) .nil) ?_
  rw [readSearchExact, pair?_argument hfit]

/-! ## The line of a batch -/

/-- The list of values that a batch gives to the column at `index`. -/
def columnList (rows : List (List Json)) (index : ℕ) : String :=
  ",".intercalate (rows.map fun row => valueText (row[index]?.getD .null))

theorem listWord_eq_ok_iff {value : Json} {word : String} :
    listWord value = .ok word ↔
      ',' ∉ (valueText value).toList ∧ quote (valueText value) = word := by
  rw [listWord]
  split
  · rename_i h
    exact iff_of_false (fun hok => by cases hok) fun hok => hok.1 h
  · rename_i h
    simp [h]

/-- A column is written as the argument of its name and its list. -/
theorem writes_batchWord {rows : List (List Json)} {index : ℕ} {column word : String}
    (hne : rows ≠ []) (h : batchWord rows index column = .ok word) :
    ('=' ∉ column.toList ∧
        ∀ row ∈ rows, ',' ∉ (valueText (row[index]?.getD .null)).toList) ∧
      Writes word (argument (column, columnList rows index)) := by
  have hcomma : IsBare ',' := ⟨by decide, by decide, by decide, by decide⟩
  obtain ⟨cells, hcells, h⟩ := Traversal.bind_eq_ok_iff.mp h
  obtain ⟨key, hkey, h⟩ := Traversal.bind_eq_ok_iff.mp h
  obtain ⟨⟨-, hfit⟩, rfl⟩ := keyWord_eq_ok_iff.mp hkey
  cases h
  have hwords : ∀ (row : List Json) (cell : String), listWord (row[index]?.getD .null) = .ok cell →
      ',' ∉ (valueText (row[index]?.getD .null)).toList ∧
        Writes cell (valueText (row[index]?.getD .null)) := by
    intro row cell hcell
    obtain ⟨hfree, rfl⟩ := listWord_eq_ok_iff.mp hcell
    exact ⟨hfree, writes_quote _⟩
  obtain ⟨hfree, hwrites⟩ := (List.forall₂_and_left _ _).mp
    ((Traversal.mapM_eq_ok_iff.mp hcells).imp hwords)
  refine ⟨⟨hfit, hfree⟩, ?_⟩
  refine ((writes_quote column).append writes_equals).append ?_
  refine writes_intercalate hcomma (List.forall₂_map_right_iff.mpr hwrites.flip) ?_
  rintro rfl
  cases hwrites
  exact hne rfl

/-- The values of a column are got back, trimmed, from its list. -/
theorem listValues_columnList {rows : List (List Json)} {index : ℕ} (hne : rows ≠ [])
    (h : ∀ row ∈ rows, ',' ∉ (valueText (row[index]?.getD .null)).toList) :
    listValues (columnList rows index)
      = rows.map fun row => trim (valueText (row[index]?.getD .null)) := by
  rw [columnList, listValues_intercalate (by simpa using hne) (List.forall_mem_map.mpr h),
    List.map_map]
  rfl

/-- Every list of a batch has as many values as there are rows. -/
theorem checkLengths_batchColumns {names : List String} (rows : List (List Json))
    (hne : names ≠ []) : checkLengths (batchColumns names rows).entries = .ok rows.length := by
  have hcolumns : (batchColumns names rows).isEmpty = false := by
    rw [batchColumns, OrderedMap.isEmpty_ofList, List.isEmpty_eq_false_iff]
    simpa using hne
  refine checkLengths_eq_ok (List.isEmpty_eq_false_iff.mp hcolumns) fun entry hentry => ?_
  obtain ⟨before, after, hpairs, -⟩ := OrderedMap.mem_entries_ofList.mp hentry
  have hmem : entry ∈ before ++ entry :: after := by simp
  rw [← hpairs, List.mem_map] at hmem
  obtain ⟨indexed, -, rfl⟩ := hmem
  exact List.length_map _

theorem read_batchWord {names : List String} {rows : List (List Json)} {words : List String}
    (hnames : names ≠ []) (hrows : rows ≠ [])
    (h : names.zipIdx.mapM (fun entry => batchWord rows entry.2 entry.1) = .ok words) :
    Command.read (" ".intercalate ("add_batch" :: words))
      = .ok (.addBatch (batchColumns names rows) rows.length) := by
  obtain ⟨hfit, hwrites⟩ := (List.forall₂_and_left _ _).mp
    ((Traversal.mapM_eq_ok_iff.mp h).imp fun entry word => writes_batchWord hrows)
  refine read_of_writes readAddBatch (by simp [readers])
    (List.forall₂_map_right_iff.mpr hwrites.flip) ?_
  have hpairs : loosePairs (names.zipIdx.map fun entry =>
        argument (entry.1, columnList rows entry.2))
      = .ofList (names.zipIdx.map fun entry => (entry.1, columnList rows entry.2)) := by
    rw [← loosePairs_map_argument
      (List.forall_mem_map.mpr fun entry hentry => (hfit entry hentry).1), List.map_map]
    rfl
  have hcolumns : (OrderedMap.ofList (names.zipIdx.map fun entry =>
        (entry.1, columnList rows entry.2))).map listValues = batchColumns names rows := by
    rw [OrderedMap.map_ofList, List.map_map, batchColumns]
    congr 1
    refine List.map_congr_left fun entry hentry => ?_
    rw [Function.comp_apply, listValues_columnList hrows (hfit entry hentry).2]
  have hne : (OrderedMap.ofList (names.zipIdx.map fun entry =>
        (entry.1, columnList rows entry.2))).isEmpty = false := by
    rw [OrderedMap.isEmpty_ofList, List.isEmpty_eq_false_iff]
    simpa using hnames
  simp only [readAddBatch, hpairs, hne, Bool.false_eq_true, if_false, hcolumns,
    checkLengths_batchColumns rows hnames]
  rfl

/-- A batch is written only if each row has a value for every name. -/
theorem read_addBatch {names : List String} {rows : List (List Json)} {words : List String}
    (h : lineWords (addBatch names rows) = .ok words) :
    rows.all (·.length = names.length) = true ∧
      Command.read (" ".intercalate words)
        = .ok (.addBatch (batchColumns names rows) rows.length) := by
  obtain ⟨lists, hlists, rfl⟩ := Traversal.map_eq_ok_iff.mp h
  rw [batchWords] at hlists
  split at hlists
  · cases hlists
  · rename_i hne
    split at hlists
    · cases hlists
    · rename_i hfind
      rw [Bool.or_eq_true, List.isEmpty_iff, List.isEmpty_iff, not_or] at hne
      exact ⟨by simpa using hfind, read_batchWord hne.1 hne.2 hlists⟩

/-! ## Main result -/

/-- The line of a request is read as the command that the request means. -/
theorem read_line {request : Request} {line : String} (h : request.line = .ok line) :
    ∃ command, request.meaning? = some command ∧ Command.read line = .ok command ∧
      command ≠ .help ∧ command ≠ .clear ∧ ∀ confirmed, command ≠ .deleteAll confirmed := by
  obtain ⟨words, hwords, rfl⟩ := Traversal.map_eq_ok_iff.mp h
  suffices hread : ∃ command, request.meaning? = some command ∧
      Command.read (" ".intercalate words) = .ok command by
    obtain ⟨command, hmeaning, hread⟩ := hread
    exact ⟨command, hmeaning, hread, ne_of_meaning? hmeaning⟩
  cases request with
  | list =>
    cases hwords
    exact ⟨_, rfl, read_of_writes (fun _ => .ok .list) (by simp [readers]) .nil rfl⟩
  | columns =>
    cases hwords
    exact ⟨_, rfl, read_of_writes (fun _ => .ok .columns) (by simp [readers]) .nil rfl⟩
  | add data => exact ⟨_, rfl, read_add hwords⟩
  | addBatch names rows =>
    obtain ⟨hwidth, hread⟩ := read_addBatch hwords
    exact ⟨_, if_pos hwidth, hread⟩
  | update conditions data => exact ⟨_, rfl, read_update hwords⟩
  | delete conditions confirm => exact ⟨_, rfl, read_delete hwords⟩
  | search keyword =>
    cases keyword with
    | none => cases hwords
    | some keyword =>
      cases hwords
      exact ⟨_, rfl, read_of_writes readSearch (by simp [readers])
        (.cons (writes_quote (valueText keyword)) .nil) rfl⟩
  | searchExact column value =>
    cases column with
    | none => cases hwords
    | some column =>
      cases value with
      | none => cases hwords
      | some value => exact ⟨_, rfl, read_searchExact hwords⟩
  | error message => cases hwords

/-- An update with a condition on a column `set`, and a quote and blanks in what it writes. -/
theorem read_line_set_column :
    let request := update (.ofList [("set", .string "it's a")]) (.ofList [("b c", .bool true)])
    request.line = .ok "update set='it'\"'\"'s a' set 'b c'=true" ∧
      Command.read "update set='it'\"'\"'s a' set 'b c'=true"
        = .ok (.update (.ofList [("set", "it's a")]) (.ofList [("b c", "true")])) := by
  intro request
  have hline : request.line = .ok "update set='it'\"'\"'s a' set 'b c'=true" := by rfl
  obtain ⟨command, hmeaning, hread, -⟩ := read_line hline
  have hcommand : request.meaning?
      = some (.update (.ofList [("set", "it's a")]) (.ofList [("b c", "true")])) := by rfl
  rw [hmeaning] at hcommand
  cases hcommand
  exact ⟨hline, hread⟩

end Request
end TableShell
