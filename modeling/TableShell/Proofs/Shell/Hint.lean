import TableShell.Proofs.Command.Form
import TableShell.Proofs.Shell.Gate
import TableShell.Proofs.Text.Cutting
import TableShell.Proofs.Words.OneMore

/-!
# The line that a refused deletion suggests

A deletion of many rows that is not confirmed is refused, and the message ends with a line to type
instead. That line is read as the same deletion, confirmed, whatever the names and texts of its
conditions hold: they are quoted one by one (`read_confirmedLine`). So it does what the refused line
would have done with its confirmation behind it (`hint_confirms`).
-/

namespace TableShell

open Text Words

/-! ## Finding the hint -/

namespace Text

/-- What follows the first occurrence of the run. -/
def behind? (run : List Char) : List Char → Option (List Char)
  | [] => dropPrefix? run []
  | c :: rest => (dropPrefix? run (c :: rest)).or (behind? run rest)

/-- A run is found behind a text in which its first character does not occur. -/
theorem behind?_append {c : Char} {run before : List Char} (h : c ∉ before) (after : List Char) :
    behind? (c :: run) (before ++ (c :: run) ++ after) = some after := by
  induction before with
  | nil =>
    have hfound : dropPrefix? (c :: run) ((c :: run) ++ after) = some after :=
      dropPrefix?_eq_some_iff.mpr rfl
    rw [List.nil_append, List.cons_append, behind?, ← List.cons_append, hfound, Option.some_or]
  | cons b before ih =>
    rw [List.mem_cons, not_or] at h
    have hnone : dropPrefix? (c :: run) (b :: (before ++ (c :: run) ++ after)) = none := by
      rw [dropPrefix?, if_neg h.1]
    rw [List.cons_append, List.cons_append, behind?, hnone, Option.none_or, ih h.2]

end Text

namespace Refusal

/-- The line that a message suggests, behind the first `E.g., `. -/
def hint? (message : String) : Option String :=
  (behind? "E.g., ".toList message.toList).map String.ofList

/-- The message of a refused deletion suggests the line with its conditions and the confirmation.
Before the hint it has no text of the user, so that names like `E.g., ` do not matter. -/
theorem hint?_message (conditions : Conditions) (rows : ℕ) :
    hint? (unconfirmedDelete conditions rows).message = some (confirmedLine conditions) := by
  have hdigits : 'E' ∉ (toString rows).toList := by
    intro hmem
    rw [Nat.toString_eq_repr, Nat.toList_repr] at hmem
    have hdigit := Nat.isDigit_of_mem_toDigits (by decide) (by decide) hmem
    exact absurd hdigit (by decide)
  have hbefore : 'E' ∉ "Warning: This command will delete ".toList ++ (toString rows).toList ++
      " rows. To proceed, add 'confirm=yes' to your command. ".toList := by
    rw [List.mem_append, List.mem_append, not_or, not_or]
    exact ⟨⟨by decide, hdigits⟩, by decide⟩
  have hmiddle : " rows. To proceed, add '" ++ Command.deleteConfirmation ++
      "' to your command. E.g., "
        = " rows. To proceed, add 'confirm=yes' to your command. " ++ "E.g., " := rfl
  have hmessage : (unconfirmedDelete conditions rows).message
      = "Warning: This command will delete " ++ toString rows ++
          " rows. To proceed, add 'confirm=yes' to your command. " ++ "E.g., " ++
          confirmedLine conditions := by
    have hsame := congrArg (fun middle => "Warning: This command will delete " ++ toString rows ++
      middle ++ confirmedLine conditions) hmiddle
    simp only [← String.append_assoc] at hsame
    exact hsame
  have hrun : "E.g., ".toList = 'E' :: ".g., ".toList := by decide
  rw [hint?, hmessage]
  simp only [String.toList_append]
  rw [hrun, behind?_append hbefore, Option.map_some, String.ofList_toList]

end Refusal

/-! ## Reading the hint -/

namespace Command

/-- The conditions that a deletion is read with are not none, have keys without `=`, and do not
spell the confirmation. -/
theorem conditions_of_readDelete {arguments : List String} {conditions : Conditions}
    {confirmed : Bool} (h : readDelete arguments = .ok (.delete conditions confirmed)) :
    conditions.isEmpty = false ∧ KeysFit conditions ∧
      ∀ s ∈ Command.arguments conditions, isDeleteConfirmation s = false := by
  obtain ⟨hreads, hno, -⟩ := formedFrom_of_readDelete h
  refine ⟨List.isEmpty_eq_false_iff.mpr hreads.entries_ne_nil, hreads.keys_fit, ?_⟩
  intro s hs
  obtain ⟨entry, hentry, rfl⟩ := List.mem_map.mp hs
  exact hno entry hentry

/-- The suggested line is read as the same deletion, confirmed. -/
theorem read_confirmedLine {line : String} {conditions : Conditions} {confirmed : Bool}
    (h : Command.read line = .ok (.delete conditions confirmed)) :
    Command.read (Refusal.confirmedLine conditions) = .ok (.delete conditions true) := by
  obtain ⟨first, arguments, -, -, hof⟩ := read_eq_ok h
  obtain ⟨hne, hkeys, hno⟩ := conditions_of_readDelete (readDelete_of_ofWords hof rfl)
  let written := conditions.entries.map fun entry => quote entry.1 ++ "=" ++ quote entry.2
  have hwrites : List.Forall₂ Writes (written ++ [deleteConfirmation])
      (Command.arguments conditions ++ [deleteConfirmation]) := by
    apply List.rel_append
    · rw [Command.arguments, List.forall₂_map_left_iff, List.forall₂_map_right_iff,
        List.forall₂_same]
      intro entry _
      exact Request.writes_argument entry.1 entry.2
    · exact .cons (writes_of_isSafe (by decide) (by decide)) .nil
  have hmem : ("delete", readDelete) ∈ readers := by simp [readers]
  have hread := Request.read_of_writes readDelete hmem hwrites
    (readDelete_arguments true hkeys hne hno)
  have hline : Refusal.confirmedLine conditions
      = " ".intercalate ("delete" :: (written ++ [deleteConfirmation])) := by
    have hwritten : written ≠ [] := by
      rw [Ne, List.map_eq_nil_iff]
      exact List.isEmpty_eq_false_iff.mp hne
    rw [String.intercalate_cons_of_ne_nil (by simp),
      String.intercalate_append_of_ne_nil hwritten (by simp), String.intercalate_singleton]
    simp only [← String.append_assoc]
    rfl
  rw [hline]
  exact hread

/-- With a confirmation behind it, a line that deletes is read as the same deletion, confirmed. -/
theorem read_append_confirmation {line : String} {conditions : Conditions} {confirmed : Bool}
    (h : Command.read line = .ok (.delete conditions confirmed)) :
    Command.read (line ++ " " ++ deleteConfirmation) = .ok (.delete conditions true) := by
  obtain ⟨first, arguments, hwords, hname, hof⟩ := read_eq_ok h
  have hconfirmation : Writes deleteConfirmation deleteConfirmation :=
    writes_of_isSafe (by decide) (by decide)
  have hyes : isDeleteConfirmation deleteConfirmation = true := by decide
  have hdelete : ofWords (first :: (arguments ++ [deleteConfirmation]))
      = readDelete (arguments ++ [deleteConfirmation]) := by
    have hfirst : lower first = "delete" := hname.symm
    rw [ofWords, hfirst]
    rfl
  obtain ⟨hne, hstrict, -⟩ := readDelete_eq_ok_iff.mp (readDelete_of_ofWords hof rfl)
  rw [Command.read, wordsOf, read_append_word hwords hconfirmation]
  show ofWords (first :: (arguments ++ [deleteConfirmation])) = .ok (.delete conditions true)
  have hfilter : (arguments ++ [deleteConfirmation]).filter
        (fun argument => !isDeleteConfirmation argument)
      = arguments.filter fun argument => !isDeleteConfirmation argument := by
    rw [List.filter_append]
    simp [hyes]
  rw [hdelete, readDelete_eq_ok_iff, hfilter, List.any_append]
  exact ⟨hne, hstrict, by simp [hyes]⟩

end Command

/-! ## What the hint does -/

namespace Table

/-- No update is refused for want of a confirmation. -/
theorem update_ne_unconfirmed {t : Table} {conditions given : Conditions}
    {assignments : Assignments} {rows : ℕ} :
    t.update given assignments ≠ .error (.unconfirmedDelete conditions rows) := by
  intro h
  unfold update at h
  split at h
  · cases h
  · cases hselect : t.selectAll given with
    | error name =>
      rw [hselect] at h
      cases h
    | ok mask =>
      rw [hselect] at h
      simp only [Except.mapError, bind, Except.bind] at h
      split at h <;> cases h

theorem searchExact_ne_unconfirmed {t : Table} {column condition : String}
    {conditions : Conditions} {rows : ℕ} :
    (t.searchExact column condition).map Applied.read ≠ .error (.unconfirmedDelete conditions rows) := by
  intro h
  unfold searchExact at h
  split at h
  · cases h
  · split at h
    · cases h
    · simp only at h
      split at h <;> cases h

/-- Only a deletion that is not confirmed is refused so, and its rows are those that satisfy all its
conditions, more than the limit. -/
theorem refused_of_apply {t : Table} {command : Command} {conditions : Conditions} {rows : ℕ}
    (h : t.apply command = .error (.unconfirmedDelete conditions rows)) :
    command = .delete conditions false ∧
      ∃ mask, t.IsMaskOf conditions mask ∧ mask.count true = rows ∧ unconfirmedLimit < rows := by
  cases command with
  | delete given confirmed =>
    have hdelete : t.delete given confirmed = .error (.unconfirmedDelete conditions rows) := h
    unfold delete at hdelete
    split at hdelete
    · cases hdelete
    · cases hselect : t.selectAll given with
      | error name =>
        rw [hselect] at hdelete
        cases hdelete
      | ok mask =>
        have hmask := isMaskOf_of_selectAll (Traversal.mapError_eq_ok_iff.mpr hselect)
        rw [hselect] at hdelete
        simp only [Except.mapError, bind, Except.bind] at hdelete
        -- no row, too many rows, or few enough: only the gate refuses
        split at hdelete
        · cases hdelete
        · split at hdelete
          · rename_i hgate
            rw [Bool.and_eq_true, decide_eq_true_eq, Bool.not_eq_true'] at hgate
            cases hdelete
            rw [hgate.2]
            exact ⟨rfl, mask, hmask, rfl, hgate.1⟩
          · cases hdelete
  | update given assignments => exact absurd h update_ne_unconfirmed
  | searchExact column condition => exact absurd h searchExact_ne_unconfirmed
  | deleteAll confirmed =>
    have hdelete : t.deleteAll confirmed = .error (.unconfirmedDelete conditions rows) := h
    unfold deleteAll at hdelete
    simp only at hdelete
    split at hdelete
    · cases hdelete
    · split at hdelete <;> cases hdelete
  | help | clear | list | columns | add | addBatch | search => cases h

/-- Confirmed, the deletion removes the rows of the mask and reports how many these are. -/
theorem delete_of_confirmed {t : Table} {conditions : Conditions} {mask : List Bool}
    (h : t.IsMaskOf conditions mask) (hmatched : mask.count true ≠ 0) :
    ∃ applied, t.apply (.delete conditions true) = .ok applied ∧
      applied.changed = some (t.remove mask) ∧
      applied.report.affectedRows = some (mask.count true) := by
  have hdelete := delete_of_isMaskOf h hmatched true
  have hlength := length_remove (selectAll_of_isMaskOf h hmatched)
  rw [Bool.not_true, Bool.and_false, if_neg Bool.false_ne_true] at hdelete
  refine ⟨_, hdelete, rfl, ?_⟩
  show some (t.rows.length - (t.remove mask).rows.length) = some (mask.count true)
  rw [← hlength, Nat.add_sub_cancel_left]

end Table

namespace Store

/-- The line is read as the deletion by the conditions, confirmed, and from a store with the table
`t` it has `t'` saved, after a report that so many rows were removed. -/
structure Deletes (t : Table) (line : String) (conditions : Conditions) (rows : ℕ) (t' : Table) :
    Prop where
  read : Command.read line = .ok (.delete conditions true)
  applied : ∃ applied, t.apply (.delete conditions true) = .ok applied ∧
    applied.changed = some t' ∧ applied.report.affectedRows = some rows
  saved : ∀ store : Store, store.load = .ok t → store.savedByLine? line = some t'

theorem deletes_of_read {t : Table} {line : String} {conditions : Conditions} {mask : List Bool}
    (hread : Command.read line = .ok (.delete conditions true))
    (hmask : t.IsMaskOf conditions mask) (hmatched : mask.count true ≠ 0) :
    Deletes t line conditions (mask.count true) (t.remove mask) := by
  obtain ⟨applied, happly, hchanged, hrows⟩ := Table.delete_of_confirmed hmask hmatched
  refine ⟨hread, ⟨applied, happly, hchanged, hrows⟩, ?_⟩
  intro store hload
  have houtcome : store.outcome (.delete conditions true) = .ok applied := by
    have hdelete : t.delete conditions true = .ok applied := happly
    rw [outcome_delete hload, hdelete]
    rfl
  rw [savedByLine?, hread]
  exact (saved?_of_outcome houtcome).trans hchanged

/-- A line is refused because it deletes many rows and is not confirmed. Then nothing is stored, and
the message suggests a line that is read as the same deletion, with the conditions in their order,
confirmed. Over the same table it removes as many rows as the message says, those that satisfy all
the conditions, and leaves what the refused line leaves with the confirmation behind it. -/
theorem hint_confirms {store : Store} {t : Table} {line : String} {command : Command}
    {conditions : Conditions} {rows : ℕ} (hload : store.load = .ok t)
    (hread : Command.read line = .ok command)
    (hrefused : t.apply command = .error (.unconfirmedDelete conditions rows)) :
    command = .delete conditions false ∧
    (store.execute line).2 = store ∧
    ∃ hint mask t', Refusal.hint? (store.execute line).1.report.message = some hint ∧
      t.IsMaskOf conditions mask ∧ t.Removes t' mask ∧ mask.count true = rows ∧
      t'.rows.length + rows = t.rows.length ∧
      Deletes t hint conditions rows t' ∧
      Deletes t (line ++ " " ++ Command.deleteConfirmation) conditions rows t' := by
  obtain ⟨rfl, mask, hmask, rfl, hmany⟩ := Table.refused_of_apply hrefused
  have hmatched : mask.count true ≠ 0 := by omega
  have hexecute : store.execute line
      = (⟨(Failure.refusal (.unconfirmedDelete conditions (mask.count true))).report, none⟩,
        store) := by
    have houtcome := outcome_delete hload conditions false
    have hdelete : t.delete conditions false
        = .error (.unconfirmedDelete conditions (mask.count true)) := hrefused
    rw [hdelete] at houtcome
    unfold execute run
    rw [hread]
    simp only [houtcome]
    rfl
  refine ⟨rfl, by rw [hexecute], Refusal.confirmedLine conditions, mask, t.remove mask, ?_, hmask,
    Table.removes_remove hmask.1, rfl, ?_, ?_, ?_⟩
  · rw [hexecute]
    exact Refusal.hint?_message conditions (mask.count true)
  · exact Table.length_remove (Table.selectAll_of_isMaskOf hmask hmatched)
  · exact deletes_of_read (Command.read_confirmedLine hread) hmask hmatched
  · exact deletes_of_read (Command.read_append_confirmation hread) hmask hmatched

/-- Twelve rows of one text and one of another, in a column whose name needs care. -/
def oddlyNamed : Table :=
  ⟨[⟨"E.g., it's", .text⟩], List.replicate 12 [.text "a b"] ++ [[.text "c"]]⟩

/-- The hint quotes the name and the text, and it removes the twelve rows. -/
theorem hint_confirms_odd_name :
    let line := "delete \"E.g., it's=a b\""
    let hint := "delete 'E.g., it'\"'\"'s'='a b' confirm=yes"
    let conditions : Conditions := .ofList [("E.g., it's", "a b")]
    Refusal.hint? ((memory oddlyNamed).execute line).1.report.message = some hint ∧
      Command.read hint = .ok (.delete conditions true) ∧
      ∃ t', (memory oddlyNamed).savedByLine? hint = some t' ∧ t'.rows.length + 12 = 13 := by
  intro line hint conditions
  have hread : Command.read line = .ok (.delete conditions false) :=
    Traversal.toOption_eq_some_iff.mp (by decide +kernel)
  have hrefused : oddlyNamed.apply (.delete conditions false)
      = .error (.unconfirmedDelete conditions 12) := by
    have hmask : oddlyNamed.IsMaskOf conditions (List.replicate 12 true ++ [false]) :=
      Table.isMaskOf_of_selectAll (Traversal.mapError_eq_ok_iff.mpr
        (Traversal.toOption_eq_some_iff.mp (by decide +kernel)))
    exact Table.delete_of_many hmask (by decide)
  have hload : (memory oddlyNamed).load = .ok oddlyNamed := rfl
  obtain ⟨-, -, found, mask, t', hfound, -, -, -, hlength, hdeletes, -⟩ :=
    hint_confirms hload hread hrefused
  have hhint : Refusal.hint? ((memory oddlyNamed).execute line).1.report.message = some hint := by
    decide +kernel
  rw [hhint] at hfound
  cases hfound
  exact ⟨hhint, hdeletes.read, t', hdeletes.saved _ hload, hlength⟩

end Store

end TableShell
