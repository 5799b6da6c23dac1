import TableShell.Effect
import TableShell.Proofs.Except.Traversal

/-!
# The commands that change a table

`Changes t command rows t'` lists all the ways in which a command takes a table to another one, with
the number of rows that it reports. Whatever `Table.apply` gives is one of them, or a command that
only looked (`apply_cases`).
-/

namespace TableShell
namespace Table

/-- The command takes `t` to `t'` and reports that it touched so many rows. -/
inductive Changes (t : Table) : Command → ℕ → Table → Prop
  | add (values : Assignments) :
    Changes t (.add values) 1 (t.append (values.map fun text => [text]) 1)
  | addBatch (columns : OrderedMap (List String)) (rowCount : ℕ) :
    Changes t (.addBatch columns rowCount) rowCount (t.append columns rowCount)
  | update {conditions : Conditions} {assignments : Assignments} {mask : List Bool}
    (hrows : t.rows ≠ []) (hmask : t.selectAll conditions = .ok mask)
    (hmatched : mask.count true ≠ 0) :
    Changes t (.update conditions assignments) (mask.count true) (assign mask t assignments)
  | delete {conditions : Conditions} {confirmed : Bool} {mask : List Bool}
    (hrows : t.rows ≠ []) (hmask : t.selectAll conditions = .ok mask)
    (hmatched : mask.count true ≠ 0)
    (hgate : mask.count true ≤ unconfirmedLimit ∨ confirmed = true) :
    Changes t (.delete conditions confirmed) (t.rows.length - (t.remove mask).rows.length)
      (t.remove mask)
  | deleteAll (hrows : t.rows ≠ []) : Changes t (.deleteAll true) t.rows.length .empty

/-- The command only looked, and what it shows are rows of the table. -/
structure LooksAt (t : Table) (applied : Applied) : Prop where
  changed : applied.changed = none
  affectedRows : applied.report.affectedRows = none
  shown : ∀ u, applied.report.table = some u → u = t ∨ ∃ mask, u = t.filter mask

theorem looksAt_say (t : Table) (severity : Severity) (message : String) :
    t.LooksAt (.read (.say severity message)) :=
  ⟨rfl, rfl, fun _ h => by cases h⟩

theorem looksAt_showing {t u : Table} (h : u = t ∨ ∃ mask, u = t.filter mask) (message : String) :
    t.LooksAt (.read (.showing message u)) := by
  refine ⟨rfl, rfl, ?_⟩
  intro shown hshown
  cases hshown
  exact h

theorem looksAt_list (t : Table) : t.LooksAt (.read t.list) := by
  unfold list
  split
  · exact looksAt_say t _ _
  · exact looksAt_showing (Or.inl rfl) _

theorem looksAt_describeColumns (t : Table) : t.LooksAt (.read t.describeColumns) := by
  unfold describeColumns
  split
  · exact looksAt_say t _ _
  · exact looksAt_say t _ _

theorem looksAt_search (t : Table) (keyword : String) : t.LooksAt (.read (t.search keyword)) := by
  unfold search
  split
  · exact looksAt_say t _ _
  · simp only
    split
    · exact looksAt_say t _ _
    · exact looksAt_showing (Or.inr ⟨_, rfl⟩) _

theorem looksAt_searchExact {t : Table} {column condition : String} {report : Report}
    (h : t.searchExact column condition = .ok report) : t.LooksAt (.read report) := by
  unfold searchExact at h
  split at h
  · cases h
    exact looksAt_say t _ _
  · split at h
    · cases h
    · simp only at h
      split at h
      · cases h
        exact looksAt_say t _ _
      · cases h
        exact looksAt_showing (Or.inr ⟨_, rfl⟩) _

/-- The command changed the table, and reports success and the rows that it touched. -/
structure Wrote (t : Table) (command : Command) (applied : Applied) (t' : Table) : Prop where
  changed : applied.changed = some t'
  severity : applied.report.severity = .success
  shown : applied.report.table = none
  changes : ∃ rows, applied.report.affectedRows = some rows ∧ t.Changes command rows t'

theorem wrote_write {t t' : Table} {command : Command} {rows : ℕ}
    (h : t.Changes command rows t') (message : String) :
    t.Wrote command (.write message rows t') t' :=
  ⟨rfl, rfl, rfl, rows, rfl, h⟩

theorem update_cases {t : Table} {conditions : Conditions} {assignments : Assignments}
    {applied : Applied} (h : t.update conditions assignments = .ok applied) :
    t.LooksAt applied ∨ ∃ t', t.Wrote (.update conditions assignments) applied t' := by
  unfold update at h
  cases hempty : t.rows.isEmpty with
  | true =>
    rw [hempty, if_pos rfl] at h
    cases h
    exact Or.inl (looksAt_say t _ _)
  | false =>
    have hrows : t.rows ≠ [] := List.isEmpty_eq_false_iff.mp hempty
    rw [hempty, if_neg Bool.false_ne_true] at h
    obtain ⟨mask, hselect, h⟩ := Traversal.bind_eq_ok_iff.mp h
    have hmask := Traversal.mapError_eq_ok_iff.mp hselect
    by_cases hmatched : mask.count true = 0
    · simp only [hmatched, if_true] at h
      cases h
      exact Or.inl (looksAt_say t _ _)
    · simp only [hmatched, if_false] at h
      cases h
      exact Or.inr ⟨_, wrote_write (.update hrows hmask hmatched) _⟩

theorem delete_cases {t : Table} {conditions : Conditions} {confirmed : Bool} {applied : Applied}
    (h : t.delete conditions confirmed = .ok applied) :
    t.LooksAt applied ∨ ∃ t', t.Wrote (.delete conditions confirmed) applied t' := by
  unfold delete at h
  cases hempty : t.rows.isEmpty with
  | true =>
    rw [hempty, if_pos rfl] at h
    cases h
    exact Or.inl (looksAt_say t _ _)
  | false =>
    have hrows : t.rows ≠ [] := List.isEmpty_eq_false_iff.mp hempty
    rw [hempty, if_neg Bool.false_ne_true] at h
    obtain ⟨mask, hselect, h⟩ := Traversal.bind_eq_ok_iff.mp h
    have hmask := Traversal.mapError_eq_ok_iff.mp hselect
    by_cases hmatched : mask.count true = 0
    · simp only [hmatched, if_true] at h
      cases h
      exact Or.inl (looksAt_say t _ _)
    · simp only [hmatched, if_false] at h
      split at h
      · cases h
      · rename_i hgate
        have hgate' : mask.count true ≤ unconfirmedLimit ∨ confirmed = true := by
          cases confirmed with
          | true => exact Or.inr rfl
          | false =>
            left
            simpa using hgate
        cases h
        exact Or.inr ⟨_, wrote_write (.delete hrows hmask hmatched hgate') _⟩

theorem deleteAll_cases {t : Table} {confirmed : Bool} {applied : Applied}
    (h : t.deleteAll confirmed = .ok applied) :
    t.LooksAt applied ∨ ∃ t', t.Wrote (.deleteAll confirmed) applied t' := by
  unfold deleteAll at h
  cases hempty : t.rows.isEmpty with
  | true =>
    rw [hempty, if_pos rfl] at h
    cases h
    exact Or.inl (looksAt_say t _ _)
  | false =>
    have hrows : t.rows ≠ [] := List.isEmpty_eq_false_iff.mp hempty
    rw [hempty, if_neg Bool.false_ne_true] at h
    cases confirmed with
    | false => cases h
    | true =>
      cases h
      exact Or.inr ⟨_, wrote_write (.deleteAll hrows) _⟩

/-- A command that is carried out only looked, or it changed the table in one of the ways of
`Changes`. -/
theorem apply_cases {t : Table} {command : Command} {applied : Applied}
    (h : t.apply command = .ok applied) :
    t.LooksAt applied ∨ ∃ t', t.Wrote command applied t' := by
  cases command with
  | help | clear =>
    cases h
    exact Or.inl (looksAt_say t _ _)
  | list =>
    cases h
    exact Or.inl (looksAt_list t)
  | columns =>
    cases h
    exact Or.inl (looksAt_describeColumns t)
  | search keyword =>
    cases h
    exact Or.inl (looksAt_search t keyword)
  | searchExact column condition =>
    obtain ⟨report, hreport, rfl⟩ := Traversal.map_eq_ok_iff.mp h
    exact Or.inl (looksAt_searchExact hreport)
  | add values =>
    cases h
    exact Or.inr ⟨_, wrote_write (.add values) _⟩
  | addBatch columns rowCount =>
    cases h
    exact Or.inr ⟨_, wrote_write (.addBatch columns rowCount) _⟩
  | update conditions assignments => exact update_cases h
  | delete conditions confirmed => exact delete_cases h
  | deleteAll confirmed => exact deleteAll_cases h

theorem wrote_of_changed {t t' : Table} {command : Command} {applied : Applied}
    (h : t.apply command = .ok applied) (hchanged : applied.changed = some t') :
    t.Wrote command applied t' := by
  rcases apply_cases h with hlooks | ⟨t'', hwrote⟩
  · rw [hlooks.changed] at hchanged
    cases hchanged
  · have hsame := hwrote.changed
    rw [hchanged] at hsame
    cases hsame
    exact hwrote

/-! ## Severities -/

theorem severity_list (t : Table) : t.list.severity ≠ .error := by
  unfold list
  split <;> exact fun h => by cases h

theorem severity_describeColumns (t : Table) : t.describeColumns.severity ≠ .error := by
  unfold describeColumns
  split <;> exact fun h => by cases h

theorem severity_search (t : Table) (keyword : String) : (t.search keyword).severity ≠ .error := by
  unfold search
  split
  · exact fun h => by cases h
  · simp only
    split <;> exact fun h => by cases h

theorem severity_searchExact {t : Table} {column condition : String} {report : Report}
    (h : t.searchExact column condition = .ok report) : report.severity ≠ .error := by
  unfold searchExact at h
  split at h
  · cases h
    exact fun h => by cases h
  · split at h
    · cases h
    · simp only at h
      split at h
      · cases h
        exact fun h => by cases h
      · cases h
        exact fun h => by cases h

theorem severity_update {t : Table} {conditions : Conditions} {assignments : Assignments}
    {applied : Applied} (h : t.update conditions assignments = .ok applied) :
    applied.report.severity ≠ .error := by
  unfold update at h
  split at h
  · cases h
    exact fun h => by cases h
  · obtain ⟨mask, -, h⟩ := Traversal.bind_eq_ok_iff.mp h
    simp only at h
    split at h
    · cases h
      exact fun h => by cases h
    · cases h
      exact fun h => by cases h

theorem severity_delete {t : Table} {conditions : Conditions} {confirmed : Bool}
    {applied : Applied} (h : t.delete conditions confirmed = .ok applied) :
    applied.report.severity ≠ .error := by
  unfold delete at h
  split at h
  · cases h
    exact fun h => by cases h
  · obtain ⟨mask, -, h⟩ := Traversal.bind_eq_ok_iff.mp h
    simp only at h
    split at h
    · cases h
      exact fun h => by cases h
    · split at h
      · cases h
      · cases h
        exact fun h => by cases h

theorem severity_deleteAll {t : Table} {confirmed : Bool} {applied : Applied}
    (h : t.deleteAll confirmed = .ok applied) : applied.report.severity ≠ .error := by
  unfold deleteAll at h
  simp only at h
  split at h
  · cases h
    exact fun h => by cases h
  · split at h
    · cases h
      exact fun h => by cases h
    · cases h

/-- A command that is carried out reports no error. -/
theorem severity_of_apply {t : Table} {command : Command} {applied : Applied}
    (h : t.apply command = .ok applied) : applied.report.severity ≠ .error := by
  cases command with
  | help | clear =>
    cases h
    exact fun h => by cases h
  | list =>
    cases h
    exact t.severity_list
  | columns =>
    cases h
    exact t.severity_describeColumns
  | search keyword =>
    cases h
    exact t.severity_search keyword
  | searchExact column condition =>
    obtain ⟨report, hreport, rfl⟩ := Traversal.map_eq_ok_iff.mp h
    exact severity_searchExact hreport
  | add values | addBatch columns rowCount =>
    cases h
    exact fun h => by cases h
  | update conditions assignments => exact severity_update h
  | delete conditions confirmed => exact severity_delete h
  | deleteAll confirmed => exact severity_deleteAll h

end Table
end TableShell
