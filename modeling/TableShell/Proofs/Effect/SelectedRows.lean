import TableShell.Proofs.Effect.Found
import TableShell.Proofs.Effect.RewrittenTable

/-!
# The rows that commands select

A search looks for one condition, a deletion and an update for several. All of them select by the
same test of a row, that each of the conditions passes (`selectsAlike_passesAll`). So what a
deletion leaves and what the conditions find are two parts of the table that interleave to the
whole (`interleaves_filter`), and the order of the conditions does not matter.
-/

namespace TableShell

/-- The third list is made of the first two, each kept in order. -/
inductive Interleaves {α : Type} : List α → List α → List α → Prop
  | nil : Interleaves [] [] []
  | left {xs ys zs : List α} (x : α) (h : Interleaves xs ys zs) : Interleaves (x :: xs) ys (x :: zs)
  | right {xs ys zs : List α} (y : α) (h : Interleaves xs ys zs) :
    Interleaves xs (y :: ys) (y :: zs)

/-- What passes a test and what does not interleave to the whole. -/
theorem interleaves_filter {α : Type} (p : α → Bool) (xs : List α) :
    Interleaves (xs.filter p) (xs.filter fun x => !p x) xs := by
  induction xs with
  | nil => exact .nil
  | cons x xs ih =>
    rw [List.filter_cons, List.filter_cons]
    cases p x with
    | true => exact .left x ih
    | false => exact .right x ih

namespace Table

/-- The command is carried out, leaves `t'`, and reports how many rows it touched, if any. -/
def EndsWith (t : Table) (command : Command) (t' : Table) (touched : ℕ) : Prop :=
  ∃ applied, t.apply command = .ok applied ∧ applied.changed.getD t = t' ∧
    applied.report.affectedRows = if touched = 0 then none else some touched

/-- A search for each condition, the mask of them all, a confirmed deletion and an update select
the rows that pass the test. -/
structure SelectsAlike (t : Table) (conditions : Conditions) (selected : Row → Bool) : Prop where
  shown : ∀ row ∈ t.rows, selected row = true ↔
    ∀ entry ∈ conditions.entries, t.Shows entry.1 entry.2 row
  mask_eq : t.selectAll conditions = .ok (t.rows.map selected)
  filter_eq : t.filter (t.rows.map selected) = { t with rows := t.rows.filter selected }
  deleted : t.EndsWith (.delete conditions true)
    { t with rows := t.rows.filter fun row => !selected row } (t.rows.countP selected)
  updated : ∀ assignments, ∃ t',
    t.EndsWith (.update conditions assignments) t' (t.rows.countP selected) ∧
      t.Rewrites t' (t.rows.map selected) assignments.entries
  interleaves : Interleaves (t.filter (t.rows.map selected)).rows
    (t.after (.delete conditions true)).rows t.rows
  reordered : ∀ conditions' : Conditions, conditions'.entries.Perm conditions.entries →
    t.selectAll conditions' = t.selectAll conditions
  narrowed : ∀ (conditions' : Conditions) (mask : List Bool),
    conditions.entries ⊆ conditions'.entries → t.selectAll conditions' = .ok mask →
      ∀ i : ℕ, mask[i]? = some true → (t.rows.map selected)[i]? = some true

variable {t : Table} {conditions : Conditions}

/-! ## Masks of rows that pass a test -/

theorem filter_map_eq (t : Table) (p : Row → Bool) :
    t.filter (t.rows.map p) = { t with rows := t.rows.filter p } :=
  congrArg (Table.mk t.columns) (rows_filter_map t p)

theorem remove_map_eq (t : Table) (p : Row → Bool) :
    t.remove (t.rows.map p) = { t with rows := t.rows.filter fun row => !p row } := by
  refine congrArg (Table.mk t.columns) ?_
  induction t.rows with
  | nil => rfl
  | cons row rows ih =>
    rw [List.map_cons, unselected, List.filter_cons, ih]
    cases p row <;> rfl

theorem count_map_eq (rows : List Row) (p : Row → Bool) :
    (rows.map p).count true = rows.countP p := by
  rw [List.count_eq_countP, List.countP_map]
  refine List.countP_congr fun row _ => ?_
  simp

theorem length_sub_filter (rows : List Row) (p : Row → Bool) :
    rows.length - (rows.filter fun row => !p row).length = rows.countP p := by
  have hboth := List.length_eq_countP_add_countP p (l := rows)
  rw [← List.countP_eq_length_filter]
  simp only [Bool.not_eq_true, Bool.decide_eq_false] at hboth
  omega

/-! ## The commands -/

/-- Without rows that pass, nothing is deleted; otherwise those that do. -/
theorem endsWith_delete (hrows : t.rows ≠ []) {p : Row → Bool}
    (hmask : t.selectAll conditions = .ok (t.rows.map p)) :
    t.EndsWith (.delete conditions true) { t with rows := t.rows.filter fun row => !p row }
      (t.rows.countP p) := by
  have hcount := count_map_eq t.rows p
  have happly : t.apply (.delete conditions true) = t.delete conditions true := rfl
  rw [EndsWith, happly, delete, List.isEmpty_eq_false_iff.mpr hrows, hmask]
  by_cases hnone : t.rows.countP p = 0
  · have hall : t.rows.filter (fun row => !p row) = t.rows := by
      rw [List.countP_eq_zero] at hnone
      rw [List.filter_eq_self]
      intro row hrow
      simp [hnone row hrow]
    refine ⟨_, if_pos (hcount.trans hnone), ?_, ?_⟩
    · rw [hall]
      rfl
    · rw [if_pos hnone]
      rfl
  · have hremoved : t.rows.length - (t.remove (t.rows.map p)).rows.length = t.rows.countP p := by
      rw [remove_map_eq, length_sub_filter]
    refine ⟨_, (if_neg (hcount.trans_ne hnone)).trans (if_neg (by simp)), ?_, ?_⟩
    · exact remove_map_eq t p
    · rw [if_neg hnone, ← hremoved]
      rfl

/-- Without rows that pass, nothing is rewritten; otherwise those that do. -/
theorem endsWith_update (hrows : t.rows ≠ []) {p : Row → Bool}
    (hmask : t.selectAll conditions = .ok (t.rows.map p)) (assignments : Assignments) :
    ∃ t', t.EndsWith (.update conditions assignments) t' (t.rows.countP p) ∧
      t.Rewrites t' (t.rows.map p) assignments.entries := by
  have hcount := count_map_eq t.rows p
  by_cases hnone : t.rows.countP p = 0
  · have hnothing : t.update conditions assignments
        = .ok (.read (.say .info "No rows found matching conditions for update.")) := by
      rw [update, List.isEmpty_eq_false_iff.mpr hrows, hmask]
      exact if_pos (hcount.trans hnone)
    refine ⟨t, ⟨_, hnothing, rfl, by rw [if_pos hnone]; rfl⟩, ?_⟩
    exact rewrites_self _ (List.count_eq_zero.mp (hcount.trans hnone))
  · have hmask' := isMaskOf_of_selectAll (Traversal.mapError_eq_ok_iff.mpr hmask)
    obtain ⟨message, hupdate⟩ := update_of_isMaskOf hmask' (hcount.trans_ne hnone) assignments
    refine ⟨assign (t.rows.map p) t assignments, ⟨_, hupdate, rfl, ?_⟩,
      rewrites_assign _ t assignments⟩
    rw [if_neg hnone, ← hcount]
    rfl

/-! ## One test for all -/

/-- A row of the table passes all conditions if a search for each of them shows it. -/
theorem passesAll_iff_shows {row : Row} (hrow : row ∈ t.rows) :
    t.passesAll conditions row = true ↔
      ∀ entry ∈ conditions.entries, t.Shows entry.1 entry.2 row := by
  rw [passesAll, List.all_eq_true]
  refine forall_congr' fun entry => forall_congr' fun _ => ?_
  rw [shows_iff_passes, and_iff_right hrow]

/-- Conditions that have a mask are on columns of the table. -/
theorem mem_columnNames_of_selectAll {mask : List Bool} (h : t.selectAll conditions = .ok mask) :
    ∀ name ∈ conditions.keys, name ∈ t.columnNames := by
  cases hfind : conditions.keys.find? (fun key => key ∉ t.columnNames) with
  | some name =>
    rw [selectAll_of_find? hfind] at h
    cases h
  | none => simpa [List.find?_eq_none] using hfind

/-- Who passes more conditions passes fewer. -/
theorem passesAll_of_subset {conditions' : Conditions}
    (h : conditions.entries ⊆ conditions'.entries) {row : Row}
    (hpasses : t.passesAll conditions' row = true) : t.passesAll conditions row = true := by
  rw [passesAll, List.all_eq_true] at hpasses ⊢
  exact fun entry hentry => hpasses entry (h hentry)

/-- The rows that pass all conditions are those that every command selects. -/
theorem selectsAlike_passesAll (hrows : t.rows ≠ [])
    (h : ∀ name ∈ conditions.keys, name ∈ t.columnNames) :
    t.SelectsAlike conditions (t.passesAll conditions) := by
  have hmask := selectAll_of_mem h
  have hdeleted := endsWith_delete hrows hmask
  refine ⟨fun row => passesAll_iff_shows, hmask, filter_map_eq t _, hdeleted,
    endsWith_update hrows hmask, ?_, ?_, ?_⟩
  · obtain ⟨applied, happlied, hleft, -⟩ := hdeleted
    have hafter : t.after (.delete conditions true) = applied.changed.getD t := by
      rw [after, happlied]
    rw [hafter, hleft, filter_map_eq]
    exact interleaves_filter _ t.rows
  · intro conditions' hperm
    have hsame : t.passesAll conditions' = t.passesAll conditions :=
      funext fun row => hperm.all_eq
    have hkeys : ∀ name ∈ conditions'.keys, name ∈ t.columnNames :=
      fun name hname => h name ((hperm.map Prod.fst).mem_iff.mp hname)
    rw [selectAll_of_mem hkeys, hmask, hsame]
  · intro conditions' mask hsubset hmask' i hselected
    rw [selectAll_of_mem (mem_columnNames_of_selectAll hmask')] at hmask'
    cases hmask'
    rw [List.getElem?_map, Option.map_eq_some_iff] at hselected ⊢
    obtain ⟨row, hrow, hpasses⟩ := hselected
    exact ⟨row, hrow, passesAll_of_subset hsubset hpasses⟩

/-- Over a table with rows, a deletion and an update with a condition on a column that is not there
fail for the first such column; otherwise both select the rows that a search for each of the
conditions shows. -/
theorem selected_alike (hrows : t.rows ≠ []) (conditions : Conditions) :
    (∀ name, conditions.keys.find? (fun key => key ∉ t.columnNames) = some name →
      (∀ confirmed, t.apply (.delete conditions confirmed) = .error (.unknownColumn name)) ∧
        ∀ assignments, t.apply (.update conditions assignments) = .error (.unknownColumn name)) ∧
    ((∀ name ∈ conditions.keys, name ∈ t.columnNames) →
      ∃ selected : Row → Bool, t.SelectsAlike conditions selected) := by
  constructor
  · intro name hname
    have hmask := selectAll_of_find? hname
    have hempty := List.isEmpty_eq_false_iff.mpr hrows
    constructor
    · intro confirmed
      show t.delete conditions confirmed = _
      rw [delete, hempty, hmask]
      rfl
    · intro assignments
      show t.update conditions assignments = _
      rw [update, hempty, hmask]
      rfl
  · intro h
    exact ⟨t.passesAll conditions, selectsAlike_passesAll hrows h⟩

/-- Of two people with one name, only one is old enough; a city is nowhere recorded. -/
theorem selected_alike_threePeople :
    let conditions : Conditions := .ofList [("name", "Ann"), ("age", ">25")]
    let unknown : Conditions := .ofList [("name", "Ann"), ("city", "Bern"), ("zip", "3000")]
    threePeople.rows ≠ [] ∧
      threePeople.apply (.delete unknown true) = .error (.unknownColumn "city") ∧
      threePeople.apply (.update unknown conditions) = .error (.unknownColumn "city") ∧
      ∃ selected : Row → Bool, threePeople.SelectsAlike conditions selected ∧
        threePeople.rows.map selected = [true, false, false] ∧
        threePeople.EndsWith (.delete conditions true)
          { threePeople with rows := [[.text "Bob", .missing], [.text "Ann", .missing]] } 1 := by
  intro conditions unknown
  have hrows : threePeople.rows ≠ [] := by decide
  have hfirst : unknown.keys.find? (fun key => key ∉ threePeople.columnNames) = some "city" := by
    decide
  have hkeys : ∀ name ∈ conditions.keys, name ∈ threePeople.columnNames := by decide
  obtain ⟨hdelete, hupdate⟩ := (selected_alike hrows unknown).1 "city" hfirst
  obtain ⟨selected, halike⟩ := (selected_alike hrows conditions).2 hkeys
  have hmask : threePeople.selectAll conditions = .ok [true, false, false] :=
    Traversal.toOption_eq_some_iff.mp (by decide +kernel)
  rw [halike.mask_eq, Except.ok.injEq] at hmask
  have hselected : selected [.text "Ann", .integer 30] = true ∧
      selected [.text "Bob", .missing] = false ∧ selected [.text "Ann", .missing] = false := by
    simpa [threePeople] using hmask
  have hdeleted := halike.deleted
  simp only [threePeople, List.filter_cons, List.countP_cons, hselected] at hdeleted
  exact ⟨hrows, hdelete true, hupdate conditions, selected, halike, hmask, hdeleted⟩

end Table
end TableShell
