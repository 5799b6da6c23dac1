import TableShell.Proofs.Command.Reading
import TableShell.Proofs.Condition.Selection
import TableShell.Proofs.Effect.MaskedRows

/-!
# The conditions of a typed line

Which rows a deletion or an update reaches, told by the arguments on its line. Of several
conditions on one column the last one counts, as they go through a map (`reached_of_read`); so the
rows reached are those that satisfy every condition as long as the last ones imply the others, and
always where no column is named twice (`reached_of_nodup`).
-/

namespace TableShell

open Command

/-! ## Arguments -/

namespace Command

/-- The arguments of a line that state the conditions of its command. -/
def conditionArguments (command : Command) (arguments : List String) : List String :=
  match command with
  | delete _ _ => arguments.filter fun argument => !isDeleteConfirmation argument
  | update _ _ => arguments.takeWhile (· ≠ setWord)
  | _ => []

/-- The column that an argument names. -/
def columnOf (argument : String) : Option String :=
  (pair? argument).map Prod.fst

/-- No argument behind it names the same column. -/
def StandsLast (arguments : List String) (argument : String) : Prop :=
  ∃ before after, arguments = before ++ argument :: after ∧
    ∀ later ∈ after, columnOf later ≠ columnOf argument

/-- What holds of the entries of a map, holds of the last argument of each column. -/
theorem forall_entries_ofList_iff {arguments : List String} {pairs : List (String × String)}
    (h : arguments.map pair? = pairs.map some) (p : String × String → Prop) :
    (∀ entry ∈ (OrderedMap.ofList pairs).entries, p entry) ↔
      ∀ argument, StandsLast arguments argument → ∃ pair, pair? argument = some pair ∧ p pair := by
  constructor
  · rintro hentries argument ⟨before, after, rfl, hlast⟩
    rw [List.map_append, List.map_cons] at h
    obtain ⟨front, rest, rfl, -, hrest⟩ := List.map_eq_append_iff.mp h.symm
    obtain ⟨pair, back, rfl, hpair, hback⟩ := List.map_eq_cons_iff.mp hrest
    refine ⟨pair, hpair.symm, hentries pair (OrderedMap.mem_entries_ofList.mpr
      ⟨front, back, rfl, fun hmem => ?_⟩)⟩
    obtain ⟨other, hother, hkey⟩ := List.mem_map.mp hmem
    have hsome : some other ∈ after.map pair? := hback ▸ List.mem_map_of_mem hother
    obtain ⟨later, hlater, hread⟩ := List.mem_map.mp hsome
    refine hlast later hlater ?_
    rw [columnOf, columnOf, hread, ← hpair, Option.map_some, Option.map_some, hkey]
  · intro hlast entry hentry
    obtain ⟨front, back, rfl, hkey⟩ := OrderedMap.mem_entries_ofList.mp hentry
    rw [List.map_append, List.map_cons] at h
    obtain ⟨before, rest, rfl, -, hrest⟩ := List.map_eq_append_iff.mp h
    obtain ⟨argument, after, rfl, hread, hafter⟩ := List.map_eq_cons_iff.mp hrest
    obtain ⟨pair, hpair, hp⟩ := hlast argument ⟨before, after, rfl, fun later hlater hsame => by
      have hsome : pair? later ∈ back.map some := hafter ▸ List.mem_map_of_mem hlater
      obtain ⟨other, hother, hlater'⟩ := List.mem_map.mp hsome
      rw [columnOf, columnOf, hread, ← hlater', Option.map_some, Option.map_some,
        Option.some_inj] at hsame
      exact hkey (hsame ▸ List.mem_map_of_mem hother)⟩
    rw [hread] at hpair
    cases hpair
    exact hp

/-- Where no column is named twice, every argument is the last one of its column. -/
theorem standsLast_iff_mem {arguments : List String} (h : (arguments.map columnOf).Nodup)
    (argument : String) : StandsLast arguments argument ↔ argument ∈ arguments := by
  constructor
  · rintro ⟨before, after, rfl, -⟩
    simp
  · intro hmem
    obtain ⟨before, after, rfl⟩ := List.append_of_mem hmem
    refine ⟨before, after, rfl, fun later hlater hsame => ?_⟩
    rw [List.map_append, List.map_cons] at h
    have hnot := (List.nodup_cons.mp (List.nodup_append.mp h).2.1).1
    exact hnot (hsame ▸ List.mem_map_of_mem hlater)

end Command

/-! ## Rows -/

namespace Table

/-- The row of that index satisfies the condition that the argument states. -/
def SelectedBy (t : Table) (argument : String) (i : ℕ) : Prop :=
  ∃ pair, pair? argument = some pair ∧ t.Selects pair.1 pair.2 i

/-- The command turns `t` into `t'` by removing, or rewriting, the rows that the mask selects. -/
def Reaches (t t' : Table) (mask : List Bool) : Command → Prop
  | .delete _ _ => Removes t t' mask
  | .update _ assignments => Rewrites t t' mask assignments.entries
  | _ => False

/-- The mask selects the rows that satisfy all the conditions. -/
def IsMaskOf (t : Table) (conditions : Conditions) (mask : List Bool) : Prop :=
  mask.length = t.rows.length ∧
    ∀ i < t.rows.length, mask[i]? = some true ↔
      ∀ entry ∈ conditions.entries, t.Selects entry.1 entry.2 i

theorem isMaskOf_of_selectAll {t : Table} {conditions : Conditions} {mask : List Bool}
    (h : (t.selectAll conditions).mapError Refusal.unknownColumn = .ok mask) :
    t.IsMaskOf conditions mask := by
  obtain ⟨hlength, hmask⟩ := selectAll_spec (Traversal.mapError_eq_ok_iff.mp h)
  refine ⟨hlength, fun i hi => ?_⟩
  rw [hmask]
  exact and_iff_right hi

/-- Two masks of the same rows that select alike are the same. -/
theorem IsMaskOf.unique {t : Table} {conditions : Conditions} {mask mask' : List Bool}
    (h : t.IsMaskOf conditions mask) (h' : t.IsMaskOf conditions mask') : mask = mask' := by
  have hlength : mask.length = mask'.length := h.1.trans h'.1.symm
  apply List.ext_getElem hlength
  intro i hi hi'
  have hrow : i < t.rows.length := by
    rw [← h.1]
    exact hi
  have hsame : mask[i]? = some true ↔ mask'[i]? = some true :=
    (h.2 i hrow).trans (h'.2 i hrow).symm
  rw [List.getElem?_eq_getElem hi, List.getElem?_eq_getElem hi', Option.some_inj,
    Option.some_inj] at hsame
  exact Bool.eq_iff_iff.mpr hsame

/-- A table without rows has an empty mask. -/
theorem isMaskOf_nil {t : Table} (conditions : Conditions) (h : t.rows.isEmpty = true) :
    t.IsMaskOf conditions [] := by
  rw [List.isEmpty_iff] at h
  rw [IsMaskOf, h]
  exact ⟨rfl, fun i hi => absurd hi (Nat.not_lt_zero i)⟩

/-- Where some row satisfies all the conditions, the rows that do are the selected ones. -/
theorem selectAll_of_isMaskOf {t : Table} {conditions : Conditions} {mask : List Bool}
    (h : t.IsMaskOf conditions mask) (hmatched : mask.count true ≠ 0) :
    t.selectAll conditions = .ok mask := by
  have hmem : true ∈ mask := List.count_pos_iff.mp (Nat.pos_of_ne_zero hmatched)
  obtain ⟨i, hi, hselected⟩ := List.getElem_of_mem hmem
  have hrow : i < t.rows.length := by
    rw [← h.1]
    exact hi
  -- that row satisfies each condition, so each of them names a column
  have hselects := (h.2 i hrow).mp (by rw [List.getElem?_eq_getElem hi, hselected])
  obtain ⟨mask', hmask'⟩ := exists_foldlM_narrow
    (fun entry hentry => (hselects entry hentry).imp fun _ hfound => hfound.1)
    (t.rows.map fun _ => true)
  have hselectAll : t.selectAll conditions = .ok mask' := hmask'
  have hsame := h.unique (isMaskOf_of_selectAll (Traversal.mapError_eq_ok_iff.mpr hselectAll))
  rw [hselectAll, hsame]

/-- A table without rows has none to select. -/
theorem isEmpty_rows_of_count {t : Table} {conditions : Conditions} {mask : List Bool}
    (h : t.IsMaskOf conditions mask) (hmatched : mask.count true ≠ 0) :
    t.rows.isEmpty = false := by
  have hle : mask.count true ≤ t.rows.length := by
    rw [← h.1]
    exact List.count_le_length
  cases hrows : t.rows with
  | nil =>
    rw [hrows, List.length_nil] at hle
    omega
  | cons row rows => rfl

/-- A deletion that is carried out removes the rows that satisfy its conditions. -/
theorem delete_eq_ok {t : Table} {conditions : Conditions} {confirmed : Bool} {applied : Applied}
    (h : t.delete conditions confirmed = .ok applied) :
    ∃ mask, t.IsMaskOf conditions mask ∧ Removes t (applied.changed.getD t) mask := by
  rw [delete] at h
  split at h
  · rename_i hempty
    cases h
    have hmask := isMaskOf_nil conditions hempty
    exact ⟨[], hmask, removes_self hmask.1 (by simp)⟩
  · obtain ⟨mask, hselect, h⟩ := Traversal.bind_eq_ok_iff.mp h
    have hmask := isMaskOf_of_selectAll hselect
    refine ⟨mask, hmask, ?_⟩
    by_cases hnone : mask.count true = 0
    · simp only [hnone, if_true] at h
      cases h
      exact removes_self hmask.1 (List.count_eq_zero.mp hnone)
    · simp only [hnone, if_false] at h
      split at h
      · cases h
      · cases h
        exact removes_remove hmask.1

/-- An update that is carried out rewrites the rows that satisfy its conditions. -/
theorem update_eq_ok {t : Table} {conditions : Conditions} {assignments : Assignments}
    {applied : Applied} (h : t.update conditions assignments = .ok applied) :
    ∃ mask, t.IsMaskOf conditions mask ∧
      Rewrites t (applied.changed.getD t) mask assignments.entries := by
  rw [update] at h
  split at h
  · rename_i hempty
    cases h
    exact ⟨[], isMaskOf_nil conditions hempty, rewrites_self _ (by simp)⟩
  · obtain ⟨mask, hselect, h⟩ := Traversal.bind_eq_ok_iff.mp h
    refine ⟨mask, isMaskOf_of_selectAll hselect, ?_⟩
    by_cases hnone : mask.count true = 0
    · simp only [hnone, if_true] at h
      cases h
      exact rewrites_self _ (List.count_eq_zero.mp hnone)
    · simp only [hnone, if_false] at h
      cases h
      exact rewrites_assign mask t assignments

/-! ## Main results -/

/-- The command read off a line reaches the rows that satisfy the last condition on each column. -/
theorem reached_of_ofWords {t : Table} {first : String} {arguments : List String}
    {command : Command} {applied : Applied} (h : ofWords (first :: arguments) = .ok command)
    (hname : command.name = "delete" ∨ command.name = "update")
    (happly : t.apply command = .ok applied) :
    ∃ mask, mask.length = t.rows.length ∧ t.Reaches (applied.changed.getD t) mask command ∧
      ∀ i < t.rows.length, mask[i]? = some true ↔
        ∀ argument, StandsLast (conditionArguments command arguments) argument →
          t.SelectedBy argument i := by
  rcases hname with hname | hname
  · obtain ⟨pairs, hpairs, rfl⟩ := readDelete_eq_ok (readDelete_of_ofWords h hname)
    obtain ⟨mask, ⟨hlength, hmask⟩, hremoves⟩ := delete_eq_ok happly
    refine ⟨mask, hlength, hremoves, fun i hi => ?_⟩
    rw [hmask i hi, forall_entries_ofList_iff hpairs fun entry => t.Selects entry.1 entry.2 i]
    rfl
  · obtain ⟨pairs, assignments, hpairs, rfl⟩ := readUpdate_eq_ok (readUpdate_of_ofWords h hname)
    obtain ⟨mask, ⟨hlength, hmask⟩, hrewrites⟩ := update_eq_ok happly
    refine ⟨mask, hlength, hrewrites, fun i hi => ?_⟩
    rw [hmask i hi, forall_entries_ofList_iff hpairs fun entry => t.Selects entry.1 entry.2 i]
    rfl

/-- Where the line names no column twice, its command reaches exactly the rows that satisfy every
condition. -/
theorem reached_of_nodup {t : Table} {first : String} {arguments : List String}
    {command : Command} {applied : Applied} (h : ofWords (first :: arguments) = .ok command)
    (hname : command.name = "delete" ∨ command.name = "update")
    (happly : t.apply command = .ok applied)
    (hnodup : ((conditionArguments command arguments).map columnOf).Nodup) :
    ∃ mask, mask.length = t.rows.length ∧ t.Reaches (applied.changed.getD t) mask command ∧
      ∀ i < t.rows.length, mask[i]? = some true ↔
        ∀ argument ∈ conditionArguments command arguments, t.SelectedBy argument i := by
  obtain ⟨mask, hlength, hreaches, hmask⟩ := reached_of_ofWords h hname happly
  refine ⟨mask, hlength, hreaches, fun i hi => ?_⟩
  rw [hmask i hi]
  exact forall_congr' fun argument => by rw [standsLast_iff_mem hnodup]

/-- A deletion or an update that is typed reaches the rows that satisfy the last condition on each
column. These are the rows that satisfy every condition on the line exactly if, in this table, the
last conditions imply those that they override. -/
theorem reached_of_read {t : Table} {line : String} {command : Command} {applied : Applied}
    (h : Command.read line = .ok command)
    (hname : command.name = "delete" ∨ command.name = "update")
    (happly : t.apply command = .ok applied) :
    ∃ first arguments mask, Words.read line = .ok (first :: arguments) ∧
      mask.length = t.rows.length ∧ t.Reaches (applied.changed.getD t) mask command ∧
      (∀ i < t.rows.length, mask[i]? = some true ↔
        ∀ argument, StandsLast (conditionArguments command arguments) argument →
          t.SelectedBy argument i) ∧
      ((∀ i < t.rows.length, mask[i]? = some true ↔
          ∀ argument ∈ conditionArguments command arguments, t.SelectedBy argument i) ↔
        ∀ i < t.rows.length,
          (∀ argument, StandsLast (conditionArguments command arguments) argument →
            t.SelectedBy argument i) →
          ∀ argument ∈ conditionArguments command arguments, t.SelectedBy argument i) := by
  obtain ⟨first, arguments, hwords, -, hof⟩ := read_eq_ok h
  obtain ⟨mask, hlength, hreaches, hmask⟩ := reached_of_ofWords hof hname happly
  refine ⟨first, arguments, mask, hwords, hlength, hreaches, hmask, ?_⟩
  refine forall_congr' fun i => forall_congr' fun hi => ?_
  rw [hmask i hi]
  constructor
  · exact fun hiff => hiff.mp
  · refine fun himp => ⟨himp, ?_⟩
    rintro hall argument ⟨before, after, harguments, -⟩
    exact hall argument (by rw [harguments]; simp)

/-- A table of three ages. -/
def ages : Table :=
  ⟨[⟨"age", .integer⟩], [[.integer 5], [.integer 15], [.integer 25]]⟩

theorem read_overridden :
    Command.read "delete age=>30 age=<20" = .ok (.delete (.ofList [("age", "<20")]) false) :=
  Traversal.toOption_eq_some_iff.mp (by decide +kernel)

/-- The last condition on the age alone decides which ages are deleted. -/
theorem reached_of_read_overridden :
    ∃ applied first arguments mask,
      ages.apply (.delete (.ofList [("age", "<20")]) false) = .ok applied ∧
      Words.read "delete age=>30 age=<20" = .ok (first :: arguments) ∧
      ages.Reaches (applied.changed.getD ages) mask (.delete (.ofList [("age", "<20")]) false) ∧
      ∀ i < 3, mask[i]? = some true ↔
        ∀ argument, StandsLast (arguments.filter fun argument => !isDeleteConfirmation argument)
          argument → ages.SelectedBy argument i := by
  have hok : (ages.apply (.delete (.ofList [("age", "<20")]) false)).toOption.isSome = true := by
    decide +kernel
  obtain ⟨applied, happlied⟩ := Option.isSome_iff_exists.mp hok
  have happly := Traversal.toOption_eq_some_iff.mp happlied
  obtain ⟨first, arguments, mask, hwords, -, hreaches, hmask, -⟩ :=
    reached_of_read read_overridden (Or.inl rfl) happly
  exact ⟨applied, first, arguments, mask, happly, hwords, hreaches, hmask⟩

/-- No age is above 30, so none satisfies both conditions, and yet two ages are deleted. -/
theorem overridden_condition_ignored :
    Words.read "delete age=>30 age=<20" = .ok ["delete", "age=>30", "age=<20"] ∧
      (∀ i, ¬ ages.SelectedBy "age=>30" i) ∧
      Command.read "delete age=>30 age=<20" = .ok (.delete (.ofList [("age", "<20")]) false) ∧
      ages.after (.delete (.ofList [("age", "<20")]) false)
        = { ages with rows := [[.integer 25]] } := by
  refine ⟨Traversal.toOption_eq_some_iff.mp (by decide +kernel), ?_, read_overridden,
    by decide +kernel⟩
  rintro i ⟨pair, hpair, hselects⟩
  obtain rfl : pair = ("age", ">30") := by
    rw [show pair? "age=>30" = some ("age", ">30") by decide +kernel] at hpair
    exact (Option.some.inj hpair).symm
  have hnone : ages.selection? "age" ">30" = some [false, false, false] := by decide +kernel
  rw [selects_iff_of_selection? hnone] at hselects
  simpa using List.mem_of_getElem? hselects

end Table
end TableShell
