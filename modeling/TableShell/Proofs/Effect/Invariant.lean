import TableShell.Proofs.Effect.Agreement
import TableShell.Proofs.Report.Numbered

/-!
# The invariant of a table that is changed in place

A state is well formed where its table is, and its index gives each name the place of its column and
gives nothing else. From a well formed state every program runs to its end or refuses, never needs
an item that is not there, and leaves a well formed state behind (`carriesOut_of_wellFormed`). So
this holds along every sequence of commands, from every table that is read
(`wellFormed_throughout`).
-/

namespace TableShell

open Table

namespace Indexed

/-- The table is well formed, and the index is exact. -/
structure WellFormed (s : Indexed) : Prop where
  table : s.table.WellFormed
  index : ∀ (name : String) (place : ℕ),
    s.index[name]? = some place ↔ s.table.columnNames[place]? = some name

theorem wellFormed_ofTable {t : Table} (h : t.WellFormed) : (ofTable t).WellFormed where
  table := h
  index name place := by
    rw [index_ofTable]
    exact lastIndex?_eq_some_iff h.nodup_names

/-- A well formed state is its table, with the index that belongs to it. -/
theorem WellFormed.eq_ofTable {s : Indexed} (h : s.WellFormed) : s = ofTable s.table := by
  have hindex : s.index = indexOf s.table.columnNames := by
    apply Std.ExtHashMap.ext_getElem?
    intro name
    apply Option.ext
    intro place
    rw [h.index, getElem?_indexOf, lastIndex?_eq_some_iff h.table.nodup_names]
  rw [ofTable, ← hindex]

end Indexed

namespace InPlace

open Indexed

/-- The state that the program of a command leaves, however it ends. -/
def after (s : Indexed) (command : Command) : Indexed :=
  match (apply command).run s with
  | .ok _ s' => s'
  | .error _ s' => s'

/-- From the state, the command is carried out, or refused, as it should be. -/
structure CarriesOut (s : Indexed) (command : Command) : Prop where
  /-- The program does what `Table.apply` says. -/
  agrees : (apply command).run s = expected s.table (s.table.apply command)
  /-- Every item that the program needs is there. -/
  in_range : ∀ s', (apply command).run s ≠ .error .outOfRange s'
  /-- What it leaves is well formed. -/
  wellFormed : (after s command).WellFormed
  after_eq : (after s command).table = s.table.after command
  /-- So is what it shows, and every row and cell of the drawing is there. -/
  shown : ∀ {applied : Applied} {u : Table}, s.table.apply command = .ok applied →
    applied.report.table = some u →
      (⟨u, s.index⟩ : Indexed).WellFormed ∧ Grid.preview? u = some (Grid.preview u)

theorem covered_of_wellFormed {t : Table} (h : t.WellFormed) : t.Covered := by
  intro row hrow
  exact Nat.le_of_eq (h.rows_fit row hrow).1.symm

theorem carriesOut_of_wellFormed {s : Indexed} (h : s.WellFormed) (command : Command) :
    CarriesOut s command := by
  have hrun : (apply command).run s = expected s.table (s.table.apply command) := by
    rw [h.eq_ofTable]
    exact run_apply (covered_of_wellFormed h.table) command
  have hafter : after s command = ofTable (s.table.after command) := by
    unfold after Table.after
    rw [hrun]
    cases s.table.apply command <;> rfl
  constructor
  · exact hrun
  · intro s' hout
    rw [hrun] at hout
    cases hresult : s.table.apply command with
    | error cause =>
      rw [hresult] at hout
      cases hout
    | ok applied =>
      rw [hresult] at hout
      cases hout
  · rw [hafter]
    exact wellFormed_ofTable (h.table.after command)
  · rw [hafter]
    rfl
  · intro applied u happly hu
    obtain ⟨hwell, hcolumns⟩ := h.table.of_shown happly hu
    refine ⟨⟨hwell, ?_⟩, Grid.preview?_eq hwell⟩
    intro name place
    rw [h.index, columnNames, columnNames, hcolumns]

/-- The state after all the commands, whether each was carried out or refused. -/
def afterAll (s : Indexed) (commands : List Command) : Indexed :=
  commands.foldl after s

theorem wellFormed_afterAll {s : Indexed} (h : s.WellFormed) (commands : List Command) :
    (afterAll s commands).WellFormed ∧
      (afterAll s commands).table = commands.foldl Table.after s.table := by
  unfold afterAll
  induction commands generalizing s with
  | nil => exact ⟨h, rfl⟩
  | cons command commands ih =>
    have hstep := carriesOut_of_wellFormed h command
    rw [List.foldl_cons, List.foldl_cons, ← hstep.after_eq]
    exact ih hstep.wellFormed

/-- Every table that is read is well formed, and so is the empty one; and from a well formed state
on, after any sequence of commands, the state is well formed and the next command is carried out as
it should be. -/
theorem wellFormed_throughout :
    (∀ {delimiter : Char} {content : String} {t : Table},
      Delimited.read delimiter content = .ok t → (ofTable t).WellFormed) ∧
    (ofTable .empty).WellFormed ∧
    ∀ {s : Indexed}, s.WellFormed → ∀ (commands : List Command) (command : Command),
      (afterAll s commands).WellFormed ∧
      (afterAll s commands).table = commands.foldl Table.after s.table ∧
      CarriesOut (afterAll s commands) command := by
  refine ⟨?_, wellFormed_ofTable wellFormed_empty, ?_⟩
  · intro delimiter content t hread
    exact wellFormed_ofTable (wellFormed_of_read hread)
  · intro s h commands command
    obtain ⟨hwell, htable⟩ := wellFormed_afterAll h commands
    exact ⟨hwell, htable, carriesOut_of_wellFormed hwell command⟩

/-- A column is created over the row that is there, and a number is added under it. -/
theorem wellFormed_throughout_two_adds :
    ∃ t, Delimited.read ',' "name\nTom\n" = .ok t ∧
      let commands : List Command := [.add (.ofList [("age", "5")]),
        .update (.ofList [("name", "Tom")]) (.ofList [("age", "x")])]
      (afterAll (ofTable t) commands).WellFormed ∧
      (afterAll (ofTable t) commands).table =
        ⟨[⟨"name", .text⟩, ⟨"age", .integer⟩],
          [[.text "Tom", .text "x"], [.text "", .integer 5]]⟩ ∧
      CarriesOut (afterAll (ofTable t) commands) .list := by
  have hread : Delimited.read ',' "name\nTom\n" = .ok ⟨[⟨"name", .text⟩], [[.text "Tom"]]⟩ :=
    Traversal.toOption_eq_some_iff.mp (by decide +kernel)
  refine ⟨_, hread, ?_⟩
  obtain ⟨hwell, htable, hlist⟩ := wellFormed_throughout.2.2 (wellFormed_throughout.1 hread)
    [.add (.ofList [("age", "5")]), .update (.ofList [("name", "Tom")]) (.ofList [("age", "x")])]
    .list
  refine ⟨hwell, htable.trans ?_, hlist⟩
  decide +kernel

end InPlace
end TableShell
