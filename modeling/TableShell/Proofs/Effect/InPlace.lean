import Mathlib.Data.String.Basic
import Mathlib.Tactic.Common
import TableShell.Effect
import TableShell.Proofs.Table.Columns

/-!
# Commands carried out in place

The table in memory is changed step by step: columns are created and typed while rows stand under
them, and an index of the names is kept beside the columns. Here each command is a program on such a
state. A program stops where it refuses the command, or where it needs an item at a place that does
not exist, and what it did before it stopped stays done.

A program that refuses, or that ends without having touched a row, has done nothing
(`allOrNothing_apply`), whatever the state was.
-/

namespace TableShell

/-- A table, and beside it the index that gives the place of a column by its name. -/
structure Indexed where
  table : Table
  index : Std.ExtHashMap String ℕ

namespace Indexed

/-- The index of the names: the last place of each. -/
def indexOf (names : List String) : Std.ExtHashMap String ℕ :=
  names.zipIdx.foldl (fun index entry => index.insert entry.1 entry.2) ∅

/-- The table with the index of its columns. -/
def ofTable (t : Table) : Indexed :=
  ⟨t, indexOf t.columnNames⟩

end Indexed

/-- Why a program stops before its end. -/
inductive Halt
  | refused (cause : Refusal)
  | outOfRange

/-- A program that changes the table in place. -/
abbrev InPlace :=
  EStateM Halt Indexed

namespace InPlace

variable {α β : Type}

/-! ## Looking -/

/-- The item at a place that has to exist. -/
def itemAt (items : List α) (place : ℕ) : InPlace α :=
  match items[place]? with
  | some item => return item
  | none => throw .outOfRange

/-- The type of the column at the place. -/
def typeAt (place : ℕ) : InPlace ColumnType := do
  let column ← itemAt (← get).table.columns place
  return column.type

/-- Which rows satisfy the condition on the column. -/
def columnMask (column condition : String) : InPlace (List Bool) := do
  let s ← get
  match s.index[column]? with
  | none => throw (.refused (.unknownColumn column))
  | some place =>
    let type ← typeAt place
    return s.table.rows.map (Table.rowSatisfies place (.ofCondition condition type))

/-- Which rows satisfy every one of the conditions. -/
def selectAll (conditions : Conditions) : InPlace (List Bool) := do
  let s ← get
  conditions.entries.foldlM
    (fun mask entry => do
      let selected ← columnMask entry.1 entry.2
      return List.zipWith and mask selected)
    (s.table.rows.map fun _ => true)

/-! ## Columns -/

/-- Gives the column another type. -/
def setType (place : ℕ) (type : ColumnType) : InPlace Unit :=
  modify fun s => { s with table := s.table.setType place type }

/-- Puts a column behind the others, missing in every row, unless the index has its name. Gives the
place of the column of that name. -/
def addColumn (name : String) (type : ColumnType) : InPlace ℕ := do
  let s ← get
  match s.index[name]? with
  | some place => return place
  | none =>
    modify fun s => { s with table.rows := s.table.rows.map (· ++ [.missing]) }
    let place := s.table.columns.length
    modify fun s =>
      { table := { s.table with columns := s.table.columns ++ [⟨name, type⟩] }
        index := s.index.insert name place }
    return place

/-- Gives the column at the place the type of its cells if it has none yet. -/
def settleAt (place : ℕ) : InPlace Unit := do
  let type ← typeAt place
  if type = .unknown then
    let s ← get
    setType place (Cell.commonType (s.table.cellsAt place))

/-- Settles the types of all columns, as soon as there are rows. -/
def settleTypes : InPlace Unit := do
  let s ← get
  if s.table.rows.isEmpty then
    return
  else
    forM (List.range s.table.columns.length) settleAt

/-! ## Appending -/

/-- The texts that were given for a column, with the place of the column and its type. -/
structure Supply where
  place : ℕ
  type : ColumnType
  texts : List String

/-- Makes the column of that name ready for the texts: it is created, or typed if it has no type
yet. -/
def supply (name : String) (texts : List String) : InPlace Supply := do
  let s ← get
  match s.index[name]? with
  | some place =>
    let type ← typeAt place
    if type = .unknown then
      setType place (Cell.inferType texts)
    return ⟨place, ← typeAt place, texts⟩
  | none =>
    let place ← addColumn name (Cell.inferType texts)
    return ⟨place, ← typeAt place, texts⟩

/-- The row with the cell at a place that has to exist. -/
def replaceAt (row : Row) (place : ℕ) (cell : Cell) : InPlace Row :=
  if place < row.length then
    return row.set place cell
  else
    throw .outOfRange

/-- The row with the text of number `i` of each supply. -/
def fillRow (supplies : List Supply) (i : ℕ) (row : Row) : InPlace Row :=
  supplies.foldlM
    (fun row supply =>
      match supply.texts[i]? with
      | some text => replaceAt row supply.place (Cell.cast text supply.type)
      | none => return row)
    row

/-- The cells with missing ones behind them, up to the length. -/
def resize (cells : List Cell) (length : ℕ) : Row :=
  cells ++ List.replicate (length - cells.length) .missing

/-- Puts the new row of number `i` behind the others. -/
def appendRow (defaults : List Cell) (supplies : List Supply) (i : ℕ) : InPlace Unit := do
  let s ← get
  let row ← fillRow supplies i (resize defaults s.table.columns.length)
  modify fun s => { s with table := s.table.addRow row }

/-- Puts new rows behind the others. Defaults are those of the types before the command. -/
def append (columns : OrderedMap (List String)) (rowCount : ℕ) : InPlace Unit := do
  let s ← get
  let defaults := s.table.columns.map fun column => column.type.defaultCell
  let supplies ← columns.entries.mapM fun entry => supply entry.1 entry.2
  forM (List.range rowCount) (appendRow defaults supplies)
  settleTypes

/-! ## Changing -/

/-- The rows with the cell at a place that has to exist in those that the mask selects. -/
def writeSelected (place : ℕ) (cell : Cell) : List Row → List Bool → InPlace (List Row)
  | row :: rows, true :: mask => do
    let row ← replaceAt row place cell
    let rows ← writeSelected place cell rows mask
    return row :: rows
  | row :: rows, false :: mask => do
    let rows ← writeSelected place cell rows mask
    return row :: rows
  | rows, _ => return rows

/-- Writes the text to one column of the selected rows. -/
def assignColumn (mask : List Bool) (name text : String) : InPlace Unit := do
  let place ← addColumn name (Cell.inferType [text])
  let type ← typeAt place
  let s ← get
  let rows ← writeSelected place (Cell.cast text type) s.table.rows mask
  modify fun s => { s with table.rows := rows }

/-! ## Commands

A command gives the number of rows that it touched, or nothing where it only looked. -/

/-- The command `add`. The new row is looked up for its report. -/
def add (values : Assignments) : InPlace (Option ℕ) := do
  let start := (← get).table.rows.length
  append (values.map fun text => [text]) 1
  let s ← get
  let _ ← itemAt s.table.rows start
  return some 1

/-- The command `add_batch`. -/
def addBatch (columns : OrderedMap (List String)) (rowCount : ℕ) : InPlace (Option ℕ) := do
  append columns rowCount
  return some rowCount

/-- The command `update`. -/
def update (conditions : Conditions) (assignments : Assignments) : InPlace (Option ℕ) := do
  let s ← get
  if s.table.rows.isEmpty then
    return none
  else
    let mask ← selectAll conditions
    let matched := mask.count true
    if matched = 0 then
      return none
    else
      forM assignments.entries fun entry => assignColumn mask entry.1 entry.2
      return some matched

/-- The command `delete`. -/
def delete (conditions : Conditions) (confirmed : Bool) : InPlace (Option ℕ) := do
  let s ← get
  if s.table.rows.isEmpty then
    return none
  else
    let mask ← selectAll conditions
    let matched := mask.count true
    if matched = 0 then
      return none
    else if matched > Table.unconfirmedLimit && !confirmed then
      throw (.refused (.unconfirmedDelete conditions matched))
    else
      let before := s.table.rows.length
      modify fun s => { s with table := s.table.remove mask }
      return some (before - (← get).table.rows.length)

/-- The command `delete_all`. -/
def deleteAll (confirmed : Bool) : InPlace (Option ℕ) := do
  let s ← get
  let rows := s.table.rows.length
  if s.table.rows.isEmpty then
    return none
  else if confirmed then
    set (Indexed.ofTable .empty)
    return some rows
  else
    throw (.refused (.unconfirmedDeleteAll rows))

/-- The command `search_exact`. -/
def searchExact (column condition : String) : InPlace (Option ℕ) := do
  let s ← get
  if s.table.rows.isEmpty then
    return none
  else
    let _ ← columnMask column condition
    return none

/-- The program of a command. -/
def apply : Command → InPlace (Option ℕ)
  | .help | .clear | .list | .columns | .search _ => return none
  | .add values => add values
  | .addBatch columns rowCount => addBatch columns rowCount
  | .update conditions assignments => update conditions assignments
  | .delete conditions confirmed => delete conditions confirmed
  | .deleteAll confirmed => deleteAll confirmed
  | .searchExact column condition => searchExact column condition

/-! ## One step after the other -/

theorem run_bind_of_ok {p : InPlace α} {f : α → InPlace β} {s s' : Indexed} {a : α}
    (h : p.run s = .ok a s') : (p >>= f).run s = (f a).run s' := by
  simp only [EStateM.run, bind, EStateM.bind] at h ⊢
  rw [h]

theorem run_bind_of_error {p : InPlace α} {f : α → InPlace β} {s s' : Indexed} {halt : Halt}
    (h : p.run s = .error halt s') : (p >>= f).run s = .error halt s' := by
  simp only [EStateM.run, bind, EStateM.bind] at h ⊢
  rw [h]

/-! ## Programs that only look -/

/-- The program leaves every state as it was, however it ends. -/
def Looks (p : InPlace α) : Prop :=
  ∀ s, (∀ a s', p.run s = .ok a s' → s' = s) ∧ ∀ halt s', p.run s = .error halt s' → s' = s

theorem looks_pure (a : α) : Looks (pure a) := by
  intro s
  constructor
  · intro a' s' h
    cases h
    rfl
  · intro halt s' h
    cases h

theorem looks_throw (halt : Halt) : Looks (throw halt : InPlace α) := by
  intro s
  constructor
  · intro a s' h
    cases h
  · intro halt' s' h
    cases h
    rfl

theorem looks_get : Looks (get : InPlace Indexed) := by
  intro s
  constructor
  · intro a s' h
    cases h
    rfl
  · intro halt s' h
    cases h

theorem Looks.bind {p : InPlace α} {f : α → InPlace β} (hp : Looks p) (hf : ∀ a, Looks (f a)) :
    Looks (p >>= f) := by
  intro s
  have hs := hp s
  cases hrun : p.run s with
  | ok a s' =>
    have heq : s' = s := hs.1 a s' hrun
    rw [run_bind_of_ok hrun, heq]
    exact hf a s
  | error halt s' =>
    have heq : s' = s := hs.2 halt s' hrun
    rw [run_bind_of_error hrun, heq]
    constructor
    · intro b s'' h
      cases h
    · intro halt' s'' h
      cases h
      rfl

theorem looks_foldlM {f : β → α → InPlace β} (h : ∀ b a, Looks (f b a)) (items : List α) (b : β) :
    Looks (items.foldlM f b) := by
  induction items generalizing b with
  | nil => exact looks_pure b
  | cons a items ih =>
    rw [List.foldlM_cons]
    exact (h b a).bind ih

theorem looks_itemAt (items : List α) (place : ℕ) : Looks (itemAt items place) := by
  unfold itemAt
  split
  · exact looks_pure _
  · exact looks_throw _

theorem looks_typeAt (place : ℕ) : Looks (typeAt place) := by
  unfold typeAt
  apply looks_get.bind
  intro s
  apply (looks_itemAt _ _).bind
  intro column
  exact looks_pure _

theorem looks_columnMask (column condition : String) : Looks (columnMask column condition) := by
  unfold columnMask
  apply looks_get.bind
  intro s
  split
  · exact looks_throw _
  · apply (looks_typeAt _).bind
    intro type
    exact looks_pure _

theorem looks_selectAll (conditions : Conditions) : Looks (selectAll conditions) := by
  unfold selectAll
  apply looks_get.bind
  intro s
  apply looks_foldlM
  intro mask entry
  apply (looks_columnMask _ _).bind
  intro selected
  exact looks_pure _

/-! ## Programs that never refuse -/

/-- The program refuses nothing: where it stops, it is for want of an item. -/
def Accepts (p : InPlace α) : Prop :=
  ∀ s cause s', p.run s ≠ .error (.refused cause) s'

theorem accepts_pure (a : α) : Accepts (pure a) := by
  intro s cause s' h
  cases h

theorem accepts_get : Accepts (get : InPlace Indexed) := by
  intro s cause s' h
  cases h

theorem accepts_modify (f : Indexed → Indexed) : Accepts (modify f : InPlace Unit) := by
  intro s cause s' h
  cases h

theorem accepts_outOfRange : Accepts (throw .outOfRange : InPlace α) := by
  intro s cause s' h
  cases h

theorem Accepts.bind {p : InPlace α} {f : α → InPlace β} (hp : Accepts p)
    (hf : ∀ a, Accepts (f a)) : Accepts (p >>= f) := by
  intro s cause s' h
  cases hrun : p.run s with
  | ok a s'' =>
    rw [run_bind_of_ok hrun] at h
    exact hf a s'' cause s' h
  | error halt s'' =>
    rw [run_bind_of_error hrun] at h
    cases h
    exact hp s cause s' hrun

theorem accepts_foldlM {f : β → α → InPlace β} (h : ∀ b a, Accepts (f b a)) (items : List α)
    (b : β) : Accepts (items.foldlM f b) := by
  induction items generalizing b with
  | nil => exact accepts_pure b
  | cons a items ih =>
    rw [List.foldlM_cons]
    exact (h b a).bind ih

theorem accepts_mapM {f : α → InPlace β} (h : ∀ a, Accepts (f a)) (items : List α) :
    Accepts (items.mapM f) := by
  induction items with
  | nil => exact accepts_pure []
  | cons a items ih =>
    rw [List.mapM_cons]
    apply (h a).bind
    intro b
    apply ih.bind
    intro bs
    exact accepts_pure _

theorem accepts_forM {f : α → InPlace Unit} (h : ∀ a, Accepts (f a)) (items : List α) :
    Accepts (forM items f) := by
  induction items with
  | nil => exact accepts_pure ()
  | cons a items ih =>
    rw [List.forM_cons]
    apply (h a).bind
    intro _
    exact ih

theorem accepts_itemAt (items : List α) (place : ℕ) : Accepts (itemAt items place) := by
  unfold itemAt
  split
  · exact accepts_pure _
  · exact accepts_outOfRange

theorem accepts_replaceAt (row : Row) (place : ℕ) (cell : Cell) :
    Accepts (replaceAt row place cell) := by
  unfold replaceAt
  split
  · exact accepts_pure _
  · exact accepts_outOfRange

theorem accepts_typeAt (place : ℕ) : Accepts (typeAt place) := by
  unfold typeAt
  apply accepts_get.bind
  intro s
  apply (accepts_itemAt _ _).bind
  intro column
  exact accepts_pure _

theorem accepts_setType (place : ℕ) (type : ColumnType) : Accepts (setType place type) :=
  accepts_modify _

theorem accepts_addColumn (name : String) (type : ColumnType) : Accepts (addColumn name type) := by
  unfold addColumn
  apply accepts_get.bind
  intro s
  split
  · exact accepts_pure _
  · apply (accepts_modify _).bind
    intro _
    apply (accepts_modify _).bind
    intro _
    exact accepts_pure _

theorem accepts_settleTypes : Accepts settleTypes := by
  unfold settleTypes
  apply accepts_get.bind
  intro s
  split
  · exact accepts_pure _
  · apply accepts_forM
    intro place
    unfold settleAt
    apply (accepts_typeAt _).bind
    intro type
    split
    · apply accepts_get.bind
      intro s
      exact accepts_setType _ _
    · exact accepts_pure _

theorem accepts_supply (name : String) (texts : List String) : Accepts (supply name texts) := by
  unfold supply
  apply accepts_get.bind
  intro s
  split
  · apply (accepts_typeAt _).bind
    intro type
    split
    · apply (accepts_setType _ _).bind
      intro _
      apply (accepts_typeAt _).bind
      intro type
      exact accepts_pure _
    · apply (accepts_typeAt _).bind
      intro type
      exact accepts_pure _
  · apply (accepts_addColumn _ _).bind
    intro place
    apply (accepts_typeAt _).bind
    intro type
    exact accepts_pure _

theorem accepts_fillRow (supplies : List Supply) (i : ℕ) (row : Row) :
    Accepts (fillRow supplies i row) := by
  unfold fillRow
  apply accepts_foldlM
  intro row supply
  split
  · exact accepts_replaceAt _ _ _
  · exact accepts_pure _

theorem accepts_append (columns : OrderedMap (List String)) (rowCount : ℕ) :
    Accepts (append columns rowCount) := by
  unfold append
  apply accepts_get.bind
  intro s
  apply (accepts_mapM (fun _ => accepts_supply _ _) _).bind
  intro supplies
  apply (accepts_forM _ _).bind
  · intro _
    exact accepts_settleTypes
  · intro i
    unfold appendRow
    apply accepts_get.bind
    intro s
    apply (accepts_fillRow _ _ _).bind
    intro row
    exact accepts_modify _

theorem accepts_writeSelected (place : ℕ) (cell : Cell) (rows : List Row) (mask : List Bool) :
    Accepts (writeSelected place cell rows mask) := by
  induction rows generalizing mask with
  | nil =>
    rw [writeSelected.eq_def]
    exact accepts_pure _
  | cons row rows ih =>
    cases mask with
    | nil => exact accepts_pure _
    | cons selected mask =>
      cases selected with
      | true =>
        rw [writeSelected]
        apply (accepts_replaceAt _ _ _).bind
        intro row
        apply (ih mask).bind
        intro rows
        exact accepts_pure _
      | false =>
        rw [writeSelected]
        apply (ih mask).bind
        intro rows
        exact accepts_pure _

theorem accepts_assignColumn (mask : List Bool) (name text : String) :
    Accepts (assignColumn mask name text) := by
  unfold assignColumn
  apply (accepts_addColumn _ _).bind
  intro place
  apply (accepts_typeAt _).bind
  intro type
  apply accepts_get.bind
  intro s
  apply (accepts_writeSelected _ _ _ _).bind
  intro rows
  exact accepts_modify _

/-! ## All or nothing -/

/-- Where the program refuses, or ends without having touched a row, the state is as it was. -/
def AllOrNothing (p : InPlace (Option ℕ)) : Prop :=
  ∀ s, (∀ s', p.run s = .ok none s' → s' = s) ∧
    ∀ cause s', p.run s = .error (.refused cause) s' → s' = s

theorem Looks.allOrNothing {p : InPlace (Option ℕ)} (h : Looks p) : AllOrNothing p := by
  intro s
  constructor
  · intro s' hrun
    exact (h s).1 none s' hrun
  · intro cause s' hrun
    exact (h s).2 (.refused cause) s' hrun

/-- A program may look before it starts. -/
theorem Looks.bind_allOrNothing {p : InPlace α} {f : α → InPlace (Option ℕ)} (hp : Looks p)
    (hf : ∀ a, AllOrNothing (f a)) : AllOrNothing (p >>= f) := by
  intro s
  cases hrun : p.run s with
  | ok a s' =>
    have heq : s' = s := (hp s).1 a s' hrun
    rw [run_bind_of_ok hrun, heq]
    exact hf a s
  | error halt s' =>
    have heq : s' = s := (hp s).2 halt s' hrun
    rw [run_bind_of_error hrun, heq]
    constructor
    · intro s'' h
      cases h
    · intro cause s'' h
      cases h
      rfl

/-- The program tells how many rows it touched whenever it ends. -/
def Touches (p : InPlace (Option ℕ)) : Prop :=
  ∀ s s', p.run s ≠ .ok none s'

theorem touches_pure (rows : ℕ) : Touches (pure (some rows)) := by
  intro s s' h
  cases h

theorem touches_bind {p : InPlace α} {f : α → InPlace (Option ℕ)} (hf : ∀ a, Touches (f a)) :
    Touches (p >>= f) := by
  intro s s' h
  cases hrun : p.run s with
  | ok a s'' =>
    rw [run_bind_of_ok hrun] at h
    exact hf a s'' s' h
  | error halt s'' =>
    rw [run_bind_of_error hrun] at h
    cases h

/-- A program that refuses nothing and touches rows whenever it ends owes nothing. -/
theorem Accepts.allOrNothing {p : InPlace (Option ℕ)} (hp : Accepts p) (ht : Touches p) :
    AllOrNothing p := by
  intro s
  constructor
  · intro s' h
    exact absurd h (ht s s')
  · intro cause s' h
    exact absurd h (hp s cause s')

theorem allOrNothing_add (values : Assignments) : AllOrNothing (add values) := by
  apply Accepts.allOrNothing
  · apply accepts_get.bind
    intro s
    apply (accepts_append _ _).bind
    intro _
    apply accepts_get.bind
    intro s
    apply (accepts_itemAt _ _).bind
    intro row
    exact accepts_pure _
  · apply touches_bind
    intro s
    apply touches_bind
    intro _
    apply touches_bind
    intro s
    apply touches_bind
    intro row
    exact touches_pure 1

theorem allOrNothing_addBatch (columns : OrderedMap (List String)) (rowCount : ℕ) :
    AllOrNothing (addBatch columns rowCount) := by
  apply Accepts.allOrNothing
  · apply (accepts_append _ _).bind
    intro _
    exact accepts_pure _
  · apply touches_bind
    intro _
    exact touches_pure rowCount

theorem allOrNothing_update (conditions : Conditions) (assignments : Assignments) :
    AllOrNothing (update conditions assignments) := by
  apply looks_get.bind_allOrNothing
  intro s
  split
  · exact (looks_pure none).allOrNothing
  · apply (looks_selectAll conditions).bind_allOrNothing
    intro mask
    show AllOrNothing (if mask.count true = 0 then _ else _)
    split
    · exact (looks_pure none).allOrNothing
    · -- from here on, rows are written
      apply Accepts.allOrNothing
      · apply (accepts_forM (fun _ => accepts_assignColumn _ _ _) _).bind
        intro _
        exact accepts_pure _
      · apply touches_bind
        intro _
        exact touches_pure _

theorem allOrNothing_delete (conditions : Conditions) (confirmed : Bool) :
    AllOrNothing (delete conditions confirmed) := by
  apply looks_get.bind_allOrNothing
  intro s
  split
  · exact (looks_pure none).allOrNothing
  · apply (looks_selectAll conditions).bind_allOrNothing
    intro mask
    show AllOrNothing (if mask.count true = 0 then _ else _)
    split
    · exact (looks_pure none).allOrNothing
    · split
      · exact (looks_throw _).allOrNothing
      · apply Accepts.allOrNothing
        · apply (accepts_modify _).bind
          intro _
          apply accepts_get.bind
          intro s
          exact accepts_pure _
        · apply touches_bind
          intro _
          apply touches_bind
          intro s
          exact touches_pure _

theorem allOrNothing_deleteAll (confirmed : Bool) : AllOrNothing (deleteAll confirmed) := by
  apply looks_get.bind_allOrNothing
  intro s
  split
  · exact (looks_pure none).allOrNothing
  · split
    · apply Accepts.allOrNothing
      · apply (accepts_modify _).bind
        intro _
        exact accepts_pure _
      · apply touches_bind
        intro _
        exact touches_pure _
    · exact (looks_throw _).allOrNothing

theorem allOrNothing_searchExact (column condition : String) :
    AllOrNothing (searchExact column condition) := by
  apply looks_get.bind_allOrNothing
  intro s
  split
  · exact (looks_pure none).allOrNothing
  · apply (looks_columnMask column condition).bind_allOrNothing
    intro mask
    exact (looks_pure none).allOrNothing

/-- A command that is refused, or that touches no row, has changed nothing at all. -/
theorem allOrNothing_apply (command : Command) : AllOrNothing (apply command) := by
  cases command with
  | help | clear | list | columns | search => exact (looks_pure none).allOrNothing
  | add values => exact allOrNothing_add values
  | addBatch columns rowCount => exact allOrNothing_addBatch columns rowCount
  | update conditions assignments => exact allOrNothing_update conditions assignments
  | delete conditions confirmed => exact allOrNothing_delete conditions confirmed
  | deleteAll confirmed => exact allOrNothing_deleteAll confirmed
  | searchExact column condition => exact allOrNothing_searchExact column condition

end InPlace
end TableShell
