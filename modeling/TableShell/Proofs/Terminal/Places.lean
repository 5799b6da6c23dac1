import TableShell.Proofs.Report.Aligned
import TableShell.Proofs.Terminal.Coherent

/-!
# Places counted in 16 bits

The screen counts its places in 16 bits, while texts may be of any length. What is drawn of a
session stands at the places where it should exactly if its texts are short enough: the names and
cells on show, the command at the foot of the screen, and what stands before the cursor in the input
line (`drawnInPlace_iff`). No earlier bound sees to that. A column is as wide as its longest text
(`widths_run`), and whatever is typed goes to the command (`run_typed`), so that the cursor behind a
command of 65,536 characters is drawn where it stands behind none (`long_command_wraps`).

The rows of the picture are those of the screen as soon as it has room for all parts
(`length_rows_draw`), and the cursor stands on one of them (`cursor_on_row`).
-/

namespace TableShell
namespace Terminal

/-- The number of places that 16 bits tell apart. -/
def placeLimit : ℕ := 65536

namespace Screen

theorem toNat_columnPlaces (width : ℕ) :
    (columnPlaces width).toNat = (width + 2) % placeLimit := by
  have htwo : (2 : UInt16).toNat = 2 := rfl
  rw [columnPlaces, UInt16.toNat_add, htwo, Nat.toUInt16, UInt16.toNat_ofNat']
  unfold placeLimit
  omega

theorem toNat_placeBehind (start : UInt16) (chars : ℕ) :
    (placeBehind start chars).toNat = (start.toNat + chars) % placeLimit := by
  rw [placeBehind, UInt16.toNat_add, Nat.toUInt16, UInt16.toNat_ofNat']
  unfold placeLimit
  omega

/-- A column takes its width and two places exactly if these are fewer than all places. -/
theorem toNat_columnPlaces_eq_iff {width : ℕ} :
    (columnPlaces width).toNat = width + 2 ↔ width + 2 < placeLimit := by
  rw [toNat_columnPlaces]
  unfold placeLimit
  omega

theorem toNat_placeBehind_eq_iff {chars : ℕ} :
    (placeBehind 1 chars).toNat = 1 + chars ↔ 1 + chars < placeLimit := by
  have hone : (1 : UInt16).toNat = 1 := rfl
  rw [toNat_placeBehind, hone]
  unfold placeLimit
  omega

/-! ## Rows -/

section Rows

variable {width height : ℕ} {s : Session}

theorem length_heightOf (width height : ℕ) (base : Style) (rows : Picture) :
    (Picture.heightOf width height base rows).length = height := by
  rw [Picture.heightOf, List.length_append, List.length_take, List.length_replicate]
  omega

theorem length_transcriptRows (width height : ℕ) (transcript : Transcript) :
    (transcriptRows width height transcript).length = height := by
  unfold transcriptRows note
  split <;> exact length_heightOf _ _ _ _

theorem length_resultRows (width height : ℕ) (s : Session) :
    (resultRows width height s).length = height := by
  unfold resultRows note tableRows
  split
  · exact length_heightOf _ _ _ _
  · split <;> exact length_heightOf _ _ _ _

theorem length_box (width : ℕ) (style : Style) (title : String) (inner : Picture) :
    (Picture.box width style title inner).length = inner.length + 2 := by
  simp [Picture.box]

/-- The transcript and the table stand side by side in as many rows as they are given. -/
theorem length_body (width : ℕ) (h : 2 ≤ height) (s : Session) :
    (body width height s).length = height := by
  rw [body, Picture.beside, List.length_zipWith, length_box, length_box, length_transcriptRows,
    length_resultRows, Nat.min_self, Nat.sub_add_cancel h]

/-- From `leastHeight` on, the picture has the rows of the screen. -/
theorem length_rows_draw (width : ℕ) (h : leastHeight ≤ height) (s : Session) :
    (draw width height s).rows.length = height := by
  have hinput : (inputBox width s).length = 3 := by
    rw [inputBox, length_box]
    rfl
  have hbody : 2 ≤ height - otherRows := by
    unfold leastHeight otherRows bodyRows at *
    omega
  rw [draw, List.length_map, List.length_append, List.length_append, List.length_cons, hinput,
    length_body width hbody, List.length_singleton]
  unfold leastHeight otherRows bodyRows at *
  omega

/-- The cursor stands on a row of the picture. -/
theorem cursor_on_row {x y : UInt16} (h : leastHeight ≤ height) (hlimit : height < placeLimit)
    (hcursor : (draw width height s).cursor = some (x, y)) :
    y.toNat < (draw width height s).rows.length := by
  rw [length_rows_draw width h]
  have hcursor : cursorOf height s = some (x, y) := hcursor
  unfold cursorOf at hcursor
  unfold leastHeight otherRows bodyRows placeLimit at *
  split at hcursor
  · cases hcursor
    rw [Nat.toUInt16, UInt16.toNat_ofNat']
    omega
  · split at hcursor
    · cases hcursor
      have htwo : (2 : UInt16).toNat = 2 := rfl
      omega
    · cases hcursor

end Rows

end Screen

namespace Session

variable {s s' : Session} {notes : List Note}

/-! ## The widths of the table on show -/

/-- The widths are those that the table on show calls for. -/
def WidthsShown (s : Session) : Prop :=
  ∀ t, s.result = some t → s.widths = tableWidths t

theorem WidthsShown.move (h : s.WidthsShown) (hmove : s.Move notes s') : s'.WidthsShown := by
  cases hmove with
  | shown hwell title =>
    intro t ht
    cases ht
    rfl
  | hidden title =>
    intro t ht
    cases ht
  | _ => exact h

theorem WidthsShown.step (h : s.WidthsShown) (event : Event) : (s.step event).WidthsShown := by
  cases event with
  | press key => exact (s.moves_press key).keep WidthsShown.move h
  | reply text => exact (s.moves_submitReply text).keep WidthsShown.move h
  | stored store => exact h
  | clock time => exact h

/-- At every time, a column of the table on show is as wide as its name and its longest cell. -/
theorem widths_run (store : Store) (clock : String) (events : List Event) :
    ((new store clock).run events).WidthsShown := by
  apply run_induction (P := WidthsShown) fun _ event h => h.step event
  have hblank : (blank store clock).WidthsShown := by
    intro t ht
    cases ht
  rw [new_eq]
  exact (moves_reload _).keep WidthsShown.move hblank

/-- The width of a column, where the table calls for the widths. -/
theorem mem_drop_tableWidths {t : Table} {start width : ℕ} :
    width ∈ (tableWidths t).drop start ↔
      ∃ place column, start ≤ place ∧ t.columns[place]? = some column ∧
        width = max minWidth (Grid.columnWidth t.rows place column) := by
  have hplace : ∀ place, (tableWidths t)[place]?
      = t.columns[place]?.map fun column =>
        max minWidth (Grid.columnWidth t.rows place column) := by
    intro place
    rw [tableWidths, Grid.columnWidths, List.getElem?_map, List.getElem?_mapIdx, Option.map_map]
    rfl
  rw [List.mem_iff_getElem?]
  constructor
  · rintro ⟨i, hi⟩
    rw [List.getElem?_drop, hplace, Option.map_eq_some_iff] at hi
    obtain ⟨column, hcolumn, rfl⟩ := hi
    exact ⟨start + i, column, Nat.le_add_right start i, hcolumn, rfl⟩
  · rintro ⟨place, column, hle, hcolumn, rfl⟩
    refine ⟨place - start, ?_⟩
    rw [List.getElem?_drop, Nat.add_sub_cancel' hle, hplace, hcolumn, Option.map_some]

/-! ## Short texts -/

/-- What is drawn stands where it should: each column on show has its width and two places, and the
cursor stands behind the characters before it, and behind the colon or the border of the box. Of a
table without rows no column is drawn. -/
structure DrawnInPlace (s : Session) : Prop where
  columns : ∀ t, s.result = some t → t.rows ≠ [] → ∀ width ∈ s.widths.drop s.sideScroll,
    (Screen.columnPlaces width).toNat = width + 2
  cursor : ∀ height x y, Screen.cursorOf height s = some (x, y) →
    x.toNat = 1 + (if s.mode = .command then s.buffer.toList else s.input.before).length

/-- The texts of the session are short enough for places of 16 bits. -/
structure Short (s : Session) : Prop where
  names : ∀ t, s.result = some t → t.rows ≠ [] → ∀ place column, s.sideScroll ≤ place →
    t.columns[place]? = some column → Grid.width column.name + 2 < placeLimit
  cells : ∀ t, s.result = some t → t.rows ≠ [] → ∀ place column, s.sideScroll ≤ place →
    t.columns[place]? = some column → ∀ cell ∈ t.cellsAt place,
      Grid.width cell.display + 2 < placeLimit
  command : s.mode = .command → 1 + s.buffer.toList.length < placeLimit
  input : s.mode = .insert → 1 + s.input.before.length < placeLimit

/-- A column is narrow enough exactly if its name and its cells are. -/
theorem columnWidth_add_two_lt_iff {t : Table} {place : ℕ} {column : Column} :
    max minWidth (Grid.columnWidth t.rows place column) + 2 < placeLimit ↔
      Grid.width column.name + 2 < placeLimit ∧
        ∀ cell ∈ t.cellsAt place, Grid.width cell.display + 2 < placeLimit := by
  have hmin : minWidth ≤ placeLimit - 3 := by decide
  have hbound : ∀ n : ℕ, n + 2 < placeLimit ↔ n ≤ placeLimit - 3 := by
    intro n
    unfold placeLimit
    omega
  simp only [hbound, Nat.max_le, hmin, true_and]
  exact Grid.columnWidth_le_iff

theorem columns_inPlace_iff (h : s.WidthsShown) :
    (∀ t, s.result = some t → t.rows ≠ [] → ∀ width ∈ s.widths.drop s.sideScroll,
        (Screen.columnPlaces width).toNat = width + 2) ↔
      ∀ t, s.result = some t → t.rows ≠ [] → ∀ place column, s.sideScroll ≤ place →
        t.columns[place]? = some column → Grid.width column.name + 2 < placeLimit ∧
          ∀ cell ∈ t.cellsAt place, Grid.width cell.display + 2 < placeLimit := by
  apply forall_congr'
  intro t
  apply imp_congr_right
  intro hresult
  rw [h t hresult]
  simp only [Screen.toNat_columnPlaces_eq_iff, ← columnWidth_add_two_lt_iff]
  constructor
  · intro hwidths hrows place column hle hcolumn
    exact hwidths hrows _ (mem_drop_tableWidths.mpr ⟨place, column, hle, hcolumn, rfl⟩)
  · intro hcolumns hrows width hwidth
    obtain ⟨place, column, hle, hcolumn, rfl⟩ := mem_drop_tableWidths.mp hwidth
    exact hcolumns hrows place column hle hcolumn

theorem cursor_inPlace_iff (hfocus : s.mode = .insert → s.focus = .input) :
    (∀ height x y, Screen.cursorOf height s = some (x, y) →
        x.toNat = 1 + (if s.mode = .command then s.buffer.toList else s.input.before).length) ↔
      (s.mode = .command → 1 + s.buffer.toList.length < placeLimit) ∧
        (s.mode = .insert → 1 + s.input.before.length < placeLimit) := by
  unfold Screen.cursorOf
  cases hmode : s.mode with
  | normal => simp
  | insert => simp [hfocus hmode, Screen.toNat_placeBehind_eq_iff]
  | command => simp [Screen.toNat_placeBehind_eq_iff]

/-- At every time, what is drawn of a session stands where it should exactly if the names and cells
on show, the command at the foot of the screen and what stands before the cursor are short. -/
theorem drawnInPlace_iff (store : Store) (clock : String) (events : List Event) :
    let s := (new store clock).run events
    s.DrawnInPlace ↔ s.Short := by
  intro s
  have hcoherent : s.Coherent :=
    run_induction (fun _ event h => h.step event) (coherent_new store clock) events
  have hcolumns := columns_inPlace_iff (widths_run store clock events)
  have hcursor := cursor_inPlace_iff hcoherent.focus_eq
  constructor
  · intro hdrawn
    have hshort := hcolumns.mp hdrawn.columns
    obtain ⟨hcommand, hinput⟩ := hcursor.mp hdrawn.cursor
    exact
      { names := fun t ht hrows place column hle hcolumn =>
          (hshort t ht hrows place column hle hcolumn).1
        cells := fun t ht hrows place column hle hcolumn =>
          (hshort t ht hrows place column hle hcolumn).2
        command := hcommand
        input := hinput }
  · intro hshort
    constructor
    · apply hcolumns.mpr
      intro t ht hrows place column hle hcolumn
      exact ⟨hshort.names t ht hrows place column hle hcolumn,
        hshort.cells t ht hrows place column hle hcolumn⟩
    · exact hcursor.mpr ⟨hshort.command, hshort.input⟩

/-- What is typed while a command is written goes to its end. -/
theorem run_typed (hmode : s.mode = .command) (cs : List Char) :
    s.run (cs.map fun c => .press (.char c false))
      = { s with buffer := .ofList (s.buffer.toList ++ cs) } := by
  induction cs generalizing s with
  | nil =>
    rw [List.append_nil, String.ofList_toList]
    rfl
  | cons c cs ih =>
    have hkey : s.press (.char c false) = s.commandKey (.char c false) := by
      rw [press, if_neg (by simp)]
      simp only [hmode]
    have hpress : s.step (.press (.char c false)) = { s with buffer := s.buffer.push c } := hkey
    rw [List.map_cons, run_cons, hpress, ih (by exact hmode), String.toList_push,
      List.append_assoc, List.singleton_append]

/-- A terminal on an empty table, with a command of so many characters at the foot of the screen. -/
def withCommand (chars : ℕ) : Session :=
  (new (.memory .empty) "09:00:00").run
    ((':' :: List.replicate chars 'a').map fun c => .press (.char c false))

theorem withCommand_eq (chars : ℕ) :
    withCommand chars = { new (.memory .empty) "09:00:00" with
      mode := .command, buffer := .ofList (List.replicate chars 'a') } := by
  have hopened : (new (.memory .empty) "09:00:00").step (.press (.char ':' false))
      = { new (.memory .empty) "09:00:00" with mode := .command, buffer := "" } := rfl
  rw [withCommand, List.map_cons, run_cons, hopened, run_typed rfl]
  rfl

/-- The cursor behind a command of 65,536 characters is drawn right behind the colon, where the
first of them stands. -/
theorem long_command_wraps :
    (withCommand 65536).mode = .command ∧ (withCommand 65536).buffer.toList.length = 65536 ∧
      Screen.cursorOf 24 (withCommand 65536) = some (1, 23) ∧
      ¬ (withCommand 65536).DrawnInPlace := by
  have hmode : (withCommand 65536).mode = .command := by rw [withCommand_eq]
  have hlength : (withCommand 65536).buffer.toList.length = 65536 := by
    rw [withCommand_eq, String.toList_ofList, List.length_replicate]
  have hcursor : Screen.cursorOf 24 (withCommand 65536) = some (1, 23) := by
    rw [Screen.cursorOf, if_pos hmode, hlength]
    decide
  refine ⟨hmode, hlength, hcursor, ?_⟩
  intro hdrawn
  have hplace := hdrawn.cursor 24 1 23 hcursor
  rw [if_pos hmode, hlength] at hplace
  exact absurd hplace (by decide)

end Session
end Terminal
end TableShell
