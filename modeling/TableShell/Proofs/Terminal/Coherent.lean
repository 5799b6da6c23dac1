import Mathlib.Data.List.Chain
import TableShell.Proofs.Terminal.Columns
import TableShell.Proofs.Terminal.Told

/-!
# Every session is coherent

At every time, the parts of a session agree with each other (`Session.Coherent`): the recalled line
is one of the history, what is written goes to the input line, and the widths and the scrolling are
those of the table on show, whether it came from a command, from the store, or after one that could
not be loaded. Each move keeps this, and so does every event (`coherent_throughout`).
-/

namespace TableShell
namespace Terminal

namespace History

/-- The recalled number is that of a line. The lines are trimmed and not empty, and no line repeats
the one before it. -/
structure Coherent (h : History) : Prop where
  index_lt : ∀ i, h.index = some i → i < h.lines.length
  trimmed : ∀ line ∈ h.lines, Text.trim line = line ∧ line ≠ ""
  distinct : h.lines.IsChain (· ≠ ·)

theorem coherent_empty : empty.Coherent where
  index_lt := by simp [empty]
  trimmed := by simp [empty]
  distinct := .nil

namespace Coherent

variable {h h' : History}

theorem push (hcoherent : h.Coherent) {line : String} (htrim : Text.trim line = line)
    (hline : line ≠ "") : (h.push line).Coherent := by
  unfold History.push
  constructor
  · intro i hi
    cases hi
  · intro other hmem
    simp only at hmem
    split at hmem
    · exact hcoherent.trimmed other hmem
    · rcases List.mem_append.mp hmem with hold | hnew
      · exact hcoherent.trimmed other hold
      · rw [List.mem_singleton.mp hnew]
        exact ⟨htrim, hline⟩
  · simp only
    split
    · exact hcoherent.distinct
    · rename_i hlast
      rw [List.isChain_append]
      refine ⟨hcoherent.distinct, .singleton line, ?_⟩
      intro last hmem next hnext heq
      -- the one line behind the last is the new one
      cases hnext
      exact hlast (heq ▸ hmem)

theorem up (hcoherent : h.Coherent) (hup : h.up = some h') : h'.Coherent := by
  unfold History.up at hup
  split at hup
  · cases hup
  · rename_i hempty
    cases hup
    refine ⟨?_, hcoherent.trimmed, hcoherent.distinct⟩
    intro i hi
    cases hi
    have hpos : 0 < h.lines.length := List.length_pos_of_ne_nil (by simpa using hempty)
    unfold indexBefore
    split
    · simp only
      omega
    · rename_i i hindex
      have hlt := hcoherent.index_lt i hindex
      simp only
      omega

theorem down (hcoherent : h.Coherent) (hdown : h.down = some h') : h'.Coherent := by
  unfold History.down at hdown
  split at hdown
  · cases hdown
  · cases hdown
    refine ⟨?_, hcoherent.trimmed, hcoherent.distinct⟩
    intro i hi
    simp only at hi
    split at hi
    · cases hi
      assumption
    · cases hi

end Coherent

end History

/-- The widths fit the table on show, which is scrolled to its last row and its last column at
most. -/
structure Shows (t : Table) (widths : List ℕ) (scroll sideScroll : ℕ) : Prop where
  fits : Fits t widths
  scroll_le : scroll ≤ t.rows.length - 1
  sideScroll_lt : sideScroll = 0 ∨ sideScroll < t.columns.length

namespace Session

/-- What the parts of a session have to do with each other. -/
structure Coherent (s : Session) : Prop where
  history : s.history.Coherent
  focus_eq : s.mode = .insert → s.focus = .input
  buffer_eq : s.mode ≠ .command → s.buffer = ""
  shows : ∀ t, s.result = some t → Shows t s.widths s.scroll s.sideScroll

variable {s s' : Session} {notes : List Note}

theorem Coherent.move (h : s.Coherent) (hmove : s.Move notes s') : s'.Coherent := by
  obtain ⟨hhistory, hfocus, hbuffer, hshows⟩ := h
  cases hmove with
  | recalled hrecalled input =>
    refine ⟨?_, hfocus, hbuffer, hshows⟩
    rcases hrecalled with hup | hdown
    · exact hhistory.up hup
    · exact hhistory.down hdown
  | listed htrim hline => exact ⟨hhistory.push htrim hline, hfocus, hbuffer, hshows⟩
  | inserting hmode =>
    have hempty := hbuffer (by simp [hmode])
    exact ⟨hhistory, fun _ => rfl, fun _ => hempty, hshows⟩
  | inserted hmode =>
    have hempty := hbuffer (by simp [hmode])
    exact ⟨hhistory, by simp, fun _ => hempty, hshows⟩
  | focused hmode focus => exact ⟨hhistory, by simp [hmode], hbuffer, hshows⟩
  | typing hmode => exact ⟨hhistory, by simp, fun _ => rfl, hshows⟩
  | typed hmode buffer => exact ⟨hhistory, hfocus, fun hne => absurd hmode hne, hshows⟩
  | closed => exact ⟨hhistory, by simp, fun _ => rfl, hshows⟩
  | @scrolled scroll hscroll =>
    refine ⟨hhistory, hfocus, hbuffer, ?_⟩
    intro t ht
    have hshown := hshows t ht
    refine ⟨hshown.fits, ?_, hshown.sideScroll_lt⟩
    rcases hscroll with hless | ⟨shown, hresult, hlast⟩
    · have hold := hshown.scroll_le
      simp only
      omega
    · rw [hresult] at ht
      cases ht
      exact hlast
  | @sideScrolled sideScroll hscroll =>
    refine ⟨hhistory, hfocus, hbuffer, ?_⟩
    intro t ht
    have hshown := hshows t ht
    refine ⟨hshown.fits, hshown.scroll_le, ?_⟩
    rcases hscroll with hless | hlast
    · have hold := hshown.sideScroll_lt
      simp only
      omega
    · -- the widths are those of this table, since it is on show
      rw [hshown.fits.length_eq] at hlast
      exact Or.inr hlast
  | @shown shown _ title =>
    -- a table brings its widths and takes the scrolling of the one before it back
    refine ⟨hhistory, hfocus, hbuffer, ?_⟩
    intro t ht
    cases ht
    exact ⟨fits_tableWidths shown, Nat.zero_le _, Or.inl rfl⟩
  | hidden title => exact ⟨hhistory, hfocus, hbuffer, by simp⟩
  | _ => exact ⟨hhistory, hfocus, hbuffer, hshows⟩

theorem Coherent.moves (h : s.Coherent) (hmoves : s.Moves notes s') : s'.Coherent :=
  hmoves.keep Coherent.move h

theorem Coherent.step (h : s.Coherent) (event : Event) : (s.step event).Coherent := by
  cases event with
  | press key => exact h.moves (s.moves_press key)
  | reply text => exact h.moves (s.moves_submitReply text)
  | stored store => exact ⟨h.history, h.focus_eq, h.buffer_eq, h.shows⟩
  | clock time => exact ⟨h.history, h.focus_eq, h.buffer_eq, h.shows⟩

theorem coherent_new (store : Store) (clock : String) : (new store clock).Coherent := by
  have hblank : (blank store clock).Coherent :=
    ⟨History.coherent_empty, fun _ => rfl, fun _ => rfl, by simp [blank]⟩
  rw [new_eq]
  exact hblank.moves (moves_reload _)

/-! ## Well formed tables on show -/

/-- The tables that the store gives and that are on show are well formed. -/
structure Sound (s : Session) : Prop where
  store : s.store.Sound
  shown : ∀ t, s.result = some t → t.WellFormed

theorem Sound.move (h : s.Sound) (hmove : s.Move notes s') : s'.Sound := by
  cases hmove with
  | shown hwell title =>
    refine ⟨h.store, ?_⟩
    intro t ht
    cases ht
    exact hwell h.store
  | hidden title => exact ⟨h.store, by simp⟩
  | carried hcarried => exact ⟨hcarried h.store, h.shown⟩
  | _ => exact ⟨h.store, h.shown⟩

theorem Sound.moves (h : s.Sound) (hmoves : s.Moves notes s') : s'.Sound :=
  hmoves.keep Sound.move h

end Session

/-- A store that comes from outside is sound. -/
def Event.Sound : Event → Prop
  | stored store => store.Sound
  | _ => True

namespace Session

variable {s : Session}

theorem Sound.step (h : s.Sound) {event : Event} (hevent : event.Sound) : (s.step event).Sound := by
  cases event with
  | press key => exact h.moves (s.moves_press key)
  | reply text => exact h.moves (s.moves_submitReply text)
  | stored store => exact ⟨hevent, h.shown⟩
  | clock time => exact ⟨h.store, h.shown⟩

theorem Sound.run (h : s.Sound) {events : List Event} (hevents : ∀ event ∈ events, event.Sound) :
    (s.run events).Sound := by
  induction events generalizing s with
  | nil => exact h
  | cons event events ih =>
    rw [run_cons]
    apply ih
    · exact h.step (hevents event List.mem_cons_self)
    · intro later hlater
      exact hevents later (List.mem_cons_of_mem event hlater)

theorem sound_new {store : Store} (h : store.Sound) (clock : String) : (new store clock).Sound := by
  have hblank : (blank store clock).Sound := ⟨h, by simp [blank]⟩
  rw [new_eq]
  exact hblank.moves (moves_reload _)

/-- At every time a session is coherent, and its transcript is the end of all that was told since it
was last emptied, of fifty lines at most. On stores that give well formed tables, as all files do,
the table on show is drawn without shortening a name or a cell. -/
theorem coherent_throughout (store : Store) (clock : String) (events : List Event) :
    let s := (new store clock).run events
    s.Coherent ∧
    s.transcript = .ofLog (logOf store clock events) ∧
    s.transcript.length ≤ Transcript.limit ∧
    (∀ location delimiter tree, (Store.file location delimiter tree).Sound) ∧
    (store.Sound → (∀ event ∈ events, event.Sound) → ∀ t, s.result = some t →
      t.WellFormed ∧ ∀ width height,
        Screen.tableRows width height s t = Screen.tableRowsWhole width height s t) := by
  intro s
  have hcoherent : s.Coherent :=
    run_induction (fun _ event h => h.step event) (coherent_new store clock) events
  have htranscript := transcript_run store clock events
  refine ⟨hcoherent, htranscript, ?_, Store.sound_file, ?_⟩
  · rw [htranscript]
    exact Transcript.length_ofLog_le _
  · intro hstore hevents t ht
    have hsound : s.Sound := (sound_new hstore clock).run hevents
    have hwell := hsound.shown t ht
    exact ⟨hwell, Screen.tableRows_eq_whole (hcoherent.shows t ht).fits hwell⟩

/-- A file of two columns. -/
def people : Store :=
  .file "t.csv" ',' ⟨[(["t.csv"], .text "name,age\nann,31\nbob,4\n")], []⟩

/-- The same file once others have written to it what is no text. -/
def garbled : Store :=
  .file "t.csv" ',' ⟨[(["t.csv"], .bytes [0xFF])], []⟩

/-- While its file cannot be read, a table that was scrolled is gone; it comes back from its first
row and column on. -/
theorem coherent_throughout_garbled :
    let reload : List Event := [.press (.char ':' false), .press (.char 'r' false), .press .enter]
    let events := [.press .tab, .press .down, .press .right, .stored garbled] ++ reload ++
      [.stored people] ++ reload
    let s := (new people "12:00:00").run events
    s.Coherent ∧ s.transcript.length = 1 ∧ s.scroll = 0 ∧ s.sideScroll = 0 ∧
      ∃ t, s.result = some t ∧ ∀ width height,
        Screen.tableRows width height s t = Screen.tableRowsWhole width height s t := by
  intro reload events s
  let t : Table := ⟨[⟨"name", .text⟩, ⟨"age", .integer⟩],
    [[.text "ann", .integer 31], [.text "bob", .integer 4]]⟩
  have hresult : s.result = some t := by decide +kernel
  obtain ⟨hcoherent, -, -, hfile, hwhole⟩ := coherent_throughout people "12:00:00" events
  have hevents : ∀ event ∈ events, event.Sound := by
    simp only [events, reload, List.cons_append, List.nil_append, List.forall_mem_cons,
      List.not_mem_nil, false_implies, implies_true, Event.Sound, and_true, true_and]
    exact ⟨hfile _ _ _, hfile _ _ _⟩
  have hdrawn := (hwhole (hfile _ _ _) hevents t hresult).2
  exact ⟨hcoherent, by decide +kernel, by decide +kernel, by decide +kernel, t, hresult, hdrawn⟩

end Session
end Terminal
end TableShell
