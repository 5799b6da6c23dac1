import TableShell.Proofs.Shell.Shown
import TableShell.Proofs.Terminal.Events
import TableShell.Proofs.Text.Trimming

/-!
# All that an event can do

`Move` lists the single changes that a session goes through, each under the condition under which it
comes, and with what it says to the transcript. What a key or the reply of an agent does is a
sequence of them (`moves_press`, `moves_submitReply`), so that what every move keeps, every event
keeps (`Moves.keep`).
-/

namespace TableShell
namespace Terminal

/-- What is said to the transcript: a text to tell, or to forget all that was told. -/
inductive Note
  | told (time : String) (kind : LineKind) (text : String)
  | wiped
deriving DecidableEq

namespace Session

/-- One change of a session, and what it says. -/
inductive Move (s : Session) : List Note → Session → Prop
  -- the input line and its history
  | edited (input : InputLine) : Move s [] { s with input }
  | recalled {history : History} (h : s.history.up = some history ∨ s.history.down = some history)
    (input : InputLine) : Move s [] { s with history, input }
  | listed {line : String} (htrim : Text.trim line = line) (hline : line ≠ "") :
    Move s [] { s with history := s.history.push line, input := .empty }
  -- the mode, the focus and the foot of the screen
  | inserting (h : s.mode = .normal) : Move s [] { s with mode := .insert, focus := .input }
  | inserted (h : s.mode = .insert) : Move s [] { s with mode := .normal }
  | focused (h : s.mode = .normal) (focus : Focus) : Move s [] { s with focus }
  | typing (h : s.mode = .normal) : Move s [] { s with mode := .command, buffer := "" }
  | typed (h : s.mode = .command) (buffer : String) : Move s [] { s with buffer }
  | closed : Move s [] { s with mode := .normal, buffer := "" }
  | ended : Move s [] { s with quit := true }
  -- the table on show
  | scrolled {scroll : ℕ} (h : scroll ≤ s.scroll ∨ ∃ t, s.result = some t ∧ scroll ≤ lastRow t) :
    Move s [] { s with scroll }
  | sideScrolled {sideScroll : ℕ} (h : sideScroll ≤ s.sideScroll ∨ sideScroll < s.widths.length) :
    Move s [] { s with sideScroll }
  | shown {t : Table} (h : s.store.Sound → t.WellFormed) (title : String) :
    Move s [] (s.showTable title t)
  | hidden (title : String) : Move s [] { s with result := none, title }
  -- the store, after a line was run on it, and the transcript
  | carried {store : Store} (h : s.store.Sound → store.Sound) : Move s [] { s with store }
  | told (kind : LineKind) (text : String) : Move s [.told s.clock kind text] (s.tell kind text)
  | wiped : Move s [.wiped] s.clearTranscript

/-- Changes one after the other, and all that they say. -/
inductive Moves : Session → List Note → Session → Prop
  | refl (s : Session) : Moves s [] s
  | next {s s' s'' : Session} {notes notes' : List Note} (h : s.Move notes s')
    (hrest : Moves s' notes' s'') : Moves s (notes ++ notes') s''

variable {s s' s'' : Session} {notes notes' : List Note}

theorem Move.moves (h : s.Move notes s') : s.Moves notes s' := by
  have hone := Moves.next h (.refl s')
  rwa [List.append_nil] at hone

namespace Moves

/-- A change that says nothing, before others. -/
theorem quiet (h : s.Move [] s') (hrest : s'.Moves notes s'') : s.Moves notes s'' :=
  .next h hrest

/-- A change that says one thing, before others. -/
theorem say {note : Note} (h : s.Move [note] s') (hrest : s'.Moves notes s'') :
    s.Moves (note :: notes) s'' :=
  .next h hrest

theorem trans (h : s.Moves notes s') (h' : s'.Moves notes' s'') :
    s.Moves (notes ++ notes') s'' := by
  induction h with
  | refl s => exact h'
  | next hmove _ ih =>
    rw [List.append_assoc]
    exact .next hmove (ih h')

/-- What every single change keeps, all of them keep. -/
theorem keep {P : Session → Prop}
    (hmove : ∀ {s s' notes}, P s → Move s notes s' → P s') (hmoves : s.Moves notes s') (h : P s) :
    P s' := by
  induction hmoves with
  | refl s => exact h
  | next hfirst _ ih => exact ih (hmove h hfirst)

end Moves

/-! ## What is told -/

/-- What is told of loading a table. -/
def loadNotes (store : Store) (clock : String) : List Note :=
  match store.load with
  | .ok _ => []
  | .error e => [.told clock (.outcome .error) e.message]

/-- What is told of an answer, where the store is the one after it. -/
def answerNotes (store : Store) (clock : String) (answer : Answer) : List Note :=
  (if answer.command = some Command.clear.name then [.wiped] else []) ++
    (.told clock (.outcome answer.report.severity) answer.report.message ::
      match answer.report.table with
      | some _ => []
      | none => loadNotes store clock)

variable (s)

/-- What running the line in the input box says. -/
def submitNotes : List Note :=
  let line := Text.trim s.input.text
  if line = "" then
    []
  else
    let (answer, store) := s.store.execute line
    .told s.clock .echo ("> " ++ line) :: answerNotes store s.clock answer

/-- What running the reply of an agent says. -/
def replyNotes (reply : String) : List Note :=
  let (answer, store) := s.store.executeReply reply
  (match answer.line with
    | some line => [.told s.clock .echo ("agent> " ++ line)]
    | none => []) ++ answerNotes store s.clock answer.answer

/-- What running the command at the foot of the screen says. -/
def bufferNotes : List Note :=
  let command := Text.trim s.buffer
  if command = "q" ∨ command = "quit" then
    []
  else if command = "e" ∨ command = "exec" ∨ command = "execute" then
    s.submitNotes
  else if command = "r" ∨ command = "reload" then
    loadNotes s.store s.clock
  else if command = "clear" then
    [.wiped]
  else
    match Text.dropPrefix? replyStart.toList command.toList with
    | some reply => s.replyNotes (.ofList reply)
    | none => []

/-- What a key says. -/
def keyNotes (key : Key) : List Note :=
  if key = .char 'c' true then
    []
  else if key = .enter then
    if s.mode = .command then s.bufferNotes else s.submitNotes
  else if key = .char 'l' true ∧ s.mode = .insert then
    [.wiped]
  else
    []

/-- What an event says. -/
def eventNotes : Event → List Note
  | .press key => s.keyNotes key
  | .reply text => s.replyNotes text
  | .stored _ | .clock _ => []

/-! ## Running -/

theorem moves_reload : s.Moves (loadNotes s.store s.clock) s.reload := by
  unfold reload loadNotes
  cases hload : s.store.load with
  | ok t =>
    have hwell : s.store.Sound → t.WellFormed := fun h => h t hload
    exact (Move.shown hwell _).moves
  | error e => exact .say (.told _ _) (Move.hidden _).moves

theorem moves_showAnswer {answer : Answer}
    (h : s.store.Sound → ∀ t, answer.report.table = some t → t.WellFormed) :
    s.Moves (answerNotes s.store s.clock answer) (s.showAnswer answer) := by
  -- whether the transcript is emptied first or not, the time and the store stay
  have hwiped : s.Moves (if answer.command = some Command.clear.name then [.wiped] else [])
      (if answer.command = some Command.clear.name then s.clearTranscript else s) := by
    split
    · exact Move.wiped.moves
    · exact .refl s
  have hclock : (if answer.command = some Command.clear.name then s.clearTranscript else s).clock
      = s.clock := by
    split <;> rfl
  have hstore : (if answer.command = some Command.clear.name then s.clearTranscript else s).store
      = s.store := by
    split <;> rfl
  unfold showAnswer answerNotes
  generalize (if answer.command = some Command.clear.name then s.clearTranscript else s) = told
    at hwiped hclock hstore ⊢
  rw [← hclock, ← hstore]
  refine hwiped.trans (.say (.told _ _) ?_)
  cases htable : answer.report.table with
  | some t =>
    refine (Move.shown ?_ _).moves
    intro hsound
    exact h (hstore ▸ hsound) t htable
  | none => exact moves_reload _

theorem moves_submit : s.Moves s.submitNotes s.submit := by
  unfold submitNotes
  generalize hline : Text.trim s.input.text = line
  by_cases hblank : line = ""
  · rw [submit_of_blank s (hline.trans hblank), if_pos hblank]
    exact .refl s
  · rw [submit_eq s hline hblank, if_neg hblank]
    have hanswers := s.store.answers_execute line
    generalize s.store.execute line = answered at hanswers ⊢
    obtain ⟨answer, store⟩ := answered
    have htrim : Text.trim line = line := by rw [← hline, Text.trim_trim]
    have hlisted : s.Move [] { s with history := s.history.push line, input := .empty } :=
      .listed htrim hblank
    have hcarried : (s.toldLine line).Move [] { s.toldLine line with store } :=
      .carried hanswers.sound
    have hshown := moves_showAnswer { s.toldLine line with store } hanswers.shown
    exact .quiet hlisted (.say (.told _ _) (.quiet hcarried hshown))

theorem moves_submitReply (reply : String) : s.Moves (s.replyNotes reply) (s.submitReply reply) := by
  rw [submitReply_eq]
  unfold replyNotes
  have hanswers := s.store.answers_executeReply reply
  generalize s.store.executeReply reply = answered at hanswers ⊢
  obtain ⟨⟨line, answer⟩, store⟩ := answered
  cases line with
  | none =>
    have hcarried : s.Move [] { s with store } := .carried hanswers.sound
    exact .quiet hcarried (moves_showAnswer { s with store } hanswers.shown)
  | some line =>
    have hcarried : (s.toldReply (some line)).Move [] { s.toldReply (some line) with store } :=
      .carried hanswers.sound
    have hshown := moves_showAnswer { s.toldReply (some line) with store } hanswers.shown
    exact .say (.told _ _) (.quiet hcarried hshown)

theorem moves_runBuffer : s.Moves s.bufferNotes s.runBuffer := by
  unfold runBuffer bufferNotes
  generalize Text.trim s.buffer = command
  simp only
  generalize Text.dropPrefix? replyStart.toList command.toList = reply
  split
  · exact Move.ended.moves
  · split
    · exact s.moves_submit
    · split
      · exact s.moves_reload
      · split
        · have hemptied : s.clearTranscript.Move [] { s.clearTranscript with input := .empty } :=
            .edited _
          exact .say .wiped hemptied.moves
        · cases reply with
          | some cs => exact s.moves_submitReply (.ofList cs)
          | none => exact .refl s

theorem moves_executeBuffer : s.Moves s.bufferNotes s.executeBuffer := by
  unfold executeBuffer
  have hmoves := s.moves_runBuffer
  -- of the session by then, only that it was reached by moves is used
  generalize s.runBuffer = ran at hmoves ⊢
  have hall := hmoves.trans (Move.moves .closed)
  rwa [List.append_nil] at hall

/-! ## Keys -/

theorem moves_edit (f : InputLine → InputLine) : s.Moves [] (s.edit f) :=
  (Move.edited _).moves

theorem moves_historyUp : s.Moves [] s.historyUp := by
  unfold historyUp
  split
  · exact (Move.recalled (Or.inl ‹_›) _).moves
  · exact .refl s

theorem moves_historyDown : s.Moves [] s.historyDown := by
  unfold historyDown
  split
  · exact (Move.recalled (Or.inr ‹_›) _).moves
  · exact .refl s

theorem moves_onFocus {input results : Session → Session} (hinput : s.Moves [] (input s))
    (hresults : s.Moves [] (results s)) : s.Moves [] (s.onFocus input results) := by
  unfold onFocus
  split
  · exact hinput
  · exact hresults

theorem moves_scrollUp : s.Moves [] s.scrollUp :=
  (Move.scrolled (Or.inl (Nat.sub_le _ _))).moves

theorem moves_scrollLeft : s.Moves [] s.scrollLeft :=
  (Move.sideScrolled (Or.inl (Nat.sub_le _ _))).moves

theorem moves_pageUp : s.Moves [] s.pageUp :=
  (Move.scrolled (Or.inl (Nat.sub_le _ _))).moves

theorem moves_scrollToTop : s.Moves [] s.scrollToTop :=
  (Move.scrolled (Or.inl (Nat.zero_le _))).moves

theorem moves_scrollDown : s.Moves [] s.scrollDown := by
  unfold scrollDown
  split
  · rename_i t hresult
    split
    · rename_i hlast
      exact (Move.scrolled (Or.inr ⟨t, hresult, hlast⟩)).moves
    · exact .refl s
  · exact .refl s

theorem moves_scrollRight : s.Moves [] s.scrollRight := by
  unfold scrollRight
  split
  · rename_i hwidths
    exact (Move.sideScrolled (Or.inr hwidths)).moves
  · exact .refl s

theorem moves_pageDown : s.Moves [] s.pageDown := by
  unfold pageDown
  split
  · rename_i t hresult
    exact (Move.scrolled (Or.inr ⟨t, hresult, Nat.min_le_right _ _⟩)).moves
  · exact .refl s

theorem moves_scrollToBottom : s.Moves [] s.scrollToBottom := by
  unfold scrollToBottom
  split
  · rename_i t hresult
    exact (Move.scrolled (Or.inr ⟨t, hresult, Nat.le_refl _⟩)).moves
  · exact .refl s

/-- An edit of the input line before it is written on. -/
theorem moves_editInsert (f : InputLine → InputLine) (hmode : s.mode = .normal) :
    s.Moves [] (s.edit f).enterInsert := by
  have hinserting : (s.edit f).Move [] (s.edit f).enterInsert := .inserting hmode
  exact .quiet (.edited _) hinserting.moves

theorem moves_normalChar (hmode : s.mode = .normal) (c : Char) (control : Bool) :
    s.Moves [] (s.normalChar c control) := by
  unfold normalChar
  simp only
  split
  case h_1 => exact (Move.inserting hmode).moves
  case h_2 => exact s.moves_editInsert _ hmode
  case h_3 => exact s.moves_editInsert _ hmode
  case h_4 => exact s.moves_editInsert _ hmode
  case h_5 => exact (Move.typing hmode).moves
  case h_6 => exact Move.ended.moves
  case h_7 => exact s.moves_onFocus (s.moves_edit _) s.moves_scrollLeft
  case h_8 => exact s.moves_onFocus (s.moves_edit _) s.moves_scrollRight
  case h_9 => exact s.moves_onFocus s.moves_historyDown s.moves_scrollDown
  case h_10 => exact s.moves_onFocus s.moves_historyUp s.moves_scrollUp
  case h_11 => exact s.moves_onFocus (s.moves_edit _) (.refl s)
  case h_12 => exact s.moves_onFocus (s.moves_edit _) (.refl s)
  case h_13 => exact s.moves_onFocus (s.moves_edit _) (.refl s)
  case h_14 => exact s.moves_onFocus (s.moves_edit _) (.refl s)
  case h_15 => exact s.moves_onFocus (.refl s) s.moves_scrollToTop
  case h_16 => exact s.moves_onFocus (.refl s) s.moves_scrollToBottom
  case h_17 =>
    split
    · exact s.moves_pageDown
    · exact .refl s
  case h_18 =>
    split
    · exact s.moves_pageUp
    · exact .refl s
  case h_19 => exact s.moves_onFocus (s.moves_edit _) (.refl s)
  case h_20 => exact s.moves_onFocus (s.moves_edit _) (.refl s)
  case h_21 => exact .refl s

theorem moves_normalKey (hmode : s.mode = .normal) {key : Key} (hkey : key ≠ .enter) :
    s.Moves [] (s.normalKey key) := by
  cases key with
  | enter => exact absurd rfl hkey
  | char c control => exact s.moves_normalChar hmode c control
  | tab => exact (Move.focused hmode _).moves
  | left =>
    show s.Moves [] (s.onFocus (·.edit .left) scrollLeft)
    exact s.moves_onFocus (s.moves_edit _) s.moves_scrollLeft
  | right =>
    show s.Moves [] (s.onFocus (·.edit .right) scrollRight)
    exact s.moves_onFocus (s.moves_edit _) s.moves_scrollRight
  | down => exact s.moves_onFocus s.moves_historyDown s.moves_scrollDown
  | up => exact s.moves_onFocus s.moves_historyUp s.moves_scrollUp
  | _ => exact .refl s

theorem moves_insertKey (hmode : s.mode = .insert) {key : Key} (hkey : key ≠ .enter)
    (hwipe : key ≠ .char 'l' true) : s.Moves [] (s.insertKey key) := by
  cases key with
  | enter => exact absurd rfl hkey
  | escape => exact (Move.inserted hmode).moves
  | char c control =>
    cases control with
    | true =>
      show s.Moves [] (s.insertControl c)
      unfold insertControl
      split
      case h_6 => exact absurd rfl hwipe
      all_goals exact s.moves_edit _
    | false => exact s.moves_edit (·.insert c)
  | up => exact s.moves_historyUp
  | down => exact s.moves_historyDown
  | tab => exact .refl s
  | other => exact .refl s
  | _ => exact s.moves_edit _

theorem moves_commandKey (hmode : s.mode = .command) {key : Key} (hkey : key ≠ .enter) :
    s.Moves [] (s.commandKey key) := by
  cases key with
  | enter => exact absurd rfl hkey
  | escape => exact Move.closed.moves
  | backspace =>
    unfold commandKey
    dsimp only
    generalize String.ofList s.buffer.toList.dropLast = buffer
    split
    · -- taking the last character away closes the foot of the screen
      rename_i hempty
      rw [hempty]
      exact Move.closed.moves
    · exact (Move.typed hmode _).moves
  | char c control => exact (Move.typed hmode _).moves
  | _ => exact .refl s

theorem moves_press (key : Key) : s.Moves (s.keyNotes key) (s.press key) := by
  unfold press keyNotes
  split
  · split
    · rename_i hmode
      exact (Move.inserted hmode).moves
    · exact Move.ended.moves
  · by_cases henter : key = .enter
    · rw [if_pos henter, henter]
      cases hmode : s.mode with
      | normal =>
        rw [if_neg (by simp)]
        unfold normalKey
        exact s.moves_submit
      | insert =>
        rw [if_neg (by simp)]
        unfold insertKey
        exact s.moves_submit
      | command =>
        rw [if_pos rfl]
        unfold commandKey
        exact s.moves_executeBuffer
    · rw [if_neg henter]
      cases hmode : s.mode with
      | normal =>
        rw [if_neg (by simp)]
        exact s.moves_normalKey hmode henter
      | insert =>
        split
        · rename_i hwipe
          rw [hwipe.1]
          exact Move.wiped.moves
        · rename_i hwipe
          exact s.moves_insertKey hmode henter fun hkey => hwipe ⟨hkey, rfl⟩
      | command =>
        rw [if_neg (by simp)]
        exact s.moves_commandKey hmode henter

end Session
end Terminal
end TableShell
