import TableShell.Proofs.Terminal.ByteEdits
import TableShell.Proofs.Terminal.Events
import TableShell.Proofs.Text.Trimming

/-!
# Keys on the input line

What a key does to the input line depends on the mode, the focus and the command at the foot of the
screen (`Session.strokeOf`): it is an edit, recalls a line of the history, runs the line, clears it,
or leaves it alone. A zipper that follows the same strokes always stands for the input line
(`input_is_zipper`), so that no cut that an edit makes, or that the drawing of the cursor makes, ever
fails.
-/

namespace TableShell
namespace Terminal

open Text

/-! ## Edits -/

/-- What a key can do at the cursor. -/
inductive Edit
  | insert (c : Char)
  | backspace
  | deleteForward
  | left
  | right
  | start
  | stop
  | wordForward
  | wordBackward
  | deleteWordBackward
  | deleteToEnd
  | deleteToStart
deriving DecidableEq

namespace Edit

/-- The edit of the input line. -/
def onLine : Edit → InputLine → InputLine
  | insert c, l => l.insert c
  | backspace, l => l.backspace
  | deleteForward, l => l.deleteForward
  | left, l => l.left
  | right, l => l.right
  | start, l => l.start
  | stop, l => l.stop
  | wordForward, l => l.wordForward
  | wordBackward, l => l.wordBackward
  | deleteWordBackward, l => l.deleteWordBackward
  | deleteToEnd, l => l.deleteToEnd
  | deleteToStart, l => l.deleteToStart

/-- The edit of the zipper. -/
def onZipper : Edit → Zipper → Zipper
  | insert c, z => z.insert c
  | backspace, z => z.backspace
  | deleteForward, z => z.deleteForward
  | left, z => z.left
  | right, z => z.right
  | start, z => z.start
  | stop, z => z.stop
  | wordForward, z => z.wordForward
  | wordBackward, z => z.wordBackward
  | deleteWordBackward, z => z.deleteWordBackward
  | deleteToEnd, z => z.deleteToEnd
  | deleteToStart, z => z.deleteToStart

/-- The edit in bytes, where every cut can fail. -/
def onBytes? : Edit → InputLine → Option InputLine
  | insert c, l => l.insert? c
  | backspace, l => l.backspace?
  | deleteForward, l => l.deleteForward?
  | left, l => l.moveTo? l.placeBefore?
  | right, l => l.moveTo? l.placeBehind?
  | start, l => l.moveTo? (some 0)
  | stop, l => l.moveTo? (some (byteLength l.chars))
  | wordForward, l => l.moveTo? l.placeOfNextWord?
  | wordBackward, l => l.moveTo? l.placeOfWord?
  | deleteWordBackward, l => l.deleteWordBackward?
  | deleteToEnd, l => l.deleteToEnd?
  | deleteToStart, l => l.deleteToStart?

theorem onLine_line (e : Edit) (z : Zipper) : e.onLine z.line = (e.onZipper z).line := by
  cases e with
  | insert c => exact (z.line_insert c).symm
  | backspace => exact z.line_backspace.symm
  | deleteForward => exact z.line_deleteForward.symm
  | left => exact z.line_left.symm
  | right => exact z.line_right.symm
  | start => exact z.line_start.symm
  | stop => exact z.line_stop.symm
  | wordForward => exact z.line_wordForward.symm
  | wordBackward => exact z.line_wordBackward.symm
  | deleteWordBackward => exact z.line_deleteWordBackward.symm
  | deleteToEnd => exact z.line_deleteToEnd.symm
  | deleteToStart => exact z.line_deleteToStart.symm

/-- A movement in bytes, to the place where the zipper's cursor goes. -/
theorem moveTo?_line {z z' : Zipper} {place : Option ℕ}
    (htext : z'.before ++ z'.after = z.before ++ z.after)
    (hplace : place = some (byteLength z'.before)) : z.line.moveTo? place = some z'.line := by
  rw [hplace, Zipper.line_eq_moveBehind htext]
  rfl

/-- On the line of a zipper no edit in bytes fails, and it gives the line of the edited zipper. -/
theorem onBytes?_line (e : Edit) (z : Zipper) : e.onBytes? z.line = some (e.onZipper z).line := by
  cases e with
  | insert c => exact z.insert?_line c
  | backspace => exact z.backspace?_line
  | deleteForward => exact z.deleteForward?_line
  | left => exact moveTo?_line z.text_left z.placeBefore?_line
  | right => exact moveTo?_line z.text_right z.placeBehind?_line
  | start => exact moveTo?_line rfl rfl
  | stop => exact moveTo?_line (List.append_nil _) rfl
  | wordForward => exact moveTo?_line z.text_wordForward z.placeOfNextWord?_line
  | wordBackward => exact moveTo?_line z.text_wordBackward z.placeOfWord?_line
  | deleteWordBackward => exact z.deleteWordBackward?_line
  | deleteToEnd => exact z.deleteToEnd?_line
  | deleteToStart => exact z.deleteToStart?_line

end Edit

/-! ## Keys -/

/-- What a key means for the input line. -/
inductive Stroke
  /-- The line stays. -/
  | keep
  | edit (e : Edit)
  /-- The line before the recalled one takes its place. -/
  | older
  /-- The line behind the recalled one takes its place. -/
  | newer
  /-- The line is run. -/
  | submit
  | clear

namespace Stroke

/-- The stroke, if the input line has the focus. -/
def onInput (focus : Focus) (stroke : Stroke) : Stroke :=
  if focus = .input then stroke else keep

/-- A character in normal mode. -/
def ofNormalChar (focus : Focus) : Char → Stroke
  | 'I' => edit .start
  | 'a' => edit .right
  | 'A' => edit .stop
  | 'h' => onInput focus (edit .left)
  | 'l' => onInput focus (edit .right)
  | 'j' => onInput focus newer
  | 'k' => onInput focus older
  | '0' => onInput focus (edit .start)
  | '$' => onInput focus (edit .stop)
  | 'w' => onInput focus (edit .wordForward)
  | 'b' => onInput focus (edit .wordBackward)
  | 'x' => onInput focus (edit .deleteForward)
  | 'D' => onInput focus (edit .deleteToEnd)
  | _ => keep

/-- A key in normal mode. -/
def ofNormalKey (focus : Focus) : Key → Stroke
  | .char c _ => ofNormalChar focus c
  | .left => onInput focus (edit .left)
  | .right => onInput focus (edit .right)
  | .down => onInput focus newer
  | .up => onInput focus older
  | .enter => submit
  | _ => keep

/-- A character with the control key in insert mode. -/
def ofControl : Char → Stroke
  | 'w' => edit .deleteWordBackward
  | 'u' => edit .deleteToStart
  | 'k' => edit .deleteToEnd
  | 'a' => edit .start
  | 'e' => edit .stop
  | 'l' => keep
  | c => edit (.insert c)

/-- A key in insert mode. -/
def ofInsertKey : Key → Stroke
  | .char c true => ofControl c
  | .char c false => edit (.insert c)
  | .enter => submit
  | .backspace => edit .backspace
  | .delete => edit .deleteForward
  | .left => edit .left
  | .right => edit .right
  | .lineStart => edit .start
  | .lineEnd => edit .stop
  | .up => older
  | .down => newer
  | .escape | .tab | .other => keep

/-- The command at the foot of the screen. -/
def ofBuffer (buffer : String) : Stroke :=
  let command := trim buffer
  if command = "e" ∨ command = "exec" ∨ command = "execute" then submit
  else if command = "clear" then clear
  else keep

end Stroke

namespace Session

/-- What a key means for the input line of the session. -/
def strokeOf (s : Session) (key : Key) : Stroke :=
  if key = .char 'c' true then
    .keep
  else
    match s.mode with
    | .normal => .ofNormalKey s.focus key
    | .insert => .ofInsertKey key
    | .command => if key = .enter then .ofBuffer s.buffer else .keep

/-- The input line after a stroke. -/
def lineAfter (s : Session) : Stroke → InputLine
  | .keep => s.input
  | .edit e => e.onLine s.input
  | .older => s.historyUp.input
  | .newer => s.historyDown.input
  | .submit => s.submit.input
  | .clear => .empty

variable (s : Session)

theorem input_onFocus {input results : Session → Session} {stroke : Stroke}
    (hinput : (input s).input = s.lineAfter stroke) (hresults : (results s).input = s.input) :
    (s.onFocus input results).input = s.lineAfter (.onInput s.focus stroke) := by
  unfold onFocus Stroke.onInput
  split
  · exact hinput
  · exact hresults

theorem input_scrollDown : s.scrollDown.input = s.input := by
  unfold scrollDown
  split
  · split <;> rfl
  · rfl

theorem input_scrollRight : s.scrollRight.input = s.input := by
  unfold scrollRight
  split <;> rfl

theorem input_scrollToBottom : s.scrollToBottom.input = s.input := by
  unfold scrollToBottom
  split <;> rfl

theorem input_pageDown : s.pageDown.input = s.input := by
  unfold pageDown
  split <;> rfl

theorem input_normalChar (c : Char) (control : Bool) :
    (s.normalChar c control).input = s.lineAfter (.ofNormalChar s.focus c) := by
  unfold normalChar
  simp only
  split
  case h_7 => exact s.input_onFocus rfl rfl
  case h_8 => exact s.input_onFocus rfl s.input_scrollRight
  case h_9 => exact s.input_onFocus rfl s.input_scrollDown
  case h_10 => exact s.input_onFocus rfl rfl
  case h_11 => exact s.input_onFocus rfl rfl
  case h_12 => exact s.input_onFocus rfl rfl
  case h_13 => exact s.input_onFocus rfl rfl
  case h_14 => exact s.input_onFocus rfl rfl
  case h_15 =>
    unfold onFocus
    split <;> rfl
  case h_16 =>
    unfold onFocus
    split
    · rfl
    · exact s.input_scrollToBottom
  case h_17 =>
    split
    · exact s.input_pageDown
    · rfl
  case h_18 => split <;> rfl
  case h_19 => exact s.input_onFocus rfl rfl
  case h_20 => exact s.input_onFocus rfl rfl
  case h_21 =>
    -- a character without a meaning is none of those that edit
    unfold Stroke.ofNormalChar
    split <;> first | rfl | contradiction
  all_goals rfl

theorem input_normalKey (key : Key) :
    (s.normalKey key).input = s.lineAfter (.ofNormalKey s.focus key) := by
  cases key with
  | char c control => exact s.input_normalChar c control
  | left => exact s.input_onFocus rfl rfl
  | right => exact s.input_onFocus rfl s.input_scrollRight
  | down => exact s.input_onFocus rfl s.input_scrollDown
  | up => exact s.input_onFocus rfl rfl
  | _ => rfl

theorem input_insertKey (key : Key) :
    (s.insertKey key).input = s.lineAfter (.ofInsertKey key) := by
  cases key with
  | char c control =>
    cases control with
    | false => rfl
    | true =>
      show (s.insertControl c).input = s.lineAfter (.ofControl c)
      unfold insertControl
      split
      case h_7 =>
        unfold Stroke.ofControl
        split <;> first | rfl | contradiction
      all_goals rfl
  | _ => rfl

theorem input_runBuffer : s.runBuffer.input = s.lineAfter (.ofBuffer s.buffer) := by
  unfold runBuffer Stroke.ofBuffer
  generalize trim s.buffer = command
  simp only
  split
  · rename_i hquit
    rcases hquit with rfl | rfl <;> rfl
  · split
    · rfl
    · split
      · rename_i hreload
        rw [s.keepsInput_reload.input]
        rcases hreload with rfl | rfl <;> rfl
      · split
        · rfl
        · split
          · exact (s.keepsInput_submitReply _).input
          · rfl

theorem input_commandKey (key : Key) :
    (s.commandKey key).input
      = s.lineAfter (if key = .enter then .ofBuffer s.buffer else .keep) := by
  cases key with
  | enter =>
    rw [if_pos rfl, ← input_runBuffer]
    unfold commandKey executeBuffer
    dsimp only
  | backspace =>
    show (if _ then _ else _ : Session).input = _
    split <;> rfl
  | _ => rfl

/-- The input line after a key is that after its stroke. -/
theorem input_press (key : Key) : (s.press key).input = s.lineAfter (s.strokeOf key) := by
  unfold press strokeOf
  split
  · split <;> rfl
  · cases hmode : s.mode with
    | normal => exact s.input_normalKey key
    | insert => exact s.input_insertKey key
    | command => exact s.input_commandKey key

end Session

/-! ## The zipper of a session -/

namespace Zipper

/-- A line that is run leaves the input line empty, and a blank one is not run. -/
def submitted (z : Zipper) : Zipper :=
  if (z.before ++ z.after).all isBlank then z else empty

/-- The recalled line with the cursor at its end, or nothing. -/
def ofRecalled : Option String → Zipper
  | some line => ofString line
  | none => empty

/-- The zipper after a stroke, where the history tells what is recalled. -/
def follow (history : History) : Stroke → Zipper → Zipper
  | .keep, z => z
  | .edit e, z => e.onZipper z
  | .older, z => (history.up.map fun h => ofRecalled h.recalled?).getD z
  | .newer, z => (history.down.map fun h => ofRecalled h.recalled?).getD z
  | .submit, z => z.submitted
  | .clear, _ => empty

end Zipper

namespace Session

variable {s : Session} {z : Zipper}

theorem input_showRecalled (history : History) :
    (s.showRecalled history).input = (Zipper.ofRecalled history.recalled?).line := by
  unfold showRecalled Zipper.ofRecalled
  cases history.recalled? with
  | none => rfl
  | some line => exact (Zipper.line_ofString line).symm

/-- Where the zipper stands for the input line, it does so after every stroke. -/
theorem lineAfter_line (h : s.input = z.line) (stroke : Stroke) :
    s.lineAfter stroke = (Zipper.follow s.history stroke z).line := by
  cases stroke with
  | keep => exact h
  | edit e =>
    rw [lineAfter, h, Edit.onLine_line]
    rfl
  | older =>
    rw [lineAfter, historyUp, Zipper.follow]
    cases s.history.up with
    | none => exact h
    | some history => exact input_showRecalled history
  | newer =>
    rw [lineAfter, historyDown, Zipper.follow]
    cases s.history.down with
    | none => exact h
    | some history => exact input_showRecalled history
  | submit =>
    have htext : s.input.text = .ofList (z.before ++ z.after) := by
      rw [h]
      rfl
    have hblank : trim s.input.text = "" ↔ (z.before ++ z.after).all isBlank = true := by
      rw [htext, trim_eq_empty_iff, String.toList_ofList]
    rw [lineAfter, Zipper.follow, Zipper.submitted]
    split
    · rename_i hall
      rw [submit_of_blank s (hblank.mpr hall)]
      exact h
    · rename_i hall
      rw [(keepsInput_submit s rfl (mt hblank.mp hall)).input]
      rfl
  | clear => rfl

/-- The zipper after an event. -/
def zipperStep (s : Session) (z : Zipper) : Event → Zipper
  | .press key => .follow s.history (s.strokeOf key) z
  | .reply _ | .stored _ | .clock _ => z

/-- The zipper after all the events. -/
def zipperAfter (s : Session) (z : Zipper) : List Event → Zipper
  | [] => z
  | event :: events => zipperAfter (s.step event) (s.zipperStep z event) events

theorem input_step (h : s.input = z.line) (event : Event) :
    (s.step event).input = (s.zipperStep z event).line := by
  cases event with
  | press key =>
    rw [step, input_press, lineAfter_line h]
    rfl
  | reply text => exact (s.keepsInput_submitReply text).input.trans h
  | stored store => exact h
  | clock time => exact h

theorem input_run (h : s.input = z.line) (events : List Event) :
    (s.run events).input = (s.zipperAfter z events).line := by
  induction events generalizing s z with
  | nil => exact h
  | cons event events ih =>
    rw [run_cons, zipperAfter]
    exact ih (input_step h event)

/-- At every time, the input line is the text of the zipper that has followed the same events, and
its cursor is the number of bytes of the first part, a place between two characters. Whatever key
comes next, the line goes where the zipper goes; an edit of it that is made in bytes does not fail
and comes to the same, and neither does the drawing of the cursor. -/
theorem input_is_zipper (store : Store) (clock : String) (events : List Event) :
    let s := (new store clock).run events
    let z := (new store clock).zipperAfter .empty events
    s.input.text = String.ofList (z.before ++ z.after) ∧
    s.input.cursor = (String.ofList z.before).utf8ByteSize ∧
    s.input.cursor ≤ s.input.text.utf8ByteSize ∧
    String.Pos.Raw.IsValid s.input.text ⟨s.input.cursor⟩ ∧
    (∀ key, (s.press key).input = (Zipper.follow s.history (s.strokeOf key) z).line) ∧
    (∀ e : Edit, e.onBytes? s.input = some (e.onZipper z).line) ∧
    s.input.drawnBefore? = some z.before := by
  intro s z
  have hline : s.input = z.line := by
    apply input_run
    exact (keepsInput_new store clock).input
  have hvalid : String.Pos.Raw.IsValid s.input.text ⟨s.input.cursor⟩ := by
    rw [hline, ← isSome_cutAt?_iff, InputLine.text, String.toList_ofList, z.cutAt?_line]
    rfl
  refine ⟨?_, ?_, hvalid.le_utf8ByteSize, hvalid, ?_, ?_, ?_⟩
  · rw [hline]
    rfl
  · rw [hline, utf8ByteSize_eq, String.toList_ofList]
    rfl
  · intro key
    rw [input_press, lineAfter_line hline]
  · intro e
    rw [hline, Edit.onBytes?_line]
  · rw [hline, z.drawnBefore?_line]

end Session
end Terminal
end TableShell
