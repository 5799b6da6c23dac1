import TableShell.Proofs.Terminal.Coherent
import TableShell.Proofs.Terminal.Editing

/-!
# Highlighting loses nothing

The spans of a highlighted line, one behind the other, are the line, and none of them is empty
(`highlight_lossless`). While the line is read, the characters that were read are those of the spans
that have ended and of the run at hand, in this order: `Highlight.State.Covers` says so, every
character keeps it, and at the end of the line the run becomes a span unless it is empty. So the
input box shows the text that is edited, and the cursor has the same characters before it in both.
-/

namespace TableShell
namespace Terminal

/-- The characters of the spans, from left to right. -/
def charsOf (spans : List Span) : List Char :=
  spans.flatMap fun span => span.text.toList

theorem charsOf_concat (spans : List Span) (cs : List Char) (style : Style) :
    charsOf (spans ++ [⟨.ofList cs, style⟩]) = charsOf spans ++ cs := by
  rw [charsOf, List.flatMap_append, List.flatMap_singleton, String.toList_ofList, charsOf]

/-- A span of some characters is not empty, and the spans before it are not. -/
theorem text_ne_empty_concat {spans : List Span} (h : ∀ span ∈ spans, span.text ≠ "")
    {cs : List Char} (hcs : cs ≠ []) (style : Style) :
    ∀ span ∈ spans ++ [⟨.ofList cs, style⟩], span.text ≠ "" := by
  intro span hspan
  rcases List.mem_append.mp hspan with hmem | hmem
  · exact h span hmem
  · rw [List.mem_singleton] at hmem
    subst hmem
    intro hempty
    have hchars := congrArg String.toList hempty
    rw [String.toList_ofList] at hchars
    exact hcs hchars

namespace Highlight
namespace State

variable {s : State} {read : List Char}

/-- The spans and the run at hand hold what was read, no span is empty, and a run in quotes holds
at least the quote that opened it. -/
structure Covers (s : State) (read : List Char) : Prop where
  chars_eq : charsOf s.spans ++ s.run = read
  text_ne : ∀ span ∈ s.spans, span.text ≠ ""
  run_ne : s.quote ≠ none → s.run ≠ []

theorem covers_initial : initial.Covers [] where
  chars_eq := rfl
  text_ne := by simp [initial]
  run_ne := by simp [initial]

theorem quote_flush (s : State) : s.flush.quote = s.quote := by
  unfold flush
  split <;> rfl

/-- A run that has ended is empty. -/
theorem run_flush (s : State) : s.flush.run = [] := by
  unfold flush
  split
  · assumption
  · rfl

/-- Ending the run moves its characters to the spans. -/
theorem Covers.flush (h : s.Covers read) (hquote : s.quote = none) : s.flush.Covers read := by
  constructor
  · unfold State.flush
    split
    · exact h.chars_eq
    · show charsOf (s.spans ++ [_]) ++ [] = read
      rw [charsOf_concat, List.append_nil, h.chars_eq]
  · unfold State.flush
    split
    · exact h.text_ne
    · rename_i hrun
      exact text_ne_empty_concat h.text_ne hrun _
  · intro hopen
    rw [quote_flush] at hopen
    exact absurd hquote hopen

/-- Behind an ended run, a character becomes a span of its own. -/
theorem Covers.single (h : s.Covers read) (hquote : s.quote = none) (hrun : s.run = []) (c : Char)
    (style : Style) : (s.single c style).Covers (read ++ [c]) := by
  have hspans : charsOf s.spans = read := by
    rw [← h.chars_eq, hrun, List.append_nil]
  constructor
  · show charsOf (s.spans ++ [_]) ++ s.run = read ++ [c]
    rw [charsOf_concat, hrun, hspans, List.append_nil]
  · exact text_ne_empty_concat h.text_ne (List.cons_ne_nil c []) style
  · intro hopen
    exact absurd hquote hopen

/-- A blank or a sign ends the run, and it changes what stands before the next run. -/
theorem Covers.apart (h : s.Covers read) (hquote : s.quote = none) (c : Char) (style : Style)
    (afterSign : Bool) :
    (({ s.flush with afterSign } : State).single c style).Covers (read ++ [c]) := by
  have hflush := h.flush hquote
  have hended : ({ s.flush with afterSign } : State).Covers read :=
    ⟨hflush.chars_eq, hflush.text_ne, hflush.run_ne⟩
  exact hended.single ((quote_flush s).trans hquote) (run_flush s) c style

/-- One more character is read. -/
theorem Covers.step (h : s.Covers read) (c : Char) : (s.step c).Covers (read ++ [c]) := by
  have htaken : charsOf s.spans ++ (s.run ++ [c]) = read ++ [c] := by
    rw [← List.append_assoc, h.chars_eq]
  have hne : s.run ++ [c] ≠ [] := List.append_ne_nil_of_right_ne_nil _ (List.cons_ne_nil c [])
  unfold State.step
  split
  · -- in quotes
    simp only
    split
    · refine ⟨?_, text_ne_empty_concat h.text_ne hne _, ?_⟩
      · show charsOf (s.spans ++ [_]) ++ [] = read ++ [c]
        rw [charsOf_concat, List.append_nil, htaken]
      · intro hopen
        exact absurd rfl hopen
    · exact ⟨htaken, h.text_ne, fun _ => hne⟩
  · rename_i hquote
    split
    · -- the run before the quote has ended, so only the quote is held back
      have hflush := h.flush hquote
      refine ⟨?_, hflush.text_ne, fun _ => List.cons_ne_nil c []⟩
      have hread := hflush.chars_eq
      rw [run_flush, List.append_nil] at hread
      show charsOf s.flush.spans ++ [c] = read ++ [c]
      rw [hread]
    · split
      · exact h.apart hquote c _ false
      · split
        · exact h.apart hquote c _ true
        · refine ⟨htaken, h.text_ne, ?_⟩
          intro hopen
          exact absurd hquote hopen

/-- A whole line is read. -/
theorem Covers.run (h : s.Covers read) (cs : List Char) :
    (cs.foldl State.step s).Covers (read ++ cs) := by
  induction cs generalizing s read with
  | nil =>
    rw [List.append_nil]
    exact h
  | cons c cs ih =>
    have hrest := ih (h.step c)
    rwa [List.append_assoc, List.singleton_append] at hrest

/-- At the end of the line, the spans hold all that was read. -/
theorem Covers.finish (h : s.Covers read) :
    charsOf s.finish = read ∧ ∀ span ∈ s.finish, span.text ≠ "" := by
  unfold State.finish
  split
  · rename_i q hquote
    have hrun : s.run ≠ [] := by
      apply h.run_ne
      rw [hquote]
      exact Option.some_ne_none q
    refine ⟨?_, text_ne_empty_concat h.text_ne hrun _⟩
    rw [charsOf_concat, h.chars_eq]
  · rename_i hquote
    have hflush := h.flush hquote
    refine ⟨?_, hflush.text_ne⟩
    have hread := hflush.chars_eq
    rwa [run_flush, List.append_nil] at hread

end State
end Highlight

theorem covers_highlight (line : String) :
    charsOf (highlight line) = line.toList ∧ ∀ span ∈ highlight line, span.text ≠ "" :=
  (Highlight.State.covers_initial.run line.toList).finish

/-- The symbols that spans are drawn with hold their characters. -/
theorem flatMap_styledSymbols (spans : List Span) :
    (Picture.styledSymbols spans).flatMap (fun entry => entry.1.text.toList) = charsOf spans := by
  have hsymbols : ∀ cs : List Char,
      (Text.symbols cs).flatMap (fun symbol => symbol.text.toList) = cs := by
    intro cs
    rw [Text.symbols, List.flatMap_map]
    simp only [String.toList_ofList]
    rw [List.flatMap_id', Text.flatten_graphemes]
  rw [Picture.styledSymbols, charsOf, List.flatMap_assoc]
  apply List.flatMap_congr
  intro span _
  rw [List.flatMap_map]
  exact hsymbols span.text.toList

namespace Session

/-- The spans of a highlighted line are the line, without an empty one. At every time, the symbols
that the input box is drawn with are the text that is edited, and the cursor stands behind as many
places as characters of the spans stand before it in that text. -/
theorem highlight_lossless (line : String) (store : Store) (clock : String) (events : List Event) :
    charsOf (highlight line) = line.toList ∧ (∀ span ∈ highlight line, span.text ≠ "") ∧
    let s := (new store clock).run events
    let spans := highlight s.input.text
    (Picture.styledSymbols spans).flatMap (fun entry => entry.1.text.toList)
        = s.input.text.toList ∧
      ∃ before after, charsOf spans = before ++ after ∧ byteLength before = s.input.cursor ∧
        (s.mode = .insert → ∀ height,
          Screen.cursorOf height s = some (Screen.placeBehind 1 before.length, 2)) := by
  obtain ⟨hchars, htext⟩ := covers_highlight line
  refine ⟨hchars, htext, ?_⟩
  intro s spans
  have hspans : charsOf spans = s.input.text.toList := (covers_highlight s.input.text).1
  refine ⟨?_, ?_⟩
  · rw [flatMap_styledSymbols, hspans]
  · -- the input line is that of a zipper, so the cursor parts its characters
    have hline : s.input = ((new store clock).zipperAfter .empty events).line :=
      input_run (keepsInput_new store clock).input events
    generalize (new store clock).zipperAfter .empty events = z at hline
    refine ⟨z.before, z.after, ?_, ?_, ?_⟩
    · rw [hspans, hline, InputLine.text, String.toList_ofList, z.chars_line]
    · rw [hline, z.cursor_line]
    · intro hmode height
      have hcoherent : s.Coherent :=
        run_induction (fun _ event h => h.step event) (coherent_new store clock) events
      have hfocus : s.focus = .input := hcoherent.focus_eq hmode
      unfold Screen.cursorOf
      rw [hmode, if_neg (by simp), if_pos ⟨rfl, hfocus⟩, hline, z.before_line]

/-- A quote that is left open, with signs and blanks before it, and a letter of two bytes that is
typed before the last of the line. -/
theorem highlight_lossless_open_quote :
    let line := "add  né>='x"
    let keys := [Key.char 'i' false, .char 'n' false, .char '=' false, .left, .char 'é' false]
    let s := (new (.memory .empty) "09:00:00").run (keys.map Event.press)
    (highlight line).map Span.text = ["add", " ", " ", "né", ">", "=", "'x"] ∧
      charsOf (highlight line) = line.toList ∧ "" ∉ (highlight line).map Span.text ∧
      (highlight s.input.text).map Span.text = ["né", "="] ∧ s.mode = .insert ∧
      ∃ before after, charsOf (highlight s.input.text) = before ++ after ∧ byteLength before = 3 ∧
        Screen.cursorOf 24 s = some (Screen.placeBehind 1 before.length, 2) := by
  intro line keys s
  obtain ⟨hchars, htext, -, before, after, hspans, hbytes, hcursor⟩ :=
    highlight_lossless line (.memory .empty) "09:00:00" (keys.map Event.press)
  have hmode : s.mode = .insert := by decide +kernel
  have hthree : s.input.cursor = 3 := by decide +kernel
  refine ⟨by decide +kernel, hchars, ?_, by decide +kernel, hmode, before, after, hspans,
    hbytes.trans hthree, hcursor hmode 24⟩
  intro hmem
  obtain ⟨span, hspan, hempty⟩ := List.mem_map.mp hmem
  exact htext span hspan hempty

end Session
end Terminal
end TableShell
