import Mathlib.Data.List.Induction
import TableShell.Proofs.Except.Traversal
import TableShell.Proofs.Words.Layout

/-!
# The grammar of a line

`Piece` lists what a word may be made of, and `Line Piece line words` what a line is. The reader
accepts exactly these lines, and gives the one list of words that they stand for (`read_grammar`).
Each other line is one of these up to a place where it breaks off: behind a backslash
(`EndsInBackslash`), or in quotes that are not closed (`LeavesOpen`).

That there is no other line (`line_or_breaks_off`) is a fact about the grammar alone, by induction
from the first character on: one more character continues the line, ends it, or breaks it off. What
the reader gives for each kind of line then settles what it gives at all.
-/

namespace TableShell
namespace Words

open Text

/-! ## Pieces -/

/-- What may stand between double quotes, and what it stands for. No quote stands in it but behind
a backslash, and a backslash that escapes nothing does not stand at its end. -/
inductive DoubleRun : (run cs : List Char) → Prop
  | nil : DoubleRun [] []
  | char {c : Char} {run cs : List Char} (hquote : c ≠ '"') (hbackslash : c ≠ '\\')
    (h : DoubleRun run cs) : DoubleRun (c :: run) (c :: cs)
  | escaped {c : Char} {run cs : List Char} (hc : isEscapable c = true) (h : DoubleRun run cs) :
    DoubleRun ('\\' :: c :: run) (c :: cs)
  | lineBreak {run cs : List Char} (h : DoubleRun run cs) : DoubleRun ('\\' :: '\n' :: run) cs
  | backslash {c : Char} {run cs : List Char} (hc : isEscapable c = false) (hbreak : c ≠ '\n')
    (h : DoubleRun (c :: run) cs) : DoubleRun ('\\' :: c :: run) ('\\' :: cs)

/-- What may stand between two quotes of a kind, and what it stands for. -/
inductive Run : (mark : Char) → (run cs : List Char) → Prop
  | single {run : List Char} (h : '\'' ∉ run) : Run '\'' run run
  | double {run cs : List Char} (h : DoubleRun run cs) : Run '"' run cs

/-- The pieces of a word: a character that stands for itself, any character behind a backslash, or
what stands in quotes. -/
inductive Piece : (written cs : List Char) → Prop
  | bare {c : Char} (h : IsBare c) : Piece [c] [c]
  | escaped (c : Char) : Piece ['\\', c] [c]
  | quoted {mark : Char} {run cs : List Char} (h : Run mark run cs) :
    Piece (mark :: (run ++ [mark])) cs

/-! ## Lines that break off -/

/-- The line ends in a backslash that stands outside quotes and is not escaped. -/
def EndsInBackslash (line : List Char) : Prop :=
  ∃ before words, line = before ++ ['\\'] ∧ Line Piece before words

/-- A quote of the kind that was opened before `rest` is not closed in it. -/
def StaysOpen (mark : Char) (rest : List Char) : Prop :=
  ∀ run cs after, Run mark run cs → rest ≠ run ++ mark :: after

/-- The quote that opens at the character of the index is not closed. -/
def LeavesOpen (line : List Char) (position : ℕ) : Prop :=
  ∃ before words mark rest, line = before ++ mark :: rest ∧ Line Piece before words ∧
    before.length = position ∧ (mark = '\'' ∨ mark = '"') ∧ StaysOpen mark rest

/-- One more character closes an open quote, or leaves it open. -/
theorem StaysOpen.concat {mark : Char} {rest : List Char} (h : StaysOpen mark rest) (c : Char) :
    StaysOpen mark (rest ++ [c]) ∨ c = mark ∧ ∃ cs, Run mark rest cs := by
  by_cases hopen : StaysOpen mark (rest ++ [c])
  · exact Or.inl hopen
  · right
    simp only [StaysOpen, not_forall, not_not] at hopen
    obtain ⟨run, cs, after, hrun, heq⟩ := hopen
    rcases List.eq_nil_or_concat after with rfl | ⟨after, last, rfl⟩
    · obtain ⟨rfl, hlast⟩ := List.append_inj' heq rfl
      exact ⟨List.head_eq_of_cons_eq hlast, cs, hrun⟩
    · -- the quote would have been closed before
      rw [List.concat_eq_append, ← List.cons_append, ← List.append_assoc] at heq
      obtain ⟨rfl, -⟩ := List.append_inj' heq rfl
      exact absurd rfl (h run cs after hrun)

/-- A quote is open as long as nothing follows it. -/
theorem staysOpen_nil (mark : Char) : StaysOpen mark [] := by
  intro run cs after _
  exact (List.append_ne_nil_of_right_ne_nil run (List.cons_ne_nil mark after)).symm

/-- Every line is one of the grammar, or one that breaks off. -/
theorem line_or_breaks_off (line : List Char) :
    (∃ words, Line Piece line words) ∨ EndsInBackslash line ∨
      ∃ position, LeavesOpen line position := by
  induction line using List.reverseRecOn with
  | nil => exact Or.inl ⟨[], .blank (by simp [IsGap])⟩
  | append_singleton line c ih =>
    rcases ih with ⟨words, hline⟩ | ⟨before, words, rfl, hbefore⟩ | ⟨position, hopen⟩
    · by_cases hblank : isBlank c = true
      · exact Or.inl ⟨words, hline.concat_blank hblank⟩
      by_cases hbackslash : c = '\\'
      · rw [hbackslash]
        exact Or.inr (Or.inl ⟨line, words, rfl, hline⟩)
      by_cases hquote : c = '\'' ∨ c = '"'
      · exact Or.inr (Or.inr ⟨_, line, words, c, [], rfl, hline, rfl, hquote, staysOpen_nil c⟩)
      · rw [not_or] at hquote
        have hbare : IsBare c :=
          ⟨Bool.eq_false_iff.mpr hblank, hquote.1, hquote.2, hbackslash⟩
        exact Or.inl (hline.concat_piece (.bare hbare))
    · -- whatever follows the backslash is escaped
      rw [List.append_assoc]
      exact Or.inl (hbefore.concat_piece (.escaped c))
    · obtain ⟨before, words, mark, rest, rfl, hbefore, hposition, hquote, hopen⟩ := hopen
      rw [List.append_assoc, List.cons_append]
      rcases hopen.concat c with hopen | ⟨rfl, cs, hrun⟩
      · exact Or.inr (Or.inr
          ⟨position, before, words, mark, rest ++ [c], rfl, hbefore, hposition, hquote, hopen⟩)
      · exact Or.inl (hbefore.concat_piece (.quoted hrun))

/-! ## Reading pieces -/

theorem scan_single_run {run : List Char} (h : '\'' ∉ run) (start : ℕ) (word : List Char)
    (position : ℕ) (rest : List Char) :
    scan (.single start word) position (run ++ '\'' :: rest)
      = scan (.outside (some (word ++ run))) (position + run.length + 1) rest := by
  induction run generalizing word position with
  | nil => rw [List.nil_append, scan_single_close, List.append_nil]; rfl
  | cons c run ih =>
    rw [List.mem_cons, not_or] at h
    rw [List.cons_append, scan_single_char (Ne.symm h.1), ih h.2, List.append_assoc,
      List.length_cons]
    congr 1
    omega

/-- A backslash in double quotes, with a character behind it. -/
theorem scan_double_backslash (start : ℕ) (word : List Char) (position : ℕ) (next : Char)
    (more : List Char) :
    scan (.double start word) position ('\\' :: next :: more) =
      if isEscapable next then scan (.double start (word ++ [next])) (position + 2) more
      else if next = '\n' then scan (.double start word) (position + 2) more
      else scan (.double start (word ++ ['\\'])) (position + 1) (next :: more) := by
  rw [scan_double_cons]
  rfl

theorem scan_double_char {c : Char} (hquote : c ≠ '"') (hbackslash : c ≠ '\\') (start : ℕ)
    (word : List Char) (position : ℕ) (rest : List Char) :
    scan (.double start word) position (c :: rest)
      = scan (.double start (word ++ [c])) (position + 1) rest := by
  rw [scan_double_cons, if_neg hquote, if_neg hbackslash]

theorem scan_double_run {run cs : List Char} (h : DoubleRun run cs) (start : ℕ) (word : List Char)
    (position : ℕ) (rest : List Char) :
    scan (.double start word) position (run ++ '"' :: rest)
      = scan (.outside (some (word ++ cs))) (position + run.length + 1) rest := by
  induction h generalizing word position with
  | nil =>
    rw [List.nil_append, scan_double_close, List.append_nil]
    rfl
  | char hquote hbackslash _ ih =>
    rw [List.cons_append, scan_double_char hquote hbackslash, ih, List.append_assoc,
      List.length_cons]
    congr 1
    omega
  | escaped hc _ ih =>
    rw [List.cons_append, List.cons_append, scan_double_backslash, if_pos hc, ih,
      List.append_assoc, List.length_cons, List.length_cons]
    congr 1
    omega
  | lineBreak _ ih =>
    rw [List.cons_append, List.cons_append, scan_double_backslash, if_neg (by decide), if_pos rfl,
      ih, List.length_cons, List.length_cons]
    congr 1
    omega
  | backslash hc hbreak _ ih =>
    rw [List.cons_append, List.cons_append, scan_double_backslash, hc,
      if_neg Bool.false_ne_true, if_neg hbreak, ← List.cons_append, ih, List.append_assoc]
    congr 1
    simp only [List.length_cons]
    omega

/-- The reader takes a piece for what it stands for. -/
theorem Piece.spells {written cs : List Char} (h : Piece written cs) : Spells written cs := by
  cases h with
  | bare h => exact h.spells
  | escaped c =>
    intro word position rest
    rw [List.cons_append, scan_outside_cons]
    rfl
  | quoted h =>
    intro word position rest
    rw [List.cons_append, List.append_assoc, List.singleton_append]
    cases h with
    | single h =>
      rw [scan_outside_single, scan_single_run h]
      congr 1
      simp only [List.length_cons, List.length_append, List.length_nil]
      omega
    | double h =>
      rw [scan_outside_double, scan_double_run h]
      congr 1
      simp only [List.length_cons, List.length_append, List.length_nil]
      omega

/-! ## Reading lines that break off -/

/-- Behind an opened single quote, the reader finds the one that closes it, or reports it. -/
theorem scan_single_cases (start : ℕ) (word : List Char) (position : ℕ) (rest : List Char) :
    scan (.single start word) position rest = .error (.noClosingQuotation start) ∨
      ∃ run after, '\'' ∉ run ∧ rest = run ++ '\'' :: after := by
  induction rest generalizing word position with
  | nil => exact Or.inl rfl
  | cons c rest ih =>
    by_cases hc : c = '\''
    · exact Or.inr ⟨[], rest, List.not_mem_nil, by rw [hc]; rfl⟩
    · rw [scan_single_char hc]
      rcases ih (word ++ [c]) (position + 1) with hopen | ⟨run, after, hrun, rfl⟩
      · exact Or.inl hopen
      · exact Or.inr
          ⟨c :: run, after, List.not_mem_cons_of_ne_of_not_mem (Ne.symm hc) hrun, rfl⟩

/-- Behind an opened double quote, too. -/
theorem scan_double_cases (start : ℕ) (word : List Char) (position : ℕ) (rest : List Char) :
    scan (.double start word) position rest = .error (.noClosingQuotation start) ∨
      ∃ run cs after, DoubleRun run cs ∧ rest = run ++ '"' :: after := by
  -- the reader may take two characters at once, so the induction is on how many are left
  induction hlength : rest.length using Nat.strong_induction_on generalizing rest word position with
  | h n ih =>
    subst hlength
    cases rest with
    | nil => exact Or.inl rfl
    | cons c rest =>
      by_cases hquote : c = '"'
      · exact Or.inr ⟨[], [], rest, .nil, by rw [hquote]; rfl⟩
      by_cases hbackslash : c = '\\'
      · subst hbackslash
        cases rest with
        | nil =>
          rw [scan_double_cons]
          exact Or.inl rfl
        | cons next more =>
          rw [scan_double_backslash]
          have hmore : more.length < ('\\' :: next :: more).length := by
            rw [List.length_cons, List.length_cons]
            omega
          split
          · rename_i hnext
            rcases ih _ hmore _ _ more rfl with hopen | ⟨run, cs, after, hrun, rfl⟩
            · exact Or.inl hopen
            · exact Or.inr ⟨_, _, after, .escaped hnext hrun, rfl⟩
          split
          · rename_i hbreak
            subst hbreak
            rcases ih _ hmore _ _ more rfl with hopen | ⟨run, cs, after, hrun, rfl⟩
            · exact Or.inl hopen
            · exact Or.inr ⟨_, _, after, .lineBreak hrun, rfl⟩
          · rename_i hnext hbreak
            rcases ih _ (Nat.lt_succ_self _) _ _ (next :: more) rfl with hopen | ⟨run, cs, after, hrun, heq⟩
            · exact Or.inl hopen
            · cases run with
              | nil =>
                -- a quote would have been escaped
                obtain rfl : next = '"' := List.head_eq_of_cons_eq heq
                exact absurd (by decide) hnext
              | cons d run =>
                obtain ⟨rfl, rfl⟩ := List.cons.inj heq
                have hrun' := DoubleRun.backslash (Bool.eq_false_iff.mpr hnext) hbreak hrun
                exact Or.inr ⟨_, _, after, hrun', rfl⟩
      · rw [scan_double_char hquote hbackslash]
        rcases ih _ (Nat.lt_succ_self _) _ _ rest rfl with hopen | ⟨run, cs, after, hrun, rfl⟩
        · exact Or.inl hopen
        · exact Or.inr ⟨_, _, after, .char hquote hbackslash hrun, rfl⟩

/-- A quote that stays open is reported with its index. -/
theorem scan_staysOpen {mark : Char} (hmark : mark = '\'' ∨ mark = '"') {rest : List Char}
    (h : StaysOpen mark rest) (word : Option (List Char)) (position : ℕ) :
    scan (.outside word) position (mark :: rest) = .error (.noClosingQuotation position) := by
  rcases hmark with rfl | rfl
  · rw [scan_outside_single]
    rcases scan_single_cases position (word.getD []) (position + 1) rest
      with hopen | ⟨run, after, hrun, heq⟩
    · exact hopen
    · exact absurd heq (h run run after (.single hrun))
  · rw [scan_outside_double]
    rcases scan_double_cases position (word.getD []) (position + 1) rest
      with hopen | ⟨run, cs, after, hrun, heq⟩
    · exact hopen
    · exact absurd heq (h run cs after (.double hrun))

theorem scan_of_endsInBackslash {line : List Char} (h : EndsInBackslash line) :
    scan (.outside none) 0 line = .error .noEscapedCharacter := by
  obtain ⟨before, words, rfl, hbefore⟩ := h
  obtain ⟨done, last, -, hline⟩ := scan_line Piece.spells hbefore
  rw [hline, scan_outside_cons]
  rfl

theorem scan_of_leavesOpen {line : List Char} {position : ℕ} (h : LeavesOpen line position) :
    scan (.outside none) 0 line = .error (.noClosingQuotation position) := by
  obtain ⟨before, words, mark, rest, rfl, hbefore, rfl, hmark, hopen⟩ := h
  obtain ⟨done, last, -, hline⟩ := scan_line Piece.spells hbefore
  rw [hline, scan_staysOpen hmark hopen, Nat.zero_add]
  rfl

/-! ## What the reader gives -/

/-- What the grammar says of a line: its words, or how it breaks off. -/
def Outcome (line : List Char) : Except Error (List (List Char)) → Prop
  | .ok words => Line Piece line words
  | .error .noEscapedCharacter => EndsInBackslash line
  | .error (.noClosingQuotation position) => LeavesOpen line position

theorem exists_outcome (line : List Char) : ∃ result, Outcome line result := by
  rcases line_or_breaks_off line with ⟨words, hline⟩ | hends | ⟨position, hopen⟩
  · exact ⟨.ok words, hline⟩
  · exact ⟨.error .noEscapedCharacter, hends⟩
  · exact ⟨.error (.noClosingQuotation position), hopen⟩

theorem scan_of_outcome {line : List Char} {result : Except Error (List (List Char))}
    (h : Outcome line result) : scan (.outside none) 0 line = result := by
  match result with
  | .ok words => exact scan_of_line Piece.spells h
  | .error .noEscapedCharacter => exact scan_of_endsInBackslash h
  | .error (.noClosingQuotation position) => exact scan_of_leavesOpen h

/-- The reader gives what the grammar says. -/
theorem scan_eq_iff {line : List Char} {result : Except Error (List (List Char))} :
    scan (.outside none) 0 line = result ↔ Outcome line result := by
  constructor
  · rintro rfl
    obtain ⟨result, hresult⟩ := exists_outcome line
    rwa [scan_of_outcome hresult]
  · exact scan_of_outcome

theorem read_eq_ok_iff_scan {line : String} {words : List String} :
    read line = .ok words
      ↔ scan (.outside none) 0 line.toList = .ok (words.map String.toList) := by
  rw [read, Traversal.map_eq_ok_iff]
  constructor
  · rintro ⟨charWords, hscan, rfl⟩
    rw [hscan, List.map_map]
    simp
  · intro hscan
    exact ⟨_, hscan, by simp⟩

theorem read_eq_error_iff_scan {line : String} {e : Error} :
    read line = .error e ↔ scan (.outside none) 0 line.toList = .error e := by
  rw [read]
  cases scan (.outside none) 0 line.toList with
  | error e' => exact ⟨fun h => by cases h; rfl, fun h => by cases h; rfl⟩
  | ok words => exact iff_of_false (fun h => by cases h) fun h => by cases h

/-- The reader accepts exactly the lines of the grammar, and gives the words that a line stands for,
of which there is one list only. The other lines end in a backslash outside quotes, or leave a quote
open, and are reported as such. -/
theorem read_grammar (line : String) :
    (∀ words : List String,
      read line = .ok words ↔ Line Piece line.toList (words.map String.toList)) ∧
    (∀ words words' : List (List Char),
      Line Piece line.toList words → Line Piece line.toList words' → words = words') ∧
    (read line = .error .noEscapedCharacter ↔ EndsInBackslash line.toList) ∧
    (∀ position : ℕ,
      read line = .error (.noClosingQuotation position) ↔ LeavesOpen line.toList position) ∧
    Error.noEscapedCharacter.message = "No escaped character" ∧
    ∀ position : ℕ, (Error.noClosingQuotation position).message
      = "No closing quotation for quote at position " ++ toString position := by
  refine ⟨?_, ?_, ?_, ?_, rfl, fun position => rfl⟩
  · intro words
    rw [read_eq_ok_iff_scan, scan_eq_iff, Outcome]
  · intro words words' h h'
    have hscan := scan_of_line Piece.spells h
    rw [scan_of_line Piece.spells h'] at hscan
    exact (Except.ok.inj hscan).symm
  · rw [read_eq_error_iff_scan, scan_eq_iff, Outcome]
  · intro position
    rw [read_eq_error_iff_scan, scan_eq_iff, Outcome]

/-- A word made of pieces of every kind, and an empty one. -/
theorem read_grammar_two_words :
    let line := "a\\ \"b\\\"c\\\nd\"'e'  ''"
    Line Piece line.toList (["a b\"cde", ""].map String.toList) ∧
      ∃! words, Line Piece line.toList words := by
  intro line
  have hread : read line = .ok ["a b\"cde", ""] :=
    Traversal.toOption_eq_some_iff.mp (by decide +kernel)
  have hline := ((read_grammar line).1 _).mp hread
  exact ⟨hline, _, hline, fun words h => (read_grammar line).2.1 words _ h hline⟩

end Words
end TableShell
