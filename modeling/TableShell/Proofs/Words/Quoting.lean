import Mathlib.Data.List.Forall2
import TableShell.Proofs.Text.Trimming
import TableShell.Words

/-!
# Reading quoted words

What `quote` writes, the reader of lines takes off the line again. The notion behind it is
`Spells written cs`: wherever the reader stands outside quotes, it takes the characters `written`
off the line and adds `cs` to the word at hand. Written forms may be put together
(`Spells.append`), which is how a word is made of quoted and bare pieces.

* `spells_of_bare` and `spells_quoteChars` say what bare and quoted pieces stand for;
* `Writes` is the same notion for texts, and `read_intercalate` reads a line of written words, one
  blank between neighbours.
-/

namespace TableShell
namespace Words

open Text

/-! ## Single steps of the reader

The reader of a character looks at the next one only behind a backslash, but its equations are split
by whether there is a next one. These lemmas put the halves together. -/

/-- Outside quotes the character stands for itself. -/
structure IsBare (c : Char) : Prop where
  not_blank : isBlank c = false
  ne_single : c ≠ '\''
  ne_double : c ≠ '"'
  ne_backslash : c ≠ '\\'

/-- One more character outside quotes. -/
theorem scan_outside_cons (word : Option (List Char)) (position : ℕ) (c : Char)
    (rest : List Char) :
    scan (.outside word) position (c :: rest) =
      if isBlank c then
        (scan (.outside none) (position + 1) rest).map (word.toList ++ ·)
      else if c = '\'' then
        scan (.single position (word.getD [])) (position + 1) rest
      else if c = '"' then
        scan (.double position (word.getD [])) (position + 1) rest
      else if c = '\\' then
        match rest with
        | [] => .error .noEscapedCharacter
        | escaped :: rest =>
          scan (.outside (some (word.getD [] ++ [escaped]))) (position + 2) rest
      else
        scan (.outside (some (word.getD [] ++ [c]))) (position + 1) rest :=
  scan.eq_def (.outside word) position (c :: rest)

theorem scan_outside_blank {c : Char} (h : isBlank c = true) (word : Option (List Char))
    (position : ℕ) (rest : List Char) :
    scan (.outside word) position (c :: rest)
      = (scan (.outside none) (position + 1) rest).map (word.toList ++ ·) := by
  rw [scan_outside_cons]
  exact if_pos h

theorem scan_outside_single (word : Option (List Char)) (position : ℕ) (rest : List Char) :
    scan (.outside word) position ('\'' :: rest)
      = scan (.single position (word.getD [])) (position + 1) rest := by
  rw [scan_outside_cons]
  rfl

theorem scan_outside_double (word : Option (List Char)) (position : ℕ) (rest : List Char) :
    scan (.outside word) position ('"' :: rest)
      = scan (.double position (word.getD [])) (position + 1) rest := by
  rw [scan_outside_cons]
  rfl

theorem scan_outside_bare {c : Char} (h : IsBare c) (word : Option (List Char)) (position : ℕ)
    (rest : List Char) :
    scan (.outside word) position (c :: rest)
      = scan (.outside (some (word.getD [] ++ [c]))) (position + 1) rest := by
  rw [scan_outside_cons]
  simp only [h.not_blank, Bool.false_eq_true, if_false, h.ne_single, h.ne_double, h.ne_backslash]

theorem scan_single_close (start : ℕ) (word : List Char) (position : ℕ) (rest : List Char) :
    scan (.single start word) position ('\'' :: rest)
      = scan (.outside (some word)) (position + 1) rest := by
  rw [scan]
  rfl

theorem scan_single_char {c : Char} (h : c ≠ '\'') (start : ℕ) (word : List Char) (position : ℕ)
    (rest : List Char) :
    scan (.single start word) position (c :: rest)
      = scan (.single start (word ++ [c])) (position + 1) rest := by
  rw [scan, if_neg h]

/-- One more character in double quotes. -/
theorem scan_double_cons (start : ℕ) (word : List Char) (position : ℕ) (c : Char)
    (rest : List Char) :
    scan (.double start word) position (c :: rest) =
      if c = '"' then
        scan (.outside (some word)) (position + 1) rest
      else if c = '\\' then
        match rest with
        | [] => scan (.double start (word ++ ['\\'])) (position + 1) []
        | next :: more =>
          if isEscapable next then
            scan (.double start (word ++ [next])) (position + 2) more
          else if next = '\n' then
            scan (.double start word) (position + 2) more
          else
            scan (.double start (word ++ ['\\'])) (position + 1) (next :: more)
      else
        scan (.double start (word ++ [c])) (position + 1) rest :=
  scan.eq_def (.double start word) position (c :: rest)

theorem scan_double_close (start : ℕ) (word : List Char) (position : ℕ) (rest : List Char) :
    scan (.double start word) position ('"' :: rest)
      = scan (.outside (some word)) (position + 1) rest := by
  rw [scan_double_cons]
  rfl

theorem scan_double_single (start : ℕ) (word : List Char) (position : ℕ) (rest : List Char) :
    scan (.double start word) position ('\'' :: rest)
      = scan (.double start (word ++ ['\''])) (position + 1) rest := by
  rw [scan_double_cons]
  rfl

/-! ## Written forms -/

/-- Outside quotes, `written` is taken off the line and adds `cs` to the word at hand; it begins a
word if there is none. -/
def Spells (written cs : List Char) : Prop :=
  ∀ (word : Option (List Char)) (position : ℕ) (rest : List Char),
    scan (.outside word) position (written ++ rest)
      = scan (.outside (some (word.getD [] ++ cs))) (position + written.length) rest

theorem Spells.append {written written' cs cs' : List Char} (h : Spells written cs)
    (h' : Spells written' cs') : Spells (written ++ written') (cs ++ cs') := by
  intro word position rest
  rw [List.append_assoc, h, h', Option.getD_some, List.append_assoc, List.length_append,
    Nat.add_assoc]

theorem IsBare.spells {c : Char} (h : IsBare c) : Spells [c] [c] :=
  fun word position rest => scan_outside_bare h word position rest

/-- Bare characters stand for themselves, if there are any. -/
theorem spells_of_bare {cs : List Char} (hne : cs ≠ []) (h : ∀ c ∈ cs, IsBare c) :
    Spells cs cs := by
  induction cs with
  | nil => exact absurd rfl hne
  | cons c rest ih =>
    have hc : Spells [c] [c] := (h c List.mem_cons_self).spells
    by_cases hrest : rest = []
    · rw [hrest]
      exact hc
    · exact hc.append (ih hrest fun d hd => h d (List.mem_cons_of_mem c hd))

/-! ## Quoted pieces -/

/-- The characters that need no quotes are letters, digits and a few signs, all printable. -/
theorem isBare_of_isSafe {c : Char} (h : isSafe c = true) : IsBare c := by
  have hcode : 0x20 < c.toNat ∧ c.toNat < 0x7F ∧ c.toNat ≠ 0x22 ∧ c.toNat ≠ 0x27 ∧
      c.toNat ≠ 0x5C := by
    simp only [isSafe, Bool.or_eq_true, List.contains_eq_mem, decide_eq_true_eq, List.mem_cons,
      List.not_mem_nil, or_false] at h
    rcases h with h | rfl | rfl | rfl | rfl | rfl | rfl | rfl | rfl | rfl
    · have hcode := toNat_of_isAlphanum h
      omega
    all_goals decide
  refine ⟨isBlank_eq_false_of_printable hcode.1 hcode.2.1, ?_, ?_, ?_⟩ <;>
  · rintro rfl
    revert hcode
    decide

/-- Behind an opened single quote, the written characters up to the closing quote are read back.
A single quote among them closes the quotes, and those that open next begin elsewhere, so `start`
varies along the induction. -/
theorem scan_single (cs : List Char) :
    ∀ (start : ℕ) (word : List Char) (position : ℕ) (rest : List Char),
      scan (.single start word) position (cs.flatMap quoteChar ++ '\'' :: rest)
        = scan (.outside (some (word ++ cs)))
            (position + (cs.flatMap quoteChar).length + 1) rest := by
  induction cs with
  | nil =>
    intro start word position rest
    rw [List.flatMap_nil, List.nil_append, scan_single_close, List.append_nil]
    rfl
  | cons c cs ih =>
    intro start word position rest
    rw [List.flatMap_cons, List.append_assoc, List.length_append, quoteChar]
    by_cases hc : c = '\''
    · rw [if_pos hc, hc]
      simp only [List.cons_append, List.nil_append, List.length_cons, List.length_nil]
      rw [scan_single_close, scan_outside_double, scan_double_single, scan_double_close,
        scan_outside_single, ih, Option.getD_some, Option.getD_some, List.append_assoc]
      congr 1
      omega
    · rw [if_neg hc, List.singleton_append, scan_single_char hc, ih, List.append_assoc]
      congr 1
      simp only [List.length_cons, List.length_nil]
      omega

/-- A quoted piece stands for the characters it was made of. -/
theorem spells_quoteChars (cs : List Char) : Spells (quoteChars cs) cs := by
  rw [quoteChars]
  split
  · rename_i h
    exact spells_of_bare h.1 fun c hc => isBare_of_isSafe (List.all_eq_true.mp h.2 c hc)
  · intro word position rest
    rw [List.cons_append, List.cons_append, scan_outside_single, List.append_assoc,
      List.singleton_append, scan_single]
    congr 1
    simp only [List.length_cons, List.length_append, List.length_nil]
    omega

/-- Pieces with a bare character between neighbours stand for the pieces' characters with that
character between them. -/
theorem spells_intercalate {mark : Char} (hmark : IsBare mark) {written css : List (List Char)}
    (h : List.Forall₂ Spells written css) (hne : written ≠ []) :
    Spells ([mark].intercalate written) ([mark].intercalate css) := by
  induction h with
  | nil => exact absurd rfl hne
  | @cons w cs ws css hw hws ih =>
    cases hws with
    | nil => simpa using hw
    | cons hw' hws' =>
      rw [List.intercalate_cons_cons, List.intercalate_cons_cons]
      exact (hw.append hmark.spells).append (ih (List.cons_ne_nil _ _))

/-! ## Lines of words -/

/-- Written words with a blank between neighbours are read as the words they stand for. -/
theorem scan_intercalate {written words : List (List Char)}
    (h : List.Forall₂ Spells written words) :
    ∀ position : ℕ,
      scan (.outside none) position ([' '].intercalate written) = .ok words := by
  have hblank : isBlank ' ' = true := by decide
  induction h with
  | nil =>
    intro position
    rfl
  | @cons w cs ws css hw hws ih =>
    intro position
    cases hws with
    | nil =>
      have hread := hw none position []
      rw [List.append_nil] at hread
      rw [List.intercalate_singleton, hread]
      rfl
    | cons hw' hws' =>
      rw [List.intercalate_cons_cons, List.append_assoc, hw, List.singleton_append,
        scan_outside_blank hblank, ih]
      rfl

/-! ## Written words -/

/-- The text `written` on a line stands for `word`, or for a part of one. -/
def Writes (written word : String) : Prop :=
  Spells written.toList word.toList

theorem Writes.append {written written' word word' : String} (h : Writes written word)
    (h' : Writes written' word') : Writes (written ++ written') (word ++ word') := by
  rw [Writes, String.toList_append, String.toList_append]
  exact Spells.append h h'

/-- A text of characters that need no quotes stands for itself. -/
theorem writes_of_isSafe {s : String} (hne : s.toList ≠ []) (h : s.toList.all isSafe = true) :
    Writes s s :=
  spells_of_bare hne fun c hc => isBare_of_isSafe (List.all_eq_true.mp h c hc)

theorem writes_quote (word : String) : Writes (quote word) word := by
  rw [Writes, quote, String.toList_ofList]
  exact spells_quoteChars word.toList

/-- Written texts with a bare character between neighbours stand for the texts with that character
between them. -/
theorem writes_intercalate {mark : Char} (hmark : IsBare mark) {written words : List String}
    (h : List.Forall₂ Writes written words) (hne : written ≠ []) :
    Writes ((String.singleton mark).intercalate written)
      ((String.singleton mark).intercalate words) := by
  rw [Writes, String.toList_intercalate, String.toList_intercalate, String.toList_singleton]
  refine spells_intercalate hmark ?_ (by simpa using hne)
  exact List.forall₂_map_left_iff.mpr (List.forall₂_map_right_iff.mpr h)

/-- A line of written words, one blank between neighbours, has the words they stand for. -/
theorem read_intercalate {written words : List String} (h : List.Forall₂ Writes written words) :
    read (" ".intercalate written) = .ok words := by
  have hchars : List.Forall₂ Spells (written.map String.toList) (words.map String.toList) :=
    List.forall₂_map_left_iff.mpr (List.forall₂_map_right_iff.mpr h)
  rw [read, String.toList_intercalate]
  rw [show " ".toList = [' '] from rfl, scan_intercalate hchars]
  simp [Except.map]

end Words
end TableShell
