import TableShell.Proofs.Words.Quoting

/-!
# Words on a line

`Line Piece line words` says how words stand on a line: each is made of pieces, one right behind the
other, and blanks stand around the words. What a piece may look like, and what it stands for, is
left open, so that one notion of a line serves what is written (`QuotedOrBare`) and what is read.

If the reader takes every piece for what it stands for, it takes the line for its words
(`scan_line`, `scan_of_line`). `read_quoted_line` is the case of pieces that were quoted, or need no
quotes: they are read back whatever they hold, however they are cut, and wherever blanks stand.
-/

namespace TableShell
namespace Words

open Text

/-- There are only blanks. -/
def IsGap (gap : List Char) : Prop :=
  ∀ c ∈ gap, isBlank c = true

instance (gap : List Char) : Decidable (IsGap gap) :=
  decidable_of_iff (gap.all isBlank = true) List.all_eq_true

/-- The line ends here, or goes on with a blank. -/
def StartsApart (rest : List Char) : Prop :=
  ∀ c ∈ rest.head?, isBlank c = true

instance (rest : List Char) : Decidable (StartsApart rest) :=
  decidable_of_iff (rest.head?.all isBlank = true) (Option.all_eq_true _ _)

section

-- which characters a piece of a word is written with, and which it stands for
variable (Piece : List Char → List Char → Prop)

/-- Written pieces, at least one, and what they stand for together. -/
inductive Pieces : (written word : List Char) → Prop
  | one {written cs : List Char} (h : Piece written cs) : Pieces written cs
  | cons {written cs more word : List Char} (h : Piece written cs) (hmore : Pieces more word) :
    Pieces (written ++ more) (cs ++ word)

/-- The words on a line, with blanks between neighbours and perhaps at both ends. -/
inductive Line : (line : List Char) → (words : List (List Char)) → Prop
  | blank {gap : List Char} (h : IsGap gap) : Line gap []
  | word {gap written word rest : List Char} {words : List (List Char)} (hgap : IsGap gap)
    (hword : Pieces Piece written word) (hapart : StartsApart rest) (hrest : Line rest words) :
    Line (gap ++ (written ++ rest)) (word :: words)

end

variable {Piece : List Char → List Char → Prop}

/-! ## More at the end of a line -/

theorem Pieces.concat {written word written' cs : List Char} (h : Pieces Piece written word)
    (hpiece : Piece written' cs) : Pieces Piece (written ++ written') (word ++ cs) := by
  induction h with
  | one h => exact .cons h (.one hpiece)
  | cons h _ ih =>
    rw [List.append_assoc, List.append_assoc]
    exact .cons h ih

/-- The line may end in one more blank. -/
theorem Line.concat_blank {line : List Char} {words : List (List Char)} (h : Line Piece line words)
    {c : Char} (hc : isBlank c = true) : Line Piece (line ++ [c]) words := by
  induction h with
  | @blank gap h =>
    refine .blank fun d hd => ?_
    rcases List.mem_append.mp hd with hd | hd
    · exact h d hd
    · rwa [List.mem_singleton.mp hd]
  | @word gap written word rest words hgap hword hapart _ ih =>
    rw [List.append_assoc, List.append_assoc]
    refine .word hgap hword ?_ ih
    cases rest with
    | nil => exact fun d hd => Option.some.inj hd ▸ hc
    | cons d rest => exact hapart

/-- The line may end in one more piece: behind a blank it is a new word, and otherwise it belongs to
the last one. -/
theorem Line.concat_piece {line : List Char} {words : List (List Char)} (h : Line Piece line words)
    {written cs : List Char} (hpiece : Piece written cs) :
    ∃ words', Line Piece (line ++ written) words' := by
  have hend : IsGap [] := by simp [IsGap]
  have hendApart : StartsApart [] := by simp [StartsApart]
  induction h with
  | @blank gap h =>
    have hword := Line.word h (.one hpiece) hendApart (.blank hend)
    rw [List.append_nil] at hword
    exact ⟨_, hword⟩
  | @word gap written' word rest words hgap hword hapart _ ih =>
    rw [List.append_assoc, List.append_assoc]
    cases rest with
    | nil =>
      have hlonger := Line.word hgap (hword.concat hpiece) hendApart (.blank hend)
      rw [List.append_nil] at hlonger
      exact ⟨_, hlonger⟩
    | cons c rest =>
      obtain ⟨words', hrest⟩ := ih
      exact ⟨_, .word hgap hword hapart hrest⟩

/-! ## Reading a line -/

theorem scan_gap {gap : List Char} (h : IsGap gap) (position : ℕ) (rest : List Char) :
    scan (.outside none) position (gap ++ rest)
      = scan (.outside none) (position + gap.length) rest := by
  induction gap generalizing position with
  | nil => rfl
  | cons c gap ih =>
    have hgap : IsGap gap := fun d hd => h d (List.mem_cons_of_mem c hd)
    rw [List.cons_append, scan_outside_blank (h c List.mem_cons_self), ih hgap, List.length_cons,
      Nat.add_right_comm]
    exact congrFun Except.map_id _

/-- A blank ends the word at hand. -/
theorem scan_apart {c : Char} (hc : isBlank c = true) (word : List Char) (position : ℕ)
    (rest : List Char) :
    scan (.outside (some word)) position (c :: rest)
      = (scan (.outside none) position (c :: rest)).map (word :: ·) := by
  rw [scan_outside_blank hc, scan_outside_blank hc]
  cases scan (.outside none) (position + 1) rest <;> rfl

theorem spells_of_pieces (hpieces : ∀ {written cs}, Piece written cs → Spells written cs)
    {written word : List Char} (h : Pieces Piece written word) : Spells written word := by
  induction h with
  | one h => exact hpieces h
  | cons h _ ih => exact (hpieces h).append ih

/-- The reader takes a line for its words, except that the last one is still at hand if no blank
follows it. -/
theorem scan_line (hpieces : ∀ {written cs}, Piece written cs → Spells written cs)
    {line : List Char} {words : List (List Char)} (h : Line Piece line words) :
    ∃ done last, words = done ++ Option.toList last ∧ ∀ (position : ℕ) (rest : List Char),
      scan (.outside none) position (line ++ rest)
        = (scan (.outside last) (position + line.length) rest).map (done ++ ·) := by
  induction h with
  | @blank gap h =>
    refine ⟨[], none, rfl, fun position rest => ?_⟩
    rw [scan_gap h]
    exact (congrFun Except.map_id _).symm
  | @word gap written word rest words hgap hword hapart _ ih =>
    obtain ⟨done, last, rfl, hrest⟩ := ih
    have hstart : ∀ (position : ℕ) (more : List Char),
        scan (.outside none) position ((gap ++ (written ++ rest)) ++ more)
          = scan (.outside (some word)) (position + gap.length + written.length)
              (rest ++ more) := by
      intro position more
      rw [List.append_assoc, List.append_assoc, scan_gap hgap, spells_of_pieces hpieces hword]
      rfl
    have hlength : ∀ position : ℕ, position + (gap ++ (written ++ rest)).length
        = position + gap.length + written.length + rest.length := by
      intro position
      rw [List.length_append, List.length_append]
      omega
    cases rest with
    | nil =>
      -- an empty rest has no words
      have hnone : done ++ last.toList = [] := (Except.ok.inj (hrest 0 [])).symm
      refine ⟨[], some word, by rw [hnone]; rfl, fun position more => ?_⟩
      rw [hstart, hlength]
      exact (congrFun Except.map_id _).symm
    | cons c rest =>
      refine ⟨word :: done, last, rfl, fun position more => ?_⟩
      rw [hstart, hlength, List.cons_append, scan_apart (hapart c rfl), ← List.cons_append, hrest]
      cases scan (.outside last) _ more <;> rfl

/-- The reader takes a whole line for its words. -/
theorem scan_of_line (hpieces : ∀ {written cs}, Piece written cs → Spells written cs)
    {line : List Char} {words : List (List Char)} (h : Line Piece line words) :
    scan (.outside none) 0 line = .ok words := by
  obtain ⟨done, last, rfl, hline⟩ := scan_line hpieces h
  have hscan := hline 0 []
  rwa [List.append_nil] at hscan

/-- Every line of such pieces is read as its words. -/
theorem read_of_line (hpieces : ∀ {written cs}, Piece written cs → Spells written cs)
    {line : String} {words : List String} (h : Line Piece line.toList (words.map String.toList)) :
    read line = .ok words := by
  rw [read, scan_of_line hpieces h]
  simp [Except.map]

/-! ## Quoted and bare pieces -/

/-- The piece is written in quotes, whatever it is, or as it is, if it needs none: then it is not
empty, and holds no blank, quote or backslash. -/
inductive QuotedOrBare : (written piece : List Char) → Prop
  | quoted (piece : String) : QuotedOrBare (quote piece).toList piece.toList
  | bare {piece : List Char} (hne : piece ≠ []) (h : ∀ c ∈ piece, IsBare c) :
    QuotedOrBare piece piece

theorem QuotedOrBare.spells {written cs : List Char} (h : QuotedOrBare written cs) :
    Spells written cs := by
  cases h with
  | quoted piece => exact writes_quote piece
  | bare hne h => exact spells_of_bare hne h

/-- A line that is one written word. -/
theorem read_of_writes_one {written word : String} (h : Writes written word) :
    read written = .ok [word] := by
  have hread := read_intercalate (.cons h .nil)
  rwa [String.intercalate_singleton] at hread

/-- Words that are written in quoted and bare pieces, with any blanks around them, are read back. So
a quoted text is one word, a pair of quoted texts is one word, and so is a list of them. -/
theorem read_quoted_line :
    (∀ {line : String} {words : List String},
      Line QuotedOrBare line.toList (words.map String.toList) → read line = .ok words) ∧
    (∀ word : String, read (quote word) = .ok [word]) ∧
    (∀ key value : String, read (quote key ++ "=" ++ quote value) = .ok [key ++ "=" ++ value]) ∧
    ∀ (first : String) (others : List String),
      read (",".intercalate ((first :: others).map quote))
        = .ok [",".intercalate (first :: others)] := by
  have hequals : Writes "=" "=" := writes_of_isSafe (by decide) (by decide)
  have hcomma : IsBare ',' := ⟨by decide, by decide, by decide, by decide⟩
  refine ⟨fun h => read_of_line QuotedOrBare.spells h, ?_, ?_, ?_⟩
  · intro word
    exact read_of_writes_one (writes_quote word)
  · intro key value
    exact read_of_writes_one (((writes_quote key).append hequals).append (writes_quote value))
  · intro first others
    have hcells : List.Forall₂ Writes ((first :: others).map quote) (first :: others) := by
      rw [List.forall₂_map_left_iff, List.forall₂_same]
      exact fun cell _ => writes_quote cell
    exact read_of_writes_one (writes_intercalate hcomma hcells (by simp))

/-- The words `it's`, cut into two pieces, an empty one, and a pair with a blank in it. -/
theorem read_quoted_line_three_words :
    let line := "\u3000 it''\"'\"'s'\t''  k='v w'"
    Line QuotedOrBare line.toList (["it's", "", "k=v w"].map String.toList) ∧
      read line = .ok ["it's", "", "k=v w"] := by
  intro line
  have hbare : ∀ piece ∈ [['i', 't'], ['k', '=']], QuotedOrBare piece piece := by
    intro piece hpiece
    have hsafe : piece ≠ [] ∧ piece.all isSafe = true := by
      revert piece
      decide
    exact .bare hsafe.1 fun c hc => isBare_of_isSafe (List.all_eq_true.mp hsafe.2 c hc)
  have hwritten : line.toList = ['\u3000', ' '] ++ ((['i', 't'] ++ (quote "'s").toList) ++
      (['\t'] ++ ((quote "").toList ++
        ([' ', ' '] ++ ((['k', '='] ++ (quote "v w").toList) ++ []))))) := by decide
  have hline : Line QuotedOrBare line.toList (["it's", "", "k=v w"].map String.toList) := by
    rw [hwritten]
    refine .word (by decide) (.cons (hbare _ (by simp)) (.one (.quoted "'s"))) (by decide) ?_
    refine .word (by decide) (.one (.quoted "")) (by decide) ?_
    refine .word (by decide) (.cons (hbare _ (by simp)) (.one (.quoted "v w"))) (by decide) ?_
    exact .blank (by decide)
  exact ⟨hline, read_quoted_line.1 hline⟩

end Words
end TableShell
