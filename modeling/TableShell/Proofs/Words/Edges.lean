import TableShell.Proofs.Text.Trimming
import TableShell.Proofs.Words.Grammar

/-!
# Blanks at the edges of a line

Blanks in front of a line move the quotes in it, and blanks behind a line end its last word, unless
a backslash takes the first of them for a character. So a line is read as its trimmed form, with two
exceptions (`EdgeCounts`, `read_trim_eq_iff`).
-/

namespace TableShell
namespace Words

open Text

/-! ## Blanks in front -/

theorem IsGap.append {gap gap' : List Char} (h : IsGap gap) (h' : IsGap gap') :
    IsGap (gap ++ gap') :=
  List.forall_mem_append.mpr ⟨h, h'⟩

theorem Line.behind_gap {Piece : List Char → List Char → Prop} {line : List Char}
    {words : List (List Char)} (h : Line Piece line words) {gap : List Char} (hgap : IsGap gap) :
    Line Piece (gap ++ line) words := by
  cases h with
  | blank h => exact .blank (hgap.append h)
  | word hgap' hword hapart hrest =>
    rw [← List.append_assoc]
    exact .word (hgap.append hgap') hword hapart hrest

theorem EndsInBackslash.behind_gap {line gap : List Char} (h : EndsInBackslash line)
    (hgap : IsGap gap) : EndsInBackslash (gap ++ line) := by
  obtain ⟨before, words, rfl, hbefore⟩ := h
  exact ⟨gap ++ before, words, (List.append_assoc _ _ _).symm, hbefore.behind_gap hgap⟩

theorem LeavesOpen.behind_gap {line gap : List Char} {position : ℕ} (h : LeavesOpen line position)
    (hgap : IsGap gap) : LeavesOpen (gap ++ line) (gap.length + position) := by
  obtain ⟨before, words, mark, rest, rfl, hbefore, rfl, hmark, hopen⟩ := h
  exact ⟨gap ++ before, words, mark, rest, (List.append_assoc _ _ _).symm, hbefore.behind_gap hgap,
    List.length_append, hmark, hopen⟩

/-! ## Blanks behind -/

theorem Line.before_gap {Piece : List Char → List Char → Prop} {line : List Char}
    {words : List (List Char)} (h : Line Piece line words) {gap : List Char} (hgap : IsGap gap) :
    Line Piece (line ++ gap) words := by
  induction gap generalizing line with
  | nil => rwa [List.append_nil]
  | cons c gap ih =>
    obtain ⟨hc, hrest⟩ := List.forall_mem_cons.mp hgap
    rw [List.append_cons]
    exact ih (h.concat_blank hc) hrest

/-- Blanks close no quote. -/
theorem StaysOpen.before_gap {mark : Char} (hmark : mark = '\'' ∨ mark = '"') {rest : List Char}
    (h : StaysOpen mark rest) {gap : List Char} (hgap : IsGap gap) :
    StaysOpen mark (rest ++ gap) := by
  induction gap generalizing rest with
  | nil => rwa [List.append_nil]
  | cons c gap ih =>
    obtain ⟨hc, hrest⟩ := List.forall_mem_cons.mp hgap
    rw [List.append_cons]
    refine ih ?_ hrest
    rcases h.concat c with hopen | ⟨rfl, -⟩
    · exact hopen
    · rcases hmark with rfl | rfl
      · exact absurd hc (by decide)
      · exact absurd hc (by decide)

theorem LeavesOpen.before_gap {line gap : List Char} {position : ℕ} (h : LeavesOpen line position)
    (hgap : IsGap gap) : LeavesOpen (line ++ gap) position := by
  obtain ⟨before, words, mark, rest, rfl, hbefore, hposition, hmark, hopen⟩ := h
  exact ⟨before, words, mark, rest ++ gap, by rw [List.append_assoc, List.cons_append], hbefore,
    hposition, hmark, hopen.before_gap hmark hgap⟩

/-- A backslash at the end takes the first of the blanks behind it for a character. -/
theorem EndsInBackslash.before_gap {line gap : List Char} (h : EndsInBackslash line)
    (hgap : IsGap gap) (hne : gap ≠ []) : ∃ words, Line Piece (line ++ gap) words := by
  obtain ⟨before, words, rfl, hbefore⟩ := h
  obtain ⟨c, gap, rfl⟩ := List.exists_cons_of_ne_nil hne
  obtain ⟨words', hline⟩ := hbefore.concat_piece (.escaped c)
  refine ⟨words', ?_⟩
  have hwhole := hline.before_gap (List.forall_mem_cons.mp hgap).2
  rwa [List.append_assoc] at hwhole ⊢

/-! ## Trimmed lines -/

/-- The grammar says one thing of a line. -/
theorem Outcome.unique {line : List Char} {result result' : Except Error (List (List Char))}
    (h : Outcome line result) (h' : Outcome line result') : result = result' :=
  (scan_of_outcome h).symm.trans (scan_of_outcome h')

/-- What the grammar may say of a line, and what it then says with blanks in front and behind. -/
inductive Around (lead trail : List Char) :
    (result whole : Except Error (List (List Char))) → Prop
  | words (words : List (List Char)) : Around lead trail (.ok words) (.ok words)
  -- a backslash at the end, with nothing behind it or with a blank that it takes
  | bare (hnil : trail = []) :
    Around lead trail (.error .noEscapedCharacter) (.error .noEscapedCharacter)
  | taken (hne : trail ≠ []) (words : List (List Char)) :
    Around lead trail (.error .noEscapedCharacter) (.ok words)
  -- a quote that is not closed
  | moved (position : ℕ) :
    Around lead trail (.error (.noClosingQuotation position))
      (.error (.noClosingQuotation (lead.length + position)))

theorem exists_around {lead trail : List Char} (hlead : IsGap lead) (htrail : IsGap trail)
    (core : List Char) :
    ∃ result whole, Outcome core result ∧ Outcome (lead ++ (core ++ trail)) whole ∧
      Around lead trail result whole := by
  obtain ⟨result, hresult⟩ := exists_outcome core
  match result with
  | .ok words =>
    have hcore : Line Piece core words := hresult
    exact ⟨_, .ok words, hresult, (hcore.before_gap htrail).behind_gap hlead, .words words⟩
  | .error .noEscapedCharacter =>
    have hends : EndsInBackslash (lead ++ core) := EndsInBackslash.behind_gap hresult hlead
    rw [← List.append_assoc]
    by_cases hnil : trail = []
    · refine ⟨_, .error .noEscapedCharacter, hresult, ?_, .bare hnil⟩
      rwa [hnil, List.append_nil]
    · obtain ⟨words, hwords⟩ := hends.before_gap htrail hnil
      exact ⟨_, .ok words, hresult, hwords, .taken hnil words⟩
  | .error (.noClosingQuotation position) =>
    have hopen : LeavesOpen core position := hresult
    exact ⟨_, .error (.noClosingQuotation (lead.length + position)), hresult,
      (hopen.before_gap htrail).behind_gap hlead, .moved position⟩

/-- How a line compares with its trimmed form. -/
theorem exists_around_trim (line : List Char) :
    ∃ lead trail result whole, IsGap lead ∧ IsGap trail ∧
      line = lead ++ (trimChars line ++ trail) ∧ Outcome (trimChars line) result ∧
      Outcome line whole ∧ Around lead trail result whole := by
  obtain ⟨lead, trail, hlead, htrail, hsplit⟩ := exists_blanks_trimChars line
  obtain ⟨result, whole, hresult, hwhole, haround⟩ :=
    exists_around (List.all_eq_true.mp hlead) (List.all_eq_true.mp htrail) (trimChars line)
  rw [← hsplit] at hwhole
  exact ⟨lead, trail, result, whole, List.all_eq_true.mp hlead, List.all_eq_true.mp htrail, hsplit,
    hresult, hwhole, haround⟩

/-- A line that ends in a backslash still does when it is trimmed. -/
theorem EndsInBackslash.trim {line : List Char} (h : EndsInBackslash line) :
    EndsInBackslash (trimChars line) := by
  obtain ⟨lead, trail, result, whole, -, -, -, hresult, hwhole, haround⟩ := exists_around_trim line
  have hends : Outcome line (.error .noEscapedCharacter) := h
  obtain rfl := hends.unique hwhole
  cases haround with
  | bare hnil => exact hresult

/-- A blank at an edge of the line makes a difference: it begins with one and leaves a quote open,
or it ends with one, and up to those at its end it ends in a backslash. -/
def EdgeCounts (line : List Char) : Prop :=
  (∃ c rest, line = c :: rest ∧ isBlank c = true) ∧ (∃ position, LeavesOpen line position) ∨
    ∃ before gap, line = before ++ gap ∧ gap ≠ [] ∧ IsGap gap ∧ EndsInBackslash before

/-- Where no blank at an edge makes a difference, the grammar says one thing of the line and its
trimmed form. -/
theorem exists_outcome_of_not_edgeCounts {line : List Char} (h : ¬ EdgeCounts line) :
    ∃ result, Outcome (trimChars line) result ∧ Outcome line result := by
  rw [EdgeCounts, not_or] at h
  obtain ⟨hfront, hback⟩ := h
  obtain ⟨lead, trail, result, whole, hlead, htrail, hsplit, hresult, hwhole, haround⟩ :=
    exists_around_trim line
  cases haround with
  | words words => exact ⟨_, hresult, hwhole⟩
  | bare hnil => exact ⟨_, hresult, hwhole⟩
  | taken hne words =>
    rw [← List.append_assoc] at hsplit
    have hends : EndsInBackslash (lead ++ trimChars line) :=
      EndsInBackslash.behind_gap hresult hlead
    exact absurd ⟨_, trail, hsplit, hne, htrail, hends⟩ hback
  | moved position =>
    cases lead with
    | nil =>
      rw [List.length_nil, Nat.zero_add] at hwhole
      exact ⟨_, hresult, hwhole⟩
    | cons c lead => exact absurd ⟨⟨c, _, hsplit, hlead c List.mem_cons_self⟩, _, hwhole⟩ hfront

/-- A blank in front of a line is trimmed off, unless nothing else stands on the line. -/
theorem lead_ne_nil {c : Char} {rest lead trail : List Char} (hc : isBlank c = true)
    (hsplit : c :: rest = lead ++ (trimChars (c :: rest) ++ trail))
    (hcore : trimChars (c :: rest) ≠ []) : lead ≠ [] := by
  rintro rfl
  obtain ⟨first, inner, hfirst⟩ := List.exists_cons_of_ne_nil hcore
  have hnot := isBlank_of_trimChars_eq_cons hfirst
  rw [hfirst, List.nil_append, List.cons_append] at hsplit
  rw [← (List.cons.inj hsplit).1, hc] at hnot
  cases hnot

/-- Where a blank at an edge makes a difference, the trimmed line has no words, and what is wrong
with it is not wrong with the line as it stands. -/
theorem EdgeCounts.exists_error {line : List Char} (h : EdgeCounts line) :
    ∃ e, Outcome (trimChars line) (.error e) ∧ ¬ Outcome line (.error e) := by
  rcases h with ⟨⟨c, rest, rfl, hc⟩, position, hopen⟩ | ⟨before, gap, rfl, hne, hgap, hends⟩
  · obtain ⟨lead, trail, result, whole, -, -, hsplit, hresult, hwhole, haround⟩ :=
      exists_around_trim (c :: rest)
    have hline : Outcome (c :: rest) (.error (.noClosingQuotation position)) := hopen
    obtain rfl := hline.unique hwhole
    cases haround with
    | moved position =>
      refine ⟨_, hresult, fun hsame => ?_⟩
      -- the quote stands where it stood, so there is no blank in front
      have hposition : position = lead.length + position := by
        injection hsame.unique hwhole with hposition
        injection hposition
      have hcore : trimChars (c :: rest) ≠ [] := by
        obtain ⟨before, words, mark, more, hmark, -⟩ := hresult
        rw [hmark]
        exact List.append_ne_nil_of_right_ne_nil before (List.cons_ne_nil mark more)
      exact lead_ne_nil hc hsplit hcore (List.eq_nil_of_length_eq_zero (by omega))
  · have hnone : ([] : List Char).all isBlank = true := rfl
    have htrim : trimChars (before ++ gap) = trimChars before :=
      trimChars_append_of_blanks hnone (List.all_eq_true.mpr hgap) before
    refine ⟨.noEscapedCharacter, ?_, fun hsame => ?_⟩
    · rw [htrim]
      exact hends.trim
    · obtain ⟨words, hline⟩ := hends.before_gap hgap hne
      have hwords : Outcome (before ++ gap) (.ok words) := hline
      cases hwords.unique hsame

/-! ## Reading trimmed lines -/

theorem read_eq_read_iff {line line' : String} :
    read line = read line' ↔
      scan (.outside none) 0 line.toList = scan (.outside none) 0 line'.toList := by
  constructor
  · intro h
    cases hread : read line' with
    | error e =>
      rw [hread] at h
      rw [read_eq_error_iff_scan.mp h, read_eq_error_iff_scan.mp hread]
    | ok words =>
      rw [hread] at h
      rw [read_eq_ok_iff_scan.mp h, read_eq_ok_iff_scan.mp hread]
  · intro h
    rw [read, read, h]

/-- A line is read as its trimmed form, unless a blank at an edge makes a difference. -/
theorem read_trim_eq_iff (line : String) :
    read (trim line) = read line ↔ ¬ EdgeCounts line.toList := by
  rw [read_eq_read_iff, toList_trim]
  constructor
  · intro h hcounts
    obtain ⟨e, htrim, hnot⟩ := hcounts.exists_error
    rw [scan_of_outcome htrim] at h
    exact hnot (scan_eq_iff.mp h.symm)
  · intro hcounts
    obtain ⟨result, htrim, hline⟩ := exists_outcome_of_not_edgeCounts hcounts
    rw [scan_of_outcome htrim, scan_of_outcome hline]

end Words
end TableShell
