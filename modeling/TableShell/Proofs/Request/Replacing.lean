import Mathlib.Data.List.Infix
import TableShell.Proofs.Text.Trimming
import TableShell.Request.Reply

/-!
# Replacing the undefined values of a text

`nullFor` writes null in place of every colon that has the word for an undefined value behind it.
It knows nothing of what the characters mean. What it does to them is said by the relation
`Repaired`: every character is kept, except that such runs may be replaced (`repaired_nullFor`). A
text without such a run stays as it is (`nullFor_eq_self`), any other gets shorter
(`length_nullFor_lt`).
-/

namespace TableShell
namespace Reply

open Text

variable {cs cs' ds ds' run : List Char}

/-- A colon and the word for an undefined value, with blanks or nothing between them. -/
def SpellsUndefined (run : List Char) : Prop :=
  ∃ blanks : List Char, blanks.all isBlank = true ∧ run = ':' :: (blanks ++ undefinedWord)

/-- Such a run stands in the characters. -/
def HasUndefined (cs : List Char) : Prop :=
  ∃ run, SpellsUndefined run ∧ run <:+: cs

/-- The second text is the first one with null in place of some of its undefined values. -/
inductive Repaired : List Char → List Char → Prop
  | nil : Repaired [] []
  | keep (c : Char) {cs cs' : List Char} (rest : Repaired cs cs') : Repaired (c :: cs) (c :: cs')
  | replace {run cs cs' : List Char} (spells : SpellsUndefined run) (rest : Repaired cs cs') :
      Repaired (run ++ cs) (": null".toList ++ cs')

/-! ## Runs -/

theorem SpellsUndefined.length_le (h : SpellsUndefined run) : 10 ≤ run.length := by
  obtain ⟨blanks, -, rfl⟩ := h
  have hword : undefinedWord.length = 9 := rfl
  rw [List.length_cons, List.length_append, hword]
  omega

theorem SpellsUndefined.colon_mem (h : SpellsUndefined run) : ':' ∈ run := by
  obtain ⟨blanks, -, rfl⟩ := h
  exact List.mem_cons_self

/-- Between the colon and the word there are only blanks, so no quote and no backslash. -/
theorem SpellsUndefined.plain (h : SpellsUndefined run) {c : Char} (hc : c ∈ run) :
    c ≠ '"' ∧ c ≠ '\\' := by
  obtain ⟨blanks, hblanks, rfl⟩ := h
  rcases List.mem_cons.mp hc with rfl | hc
  · decide
  rcases List.mem_append.mp hc with hc | hc
  · have hblank := List.all_eq_true.mp hblanks c hc
    constructor <;> rintro rfl <;> exact absurd hblank (by decide)
  · have hword : undefinedWord.all (fun d => decide (d ≠ '"' ∧ d ≠ '\\')) = true := by decide
    exact of_decide_eq_true (List.all_eq_true.mp hword c hc)

theorem hasUndefined_cons {c : Char} (h : HasUndefined cs) : HasUndefined (c :: cs) := by
  obtain ⟨run, hrun, hmem⟩ := h
  exact ⟨run, hrun, List.infix_cons hmem⟩

/-- No blank stands at either edge of a run, so trimming a text takes none away. -/
theorem hasUndefined_trimChars_iff : HasUndefined (trimChars cs) ↔ HasUndefined cs := by
  constructor
  · rintro ⟨run, hrun, hmem⟩
    have hleft : trimLeft cs <:+: cs := (List.dropWhile_suffix isBlank).isInfix
    have hright : trimChars cs <:+: trimLeft cs := (List.rdropWhile_prefix isBlank _).isInfix
    exact ⟨run, hrun, hmem.trans (hright.trans hleft)⟩
  · rintro ⟨run, ⟨blanks, hblanks, rfl⟩, hmem⟩
    have hword : undefinedWord = "undefine".toList ++ ['d'] := rfl
    refine ⟨_, ⟨blanks, hblanks, rfl⟩, ?_⟩
    rw [hword, ← List.append_assoc] at hmem ⊢
    exact infix_trimChars (by decide) (by decide) hmem

theorem takeWhile_blanks {blanks : List Char} (hblanks : blanks.all isBlank = true)
    (rest : List Char) : (blanks ++ undefinedWord ++ rest).takeWhile isBlank = blanks := by
  have hword : (undefinedWord ++ rest).takeWhile isBlank = [] := rfl
  rw [List.append_assoc,
    List.takeWhile_append_of_pos fun c hc => List.all_eq_true.mp hblanks c hc, hword,
    List.append_nil]

/-- The length that is found is that of a run at the front. -/
theorem undefinedLength?_eq_some_iff {length : ℕ} :
    undefinedLength? cs = some length ↔
      ∃ run rest, SpellsUndefined run ∧ cs = run ++ rest ∧ run.length = length := by
  constructor
  · intro h
    cases cs with
    | nil => simp [undefinedLength?] at h
    | cons c rest =>
      by_cases hc : c = ':'
      · subst hc
        simp only [undefinedLength?, Option.ite_none_right_eq_some, Option.some.injEq] at h
        obtain ⟨hword, rfl⟩ := h
        obtain ⟨tail, htail⟩ := List.isPrefixOf_iff_prefix.mp hword
        refine ⟨':' :: (rest.takeWhile isBlank ++ undefinedWord), tail, ⟨_, ?_, rfl⟩, ?_, ?_⟩
        · exact List.all_eq_true.mpr fun c hc => List.mem_takeWhile_imp hc
        · have hsplit : rest.takeWhile isBlank ++ rest.drop (rest.takeWhile isBlank).length
              = rest :=
            List.prefix_iff_eq_append.mp (List.takeWhile_prefix isBlank)
          rw [List.cons_append, List.append_assoc, htail, hsplit]
        · rw [List.length_cons, List.length_append]
          omega
      · simp [undefinedLength?, hc] at h
  · rintro ⟨run, rest, ⟨blanks, hblanks, rfl⟩, rfl, rfl⟩
    have htake := takeWhile_blanks hblanks rest
    have hdrop : (blanks ++ undefinedWord ++ rest).drop blanks.length = undefinedWord ++ rest := by
      rw [List.append_assoc, List.drop_left]
    have hword : undefinedWord.isPrefixOf (undefinedWord ++ rest) = true :=
      List.isPrefixOf_iff_prefix.mpr (List.prefix_append undefinedWord rest)
    simp only [undefinedLength?, List.cons_append, htake, hdrop, hword, if_true, List.length_cons,
      List.length_append, Option.some.injEq]
    omega

/-! ## Repaired texts -/

namespace Repaired

theorem refl (cs : List Char) : Repaired cs cs := by
  induction cs with
  | nil => exact .nil
  | cons c rest ih => exact ih.keep c

theorem append (h : Repaired cs cs') (hrest : Repaired ds ds') :
    Repaired (cs ++ ds) (cs' ++ ds') := by
  induction h with
  | nil => exact hrest
  | keep c _ ih => exact ih.keep c
  | replace spells _ ih =>
    rw [List.append_assoc, List.append_assoc]
    exact ih.replace spells

/-- The written null is shorter than the shortest run. -/
theorem length_le (h : Repaired cs cs') : cs'.length ≤ cs.length := by
  induction h with
  | nil => exact Nat.le_refl 0
  | keep c _ ih => exact Nat.succ_le_succ ih
  | replace spells _ ih =>
    have hrun := spells.length_le
    have hnull : ": null".toList.length = 6 := rfl
    rw [List.length_append, List.length_append, hnull]
    omega

/-- A text without colons stays as it is. -/
theorem eq_of_no_colon (h : Repaired cs cs') (hcolon : ':' ∉ cs) : cs' = cs := by
  induction h with
  | nil => rfl
  | keep c _ ih => rw [ih fun hmem => hcolon (List.mem_cons_of_mem c hmem)]
  | replace spells _ _ => exact absurd (List.mem_append_left _ spells.colon_mem) hcolon

/-- A colon stays a colon, and none is written where there was none. -/
theorem colon_mem_iff (h : Repaired cs cs') : ':' ∈ cs' ↔ ':' ∈ cs := by
  induction h with
  | nil => exact Iff.rfl
  | keep c _ ih => rw [List.mem_cons, List.mem_cons, ih]
  | replace spells _ _ =>
    exact iff_of_true (List.mem_append_left _ (by decide))
      (List.mem_append_left _ spells.colon_mem)

end Repaired

/-! ## Writing null for every run -/

theorem nullFor_eq_drop (skip : ℕ) (cs : List Char) :
    nullFor skip cs = nullFor 0 (cs.drop skip) := by
  induction cs generalizing skip with
  | nil => rw [List.drop_nil]; cases skip <;> rfl
  | cons c rest ih =>
    cases skip with
    | zero => rfl
    | succ skip => rw [nullFor, ih, List.drop_succ_cons]

/-- A run at the front is replaced. -/
theorem nullFor_append (h : SpellsUndefined run) (rest : List Char) :
    nullFor 0 (run ++ rest) = ": null".toList ++ nullFor 0 rest := by
  have hlength : undefinedLength? (run ++ rest) = some run.length :=
    undefinedLength?_eq_some_iff.mpr ⟨run, rest, h, rfl, rfl⟩
  cases run with
  | nil => exact absurd h.length_le (by decide)
  | cons c run =>
    rw [List.cons_append] at hlength ⊢
    rw [nullFor, hlength]
    simp only [List.length_cons, Nat.add_sub_cancel]
    rw [nullFor_eq_drop, List.drop_left]

/-- A character at which no run begins is kept. -/
theorem nullFor_cons {c : Char} (h : undefinedLength? (c :: cs) = none) :
    nullFor 0 (c :: cs) = c :: nullFor 0 cs := by
  rw [nullFor, h]

/-- At the front of the characters there is either a run or a character that is kept. -/
theorem nullFor_cases (cs : List Char) :
    (∃ run rest, SpellsUndefined run ∧ cs = run ++ rest ∧
        nullFor 0 cs = ": null".toList ++ nullFor 0 rest) ∨
      (∃ c rest, cs = c :: rest ∧ undefinedLength? cs = none ∧
        nullFor 0 cs = c :: nullFor 0 rest) ∨
      cs = [] := by
  cases cs with
  | nil => exact .inr (.inr rfl)
  | cons c rest =>
    cases hlength : undefinedLength? (c :: rest) with
    | none => exact .inr (.inl ⟨c, rest, rfl, rfl, nullFor_cons hlength⟩)
    | some length =>
      obtain ⟨run, tail, hrun, hsplit, -⟩ := undefinedLength?_eq_some_iff.mp hlength
      exact .inl ⟨run, tail, hrun, hsplit, hsplit ▸ nullFor_append hrun tail⟩

theorem repaired_nullFor (cs : List Char) : Repaired cs (nullFor 0 cs) := by
  -- a run is replaced as a whole, so the induction is on the length
  induction hlength : cs.length using Nat.strongRecOn generalizing cs with
  | ind length ih =>
    rcases nullFor_cases cs with ⟨run, rest, hrun, rfl, heq⟩ | ⟨c, rest, rfl, -, heq⟩ | rfl
    · have hshort := hrun.length_le
      rw [List.length_append] at hlength
      rw [heq]
      exact (ih rest.length (by omega) rest rfl).replace hrun
    · rw [List.length_cons] at hlength
      rw [heq]
      exact (ih rest.length (by omega) rest rfl).keep c
    · exact .nil

/-- Where there is no run, every character is kept. -/
theorem nullFor_eq_self (h : ¬ HasUndefined cs) : nullFor 0 cs = cs := by
  induction cs with
  | nil => rfl
  | cons c rest ih =>
    rcases nullFor_cases (c :: rest) with
      ⟨run, tail, hrun, hsplit, -⟩ | ⟨_, _, hsplit, -, heq⟩ | hnil
    · exact absurd ⟨run, hrun, hsplit ▸ (List.prefix_append run tail).isInfix⟩ h
    · obtain ⟨rfl, rfl⟩ := List.cons.inj hsplit
      rw [heq, ih fun hrest => h (hasUndefined_cons hrest)]
    · cases hnil

/-- Where there is a run, the text gets shorter. -/
theorem length_nullFor_lt (h : HasUndefined cs) : (nullFor 0 cs).length < cs.length := by
  induction cs with
  | nil =>
    obtain ⟨run, hrun, hmem⟩ := h
    rw [List.eq_nil_of_infix_nil hmem] at hrun
    exact absurd hrun.length_le (by decide)
  | cons c rest ih =>
    rcases nullFor_cases (c :: rest) with
      ⟨run, tail, hrun, hsplit, heq⟩ | ⟨_, _, hsplit, hno, heq⟩ | hnil
    · have hshort := hrun.length_le
      have htail := (repaired_nullFor tail).length_le
      have hnull : ": null".toList.length = 6 := rfl
      rw [heq, hsplit, List.length_append, List.length_append, hnull]
      omega
    · obtain ⟨rfl, rfl⟩ := List.cons.inj hsplit
      obtain ⟨run, hrun, hmem⟩ := h
      -- the run does not begin at the character that is kept
      rcases List.infix_cons_iff.mp hmem with ⟨tail, hfront⟩ | hrest
      · rw [undefinedLength?_eq_some_iff.mpr ⟨run, tail, hrun, hfront.symm, rfl⟩] at hno
        cases hno
      · rw [heq, List.length_cons, List.length_cons]
        exact Nat.succ_lt_succ (ih ⟨run, hrun, hrest⟩)
    · cases hnil

end Reply
end TableShell
