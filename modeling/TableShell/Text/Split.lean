/-!
# Cutting texts

A text is cut at the first place of a mark (`splitFirst?`), at every place of it (`pieces`), or
behind an opening (`dropPrefix?`). Cutting loses nothing but the marks: the parts, put together
around them again, give the text.
-/

namespace TableShell
namespace Text

/-- The characters before and after the first `mark`. -/
def splitFirst? (mark : Char) : List Char → Option (List Char × List Char)
  | [] => none
  | c :: rest =>
    if c = mark then
      some ([], rest)
    else
      (splitFirst? mark rest).map fun parts => (c :: parts.1, parts.2)

/-- The parts of the text between the marks; one more than there are marks. -/
def pieces (mark : Char) : List Char → List (List Char)
  | [] => [[]]
  | c :: rest =>
    if c = mark then
      [] :: pieces mark rest
    else
      match pieces mark rest with
      | piece :: more => (c :: piece) :: more
      | [] => [[c]]

/-- What follows the opening `start`. -/
def dropPrefix? : (start cs : List Char) → Option (List Char)
  | [], cs => some cs
  | _ :: _, [] => none
  | s :: start, c :: cs => if s = c then dropPrefix? start cs else none

/-- What comes before the ending `stop`. -/
def dropSuffix? (stop cs : List Char) : Option (List Char) :=
  (dropPrefix? stop.reverse cs.reverse).map List.reverse

/-- The run of characters occurs in the text. -/
def occursIn (run : List Char) : List Char → Bool
  | [] => run.isEmpty
  | c :: rest => run.isPrefixOf (c :: rest) || occursIn run rest

/-- A cut at the first mark takes away that mark alone, and none stands before it. -/
theorem splitFirst?_eq_some_iff {mark : Char} {cs before after : List Char} :
    splitFirst? mark cs = some (before, after) ↔
      cs = before ++ mark :: after ∧ mark ∉ before := by
  induction cs generalizing before with
  | nil => simp [splitFirst?]
  | cons c rest ih =>
    by_cases h : c = mark
    · subst h
      cases before <;> simp [splitFirst?, eq_comm]
      grind
    · cases before with
      | nil => simp [splitFirst?, h]
      | cons b before =>
        simp only [splitFirst?, h, if_false, Option.map_eq_some_iff, Prod.mk.injEq,
          List.cons.injEq, Prod.exists, List.cons_append, List.mem_cons, not_or]
        constructor
        · rintro ⟨x, y, hxy, ⟨rfl, rfl⟩, rfl⟩
          obtain ⟨rfl, hm⟩ := ih.1 hxy
          exact ⟨⟨rfl, rfl⟩, fun e => h e.symm, hm⟩
        · rintro ⟨⟨rfl, rfl⟩, _, hm⟩
          exact ⟨before, after, ih.2 ⟨rfl, hm⟩, ⟨rfl, rfl⟩, rfl⟩

/-- There is no cut exactly where the mark does not occur. -/
theorem splitFirst?_eq_none_iff {mark : Char} {cs : List Char} :
    splitFirst? mark cs = none ↔ mark ∉ cs := by
  induction cs with
  | nil => simp [splitFirst?]
  | cons c rest ih =>
    by_cases h : c = mark
    · simp [splitFirst?, h]
    · simp [splitFirst?, h, ih, Ne.symm h]

theorem pieces_ne_nil (mark : Char) (cs : List Char) : pieces mark cs ≠ [] := by
  cases cs with
  | nil => simp [pieces]
  | cons c rest =>
    by_cases h : c = mark
    · simp [pieces, h]
    · cases hp : pieces mark rest <;> simp [pieces, h, hp]

/-- The pieces, joined by the mark, are the text. -/
theorem intercalate_pieces (mark : Char) (cs : List Char) :
    [mark].intercalate (pieces mark cs) = cs := by
  induction cs with
  | nil => rfl
  | cons c rest ih =>
    have hne := pieces_ne_nil mark rest
    by_cases h : c = mark
    · subst h
      cases hp : pieces c rest with
      | nil => exact absurd hp hne
      | cons piece more =>
        rw [hp] at ih
        simp [pieces, hp, List.intercalate_cons_cons, ih]
    · cases hp : pieces mark rest with
      | nil => exact absurd hp hne
      | cons piece more =>
        rw [hp] at ih
        simp only [pieces, h, if_false, hp]
        cases more with
        | nil => simpa [List.intercalate] using ih
        | cons next more =>
          rw [List.intercalate_cons_cons] at ih ⊢
          simp [← ih]

end Text
end TableShell
