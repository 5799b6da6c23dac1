import TableShell.Proofs.Terminal.Zipper

/-!
# Editing by the number of bytes

An editor that keeps its text in UTF-8 finds places by counting bytes, and it must never cut the
text inside a character or beyond its end. Here every cut is one that can fail (`cutAt?`), and the
edits are written in bytes, one step after the other. On the line of a zipper no cut fails, and the
edits come to what they are on the zipper (`onBytes?_line`).
-/

namespace TableShell
namespace Terminal

open Text

/-! ## Cuts -/

/-- The text cut at the byte of that number. There is no cut beyond the end, and none inside a
character. -/
def cutAt? (n : ℕ) : List Char → Option (List Char × List Char)
  | [] => if n = 0 then some ([], []) else none
  | c :: rest =>
    if n = 0 then
      some ([], c :: rest)
    else if c.utf8Size ≤ n then
      (cutAt? (n - c.utf8Size) rest).map fun parts => (c :: parts.1, parts.2)
    else
      none

theorem cutAt?_append (before after : List Char) :
    cutAt? (byteLength before) (before ++ after) = some (before, after) := by
  induction before with
  | nil =>
    cases after with
    | nil => rfl
    | cons c after => rfl
  | cons c before ih =>
    have hpos := c.utf8Size_pos
    rw [List.cons_append, byteLength_cons, cutAt?, if_neg (by omega),
      if_pos (Nat.le_add_right _ _), Nat.add_sub_cancel_left, ih]
    rfl

/-- A cut parts the text, and the first part has that number of bytes. -/
theorem cutAt?_eq_some_iff {n : ℕ} {cs before after : List Char} :
    cutAt? n cs = some (before, after) ↔ cs = before ++ after ∧ byteLength before = n := by
  constructor
  · intro h
    -- each character takes its bytes off the number, so the number varies with the text
    induction cs generalizing n before with
    | nil =>
      rw [cutAt?] at h
      split at h
      · rename_i hn
        cases h
        exact ⟨rfl, hn.symm⟩
      · cases h
    | cons c rest ih =>
      rw [cutAt?] at h
      split at h
      · rename_i hn
        cases h
        exact ⟨rfl, hn.symm⟩
      · split at h
        · rename_i hle
          obtain ⟨parts, hparts, hcons⟩ := Option.map_eq_some_iff.mp h
          cases hcons
          obtain ⟨htext, hlength⟩ := ih hparts
          refine ⟨by rw [htext, List.cons_append], ?_⟩
          rw [byteLength_cons, hlength]
          omega
        · cases h
  · rintro ⟨rfl, rfl⟩
    exact cutAt?_append before after

theorem utf8ByteSize_eq (s : String) : s.utf8ByteSize = byteLength s.toList := by
  -- the induction is on the characters, and a string is that of its characters
  have hchars : ∀ cs : List Char, (String.ofList cs).utf8ByteSize = byteLength cs := by
    intro cs
    induction cs with
    | nil => rfl
    | cons c cs ih =>
      have hcons : String.ofList (c :: cs) = String.singleton c ++ String.ofList cs := by
        apply String.toList_injective
        simp
      rw [hcons, String.utf8ByteSize_append, String.utf8ByteSize_singleton, ih, byteLength_cons]
  rw [← hchars, String.ofList_toList]

/-- There is a cut exactly at the places of the text that lie between characters. -/
theorem isSome_cutAt?_iff {n : ℕ} {s : String} :
    (cutAt? n s.toList).isSome ↔ String.Pos.Raw.IsValid s ⟨n⟩ := by
  rw [String.Pos.Raw.isValid_iff_exists_append, Option.isSome_iff_exists]
  constructor
  · rintro ⟨parts, hparts⟩
    obtain ⟨htext, hlength⟩ := cutAt?_eq_some_iff.mp hparts
    refine ⟨.ofList parts.1, .ofList parts.2, ?_, ?_⟩
    · rw [← String.ofList_append, ← htext, String.ofList_toList]
    · rw [String.rawEndPos, utf8ByteSize_eq, String.toList_ofList, hlength]
  · rintro ⟨s₁, s₂, rfl, hplace⟩
    refine ⟨(s₁.toList, s₂.toList), ?_⟩
    rw [cutAt?_eq_some_iff, String.toList_append]
    refine ⟨rfl, ?_⟩
    rw [← utf8ByteSize_eq]
    exact (congrArg String.Pos.Raw.byteIdx hplace).symm

/-! ## Changes at a place -/

/-- The text with a character at the place. -/
def insertAt? (n : ℕ) (c : Char) (cs : List Char) : Option (List Char) :=
  (cutAt? n cs).map fun parts => parts.1 ++ c :: parts.2

/-- The text without the character at the place; there must be one. -/
def removeAt? (n : ℕ) (cs : List Char) : Option (List Char) :=
  (cutAt? n cs).bind fun parts =>
    match parts.2 with
    | [] => none
    | _ :: rest => some (parts.1 ++ rest)

/-- The text without what lies between two places, which come in this order. -/
def drain? (start stop : ℕ) (cs : List Char) : Option (List Char) :=
  if start ≤ stop then
    (cutAt? start cs).bind fun parts => (cutAt? stop cs).map fun parts' => parts.1 ++ parts'.2
  else
    none

/-- The text up to the place, or all of it if it is shorter. -/
def truncate? (n : ℕ) (cs : List Char) : Option (List Char) :=
  if n ≤ byteLength cs then (cutAt? n cs).map Prod.fst else some cs

variable {before after : List Char}

theorem insertAt?_append (c : Char) :
    insertAt? (byteLength before) c (before ++ after) = some (before ++ c :: after) := by
  rw [insertAt?, cutAt?_append]
  rfl

theorem removeAt?_append (c : Char) :
    removeAt? (byteLength before) (before ++ c :: after) = some (before ++ after) := by
  rw [removeAt?, cutAt?_append]
  rfl

theorem drain?_append (between : List Char) :
    drain? (byteLength before) (byteLength (before ++ between)) (before ++ between ++ after)
      = some (before ++ after) := by
  have hle : byteLength before ≤ byteLength (before ++ between) := by
    rw [byteLength_append]
    exact Nat.le_add_right _ _
  rw [drain?, if_pos hle, cutAt?_append, List.append_assoc, cutAt?_append]
  rfl

theorem truncate?_append : truncate? (byteLength before) (before ++ after) = some before := by
  have hle : byteLength before ≤ byteLength (before ++ after) := by
    rw [byteLength_append]
    exact Nat.le_add_right _ _
  rw [truncate?, if_pos hle, cutAt?_append]
  rfl

/-! ## Places of characters -/

/-- The place of the first character that satisfies `p`. -/
def firstPlace? (p : Char → Bool) : List Char → Option ℕ
  | [] => none
  | c :: rest => if p c then some 0 else (firstPlace? p rest).map (c.utf8Size + ·)

/-- The place of the last character that satisfies `p`. -/
def lastPlace? (p : Char → Bool) : List Char → Option ℕ
  | [] => none
  | c :: rest =>
    match lastPlace? p rest with
    | some place => some (c.utf8Size + place)
    | none => if p c then some 0 else none

/-- Up to the first character that satisfies `p`, or to the end, no character does. -/
theorem firstPlace?_getD (p : Char → Bool) (cs : List Char) :
    (firstPlace? p cs).getD (byteLength cs) = byteLength (cs.takeWhile (!p ·)) := by
  induction cs with
  | nil => rfl
  | cons c rest ih =>
    rw [firstPlace?, List.takeWhile_cons]
    cases hc : p c with
    | true => rfl
    | false =>
      simp only [Bool.false_eq_true, if_false, Bool.not_false, if_true, byteLength_cons, ← ih]
      cases firstPlace? p rest <;> rfl

theorem lastPlace?_concat (p : Char → Bool) (cs : List Char) (c : Char) :
    lastPlace? p (cs ++ [c]) = if p c then some (byteLength cs) else lastPlace? p cs := by
  induction cs with
  | nil => cases hc : p c <;> simp [lastPlace?, hc]
  | cons d cs ih =>
    rw [List.cons_append, lastPlace?, ih, lastPlace?]
    cases hc : p c with
    | true => rfl
    | false => rfl

/-- Where a character satisfies `p`, the last one stands at the end of what is left when those
behind it are dropped. -/
theorem lastPlace?_spec (p : Char → Bool) (cs : List Char) :
    (lastPlace? p cs = none ∧ cs.rdropWhile (!p ·) = []) ∨
    ∃ first c rest, cs = first ++ c :: rest ∧ lastPlace? p cs = some (byteLength first) ∧
      cs.rdropWhile (!p ·) = first ++ [c] := by
  -- from the right, since both sides look at the last character first
  induction cs using List.reverseRecOn with
  | nil => exact Or.inl ⟨rfl, rfl⟩
  | append_singleton cs c ih =>
    rw [lastPlace?_concat]
    cases hc : p c with
    | true =>
      have hkept : (cs ++ [c]).rdropWhile (!p ·) = cs ++ [c] :=
        List.rdropWhile_concat_neg _ _ _ (by simp [hc])
      exact Or.inr ⟨cs, c, [], rfl, if_pos rfl, hkept⟩
    | false =>
      have hdropped : (cs ++ [c]).rdropWhile (!p ·) = cs.rdropWhile (!p ·) :=
        List.rdropWhile_concat_pos _ _ _ (by simp [hc])
      rw [if_neg Bool.false_ne_true, hdropped]
      rcases ih with hnone | ⟨first, d, rest, hcs, hplace, hrest⟩
      · exact Or.inl hnone
      · refine Or.inr ⟨first, d, rest ++ [c], ?_, hplace, hrest⟩
        rw [hcs, List.append_assoc, List.cons_append]

/-! ## Edits in bytes -/

namespace InputLine

/-- The place of the character before the cursor, or the start of the line. -/
def placeBefore? (l : InputLine) : Option ℕ :=
  (cutAt? l.cursor l.chars).map fun parts => (lastPlace? (fun _ => true) parts.1).getD 0

/-- The place behind the character at the cursor, or the end of the line. -/
def placeBehind? (l : InputLine) : Option ℕ :=
  (cutAt? l.cursor l.chars).map fun parts =>
    (parts.2.head?.map fun c => l.cursor + c.utf8Size).getD (byteLength l.chars)

/-- The place of the next word. -/
def placeOfNextWord? (l : InputLine) : Option ℕ :=
  (cutAt? l.cursor l.chars).bind fun parts =>
    let rest := parts.2
    let wordEnd := (firstPlace? isBlank rest).getD (byteLength rest)
    (cutAt? wordEnd rest).map fun parts =>
      let behind := parts.2
      l.cursor + wordEnd + (firstPlace? (!isBlank ·) behind).getD (byteLength behind)

/-- The place of this word, or of the one before. -/
def placeOfWord? (l : InputLine) : Option ℕ :=
  (cutAt? l.cursor l.chars).bind fun parts =>
    let kept := trimRight parts.1
    match lastPlace? isBlank kept with
    | none => some 0
    | some place => (cutAt? place kept).map fun parts =>
      place + (parts.2.head?.map Char.utf8Size).getD 1

def insert? (l : InputLine) (c : Char) : Option InputLine :=
  (insertAt? l.cursor c l.chars).map fun chars => ⟨chars, l.cursor + c.utf8Size⟩

def backspace? (l : InputLine) : Option InputLine :=
  if l.cursor > 0 then
    l.placeBefore?.bind fun place => (removeAt? place l.chars).map fun chars => ⟨chars, place⟩
  else
    some l

def deleteForward? (l : InputLine) : Option InputLine :=
  if l.cursor < byteLength l.chars then
    (removeAt? l.cursor l.chars).map fun chars => ⟨chars, l.cursor⟩
  else
    some l

/-- The cursor is put to a place. -/
def moveTo? (l : InputLine) (place : Option ℕ) : Option InputLine :=
  place.map fun place => ⟨l.chars, place⟩

def deleteWordBackward? (l : InputLine) : Option InputLine :=
  l.placeOfWord?.bind fun place => (drain? place l.cursor l.chars).map fun chars => ⟨chars, place⟩

def deleteToEnd? (l : InputLine) : Option InputLine :=
  (truncate? l.cursor l.chars).map fun chars => ⟨chars, l.cursor⟩

def deleteToStart? (l : InputLine) : Option InputLine :=
  (cutAt? l.cursor l.chars).map fun parts => ⟨parts.2, 0⟩

/-- What is drawn before the cursor. -/
def drawnBefore? (l : InputLine) : Option (List Char) :=
  (cutAt? (min l.cursor (byteLength l.chars)) l.chars).map Prod.fst

end InputLine

namespace Zipper

variable (z : Zipper)

theorem cutAt?_line : cutAt? z.line.cursor z.line.chars = some (z.before, z.after) :=
  cutAt?_append z.before z.after

theorem placeBefore?_line : z.line.placeBefore? = some (byteLength z.before.dropLast) := by
  rw [InputLine.placeBefore?, cutAt?_line]
  cases z.before using List.reverseRecOn with
  | nil => rfl
  | append_singleton cs c => simp [lastPlace?_concat]

theorem placeBehind?_line : z.line.placeBehind? = some (byteLength z.right.before) := by
  rw [InputLine.placeBehind?, cutAt?_line, right, line]
  cases z.after <;> simp

theorem placeOfNextWord?_line :
    z.line.placeOfNextWord? = some (byteLength z.wordForward.before) := by
  have hcut := cutAt?_append (z.after.takeWhile (!isBlank ·)) (z.after.dropWhile (!isBlank ·))
  rw [List.takeWhile_append_dropWhile] at hcut
  simp only [InputLine.placeOfNextWord?, cutAt?_line, Option.bind_some, firstPlace?_getD, hcut,
    Option.map_some, Bool.not_not]
  simp [line, wordForward, skipRight, Nat.add_assoc]

theorem placeOfWord?_line : z.line.placeOfWord? = some (byteLength z.wordBackward.before) := by
  have hkept : z.wordBackward.before = (trimRight z.before).rdropWhile (!isBlank ·) := rfl
  simp only [InputLine.placeOfWord?, cutAt?_line, Option.bind_some]
  rcases lastPlace?_spec isBlank (trimRight z.before) with ⟨hnone, hnil⟩ |
    ⟨first, c, rest, hcs, hplace, hrest⟩
  · -- without a blank, the word starts the line
    simp only [hnone, hkept, hnil, byteLength_nil]
  · have hcut := cutAt?_append first (c :: rest)
    rw [← hcs] at hcut
    simp [hplace, hcut, hkept, hrest]

theorem insert?_line (c : Char) : z.line.insert? c = some (z.insert c).line := by
  rw [InputLine.insert?, line, insertAt?_append]
  simp [line, insert]

theorem backspace?_line : z.line.backspace? = some z.backspace.line := by
  rw [InputLine.backspace?, placeBefore?_line]
  cases hbefore : z.before using List.reverseRecOn with
  | nil => simp [line, backspace, hbefore]
  | append_singleton cs c =>
    have hpos := c.utf8Size_pos
    have hremove : removeAt? (byteLength cs) z.line.chars = some (cs ++ z.after) := by
      rw [chars_line, hbefore, List.append_assoc]
      exact removeAt?_append c
    have hcursor : z.line.cursor > 0 := by
      rw [cursor_line, hbefore, byteLength_append, byteLength_cons]
      omega
    rw [if_pos hcursor, List.dropLast_concat, Option.bind_some, hremove]
    simp [line, backspace, hbefore]

theorem deleteForward?_line : z.line.deleteForward? = some z.deleteForward.line := by
  rw [InputLine.deleteForward?]
  cases hafter : z.after with
  | nil => simp [line, deleteForward, hafter]
  | cons c rest =>
    have hpos := c.utf8Size_pos
    have hcursor : z.line.cursor < byteLength z.line.chars := by
      rw [cursor_line, chars_line, hafter, byteLength_append, byteLength_cons]
      omega
    have hremove : removeAt? z.line.cursor z.line.chars = some (z.before ++ rest) := by
      rw [cursor_line, chars_line, hafter]
      exact removeAt?_append c
    rw [if_pos hcursor, hremove]
    simp [line, deleteForward, hafter]

theorem deleteWordBackward?_line : z.line.deleteWordBackward? = some z.deleteWordBackward.line := by
  -- what is taken away are the word and the blanks behind it
  let blanks := z.before.rtakeWhile isBlank
  let word := (z.before.rdropWhile isBlank).rtakeWhile (!isBlank ·)
  have hbefore : z.before = z.wordBackward.before ++ (word ++ blanks) := by
    have hword : z.wordBackward.before ++ word = z.before.rdropWhile isBlank :=
      List.rdropWhile_append_rtakeWhile
    rw [← List.append_assoc, hword, List.rdropWhile_append_rtakeWhile]
  have hdrain : drain? (byteLength z.wordBackward.before) (byteLength z.before)
      (z.before ++ z.after) = some (z.wordBackward.before ++ z.after) := by
    conv_lhs => rw [hbefore]
    exact drain?_append (word ++ blanks)
  rw [InputLine.deleteWordBackward?, placeOfWord?_line, Option.bind_some, line, hdrain]
  rfl

theorem deleteToEnd?_line : z.line.deleteToEnd? = some z.deleteToEnd.line := by
  rw [InputLine.deleteToEnd?, line, truncate?_append]
  simp [line, deleteToEnd]

theorem deleteToStart?_line : z.line.deleteToStart? = some z.deleteToStart.line := by
  rw [InputLine.deleteToStart?, cutAt?_line]
  rfl

theorem drawnBefore?_line : z.line.drawnBefore? = some z.before := by
  have hmin : min z.line.cursor (byteLength z.line.chars) = z.line.cursor := by
    rw [cursor_line, chars_line, byteLength_append]
    omega
  rw [InputLine.drawnBefore?, hmin, cutAt?_line]
  rfl

end Zipper
end Terminal
end TableShell
