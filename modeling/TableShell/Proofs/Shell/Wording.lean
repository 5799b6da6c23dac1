import TableShell.Proofs.Command.Reading
import TableShell.Proofs.Shell.AllOrNothing

/-!
# Telling what is wrong with the words of a line

A line that cannot be cut into words is told so, with the wording of what is wrong. No other answer
of the shell has that severity and that wording (`tells_words_iff`), so from what is told one knows
which error of words a line has, if it has one.
-/

namespace TableShell

/-! ## First letters -/

/-- A literal begins with its first letter. -/
theorem head_ofList (c : Char) (cs : List Char) :
    (String.ofList (c :: cs)).toList.head? = some c := by
  rw [String.toList_ofList]
  rfl

/-- A text that goes on keeps its first letter. -/
theorem head_append {s : String} {c : Char} (h : s.toList.head? = some c) (t : String) :
    (s ++ t).toList.head? = some c := by
  rw [String.toList_append, List.head?_append, h, Option.some_or]

theorem ne_of_head {s t : String} {c d : Char} (hs : s.toList.head? = some c)
    (ht : t.toList.head? = some d) (hne : c ≠ d) : s ≠ t := by
  rintro rfl
  exact hne (Option.some.inj (hs.symm.trans ht))

theorem toString_inj {m n : ℕ} (h : toString m = toString n) : m = n := by
  have hdigits : Nat.toDigits 10 m = Nat.toDigits 10 n := by
    rw [← Nat.toList_repr, ← Nat.toList_repr]
    exact congrArg String.toList h
  have hread := congrArg (Nat.ofDigitChars 10 · 0) hdigits
  simpa only [Nat.ofDigitChars_ten_toDigits] using hread

theorem Words.Error.head_message (cause : Words.Error) : cause.message.toList.head? = some 'N' := by
  cases cause with
  | noEscapedCharacter => exact head_ofList _ _
  | noClosingQuotation position => exact head_append (head_ofList _ _) _

/-- Two errors of words have two wordings. -/
theorem Words.Error.message_inj {cause cause' : Words.Error} (h : cause.message = cause'.message) :
    cause = cause' := by
  have hother (position : ℕ) : "No escaped character"
      ≠ "No closing quotation for quote at position " ++ toString position := by
    intro hsame
    have hfourth := congrArg (fun s : String => s.toList[3]?) hsame
    rw [String.toList_append, List.getElem?_append_left (by decide)] at hfourth
    exact absurd hfourth (by decide)
  cases cause with
  | noEscapedCharacter =>
    cases cause' with
    | noEscapedCharacter => rfl
    | noClosingQuotation position => exact absurd h (hother position)
  | noClosingQuotation position =>
    cases cause' with
    | noEscapedCharacter => exact absurd h.symm (hother position)
    | noClosingQuotation position' => rw [toString_inj ((String.append_right_inj _).mp h)]

/-- The description of another error begins with another letter. -/
theorem LineError.exists_head {e : LineError} (h : ∀ cause, e ≠ .words cause) :
    ∃ c, e.description.toList.head? = some c ∧ c ≠ if e.isMalformed then 'N' else 'P' := by
  cases e with
  | words cause => exact absurd rfl (h cause)
  | noPair role argument =>
    cases role with
    | updateCondition =>
      exact ⟨'u', head_append (head_append (head_ofList _ _) _) _, by simp [isMalformed]⟩
    | updateAssignment =>
      exact ⟨'u', head_append (head_append (head_ofList _ _) _) _, by simp [isMalformed]⟩
    | deleteCondition =>
      exact ⟨'d', head_append (head_append (head_ofList _ _) _) _, by simp [isMalformed]⟩
  | missingSet => exact ⟨'u', head_append (head_ofList _ _) _, by decide⟩
  | notOnePair => exact ⟨'s', head_ofList _ _, by decide⟩
  | noCommand => exact ⟨'N', head_ofList _ _, by decide⟩
  | addWithoutPairs => exact ⟨'a', head_ofList _ _, by decide⟩
  | batchWithoutLists => exact ⟨'a', head_ofList _ _, by decide⟩
  | unevenLists column found expected =>
    refine ⟨'A', ?_, by simp [isMalformed]⟩
    exact head_append (head_append (head_append (head_append (head_append (head_append
      (head_ofList _ _) _) _) _) _) _) _
  | updateWithoutConditions => exact ⟨'u', head_ofList _ _, by decide⟩
  | updateWithoutAssignments => exact ⟨'u', head_ofList _ _, by decide⟩
  | deleteWithoutArguments => exact ⟨'d', head_append (head_ofList _ _) _, by decide⟩
  | deleteWithoutConditions => exact ⟨'d', head_append (head_ofList _ _) _, by decide⟩
  | searchWithoutKeyword => exact ⟨'s', head_ofList _ _, by decide⟩
  | unknownCommand word =>
    exact ⟨'U', head_append (head_append (head_ofList _ _) _) _, by simp [isMalformed]⟩

/-- A text that begins with another letter than the wordings of the errors of words is none. -/
theorem ne_message_words {s : String} {c : Char} (h : s.toList.head? = some c) (hne : c ≠ 'P')
    (cause : Words.Error) : s ≠ (LineError.words cause).message :=
  ne_of_head h (head_append (head_ofList _ _) _) hne

theorem LineError.message_ne {e : LineError} (h : ∀ cause, e ≠ .words cause)
    (cause : Words.Error) : e.message ≠ (LineError.words cause).message := by
  obtain ⟨c, hc, hne⟩ := exists_head h
  rw [message]
  cases hform : e.isMalformed with
  | true =>
    rw [hform, if_pos rfl] at hne
    rw [if_pos rfl]
    intro hsame
    exact ne_of_head hc cause.head_message hne ((String.append_right_inj _).mp hsame)
  | false =>
    rw [hform, if_neg Bool.false_ne_true] at hne
    rw [if_neg Bool.false_ne_true]
    exact ne_message_words hc hne cause

theorem Refusal.message_ne (refusal : Refusal) (cause : Words.Error) :
    refusal.message ≠ (LineError.words cause).message := by
  cases refusal with
  | unknownColumn name =>
    have hhead : (Refusal.unknownColumn name).message.toList.head? = some 'C' :=
      head_append (head_append (head_ofList _ _) _) _
    exact ne_message_words hhead (by decide) cause
  | unconfirmedDelete conditions rows =>
    have hhead : (Refusal.unconfirmedDelete conditions rows).message.toList.head? = some 'W' :=
      head_append (head_append (head_append (head_append (head_append
        (head_ofList _ _) _) _) _) _) _
    exact ne_message_words hhead (by decide) cause
  | unconfirmedDeleteAll rows =>
    have hhead : (Refusal.unconfirmedDeleteAll rows).message.toList.head? = some 'W' :=
      head_append (head_append (head_ofList _ _) _) _
    exact ne_message_words hhead (by decide) cause

theorem StoreError.message_ne (e : StoreError) (cause : Words.Error) :
    (Failure.store e).message ≠ (LineError.words cause).message := by
  have hhead : (Failure.store e).message.toList.head? = some 'S' :=
    head_append (head_ofList _ _) _
  exact ne_message_words hhead (by decide) cause

namespace Store

/-! ## Answers -/

/-- What is wrong with a command is not wrong with the words of its line. -/
theorem message_ne_of_run {store after : Store} {command : Command} {failure : Failure}
    (h : store.run command = (.error failure, after)) (cause : Words.Error) :
    failure.message ≠ (LineError.words cause).message := by
  cases ran_of_run h with
  | unsaved houtcome hchanged hsave => exact StoreError.message_ne _ cause
  | refused houtcome =>
    unfold outcome at houtcome
    cases htable : store.tableFor command with
    | error failure' =>
      rw [htable] at houtcome
      obtain rfl : failure' = failure := Except.error.inj houtcome
      unfold tableFor at htable
      split at htable
      · cases hload : store.load with
        | error e =>
          rw [hload] at htable
          cases htable
          exact e.message_ne cause
        | ok t =>
          rw [hload] at htable
          cases htable
      · cases htable
    | ok t =>
      rw [htable] at houtcome
      have happly : (t.apply command).mapError .refusal = .error failure := houtcome
      cases hrefused : t.apply command with
      | error refusal =>
        rw [hrefused] at happly
        cases happly
        exact refusal.message_ne cause
      | ok applied =>
        rw [hrefused] at happly
        cases happly

/-- A command that is carried out answers no error. -/
theorem severity_of_run {store after : Store} {command : Command} {answer : Answer}
    (h : store.run command = (.ok answer, after)) : answer.report.severity ≠ .error := by
  cases ran_of_run h with
  | looked houtcome hchanged =>
    obtain ⟨t, -, happly⟩ := apply_of_outcome houtcome
    exact Table.severity_of_apply happly
  | saved houtcome hchanged hsave =>
    obtain ⟨t, -, happly⟩ := apply_of_outcome houtcome
    exact Table.severity_of_apply happly

/-- A line that has no words is answered with what is wrong with them, and nothing happens. -/
theorem execute_of_words_error (store : Store) {line : String} {cause : Words.Error}
    (h : Words.read line = .error cause) :
    store.execute line = (⟨.say .error (LineError.words cause).message, none⟩, store) := by
  have hread : Command.read line = .error (.words cause) := by
    rw [Command.read, Command.wordsOf, h]
    rfl
  rw [execute, hread]
  rfl

/-- Of a line, only the words reach the store. -/
theorem execute_congr (store : Store) {line line' : String}
    (h : Words.read line = Words.read line') : store.execute line = store.execute line' := by
  rw [execute, execute, Command.read, Command.read, Command.wordsOf, Command.wordsOf, h]

/-- The shell says that the words of a line are wrong exactly if they are. -/
theorem tells_words_iff (store : Store) (line : String) (cause : Words.Error) :
    (store.execute line).1.report.severity = .error ∧
        (store.execute line).1.report.message = (LineError.words cause).message ↔
      Words.read line = .error cause := by
  constructor
  · rintro ⟨hseverity, hmessage⟩
    cases hwords : Words.read line with
    | error cause' =>
      rw [store.execute_of_words_error hwords] at hmessage
      have hsame : "Parse error: " ++ cause'.message = "Parse error: " ++ cause.message := hmessage
      rw [Words.Error.message_inj ((String.append_right_inj _).mp hsame)]
    | ok words =>
      exfalso
      have hread : Command.read line = Command.ofWords words := by
        rw [Command.read, Command.wordsOf, hwords]
        rfl
      rw [execute, hread] at hseverity hmessage
      cases hcommand : Command.ofWords words with
      | error e =>
        rw [hcommand] at hmessage
        exact LineError.message_ne
          (fun cause' h => Command.ofWords_ne_words words cause' (h ▸ hcommand)) cause hmessage
      | ok command =>
        rw [hcommand] at hseverity hmessage
        cases hrun : store.run command with
        | mk result after =>
          simp only [hrun] at hseverity hmessage
          cases result with
          | error failure => exact message_ne_of_run hrun cause hmessage
          | ok answer => exact severity_of_run hrun hseverity
  · intro h
    rw [store.execute_of_words_error h]
    exact ⟨rfl, rfl⟩

end Store
end TableShell
