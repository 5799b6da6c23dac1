import TableShell.Proofs.Json.Places
import TableShell.Proofs.Request.Cleaning
import TableShell.Proofs.Text.Cutting

/-!
# Replies that need cleaning

An agent may write undefined values where its text would have null, put the text into a code fence,
and put blanks around it all. If no string of the text could be taken for an undefined value, such a
reply gives the request that the text states (`read_of_wrapped`).

The blanks and the fence come off first, then null is written for the undefined values. Both leave
the tokens of the text: blanks at the edges belong to none (`nullFor_around`,
`Json.tokens_of_blanks`), and the nulls are put back where they stood (`Json.tokensFrom_nullFor`).
-/

namespace TableShell
namespace Reply

open Text Json

/-- The reply is the text, with blanks or nothing around it, and perhaps between two lines of a code
fence. Behind the opening of the fence there is at least the break of its line. -/
inductive Wraps (body : List Char) : List Char → Prop
  | bare {lead trail : List Char} (hlead : lead.all isBlank = true)
    (htrail : trail.all isBlank = true) : Wraps body (lead ++ (body ++ trail))
  | fenced {lead opening closing trail : List Char} {start : String}
    (hlead : lead.all isBlank = true) (hstart : start = "```json" ∨ start = "```")
    (hopening : opening.all isBlank = true) (hbreak : opening ≠ [])
    (hclosing : closing.all isBlank = true) (htrail : trail.all isBlank = true) :
    Wraps body
      (lead ++ ((start.toList ++ (opening ++ (body ++ (closing ++ "```".toList)))) ++ trail))

variable {cs gap body : List Char}

/-! ## Blanks around undefined values -/

/-- No undefined value begins in blanks. -/
theorem nullFor_blanks_append (h : gap.all isBlank = true) (cs : List Char) :
    nullFor 0 (gap ++ cs) = gap ++ nullFor 0 cs := by
  induction gap with
  | nil => rfl
  | cons c gap ih =>
    rw [List.all_cons, Bool.and_eq_true] at h
    have hcolon : c ≠ ':' := ne_of_isBlank h.1 (by decide)
    have hnone : undefinedLength? (c :: (gap ++ cs)) = none := by
      simp [undefinedLength?, hcolon]
    rw [List.cons_append, nullFor_cons hnone, ih h.2, List.cons_append]

/-- An undefined value does not end in blanks, so one at the front of a text with blanks behind it
is one at the front of the text. -/
theorem exists_of_append_blanks {run back : List Char} (hrun : SpellsUndefined run)
    (hgap : gap.all isBlank = true) (h : cs ++ gap = run ++ back) : ∃ rest, cs = run ++ rest := by
  rcases List.append_eq_append_iff.mp h with ⟨more, rfl, hgap'⟩ | ⟨rest, rfl, -⟩
  · rcases List.eq_nil_or_concat more with rfl | ⟨more, last, rfl⟩
    · exact ⟨[], by rw [List.append_nil, List.append_nil]⟩
    · obtain ⟨blanks, -, heq⟩ := hrun
      have hword : undefinedWord = "undefine".toList ++ ['d'] := rfl
      rw [hword, ← List.append_assoc, ← List.cons_append, List.concat_eq_append,
        ← List.append_assoc] at heq
      obtain ⟨-, hlast⟩ := List.append_inj' heq rfl
      obtain rfl : last = 'd' := List.head_eq_of_cons_eq hlast
      have hmem : 'd' ∈ gap := by simp [hgap']
      exact absurd (List.all_eq_true.mp hgap 'd' hmem) (by decide)
  · exact ⟨rest, rfl⟩

/-- Blanks at the end stay as they are. -/
theorem nullFor_append_blanks (h : gap.all isBlank = true) (cs : List Char) :
    nullFor 0 (cs ++ gap) = nullFor 0 cs ++ gap := by
  -- a run is replaced as a whole, so the induction is on the length
  induction hlength : cs.length using Nat.strongRecOn generalizing cs with
  | ind length ih =>
    rcases nullFor_cases cs with ⟨run, rest, hrun, rfl, heq⟩ | ⟨c, rest, rfl, hno, heq⟩ | rfl
    · have hshort := hrun.length_le
      rw [List.length_append] at hlength
      rw [heq, List.append_assoc, nullFor_append hrun, ih rest.length (by omega) rest rfl,
        List.append_assoc]
    · have hnone : undefinedLength? (c :: (rest ++ gap)) = none := by
        by_contra hsome
        obtain ⟨length, hlength⟩ := Option.ne_none_iff_exists'.mp hsome
        obtain ⟨run, back, hrun, hsplit, -⟩ := undefinedLength?_eq_some_iff.mp hlength
        rw [← List.cons_append] at hsplit
        obtain ⟨tail, htail⟩ := exists_of_append_blanks hrun h hsplit
        rw [undefinedLength?_eq_some_iff.mpr ⟨run, tail, hrun, htail, rfl⟩] at hno
        cases hno
      rw [List.length_cons] at hlength
      rw [heq, List.cons_append, nullFor_cons hnone, ih rest.length (by omega) rest rfl,
        List.cons_append]
    · have hgap := nullFor_blanks_append h []
      rw [List.append_nil] at hgap
      rw [List.nil_append, hgap]
      exact List.append_nil gap

/-- Blanks around a text stay as they are. -/
theorem nullFor_around {lead trail : List Char} (hlead : lead.all isBlank = true)
    (htrail : trail.all isBlank = true) (cs : List Char) :
    nullFor 0 (lead ++ (cs ++ trail)) = lead ++ (nullFor 0 cs ++ trail) := by
  rw [nullFor_blanks_append hlead, nullFor_append_blanks htrail]

/-! ## Blanks and fences come off -/

/-- The opening of a fence that names no language. -/
theorem dropPrefix?_of_blank {c : Char} (hblank : isBlank c = true) (rest : List Char) :
    dropPrefix? "```json".toList ("```".toList ++ c :: rest) = none := by
  have hc : 'j' ≠ c := (ne_of_isBlank hblank (by decide)).symm
  simp [dropPrefix?, hc]

/-- What stands in a code fence is found in it, without the blanks around it. -/
theorem withoutFence_fenced {lead opening closing trail : List Char} {start : String}
    (hlead : lead.all isBlank = true) (hstart : start = "```json" ∨ start = "```")
    (hopening : opening.all isBlank = true) (hbreak : opening ≠ [])
    (hclosing : closing.all isBlank = true) (htrail : trail.all isBlank = true) :
    withoutFence
      (lead ++ ((start.toList ++ (opening ++ (body ++ (closing ++ "```".toList)))) ++ trail))
        = trimChars body := by
  -- no blank stands at the edges of the fence
  have htrim : trimChars
      (lead ++ ((start.toList ++ (opening ++ (body ++ (closing ++ "```".toList)))) ++ trail))
        = start.toList ++ (opening ++ (body ++ (closing ++ "```".toList))) := by
    rw [trimChars_append_of_blanks hlead htrail]
    obtain ⟨inner, hinner⟩ :
        ∃ inner, start.toList ++ (opening ++ (body ++ (closing ++ "```".toList)))
          = '`' :: (inner ++ ['`']) := by
      have hend : "```".toList = ['`', '`'] ++ ['`'] := rfl
      obtain ⟨front, hfront⟩ : ∃ front, start.toList = '`' :: front := by
        rcases hstart with rfl | rfl <;> exact ⟨_, rfl⟩
      refine ⟨front ++ (opening ++ (body ++ (closing ++ ['`', '`']))), ?_⟩
      rw [hfront, hend]
      simp only [List.cons_append, List.append_assoc]
    rw [hinner, trimChars_of_edges (by decide) (by decide)]
  have hfound : fenceStarts.findSome? (fun start' => dropPrefix? start'.toList
      (start.toList ++ (opening ++ (body ++ (closing ++ "```".toList)))))
        = some (opening ++ (body ++ (closing ++ "```".toList))) := by
    have hdrop := dropPrefix?_eq_some_iff.mpr
      (rfl : start.toList ++ (opening ++ (body ++ (closing ++ "```".toList))) = _)
    rcases hstart with rfl | rfl
    · rw [fenceStarts, List.findSome?_cons, hdrop]
    · obtain ⟨c, more, rfl⟩ := List.exists_cons_of_ne_nil hbreak
      have hblank : isBlank c = true := List.all_eq_true.mp hopening c List.mem_cons_self
      rw [fenceStarts, List.findSome?_cons, List.cons_append, dropPrefix?_of_blank hblank,
        List.findSome?_cons, ← List.cons_append, hdrop]
  have hend : opening ++ (body ++ (closing ++ "```".toList))
      = (opening ++ (body ++ closing)) ++ fenceEnd.toList := by
    rw [fenceEnd, List.append_assoc, List.append_assoc]
  rw [withoutFence, htrim]
  simp only [hfound]
  rw [hend, dropSuffix?_append, Option.getD_some, trimChars_append_of_blanks hopening hclosing]

/-! ## The request -/

/-- What an agent wraps, with undefined values for some of its nulls, is read as it was meant. -/
theorem read_of_wrapped {text reply : String} {request : Request}
    (h : Request.read? text = some request) (hclear : StringsClear .outside text.toList)
    (hwritten : WritesUndefined .outside text.toList body) (hreply : Wraps body reply.toList) :
    read reply = .ok request := by
  obtain ⟨doc, hdoc, hrequest⟩ := Option.bind_eq_some_iff.mp h
  obtain ⟨tokens, htokens, hvalue⟩ := Option.bind_eq_some_iff.mp hdoc
  -- the undefined values are made good, with or without the blanks at the edges
  have hbody : Json.tokens (nullFor 0 body) = some tokens :=
    tokensFrom_nullFor hwritten hclear htokens rfl
  obtain ⟨lead, trail, hlead, htrail, hsplit⟩ := exists_blanks_trimChars body
  rw [hsplit, nullFor_around hlead htrail] at hbody
  have htrimmed : Json.tokens (nullFor 0 (trimChars body)) = some tokens :=
    tokens_of_blanks hlead htrail hbody
  have hfence : withoutFence reply.toList = trimChars body := by
    generalize reply.toList = chars at hreply
    cases hreply with
    | fenced hlead hstart hopening hbreak hclosing htrail =>
      exact withoutFence_fenced hlead hstart hopening hbreak hclosing htrail
    | bare hlead htrail =>
      have htrim := trimChars_append_of_blanks hlead htrail body
      rw [withoutFence_of_head, htrim]
      rw [htrim]
      -- a backtick at the front would be kept
      intro hmem
      obtain ⟨rest, hrest⟩ := List.head?_eq_some_iff.mp hmem
      have hnone : undefinedLength? ('`' :: rest) = none := rfl
      rw [hrest, nullFor_cons hnone] at htrimmed
      exact not_mem_head?_of_tokens htrimmed rfl
  have hclean : Json.read? (clean reply) = some doc := by
    rw [clean, hfence, Json.read?, String.toList_ofList, htrimmed, Option.bind_some, hvalue]
  rw [read_eq_ok_iff_clean, Request.read?, hclean, Option.bind_some, hrequest]

set_option maxRecDepth 4096 in
/-- Two of the nulls are written as undefined values; a string begins like the text does in its
fence and names the word, but has no colon before it. -/
theorem read_of_wrapped_update :
    let text := "\x7b\"operation\":\"update\",\"conditions\":\x7b\"a\":null,\"b\":null\x7d," ++
      "\"data\":\x7b\"c\": null,\"d:\":\"```json undefined\"\x7d\x7d\n"
    let body := "\x7b\"operation\":\"update\",\"conditions\":\x7b\"a\":undefined,\"b\":null\x7d," ++
      "\"data\":\x7b\"c\":\n\u3000undefined,\"d:\":\"```json undefined\"\x7d\x7d\n"
    let reply := " \n```json\r\n" ++ body ++ "\n```\n"
    let request := Request.update (.ofList [("a", .null), ("b", .null)])
      (.ofList [("c", .null), ("d:", .string "```json undefined")])
    Request.read? text = some request ∧ StringsClear .outside text.toList ∧
      WritesUndefined .outside text.toList body.toList ∧ Wraps body.toList reply.toList ∧
      read reply = .ok request := by
  intro text body reply request
  have hvalue : Json.read? text = some (.object [("operation", .string "update"),
      ("conditions", .object [("a", .null), ("b", .null)]),
      ("data", .object [("c", .null), ("d:", .string "```json undefined")])]) := by
    unfold text
    rfl
  have haccepted : Request.read? text = some request := Request.read?_of_value hvalue rfl
  have hkept : nullFor 0 text.toList = text.toList := by decide +kernel
  have hclear : StringsClear .outside text.toList := by
    intro front run back hsplit hrun
    have hundefined : HasUndefined text.toList := ⟨run, hrun, front, back, by rw [hsplit]; simp⟩
    exact absurd (congrArg List.length hkept) (Nat.ne_of_lt (length_nullFor_lt hundefined))
  have hwritten : WritesUndefined .outside text.toList body.toList := by
    let front := "\x7b\"operation\":\"update\",\"conditions\":\x7b\"a\"".toList
    let middle := ",\"b\":null\x7d,\"data\":\x7b\"c\"".toList
    let back := ",\"d:\":\"```json undefined\"\x7d\x7d\n".toList
    have htext : text.toList = front ++ ':' :: ([] ++ ("null".toList ++
        (middle ++ ':' :: ([' '] ++ ("null".toList ++ (back ++ [])))))) := by decide +kernel
    have hbody : body.toList = front ++ ':' :: ([] ++ (undefinedWord ++
        (middle ++ ':' :: (['\n', '\u3000'] ++ (undefinedWord ++ (back ++ [])))))) := by
      decide +kernel
    rw [htext, hbody]
    exact .append front (.null rfl rfl (.append middle (.null rfl rfl (.append back (.nil _)))))
  have hreply : Wraps body.toList reply.toList := by
    have hlead : [' ', '\n'].all isBlank = true := by decide
    have hopening : ['\r', '\n'].all isBlank = true := by decide
    have hline : ['\n'].all isBlank = true := by decide
    have hlines : reply.toList = [' ', '\n'] ++ (("```json".toList ++ (['\r', '\n'] ++
        (body.toList ++ (['\n'] ++ "```".toList)))) ++ ['\n']) := by decide +kernel
    rw [hlines]
    exact .fenced hlead (.inl rfl) hopening (List.cons_ne_nil _ _) hline hline
  exact ⟨haccepted, hclear, hwritten, hreply, read_of_wrapped haccepted hclear hwritten hreply⟩

end Reply
end TableShell
