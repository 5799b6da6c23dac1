import TableShell.Request.Line
import TableShell.Text.Blank
import TableShell.Text.Split

/-!
# Replies of agents

An agent may wrap its JSON text in a code fence, and write `undefined` where JSON has null. Both
are cleaned away before the reply is read.
-/

namespace TableShell
namespace Reply

open Text

/-- The openings of a code fence, the longer one first. -/
def fenceStarts : List String := ["```json", "```"]

/-- The end of a code fence. -/
def fenceEnd : String := "```"

/-- The characters inside a code fence, or all of them if there is none, without blanks around
them. -/
def withoutFence (cs : List Char) : List Char :=
  let trimmed := trimChars cs
  -- a fence that is not closed is taken away all the same
  match fenceStarts.findSome? fun start => dropPrefix? start.toList trimmed with
  | some body => trimChars ((dropSuffix? fenceEnd.toList body).getD body)
  | none => trimmed

/-- The word for a value that is not there. -/
def undefinedWord : List Char := "undefined".toList

/-- How many characters a colon with the word behind it takes at the front, if they stand there. -/
def undefinedLength? : List Char → Option Nat
  | ':' :: rest =>
    let blanks := rest.takeWhile isBlank
    if undefinedWord.isPrefixOf (rest.drop blanks.length) then
      some (1 + blanks.length + undefinedWord.length)
    else
      none
  | _ => none

/-- The characters behind the first `skip` ones, with null for every undefined value. -/
def nullFor : (skip : Nat) → List Char → List Char
  | _, [] => []
  | skip + 1, _ :: rest => nullFor skip rest
  | 0, c :: rest =>
    match undefinedLength? (c :: rest) with
    | some length => ": null".toList ++ nullFor (length - 1) rest
    | none => c :: nullFor 0 rest

/-- The JSON text in a reply. -/
def clean (reply : String) : String :=
  .ofList (nullFor 0 (withoutFence reply.toList))

/-- The request in a reply. -/
def read (reply : String) : Except RequestError Request :=
  match Request.read? (clean reply) with
  | some request => .ok request
  | none => .error (.unreadable "no request in JSON")

end Reply
end TableShell
