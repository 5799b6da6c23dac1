import TableShell.Report
import TableShell.Text.Split

/-!
# The transcript

The lines that the terminal has shown: what was run, and what came of it. Only the last ones are
kept.
-/

namespace TableShell
namespace Terminal

/-- What a line of the transcript tells. -/
inductive LineKind
  /-- What was run. -/
  | echo
  /-- What came of it. -/
  | outcome (severity : Severity)
deriving DecidableEq

/-- A line of the transcript, with the time of day at which it came. -/
structure TranscriptLine where
  time : String
  kind : LineKind
  text : String
deriving DecidableEq

/-- The lines, the oldest first. -/
abbrev Transcript := List TranscriptLine

/-- A line without the carriage return before its break. -/
def dropReturn (cs : List Char) : List Char :=
  if cs.getLast? = some '\r' then cs.dropLast else cs

/-- The parts between line breaks as lines: the last is one only if it is not empty, and only it
has no break behind it. -/
def endLines : List (List Char) → List (List Char)
  | [] => []
  | [last] => if last = [] then [] else [last]
  | line :: rest => dropReturn line :: endLines rest

/-- The lines of a text. -/
def textLines (s : String) : List String :=
  (endLines (Text.pieces '\n' s.toList)).map String.ofList

namespace Transcript

/-- So many lines are kept. -/
def limit : Nat := 50

/-- The transcript with the lines of a text added, cut to its last lines. -/
def push (transcript : Transcript) (time : String) (kind : LineKind) (text : String) :
    Transcript :=
  let lines : Transcript := transcript ++ (textLines text).map fun line => ⟨time, kind, line⟩
  lines.drop (lines.length - limit)

end Transcript
end Terminal
end TableShell
