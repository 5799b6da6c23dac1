import TableShell.CommandLine.Program
import TableShell.Terminal.Screen

/-!
# The program itself

The layer between `CommandLine.run` and the world. It takes a picture of the files at which a run
may look, lets the run work on it, and writes the files that came out different. Without a command
the terminal is opened, where each line of the standard input is typed as keys and ended by Enter.
-/

namespace TableShell
namespace CommandLine

/-- The name of the variable that names the file of the table. -/
def dataVariableName : String := "TABLETALK_DATA"

/-! ## Files -/

/-- What the file at the place holds, if there is one that can be read. -/
def fileAt? (place : String) : IO (Option FileContent) := do
  let .ok bytes ← (IO.FS.readBinFile place).toBaseIO | return none
  return some (.ofBytes bytes.toList)

/-- A directory stands at the place. -/
def isDirectoryAt (place : String) : IO Bool := do
  let .ok path ← (IO.FS.realPath place).toBaseIO | return false
  path.isDir

/-- Where a path of the tree lies, when the location it belongs to is given. -/
def placeOf (location : String) (path : Path) : String :=
  if location.startsWith "/" then "/" ++ path.toString else path.toString

/-- The tree with what stands at a path on the way to the location. -/
def observe (location : String) (tree : FileTree) (path : Path) : IO FileTree := do
  match ← fileAt? (placeOf location path) with
  | some content => return tree.put path content
  | none =>
    if ← isDirectoryAt (placeOf location path) then
      return { tree with directories := tree.directories ++ [path] }
    else
      return tree

/-- The tree with what stands at the location and on the way to it. -/
def observeAll (tree : FileTree) (location : String) : IO FileTree := do
  let visited := (Path.names location).foldl
    (fun (paths : List Path) name => paths ++ [(paths.getLastD []).step name]) [[]]
  visited.foldlM (observe location) tree

/-- The files at which a run with the options may look. -/
def snapshot (o : Options) : IO FileTree :=
  o.locations.foldlM observeAll .empty

/-- Makes the directories that are new, and writes the file at the location if it came out different:
first beside it, then over it, so that no reader sees a part of it. -/
def writeBack (before after : FileTree) (location : String) : IO Unit := do
  for directory in after.directories do
    unless before.isDirectory directory do
      IO.FS.createDirAll (placeOf location directory)
  let path := Path.ofLocation location
  match after.content? path with
  | none => return
  | some content =>
    if before.content? path ≠ some content then
      let place := placeOf location path
      let beside := place ++ ".new"
      IO.FS.writeBinFile beside ⟨content.toBytes.toArray⟩
      IO.FS.rename beside place

/-! ## One command -/

/-- All that the stream still holds, behind the given bytes. -/
partial def readAll (stream : IO.FS.Stream) (read : ByteArray) : IO ByteArray := do
  let more ← stream.read 4096
  if more.isEmpty then return read else readAll stream (read ++ more)

/-- Prints what a run leaves to print; its exit code. -/
def printOutcome (outcome : Outcome) : IO UInt32 := do
  IO.print outcome.output
  IO.eprint outcome.errors
  return outcome.exit.toUInt32

/-- One run, with the files that it changes. -/
def runOnce (o : Options) (dataVariable : Option String) (arguments : List String) :
    IO UInt32 := do
  let before ← snapshot o
  let input ← if o.structured.any isStandardInput then readAll (← IO.getStdin) .empty else pure .empty
  let outcome := run ⟨before, .ofBytes input.toList, dataVariable⟩ arguments
  for location in o.locations do
    writeBack before outcome.files location
  printOutcome outcome

/-! ## The terminal -/

/-- A number of milliseconds as hours, minutes and seconds. -/
def clockText (milliseconds : Nat) : String :=
  let seconds := milliseconds / 1000
  let twoDigits (n : Nat) := if n < 10 then "0" ++ toString n else toString n
  twoDigits (seconds / 3600 % 24) ++ ":" ++ twoDigits (seconds / 60 % 60) ++ ":" ++
    twoDigits (seconds % 60)

/-- The size of the screen that is shown. -/
def screenSize : Nat × Nat := (100, 30)

/-- Shows the session and types the next line, until the terminal is left. -/
partial def typeLines (o : Options) (input : IO.FS.Stream) (s : Terminal.Session) : IO Unit := do
  let screen := Terminal.Screen.draw screenSize.1 screenSize.2 s
  IO.println ("\n".intercalate screen.lines)
  let line ← input.getLine
  if line.isEmpty || s.quit then
    return
  let before := filesOf .empty s.store
  let s := { s with clock := clockText (← IO.monoMsNow) }
  let s := (s.typeText (line.dropEndWhile (· == '\n')).toString).press .enter
  writeBack before (filesOf .empty s.store) o.data
  if s.quit then return else typeLines o input s

/-- The terminal, on the standard input and output. -/
def runTerminal (o : Options) : IO UInt32 := do
  let store := Store.file o.data o.delimiter (← snapshot o)
  typeLines o (← IO.getStdin) (.new store (clockText (← IO.monoMsNow)))
  return 0

end CommandLine
end TableShell

open TableShell.CommandLine in
/-- The program. -/
def main (arguments : List String) : IO UInt32 := do
  let dataVariable ← IO.getEnv dataVariableName
  match Options.read dataVariable arguments with
  | .error _ => printOutcome (run ⟨.empty, .text "", dataVariable⟩ arguments)
  | .ok o => if o.isInteractive then runTerminal o else runOnce o dataVariable arguments
