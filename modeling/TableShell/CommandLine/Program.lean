import TableShell.CommandLine.Options
import TableShell.Report.Document
import TableShell.Report.Grid
import TableShell.Shell

/-!
# The program

What one run of the program does: from its arguments, its standard input and the files that it finds
to what it prints, its exit code and the files that it leaves.
-/

namespace TableShell
namespace CommandLine

/-- What a run finds. -/
structure Environment where
  files : FileTree
  input : FileContent
  /-- The value of the variable that names the file of the table. -/
  dataVariable : Option String

/-- What a run leaves. -/
structure Outcome where
  exit : Nat
  output : String
  errors : String
  files : FileTree

/-- The exit code of a failed command. -/
def failureCode : Nat := 1

/-- The exit code for arguments that cannot be read. -/
def usageCode : Nat := 2

/-- The exit code of a run that stops because a grid cannot be drawn. -/
def brokenOffCode : Nat := 101

/-- A run that ends before a command is carried out. -/
def stopped (files : FileTree) (cause : String) : Outcome :=
  ⟨failureCode, "", "Error: " ++ cause ++ "\n", files⟩

/-- The tree with an empty log file, if there was none. -/
def openLog (files : FileTree) : Option String → Except FileError FileTree
  | none => .ok files
  | some location =>
    match files.target location with
    | .error e => .error e
    | .ok path => .ok (if (files.content? path).isSome then files else files.put path (.text ""))

/-- The source of a structured request is the standard input: a hyphen, perhaps with slashes and
dots behind it. -/
def isStandardInput (source : String) : Bool :=
  match Path.names source with
  | name :: rest => name = "-" && rest.all Path.stays
  | [] => false

/-- The text of the structured request. -/
def readStructured (env : Environment) (files : FileTree) (source : String) :
    Except FileError String :=
  if isStandardInput source then
    match env.input with
    | .text s => .ok s
    | .bytes _ => .error .notText
  else
    files.readText source

/-- What is printed of a report, on the standard output and for errors. -/
def printed (o : Options) (report : Report) : Except Grid.PadError (String × String) :=
  match o.format, report.table with
  | .table, _ => report.render.map fun text => (text ++ "\n", "")
  | .csv, some t => .ok (Delimited.write o.delimiter t, "")
  | .csv, none => .ok ("", report.message ++ "\n")
  | .json, _ => .ok (report.toJson.pretty ++ "\n", "")

/-- The exit code of a report. -/
def exitCode (report : Report) : Nat :=
  if report.severity = .error then failureCode else 0

/-- The files of a store. -/
def filesOf (before : FileTree) : Store → FileTree
  | .file _ _ tree => tree
  | .memory _ => before

/-- The outcome of an answer, behind what is written for errors before it. If the answer cannot be
printed, the files are left as the command saved them; where in the program it stopped is not told
here. -/
def finish (o : Options) (files : FileTree) (notice : String) (answer : Answer × Store) :
    Outcome :=
  let after := filesOf files answer.2
  match printed o answer.1.report with
  | .ok (output, errors) => ⟨exitCode answer.1.report, output, notice ++ errors, after⟩
  | .error e => ⟨brokenOffCode, "", notice ++ e.message ++ "\n", after⟩

/-- The run with the options. -/
def runWith (env : Environment) (o : Options) : Outcome :=
  match openLog env.files o.logFile with
  | .error cause => stopped env.files cause.message
  | .ok files =>
    let store := Store.file o.data o.delimiter files
    match o.command, o.structured with
    | some line, _ => finish o files "" (store.execute line)
    | none, some source =>
      match readStructured env files source with
      | .error cause => stopped files cause.message
      | .ok reply =>
        let (answer, after) := store.executeReply reply
        let notice := match answer.line with
          | some line => "> " ++ line ++ "\n"
          | none => ""
        finish o files notice (answer.answer, after)
    | none, none => stopped files "no terminal"

/-- How the program is called. -/
def usage : String :=
  "Usage: tabletalk [-D FILE] [-c LINE | -s FILE] [-f table|csv|json] [-d CHAR] " ++
    "[--log FILTER] [--log-file FILE]\n"

/-- The name and version of the program. -/
def versionLine : String := "tabletalk 0.1.0\n"

/-- The run of the program with the arguments. -/
def run (env : Environment) (arguments : List String) : Outcome :=
  match Options.read env.dataVariable arguments with
  | .ok o => runWith env o
  | .error .displayHelp => ⟨0, usage, "", env.files⟩
  | .error .displayVersion => ⟨0, versionLine, "", env.files⟩
  | .error e => ⟨usageCode, "", "error: " ++ e.kind ++ "\n" ++ usage, env.files⟩

end CommandLine
end TableShell
