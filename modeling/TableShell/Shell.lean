import TableShell.Effect
import TableShell.Request.Reply
import TableShell.Store

/-!
# The shell

A command is carried out on a store in three steps: the table is loaded, the command is applied to
it, and a changed table is saved. A failure at any step leaves every file as it was and is reported;
a failure to save may leave directories on the way to the file. Lines, structured requests and
replies of agents all go this one way.
-/

namespace TableShell

/-- Why a command came to nothing. -/
inductive Failure
  | line (cause : LineError)
  | refusal (cause : Refusal)
  | store (cause : StoreError)
deriving DecidableEq

namespace Failure

/-- The wording of a failure. -/
def message : Failure → String
  | line cause => cause.message
  | refusal cause => cause.message
  | store cause => "Storage error: " ++ cause.message

/-- A missing confirmation and an unknown word are warnings; any other failure is an error. -/
def severity : Failure → Severity
  | line (.unknownCommand _) => .warning
  | refusal (.unconfirmedDelete _ _) => .warning
  | refusal (.unconfirmedDeleteAll _) => .warning
  | _ => .error

/-- The report of a failure. -/
def report (failure : Failure) : Report :=
  .say failure.severity failure.message

end Failure

/-- What the shell answers: a report, and the name of the command that was carried out. -/
structure Answer where
  report : Report
  command : Option String
deriving DecidableEq, Inhabited

/-- What the shell answers to a request: the line that was carried out, and the answer to it. -/
structure RequestAnswer where
  line : Option String
  answer : Answer
deriving DecidableEq, Inhabited

namespace Store

/-- Some commands look at no table. -/
def needsTable : Command → Bool
  | .help | .clear => false
  | _ => true

/-- The table that the command is applied to. -/
def tableFor (store : Store) (command : Command) : Except Failure Table :=
  if needsTable command then store.load.mapError .store else .ok .empty

/-- What the command does to the table in the store. -/
def outcome (store : Store) (command : Command) : Except Failure Applied := do
  let table ← store.tableFor command
  (table.apply command).mapError .refusal

/-- The answer to a command, and the store after it. -/
def run (store : Store) (command : Command) : Except Failure Answer × Store :=
  match store.outcome command with
  | .error failure => (.error failure, store)
  | .ok applied =>
    let answer : Answer := ⟨applied.report, some command.name⟩
    -- nothing is saved before the command has succeeded
    match applied.changed with
    | none => (.ok answer, store)
    | some table =>
      match store.save table with
      | (after, none) => (.ok answer, after)
      | (after, some e) => (.error (.store e), after)

/-- The answer to a line, and the store after it. -/
def execute (store : Store) (line : String) : Answer × Store :=
  match Command.read line with
  | .error cause => (⟨(Failure.line cause).report, none⟩, store)
  | .ok command =>
    match store.run command with
    | (.ok answer, after) => (answer, after)
    | (.error failure, after) => (⟨failure.report, none⟩, after)

/-- The report of a request that gives no line. An error that an agent reports is a warning. -/
def rejection (e : RequestError) : Report :=
  match e with
  | .reported _ => .say .warning e.message
  | _ => .say .error e.message

/-- The answer to a request, and the store after it. -/
def executeRequest (store : Store) (request : Request) : RequestAnswer × Store :=
  match request.line with
  | .ok line =>
    let (answer, after) := store.execute line
    (⟨some line, answer⟩, after)
  | .error e => (⟨none, rejection e, none⟩, store)

/-- The answer to the reply of an agent, and the store after it. -/
def executeReply (store : Store) (reply : String) : RequestAnswer × Store :=
  match Reply.read reply with
  | .ok request => store.executeRequest request
  | .error e => (⟨none, rejection e, none⟩, store)

end Store
end TableShell
