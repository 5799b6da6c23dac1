import TableShell.Text.Split

/-!
# Options of the command line

Options are named long, `--data x` or `--data=x`, or short, `-D x`, `-Dx` or `-D=x`. Every one takes
a value and may be given once. A value that begins with a dash has to be attached. A value is
checked when the next option is read, or at the end.
-/

namespace TableShell
namespace CommandLine

/-- How the outcome of a command is printed. -/
inductive Format
  | table
  | csv
  | json
deriving DecidableEq, Inhabited

namespace Format

/-- The name of a format. -/
def name : Format → String
  | table => "table"
  | csv => "csv"
  | json => "json"

/-- The format of that name. -/
def ofName? (name : String) : Option Format :=
  [table, csv, json].find? fun format => format.name = name

end Format

/-- What the command line asks for. -/
structure Options where
  /-- The file of the table. -/
  data : String
  /-- The line to run. -/
  command : Option String
  /-- The file of the structured request to run; `-` for the standard input. -/
  structured : Option String
  format : Format
  delimiter : Char
  log : String
  logFile : Option String
deriving DecidableEq, Inhabited

/-- Without a line or a request to run, the terminal is opened. -/
def Options.isInteractive (o : Options) : Bool :=
  o.command.isNone && o.structured.isNone

/-- The places of the file system at which a run may look. -/
def Options.locations (o : Options) : List String :=
  o.data :: o.structured.toList ++ o.logFile.toList

/-- Why the command line is not carried out. -/
inductive UsageError
  | argumentConflict
  | invalidValue
  | valueValidation
  | unknownArgument
  | tooManyValues
  | displayHelp
  | displayVersion
deriving DecidableEq

/-- The name of the kind of an error. -/
def UsageError.kind : UsageError → String
  | argumentConflict => "ArgumentConflict"
  | invalidValue => "InvalidValue"
  | valueValidation => "ValueValidation"
  | unknownArgument => "UnknownArgument"
  | tooManyValues => "TooManyValues"
  | displayHelp => "DisplayHelp"
  | displayVersion => "DisplayVersion"

/-- The options that take a value. -/
inductive OptionName
  | data
  | command
  | structured
  | format
  | delimiter
  | log
  | logFile
deriving DecidableEq

/-- What a name on the command line stands for. -/
inductive Flag
  | takesValue (option : OptionName)
  | help
  | version

/-- What a long name stands for. -/
def Flag.ofLong? (name : String) : Option Flag :=
  if name = "data" then some (takesValue .data)
  else if name = "command" then some (takesValue .command)
  else if name = "structured" then some (takesValue .structured)
  else if name = "format" then some (takesValue .format)
  else if name = "delimiter" then some (takesValue .delimiter)
  else if name = "log" then some (takesValue .log)
  else if name = "log-file" then some (takesValue .logFile)
  else if name = "help" then some help
  else if name = "version" then some version
  else none

/-- What a short name stands for. -/
def Flag.ofShort? : Char → Option Flag
  | 'D' => some (takesValue .data)
  | 'c' => some (takesValue .command)
  | 's' => some (takesValue .structured)
  | 'f' => some (takesValue .format)
  | 'd' => some (takesValue .delimiter)
  | 'h' => some help
  | 'V' => some version
  | _ => none

/-! ## Reading -/

/-- The values given so far. -/
structure Given where
  data : Option String
  command : Option String
  structured : Option String
  format : Option Format
  delimiter : Option Char
  log : Option String
  logFile : Option String

/-- No value is given. -/
def Given.none : Given :=
  ⟨.none, .none, .none, .none, .none, .none, .none⟩

/-- The value of an option that may be given once. -/
def once {α : Type} (present : Option α) (value : Except UsageError α) :
    Except UsageError (Option α) :=
  if present.isSome then .error .argumentConflict else value.map some

/-- The text of a path, which is not empty. -/
def readPath (value : String) : Except UsageError String :=
  if value = "" then .error .invalidValue else .ok value

/-- The format of that name. -/
def readFormat (value : String) : Except UsageError Format :=
  match Format.ofName? value with
  | some format => .ok format
  | none => .error .invalidValue

/-- The only character of the text. -/
def readDelimiter (value : String) : Except UsageError Char :=
  match value.toList with
  | [c] => .ok c
  | _ => .error .valueValidation

/-- The values with one more. -/
def Given.set (g : Given) (option : OptionName) (value : String) : Except UsageError Given :=
  match option with
  | .data => (once g.data (readPath value)).map fun data => { g with data }
  | .command => (once g.command (.ok value)).map fun command => { g with command }
  | .structured => (once g.structured (readPath value)).map fun structured => { g with structured }
  | .format => (once g.format (readFormat value)).map fun format => { g with format }
  | .delimiter => (once g.delimiter (readDelimiter value)).map fun delimiter => { g with delimiter }
  | .log => (once g.log (.ok value)).map fun log => { g with log }
  | .logFile => (once g.logFile (readPath value)).map fun logFile => { g with logFile }

/-- The option that was read last, and its value if it has come. -/
abbrev Pending := Option (OptionName × Option String)

/-- The values with that of the pending option. -/
def Given.settle (g : Given) : Pending → Except UsageError Given
  | .none => .ok g
  | some (_, .none) => .error .invalidValue
  | some (option, some value) => g.set option value

/-- The values behind a flag, with its value if one is attached. -/
def readFlag (g : Given) (pending : Pending) (flag : Flag) (attached : Option String) :
    Except UsageError (Given × Pending) := do
  -- the option before has now got all of its value
  let g ← g.settle pending
  match flag, attached with
  | .takesValue option, some value => return (← g.set option value, none)
  | .takesValue option, none => return (g, some (option, none))
  | .help, _ => throw .displayHelp
  | .version, _ => throw .displayVersion

/-- An argument that begins with two dashes. -/
def readLong (g : Given) (pending : Pending) (body : List Char) :
    Except UsageError (Given × Pending) :=
  let (name, attached) := match Text.splitFirst? '=' body with
    | some (name, value) => (String.ofList name, some (String.ofList value))
    | none => (String.ofList body, none)
  match Flag.ofLong? name, attached with
  | none, _ => .error .unknownArgument
  | some .help, some _ | some .version, some _ => .error .tooManyValues
  | some flag, attached => readFlag g pending flag attached

/-- An argument that begins with one dash. -/
def readShort (g : Given) (pending : Pending) (c : Char) (rest : List Char) :
    Except UsageError (Given × Pending) :=
  let attached := match rest with
    | [] => none
    | '=' :: value => some (String.ofList value)
    | value => some (String.ofList value)
  match Flag.ofShort? c with
  | none => .error .unknownArgument
  | some flag => readFlag g pending flag attached

/-- The values that the arguments give. Behind `--` there is no option, and nothing but options is
expected. -/
def readArguments (g : Given) (pending : Pending) : List String → Except UsageError Given
  | [] => g.settle pending
  | argument :: rest =>
    match argument.toList with
    | ['-', '-'] => if rest.isEmpty then g.settle pending else .error .unknownArgument
    | '-' :: '-' :: body => do
      let (g, pending) ← readLong g pending body
      readArguments g pending rest
    | '-' :: c :: body => do
      let (g, pending) ← readShort g pending c body
      readArguments g pending rest
    | _ =>
      match pending with
      | some (option, none) => readArguments g (some (option, some argument)) rest
      | _ => .error .unknownArgument

/-! ## Defaults -/

/-- The file of the table if none is named. -/
def defaultData : String := "data/table.csv"

/-- The options that the arguments give, where `dataVariable` is the value of the variable that
names the file of the table if no option does. -/
def Options.read (dataVariable : Option String) (arguments : List String) :
    Except UsageError Options := do
  let g ← readArguments .none none arguments
  let data ← match g.data, dataVariable with
    | some data, _ => .ok data
    | none, some value => readPath value
    | none, none => .ok defaultData
  -- one run does one thing
  if g.command.isSome && g.structured.isSome then
    throw .argumentConflict
  return {
    data
    command := g.command
    structured := g.structured
    format := g.format.getD .table
    delimiter := g.delimiter.getD ','
    log := g.log.getD "warn"
    logFile := g.logFile }

end CommandLine
end TableShell
