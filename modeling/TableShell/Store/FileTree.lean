import TableShell.Text.Split

/-!
# Files and directories

The files that a store sees: a tree of directories under the one it works in. A location is a
relative text. Its names between slashes are walked one after the other, each through a directory
that must be there: nothing and a dot stay in place, two dots lead one directory up. What stands
behind the last slash can be a file. A file holds a text, or bytes that are no text.

Putting a file at a location makes the directories on the way first. Where it fails after that, the
directories remain.
-/

namespace TableShell

/-- What a file holds. -/
inductive FileContent
  | text (value : String)
  /-- Bytes that are no text in UTF-8. -/
  | bytes (values : List UInt8)
deriving DecidableEq, Inhabited

namespace FileContent

/-- The content that the bytes are: a text if they are one. -/
def ofBytes (values : List UInt8) : FileContent :=
  match String.fromUTF8? ⟨values.toArray⟩ with
  | some s => text s
  | none => bytes values

/-- The bytes of the content. -/
def toBytes : FileContent → List UInt8
  | text s => s.toUTF8.toList
  | bytes values => values

end FileContent

/-- Why the file system refuses. -/
inductive FileError
  | notFound
  | fileExists
  | notADirectory
  | isADirectory
  | inUse
  | nameTooLong
  /-- A file is put at a location with a zero byte in it. -/
  | invalidName
  /-- A location with a zero byte in it is looked up. -/
  | zeroByte
  | notText
deriving DecidableEq

/-- The wording of a refusal. -/
def FileError.message : FileError → String
  | notFound => "No such file or directory (os error 2)"
  | fileExists => "File exists (os error 17)"
  | notADirectory => "Not a directory (os error 20)"
  | isADirectory => "Is a directory (os error 21)"
  | inUse => "Device or resource busy (os error 16)"
  | nameTooLong => "File name too long (os error 36)"
  | invalidName => "Invalid argument (os error 22)"
  | zeroByte => "file name contained an unexpected NUL byte"
  | notText => "stream did not contain valid UTF-8"

/-! ## Locations -/

/-- The names that lead to a place, from the outermost directory on. -/
abbrev Path := List String

namespace Path

/-- The name of the directory around one. -/
def up : String := ".."

/-- The name leads nowhere. -/
def stays (name : String) : Bool :=
  name = "" || name = "."

/-- The name can be that of a directory only. -/
def namesDirectory (name : String) : Bool :=
  stays name || name = up

/-- A zero byte stands in the text. -/
def hasZeroByte (s : String) : Bool :=
  s.toList.contains '\x00'

/-- The largest number of bytes of a name. -/
def longestName : Nat := 255

/-- The largest number of bytes of a location. -/
def longestLocation : Nat := 4095

/-- What stands between the slashes of a location. -/
def names (location : String) : List String :=
  (Text.pieces '/' location.toList).map String.ofList

/-- The names on the way to the directory around a location. -/
def around (location : String) : List String :=
  ((names location).filter fun name => !stays name).dropLast

/-- The directory around the place. Above the outermost one there are more. -/
def parent (p : Path) : Path :=
  if p.getLast? = none || p.getLast? = some up then p ++ [up] else p.dropLast

/-- The place that a name leads to from a directory. -/
def step (p : Path) (name : String) : Path :=
  if stays name then p else if name = up then p.parent else p ++ [name]

/-- The place that the names of a location lead to, whatever stands there. -/
def ofLocation (location : String) : Path :=
  (names location).foldl step []

/-- The text of a path. -/
def toString (p : Path) : String :=
  "/".intercalate p

end Path

/-- The files and directories under the working directory. -/
structure FileTree where
  files : List (Path × FileContent)
  directories : List Path
deriving DecidableEq, Inhabited

/-- What stands at a place. -/
inductive FileEntry
  | directory
  | file (content : FileContent)
deriving DecidableEq

namespace FileTree

/-- No files and no directories. -/
def empty : FileTree :=
  ⟨[], []⟩

/-! ## Places -/

/-- What the file at the path holds. -/
def content? (tree : FileTree) (path : Path) : Option FileContent :=
  tree.files.lookup path

/-- A directory stands at the path: it was made, or something stands in it. -/
def isDirectory (tree : FileTree) (path : Path) : Bool :=
  path.isEmpty || (tree.directories ++ tree.files.map (Path.parent ∘ Prod.fst)).any path.isPrefixOf

/-- What stands at the path. -/
def entryAt (tree : FileTree) (path : Path) : Except FileError FileEntry :=
  match tree.content? path with
  | some content => .ok (.file content)
  | none => if tree.isDirectory path then .ok .directory else .error .notFound

/-- What stands under the name in the directory. -/
def child (tree : FileTree) (directory : Path) (name : String) : Except FileError FileEntry :=
  if Path.namesDirectory name then .ok .directory
  else if Path.longestName < name.utf8ByteSize then .error .nameTooLong
  else tree.entryAt (directory ++ [name])

/-- The directory that the name leads to from a directory. -/
def enter (tree : FileTree) (directory : Path) (name : String) : Except FileError Path :=
  match tree.child directory name with
  | .ok .directory => .ok (directory.step name)
  | .ok (.file _) => .error .notADirectory
  | .error e => .error e

/-- The directory that the names lead to. -/
def walk (tree : FileTree) (names : List String) : Except FileError Path :=
  names.foldlM tree.enter []

/-- The tree with the file holding the content. -/
def put (tree : FileTree) (path : Path) (content : FileContent) : FileTree :=
  { tree with files := tree.files.filter (fun entry => entry.1 != path) ++ [(path, content)] }

/-- The tree without the file. -/
def erase (tree : FileTree) (path : Path) : FileTree :=
  { tree with files := tree.files.filter fun entry => entry.1 != path }

/-! ## Reading -/

/-- What stands at the location. The empty location leads nowhere. -/
def entry (tree : FileTree) (location : String) : Except FileError FileEntry :=
  let names := Path.names location
  if location = "" then .error .notFound
  else if Path.hasZeroByte location then .error .zeroByte
  else if Path.longestLocation < location.utf8ByteSize then .error .nameTooLong
  else tree.walk names.dropLast >>= fun directory => tree.child directory (names.getLastD "")

/-- Something stands at the location. -/
def standsAt (tree : FileTree) (location : String) : Bool :=
  (tree.entry location).toBool

/-- The text in the file at the location. -/
def readText (tree : FileTree) (location : String) : Except FileError String :=
  match tree.entry location with
  | .ok (.file (.text s)) => .ok s
  | .ok (.file (.bytes _)) => .error .notText
  | .ok .directory => .error .isADirectory
  | .error e => .error e

/-! ## Writing -/

/-- The tree with a directory at the end of the names, if all before it are there. -/
def makeDirectory (tree : FileTree) (names : List String) : Except FileError FileTree := do
  let around ← tree.walk names.dropLast
  let name := names.getLastD ""
  match tree.child around name with
  | .ok .directory => .ok tree
  | .ok (.file _) => .error .fileExists
  | .error .notFound => .ok { tree with directories := tree.directories ++ [around ++ [name]] }
  | .error e => .error e

/-- The tree with a directory at the end of the names, which are given from the last one on, and
those on the way to it made first; and what went wrong. -/
def makeDirectories (tree : FileTree) : List String → FileTree × Option FileError
  | [] => (tree, none)
  | name :: outer =>
    let names := (name :: outer).reverse
    match tree.makeDirectory names with
    | .ok made => (made, none)
    | .error .notFound =>
      match tree.makeDirectories outer with
      | (made, some e) => (made, some e)
      | (made, none) =>
        match made.makeDirectory names with
        | .ok made => (made, none)
        | .error e => (made, some e)
    | .error e => (tree, some e)

/-- The path that a file put at the location has. -/
def target (tree : FileTree) (location : String) : Except FileError Path := do
  let names := Path.names location
  -- slashes behind the last name ask for a directory
  let kept := (names.reverse.dropWhile (· = "")).reverse
  if location = "" then throw .notFound
  if Path.hasZeroByte location then throw .invalidName
  if Path.longestLocation < location.utf8ByteSize then throw .nameTooLong
  let directory ← tree.walk kept.dropLast
  let name := kept.getLastD ""
  if Path.namesDirectory name then throw .inUse
  match tree.child directory name with
  | .error .nameTooLong => throw .nameTooLong
  | there =>
    if kept ≠ names then throw .notADirectory
    match there with
    | .ok .directory => throw .isADirectory
    | _ => return directory ++ [name]

/-- The tree after the content is written to the file at the location, whose directory is made
first; and what went wrong. -/
def write (tree : FileTree) (location : String) (content : FileContent) :
    FileTree × Option FileError :=
  let around := Path.around location
  if around.any Path.hasZeroByte then
    (tree, some .zeroByte)
  else
    match tree.makeDirectories around.reverse with
    | (made, some e) => (made, some e)
    | (made, none) =>
      -- only now is the file put over what stands at the location
      match made.target location with
      | .ok path => (made.put path content, none)
      | .error e => (made, some e)

end FileTree
end TableShell
