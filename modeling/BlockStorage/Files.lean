import BlockStorage.Text.Split

/-!
The files that a program sees.

A path is followed name by name from where the program works, or from the root if it starts with a
slash. Only directories lead further, and a reading fails with the first thing that is in its way.
Files are named by their paths from the place where the program works, or from the root, which has an
empty name of its own.
-/

namespace BlockStorage

open Text

/-- What stands at a path. A binary file is one whose bytes are no text. -/
inductive FileEntry where
  | text (content : String)
  | binary
  | directory
deriving DecidableEq, Repr

/-- Why a file could not be read or a directory not be made. -/
inductive FileError where
  | notFound | exists | notDirectory | isDirectory | nameTooLong | badPath | notText
deriving DecidableEq, Repr

/-- The wording shown to the user. -/
def FileError.message : FileError → String
  | .notFound => "No such file or directory (os error 2)"
  | .exists => "File exists (os error 17)"
  | .notDirectory => "Not a directory (os error 20)"
  | .isDirectory => "Is a directory (os error 21)"
  | .nameTooLong => "File name too long (os error 36)"
  | .badPath => "file name contained an unexpected NUL byte"
  | .notText => "stream did not contain valid UTF-8"

/-- A tree of files, as the entries at paths of names, and the place where the program works. A path
in front of an entry is a directory. -/
structure Files where
  entries : List (List String × FileEntry)
  workplace : List String
deriving DecidableEq, Repr

namespace Files

/-- No files at all. -/
def empty : Files := ⟨[], []⟩

/-- The names of a path between its slashes; some may be empty. -/
def names (path : String) : List String := (splitAt '/' path.toList).map String.ofList

/-- The path of the root. -/
def root : List String := [""]

/-- Whether one path leads to another through at least one name. -/
def leadsTo (path other : List String) : Bool :=
  path.length < other.length && path.isPrefixOf other

/-- What stands at a path of names; the workplace and the root are directories. -/
def entry? (files : Files) (path : List String) : Option FileEntry :=
  if path = files.workplace || path = root then some .directory
  else
    match files.entries.find? fun (other, _) => other = path with
    | some (_, entry) => some entry
    | none => if files.entries.any fun (other, _) => leadsTo path other then some .directory else none

/-- The number of bytes that no name passes. -/
def longestName : Nat := 255

/-- The directory above; the root is above itself, and nothing is known above a workplace without a
path. -/
def above? (path : List String) : Option (List String) :=
  if path.isEmpty then none else if path = root then some root else some path.dropLast

/-- Follows names from a path that was reached. -/
def follow (files : Files) (here : List String) : List String → Except FileError (List String)
  | [] => .ok here
  | name :: names =>
    if files.entry? here ≠ some .directory then .error .notDirectory
    else if name = "" || name = "." then files.follow here names
    else if name = ".." then
      match above? here with
      | some above => files.follow above names
      | none => .error .notFound
    else if longestName < name.utf8ByteSize then .error .nameTooLong
    else if (files.entry? (here ++ [name])).isNone then .error .notFound
    else files.follow (here ++ [name]) names

/-- Where a path starts. -/
def startOf (files : Files) (path : String) : List String :=
  if path.toList.head? = some '/' then root else files.workplace

/-- The number of bytes that no path reaches. -/
def pathLimit : Nat := 4096

/-- Whether a path can be asked for at all. -/
def checkPath (path : String) : Except FileError Unit :=
  if path.toList.any fun c => c.toNat = 0 then .error .badPath
  else if path.isEmpty then .error .notFound
  else if pathLimit ≤ path.utf8ByteSize then .error .nameTooLong
  else .ok ()

/-- What a path leads to. -/
def find (files : Files) (path : String) : Except FileError FileEntry := do
  checkPath path
  let reached ← files.follow (files.startOf path) (names path)
  return (files.entry? reached).getD .directory

/-- The text of a file. -/
def readText (files : Files) (path : String) : Except FileError String := do
  match ← files.find path with
  | .text content => return content
  | .binary => throw .notText
  | .directory => throw .isDirectory

/-- The first line of a text, without its line break. -/
def firstLine (text : String) : String :=
  let line := text.toList.takeWhile (· ≠ '\n')
  let hasBreak := line.length < text.length
  String.ofList (if hasBreak && line.getLast? = some '\r' then line.dropLast else line)

/-- The place of a path by its names alone, whatever stands there. -/
def placeOf (files : Files) (path : String) : List String :=
  (names path).foldl
    (fun here name =>
      if name = "" || name = "." then here
      else if name = ".." then (above? here).getD here
      else here ++ [name])
    (files.startOf path)

/-- The files with the given contents at paths. -/
def ofList (entries : List (String × FileEntry)) : Files :=
  ⟨entries.map fun (path, entry) => (empty.placeOf path, entry), []⟩

/-! ### Making files and directories -/

/-- The files with one more entry. -/
def insert (files : Files) (path : List String) (entry : FileEntry) : Files :=
  { files with entries := files.entries ++ [(path, entry)] }

/-- Opens the file at a path for writing at its end; it is made if nothing stands there. -/
def openFile (files : Files) (path : String) : Except FileError Files := do
  checkPath path
  let names := names path
  let reached ← files.follow (files.startOf path) names.dropLast
  if files.entry? reached ≠ some .directory then throw .notDirectory
  let name := names.getLast?.getD ""
  if name = "" || name = "." || name = ".." then throw .isDirectory
  if longestName < name.utf8ByteSize then throw .nameTooLong
  match files.entry? (reached ++ [name]) with
  | none => return files.insert (reached ++ [name]) (.text "")
  | some .directory => throw .isDirectory
  | some _ => return files

/-- Makes the directory at a path, if nothing stands there. -/
def makeDirectory (files : Files) (path : String) : Except FileError Files := do
  checkPath path
  let names := names path
  let reached ← files.follow (files.startOf path) names.dropLast
  if files.entry? reached ≠ some .directory then throw .notDirectory
  let name := names.getLast?.getD ""
  if name = "" || name = "." || name = ".." then throw .exists
  if longestName < name.utf8ByteSize then throw .nameTooLong
  if (files.entry? (reached ++ [name])).isSome then throw .exists
  return files.insert (reached ++ [name]) .directory

/-- Whether a path leads to a directory. -/
def isDirectory (files : Files) (path : String) : Bool :=
  match files.find path with
  | .ok entry => entry = .directory
  | .error _ => false

/-- The path that names lead along, given from the last to the first. -/
def pathOfNames (names : List String) : String :=
  if names = root then "/" else "/".intercalate names.reverse

/-- A path and the paths in front of it, the longest first, by names that are given from the last to
the first. A name that leads nowhere ends a path only if it is the first of all. -/
def pathsTo : List String → List String
  | [] => []
  | name :: names =>
    if (name = "" || name = ".") && !names.isEmpty then pathsTo names
    else pathOfNames (name :: names) :: pathsTo names

/-- Makes the directory at the first of some paths. If it has no place yet, the others are made
first; what was made stays, even if the last one cannot be made. -/
def makeFirst (files : Files) : List String → Files × Except FileError Unit
  | [] => (files, .ok ())
  | path :: above =>
    match files.makeDirectory path with
    | .ok files => (files, .ok ())
    | .error .notFound =>
      match files.makeFirst above with
      | (files, .error error) => (files, .error error)
      | (files, .ok ()) =>
        match files.makeDirectory path with
        | .ok files => (files, .ok ())
        | .error error => (files, if files.isDirectory path then .ok () else .error error)
    | .error error => (files, if files.isDirectory path then .ok () else .error error)

/-- The names that lead to where a path stands, from the last to the first. -/
def namesAbove (path : String) : List String := (names path).reverse.drop 1

/-- Makes the directory in which a path stands, and those in front of it. -/
def makeDirectoryOf (files : Files) (path : String) : Files × Except FileError Unit :=
  files.makeFirst (pathsTo (namesAbove path))

/-! ### Listing -/

/-- The paths in front of a path. -/
def pathsAbove (path : List String) : List (List String) :=
  (List.range path.length).map fun n => path.take n

/-- All paths with an entry or in front of one. -/
def knownPaths (files : Files) : List (List String) :=
  (files.entries.flatMap fun (path, _) => pathsAbove path ++ [path]).filter fun path => path ≠ []

/-- A path as a listing shows it; a directory ends with a slash. -/
def pathText (files : Files) (path : List String) : String :=
  "/".intercalate path ++ (if files.entry? path = some .directory then "/" else "")

/-- All paths in order. -/
def listing (files : Files) : List String :=
  (files.knownPaths.map files.pathText).eraseDups.mergeSort

end Files

/-- What a program sees of its host: the files and the home directory of its user. -/
structure Host where
  files : Files
  home : Option String
deriving DecidableEq, Repr

namespace Host

/-- A path below a directory; a path from the root stands for itself. -/
def joinPath (directory path : String) : String :=
  if path.toList.head? = some '/' then path
  else if directory.isEmpty || directory.toList.getLast? = some '/' then directory ++ path
  else directory ++ "/" ++ path

/-- A path with a tilde and a slash at its start replaced by the home directory, if there is one. -/
def expandHome (host : Host) (path : String) : String :=
  match afterWord? ['~', '/'] path.toList, host.home with
  | some rest, some home => joinPath home (String.ofList rest)
  | _, _ => path

end Host

end BlockStorage
