import BlockStorage.Error.Config
import BlockStorage.Files
import BlockStorage.Settings.Log
import BlockStorage.Toml.Reader

/-!
The config file.

The file has four sections, `api`, `auth`, `output` and `logging`, and every entry may be absent.
Entries that no section knows are refused, except in `logging`, where they are passed over. A section
may also be written as a list of its values in order.
-/

namespace BlockStorage

open Toml (Tree Entries)

/-- What a config file sets; what it leaves out is none, or empty. -/
structure ConfigFile where
  endpoints : List String
  «namespace» : Option String
  useIds : Option Bool
  timeout : Option String
  username : Option String
  password : Option String
  passwordFile : Option String
  format : Option String
  logging : LogSettings
deriving DecidableEq, Repr

namespace ConfigFile

/-- A file that sets nothing. -/
def empty : ConfigFile := ⟨[], none, none, none, none, none, none, none, .default⟩

/-- The file as a document that names every entry. -/
def document (file : ConfigFile) : Document :=
  let text := Document.orNull .text
  .record
    [("api", .record
        [("endpoints", .list (file.endpoints.map .text)), ("namespace", text file.namespace),
          ("use_ids", Document.orNull .bool file.useIds), ("timeout", text file.timeout)]),
      ("auth", .record
        [("username", text file.username), ("password", text file.password),
          ("password_file", text file.passwordFile)]),
      ("output", .record [("format", text file.format)]),
      ("logging", file.logging.document)]

/-! ### Sections -/

/-- The entries of a section with the given names. A strict section has no others. -/
def sectionEntries? (names : List String) (isStrict : Bool) : Option Tree → Option Entries
  | none => some []
  | some (.table _ entries) =>
    if isStrict && !entries.all fun (name, _) => names.contains name then none else some entries
  | some (.list items) => some (names.zip items)
  | some (.rows tables) => some (names.zip (tables.map (.table .header)))
  | some .moment => if isStrict then none else some []
  | some _ => none

/-- The text of an entry that may be absent. -/
def text? (name : String) (entries : Entries) : Option (Option String) :=
  match Toml.find? name entries with
  | none => some none
  | some (.text value) => some (some value)
  | some _ => none

/-- The truth value of an entry that may be absent. -/
def bool? (name : String) (entries : Entries) : Option (Option Bool) :=
  match Toml.find? name entries with
  | none => some none
  | some (.bool value) => some (some value)
  | some _ => none

/-- The texts of a list. -/
def textsOf? : List Tree → Option (List String)
  | [] => some []
  | .text value :: items => (textsOf? items).map (value :: ·)
  | _ :: _ => none

/-- The texts of an entry that may be absent. -/
def texts? (name : String) (entries : Entries) : Option (List String) :=
  match Toml.find? name entries with
  | none => some []
  | some (.list items) => textsOf? items
  | some _ => none

/-- The section on logging. -/
def logging? (entries : Entries) : Option LogSettings := do
  let names := ["level", "log_dir", "file_prefix", "rotation", "json_format"]
  let entries ← sectionEntries? names false (Toml.find? "logging" entries)
  let level ← text? "level" entries
  let directory ← text? "log_dir" entries
  let filePrefix ← text? "file_prefix" entries
  let rotation ← text? "rotation" entries
  let isJson ← bool? "json_format" entries
  let fallback := LogSettings.default
  return ⟨level.getD fallback.level, directory, filePrefix.getD fallback.filePrefix,
    rotation.getD fallback.rotation, isJson.getD fallback.isJson⟩

/-- The file with the given entries. -/
def ofEntries? (entries : Entries) : Option ConfigFile := do
  let entries ← sectionEntries? ["api", "auth", "output", "logging"] true
    (some (.table .header entries))
  let api ← sectionEntries? ["endpoints", "namespace", "use_ids", "timeout"] true
    (Toml.find? "api" entries)
  let auth ← sectionEntries? ["username", "password", "password_file"] true
    (Toml.find? "auth" entries)
  let output ← sectionEntries? ["format"] true (Toml.find? "output" entries)
  let endpoints ← texts? "endpoints" api
  let ns ← text? "namespace" api
  let useIds ← bool? "use_ids" api
  let timeout ← text? "timeout" api
  let username ← text? "username" auth
  let password ← text? "password" auth
  let passwordFile ← text? "password_file" auth
  let format ← text? "format" output
  let logging ← logging? entries
  return ⟨endpoints, ns, useIds, timeout, username, password, passwordFile, format, logging⟩

/-! ### Reading -/

/-- Reads the text of the file at a path. -/
def parse (path text : String) : Except ConfigError ConfigFile :=
  match Toml.parse? text with
  | none => .error (.invalidFile path "the text is not well formed")
  | some entries =>
    match ofEntries? entries with
    | none => .error (.invalidFile path "an entry is unknown or has a value of the wrong kind")
    | some file => .ok file

/-- Reads the file at a path. A file that is not there sets nothing, unless it has to be there. -/
def load (files : Files) (path : String) (isRequired : Bool) : Except ConfigError ConfigFile :=
  match files.readText path with
  | .ok text => parse path text
  | .error .notFound => if isRequired then .error (.fileNotFound path) else .ok empty
  | .error error => .error (.unreadable path error.message)

end ConfigFile

end BlockStorage
