import BlockStorage.Files
import BlockStorage.Settings.Log
import BlockStorage.Time.Timestamp

/-!
The file of the log.

The file stands in the directory of the settings, which is made if it has to be. Its name tells the
day, or the day and the hour, unless one file is kept for all times.
-/

namespace BlockStorage.Log

open Text

/-- Why there is no file for the log. -/
structure FileFailure where
  directory : String
  reason : String
deriving DecidableEq, Repr

/-- The wording shown to the user. -/
def FileFailure.message (f : FileFailure) : String :=
  "failed to create log file in " ++ f.directory ++ ": " ++ f.reason

/-- The part of a file name that tells the time. -/
def timePart (rotation : String) (now : Timestamp) : Option String :=
  let day := now.date.text
  if rotation = "never" then none
  else if rotation = "hourly" then
    some (String.ofList (day ++ ['-'] ++ natPadded 2 (now.second / 3600)))
  else some (String.ofList day)

/-- The name of the file at a time. -/
def fileName (settings : LogSettings) (now : Timestamp) : String :=
  let start := if settings.filePrefix.isEmpty then [] else [settings.filePrefix]
  ".".intercalate (start ++ (timePart settings.rotation now).toList ++ ["log"])

/-- The path of the file at a time, if there is to be one. -/
def filePath? (settings : LogSettings) (now : Timestamp) : Option String :=
  settings.directory.map fun directory => Host.joinPath directory (fileName settings now)

/-- Opens a file, and makes its directory if it cannot be opened at once. The directories that were
made stay if that does not help. -/
def openIn (files : Files) (path : String) : Files × Except String Unit :=
  match files.openFile path with
  | .ok files => (files, .ok ())
  | .error _ =>
    match files.makeDirectoryOf path with
    | (files, .error error) => (files, .error ("failed to create log directory: " ++ error.message))
    | (files, .ok ()) =>
      match files.openFile path with
      | .ok files => (files, .ok ())
      | .error error => (files, .error ("failed to create log file: " ++ error.message))

/-- Opens the file of the log, if there is to be one. -/
def openFile (settings : LogSettings) (now : Timestamp) (files : Files) :
    Files × Except FileFailure Unit :=
  match filePath? settings now with
  | none => (files, .ok ())
  | some path =>
    let (files, result) := openIn files path
    (files, result.mapError (⟨settings.directory.getD "", ·⟩))

end BlockStorage.Log
