import BlockStorage.Run.Process
import Std.Time.DateTime.Timestamp

/-!
The program. It reads the clock, the environment and the files that the run looks at, runs, and writes
what the run left behind.

Requests go out on the network that the run is handed. This one is handed a network on which nothing
can be reached.
-/

namespace BlockStorage.Main

/-- The variables of the environment that a run depends on. -/
def variableNames : List String :=
  ["HOME", "RUST_LOG", "STOR_CONFIG", "STOR_ENDPOINTS", "STOR_USERNAME", "STOR_PASSWORD",
    "STOR_PASSWORD_FILE", "STOR_NAMESPACE", "STOR_USE_IDS", "STOR_TIMEOUT", "STOR_OUTPUT"]

/-- The variables of the environment that are looked at, as far as they are set. -/
def readEnvironment : IO (List (String × String)) := do
  let values ← variableNames.mapM fun name => do
    return (← IO.getEnv name).map fun value => (name, value)
  return values.filterMap id

/-- The time of the wall clock. -/
def readClock : IO Timestamp := do
  let time ← Std.Time.Timestamp.now
  return Timestamp.epoch.addSeconds time.toSecondsSinceUnixEpoch.val.toNat

/-- What stands at a path, if anything can be read there. -/
def readEntry (path : String) : IO (Option FileEntry) := do
  let place := (← IO.currentDir) / path
  if ← place.isDir then return some .directory
  try
    let bytes ← IO.FS.readBinFile place
    return some ((String.fromUTF8? bytes).elim .binary .text)
  catch _ => return none

/-- The files with what stands at some more paths. -/
def readEntries (files : Files) (paths : List String) : IO Files :=
  paths.foldlM
    (fun files path => do
      match ← readEntry path with
      | some entry => return files.insert (files.placeOf path) entry
      | none => return files)
    files

/-- Everything that a run with arguments depends on. -/
def readSurroundings (arguments : List String) : IO (Surroundings Rest.Unreachable) := do
  let workplace := Files.names (← IO.currentDir).toString
  let bare : Surroundings Rest.Unreachable :=
    ⟨← readClock, ← readEnvironment, { Files.empty with workplace := workplace }, ⟨⟩⟩
  let configured := { bare with files := ← readEntries bare.files (bare.paths arguments) }
  return { configured with files := ← readEntries bare.files (configured.paths arguments) }

/-- The lines of the log. -/
def logLines (report : Report) : List String :=
  report.events.map fun event =>
    (if report.isJson then Document.Json.compact event.document else event.line) ++ "\n"

/-- The directories that a run made. -/
def madeDirectories (before : Files) (report : Report) : List (List String) :=
  (report.files.entries.filter fun entry =>
    entry.2 = .directory && !before.entries.contains entry).map Prod.fst

/-- Writes what a run left behind. -/
def write (before : Files) (report : Report) : IO Unit := do
  let lines := String.join (logLines report)
  for directory in madeDirectories before report do
    IO.FS.createDirAll (Files.pathOfNames directory.reverse)
  match report.logPath with
  | none => pure ()
  | some path =>
    let file ← IO.FS.Handle.mk path .append
    file.putStr lines
  let errors ← IO.getStderr
  errors.putStr (report.warningText ++ lines)
  (← IO.getStdout).putStr report.output
  match report.ending with
  | .misused error => errors.putStr ("error: " ++ error.kindName ++ "\n")
  | _ => errors.putStr report.ending.complaint

end BlockStorage.Main

open BlockStorage in
/-- Runs the command line. -/
def main (arguments : List String) : IO UInt32 := do
  let surroundings ← Main.readSurroundings arguments
  let report := surroundings.run arguments
  Main.write surroundings.files report
  return UInt32.ofNat report.ending.code
