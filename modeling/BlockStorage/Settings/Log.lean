import BlockStorage.Document.Basic

/-!
The settings of the log: what is told, where, and in which form.
-/

namespace BlockStorage

/-- The settings of the log; without a directory nothing is written to files. -/
structure LogSettings where
  level : String
  directory : Option String
  filePrefix : String
  rotation : String
  isJson : Bool
deriving DecidableEq, Repr

namespace LogSettings

/-- Warnings, on standard error only. -/
def default : LogSettings := ⟨"warn", none, "stor", "daily", false⟩

/-- The settings as a document. -/
def document (log : LogSettings) : Document :=
  .record
    [("level", .text log.level), ("log_dir", Document.orNull .text log.directory),
      ("file_prefix", .text log.filePrefix), ("rotation", .text log.rotation),
      ("json_format", .bool log.isJson)]

/-- The settings of a talkative run: the level is raised to debug unless it is higher. -/
def withVerbose (log : LogSettings) (verbose : Bool) : LogSettings :=
  if verbose && log.level ≠ "trace" then { log with level := "debug" } else log

end LogSettings

end BlockStorage
