import BlockStorage.Command.Plan
import BlockStorage.CommandLine.Parser
import BlockStorage.Log.File
import BlockStorage.Log.Filter
import BlockStorage.Rest.Client

/-!
Whole runs, from the words on the command line to the status at the end.

The command line is read first, then the settings; then the log is opened, the client made, the command
read and at last run. The first of these that fails ends the run.
-/

namespace BlockStorage

open Text CommandLine

/-! ### Command lines in a world -/

/-- Why a run failed, other than by its command line. -/
inductive RunError where
  | command (error : CommandError)
  | log (failure : Log.FileFailure)
  | brokenOff
deriving DecidableEq, Repr

namespace RunError

/-- The failure of a command as one of a run. -/
def ofFailure : Failure → RunError
  | .command error => .command error
  | .brokenOff => .brokenOff

/-- Whether the arguments are to blame, so that the usage is shown. -/
def isUsage : RunError → Bool
  | .command error => error.kind = .invalidArguments
  | _ => false

/-- The wording shown to the user. -/
def message : RunError → String
  | .command error => error.message
  | .log failure => failure.message
  | .brokenOff => "overflow when adding duration to instant"

end RunError

/-- Reads the settings and the plan of a command line. -/
def planOf (host : Host) (line : Line) : Except CommandError (Settings × Plan) := do
  let settings ← (Settings.load host line.options).mapError .config
  let plan ← line.command.plan settings
  return (settings, plan)

/-! ### Runs of the program -/

/-- What a run depends on beside its arguments. -/
structure Surroundings (ν : Type) where
  now : Timestamp
  environment : List (String × String)
  files : Files
  network : ν

/-- How a run ended. -/
inductive Ending where
  | misused (error : UsageError)
  | failed (error : RunError) (path : List String)
  | succeeded
deriving DecidableEq, Repr

namespace Ending

/-- The status of the program at the end. -/
def code : Ending → Nat
  | .misused .displayHelp => 0
  | .misused .displayVersion => 0
  | .misused _ => 2
  | .failed .brokenOff _ => 101
  | .failed error _ => if error.isUsage then 2 else 1
  | .succeeded => 0

/-- What is said of a failure. -/
def complaint : Ending → String
  | .misused _ => ""
  | .succeeded => ""
  | .failed error path =>
    "Error: " ++ error.message ++ "\n" ++
      (if error.isUsage then "\n" ++ usage path ++ "\n" else "")

end Ending

/-- What a run left behind: how it ended, what it was warned of, what it wrote, what the log was told,
in which form and in which file, and the files. -/
structure Report where
  ending : Ending
  warnings : List String
  output : String
  events : List Log.Event
  isJson : Bool
  logPath : Option String
  files : Files

namespace Report

/-- The report of a run that ended before anything was written. -/
def early (ending : Ending) (warnings : List String) (files : Files) : Report :=
  ⟨ending, warnings, "", [], false, none, files⟩

/-- The warnings, each on a line of its own. -/
def warningText (report : Report) : String := String.join (report.warnings.map (· ++ "\n"))

/-- What is said of warnings and of a failure. -/
def complaint (report : Report) : String := report.warningText ++ report.ending.complaint

end Report

namespace Surroundings

/-- The files and the home that settings are read from. -/
def host {ν : Type} (s : Surroundings ν) : Host := ⟨s.files, s.environment.lookup "HOME"⟩

/-- The paths that a run with arguments looks at, as far as the files tell. -/
def paths {ν : Type} (s : Surroundings ν) (arguments : List String) : List String :=
  match CommandLine.parse s.environment arguments with
  | .error _ => []
  | .ok line =>
    let config := line.options.configPath s.host
    let named := match ConfigFile.load s.files config false with
      | .ok file =>
        file.passwordFile.toList.map s.host.expandHome ++ file.logging.directory.toList ++
          (Log.filePath? file.logging s.now).toList
      | .error _ => []
    config :: line.options.passwordFile.toList ++ named

/-- The event of the endpoints that a run uses. -/
def endpointsEvent (endpoints : List String) : Log.Event :=
  ⟨.debug, "stor", "using API endpoints", [("endpoints", .shown (Command.logTexts endpoints))]⟩

/-- The event of a command that starts. -/
def runningEvent (name : String) : Log.Event :=
  ⟨.debug, "stor", "running", [("command", .text name)]⟩

/-- Runs a command line whose settings are read, up to its end: how it ends, what it writes and what
the log is told. -/
def carryOut {ν : Type} [Rest.Network ν] (s : Surroundings ν) (settings : Settings) (line : Line) :
    Except RunError Unit × String × List Log.Event :=
  match settings.apiEndpoints with
  | .error error => (.error (.command (.config error)), "", [])
  | .ok endpoints =>
    let told := [endpointsEvent endpoints]
    match Rest.Client.make endpoints Rest.Client.defaultUserAgent s.network with
    | .error error => (.error (.command (.client error)), "", told)
    | .ok client =>
      match line.command.plan settings with
      | .error error => (.error (.command error), "", told)
      | .ok plan =>
        let world : World (Rest.Client ν) :=
          ⟨s.now, .start, client, .withLimit none, told ++ [runningEvent plan.name]⟩
        let (result, world) := (plan.invocation settings).run 0 world
        (result.mapError .ofFailure, world.sink.written, world.events)

/-- Runs the program with arguments. -/
def run {ν : Type} [Rest.Network ν] (s : Surroundings ν) (arguments : List String) : Report :=
  match CommandLine.parse s.environment arguments with
  | .error error => .early (.misused error) [] s.files
  | .ok line =>
    match Settings.load s.host line.options with
    | .error error => .early (.failed (.command (.config error)) line.path) [] s.files
    | .ok settings =>
      let log := settings.logging.withVerbose line.verbose
      let (filter, warnings) := Log.Filter.choose (s.environment.lookup "RUST_LOG") log.level
      match Log.openFile log s.now s.files with
      | (files, .error failure) => .early (.failed (.log failure) line.path) warnings files
      | (files, .ok ()) =>
        let (result, output, events) := s.carryOut settings line
        let ending := match result with
          | .ok () => .succeeded
          | .error error => .failed error line.path
        ⟨ending, warnings, output, events.filter filter.tells, log.isJson,
          Log.filePath? log s.now, files⟩

end Surroundings

end BlockStorage
