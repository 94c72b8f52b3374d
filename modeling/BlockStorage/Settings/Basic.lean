import BlockStorage.Duration
import BlockStorage.Output.Display
import BlockStorage.Settings.File

/-!
The settings of a run: options over the config file over defaults.

Options come from the command line and the environment. Each setting is read only when it is asked
for, so that a bad value fails only the runs that need it.
-/

namespace BlockStorage

open Text

/-- The options that every command takes. -/
structure Options where
  config : Option String
  endpoints : List String
  username : Option String
  password : Option String
  passwordFile : Option String
  «namespace» : Option String
  useIds : Bool
  timeout : Option String
  output : Option String
deriving DecidableEq, Repr

namespace Options

/-- No options at all. -/
def empty : Options := ⟨none, [], none, none, none, none, false, none, none⟩

/-- The options as a document. -/
def document (o : Options) : Document :=
  let text := Document.orNull .text
  .record
    [("config", text o.config), ("endpoints", .list (o.endpoints.map .text)),
      ("username", text o.username), ("password", text o.password),
      ("password_file", text o.passwordFile), ("namespace", text o.namespace),
      ("use_ids", .bool o.useIds), ("timeout", text o.timeout), ("output", text o.output)]

/-- Where the config file is looked for when no option tells. -/
def defaultConfigPath : String := "~/.config/stor/config.toml"

/-- Where the config file is looked for. -/
def configPath (options : Options) (host : Host) : String :=
  host.expandHome (options.config.getD defaultConfigPath)

end Options

/-- A username and a password. -/
structure Credentials where
  username : String
  password : String
deriving DecidableEq, Repr

/-- The credentials as logs show them, without the password. -/
def Credentials.logText (c : Credentials) : String :=
  "Credentials \x7b username: " ++ quoted c.username ++ ", password: \"<redacted>\" \x7d"

/-- Everything that decides the settings of a run. -/
structure Settings where
  options : Options
  file : ConfigFile
  host : Host
deriving DecidableEq, Repr

namespace Settings

/-- The longest time that a command may take when nothing is set. -/
def defaultTimeout : Duration := .ofSecs 15

/-- The namespace that is meant when none is named. -/
def defaultNamespace : String := "default"

/-- The user that is meant when none is named. -/
def defaultUsername : String := "storageos"

/-- The endpoint that is meant when none is named. -/
def defaultEndpoint : String := "http://localhost:5705"

/-- The settings that options and the config file give. -/
def load (host : Host) (options : Options) : Except ConfigError Settings := do
  let file ← ConfigFile.load host.files (options.configPath host) options.config.isSome
  return ⟨options, file, host⟩

/-- The settings of the log. -/
def logging (s : Settings) : LogSettings := s.file.logging

/-- The longest time that a command may take. -/
def commandTimeout (s : Settings) : Except ConfigError Duration := do
  let timeout ← match s.options.timeout.or s.file.timeout with
    | none => pure defaultTimeout
    | some literal =>
      match Duration.parse? literal with
      | some timeout => pure timeout
      | none => throw (.invalidTimeout literal)
  if timeout = .zero then throw .zeroTimeout else return timeout

/-- The longest time that a command may take, with a fallback for a literal that is no such time. -/
def effectiveTimeout (s : Settings) (fallback : Duration) : Duration :=
  match s.commandTimeout with
  | .ok timeout => timeout
  | .error _ => fallback

/-- Whether references are identifiers. -/
def useIds (s : Settings) : Bool := s.options.useIds || s.file.useIds.getD false

/-- The reference to the namespace. The default is a name, so there is none for identifiers. -/
def «namespace» (s : Settings) : String :=
  match s.options.namespace.or s.file.namespace with
  | some ns => ns
  | none => if s.useIds then "" else defaultNamespace

/-- The password in the first line of a file. -/
def passwordIn (s : Settings) (path : String) : Except ConfigError String :=
  match s.host.files.readText path with
  | .ok text => .ok (Files.firstLine text)
  | .error error => .error (.passwordFile path error.message)

/-- The password from the first source that is set: an option, a file that an option names, the config
file, a file that the config file names. -/
def password (s : Settings) : Except ConfigError String :=
  match s.options.password, s.options.passwordFile, s.file.password, s.file.passwordFile with
  | some password, _, _, _ => .ok password
  | none, some path, _, _ => s.passwordIn path
  | none, none, some password, _ => .ok password
  | none, none, none, some path => s.passwordIn (s.host.expandHome path)
  | none, none, none, none => .error .missingPassword

/-- The credentials of the user; an empty password is none. -/
def credentials (s : Settings) : Except ConfigError Credentials := do
  let password ← s.password
  if password.isEmpty then throw .missingPassword
  else return ⟨(s.options.username.or s.file.username).getD defaultUsername, password⟩

/-- The format of the output. -/
def outputFormat (s : Settings) : Except ConfigError Output.OutputFormat :=
  match s.options.output.or s.file.format with
  | none => .ok .text
  | some literal =>
    match Output.OutputFormat.parse? literal with
    | some format => .ok format
    | none => .error (.invalidOutputFormat literal)

/-- The endpoints from the first source that has any, without blanks and empty ones. -/
def apiEndpoints (s : Settings) : Except ConfigError (List String) :=
  let endpoints :=
    if !s.options.endpoints.isEmpty then s.options.endpoints
    else if !s.file.endpoints.isEmpty then s.file.endpoints
    else [defaultEndpoint]
  let endpoints := (endpoints.map trimmed).filter fun endpoint => !endpoint.isEmpty
  if endpoints.isEmpty then .error .noEndpoints else .ok endpoints

end Settings

end BlockStorage
