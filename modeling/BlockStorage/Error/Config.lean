import BlockStorage.Text.Quoted

/-!
Errors of the configuration.
-/

namespace BlockStorage

open Text

/-- Why a setting has no value. -/
inductive ConfigError where
  | fileNotFound (path : String)
  | unreadable (path reason : String)
  | invalidFile (path reason : String)
  | invalidTimeout (literal : String)
  | zeroTimeout
  | invalidOutputFormat (literal : String)
  | missingPassword
  | passwordFile (path reason : String)
  | noEndpoints
deriving DecidableEq, Repr

namespace ConfigError

/-- The name of the kind of the error. -/
def kindName : ConfigError → String
  | .fileNotFound _ => "FileNotFound"
  | .unreadable .. => "Read"
  | .invalidFile .. => "Parse"
  | .invalidTimeout _ => "InvalidTimeout"
  | .zeroTimeout => "ZeroTimeout"
  | .invalidOutputFormat _ => "InvalidOutputFormat"
  | .missingPassword => "MissingPassword"
  | .passwordFile .. => "PasswordFile"
  | .noEndpoints => "NoEndpoints"

/-- The wording shown to the user. -/
def message : ConfigError → String
  | .fileNotFound path => "config file " ++ path ++ " not found"
  | .unreadable path reason => "failed to read config file " ++ path ++ ": " ++ reason
  | .invalidFile path reason => "invalid config file " ++ path ++ ": " ++ reason
  | .invalidTimeout literal =>
    "invalid timeout " ++ quoted literal ++ ": expected a duration such as \"15s\" or \"500ms\""
  | .zeroTimeout => "command timeout must be greater than zero"
  | .invalidOutputFormat literal =>
    "unknown output format " ++ quoted literal ++ ": expected one of json, yaml, text"
  | .missingPassword =>
    "no password configured: use --password, STOR_PASSWORD or --password-file"
  | .passwordFile path reason => "failed to read password file " ++ path ++ ": " ++ reason
  | .noEndpoints => "no API endpoints configured"

end ConfigError

end BlockStorage
