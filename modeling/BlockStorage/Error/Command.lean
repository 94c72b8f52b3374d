import BlockStorage.Error.Client
import BlockStorage.Error.Config
import BlockStorage.Error.Parse

/-!
Errors of a command, and the categories that a caller tells apart.
-/

namespace BlockStorage

/-- The categories of errors of a command. -/
inductive CommandErrorKind where
  | invalidArguments | precondition | config | client | licenceLimit | display
deriving DecidableEq, Repr

/-- The name of the category. -/
def CommandErrorKind.name : CommandErrorKind → String
  | .invalidArguments => "InvalidArguments"
  | .precondition => "Precondition"
  | .config => "Config"
  | .client => "Client"
  | .licenceLimit => "LicenceLimit"
  | .display => "Display"

/-- Why a command failed. -/
inductive CommandError where
  | invalidArguments (reason : String)
  | precondition (reason : String)
  | config (error : ConfigError)
  | client (error : ClientError)
  /-- The licence forbids the operation; told with the licence and what to do about it. -/
  | licenceLimit (reason licence hint : String)
  | display (reason : String)
deriving DecidableEq, Repr

namespace CommandError

/-- The kind of an error, by which scripts tell errors apart. -/
def kind : CommandError → CommandErrorKind
  | .invalidArguments _ => .invalidArguments
  | .precondition _ => .precondition
  | .config _ => .config
  | .client _ => .client
  | .licenceLimit .. => .licenceLimit
  | .display _ => .display

/-- The wording shown to the user. -/
def message : CommandError → String
  | .invalidArguments reason => "invalid arguments: " ++ reason
  | .precondition reason => reason
  | .config error => error.message
  | .client error => error.message
  | .licenceLimit reason licence hint => reason ++ "\n\n" ++ licence ++ "\n\n" ++ hint
  | .display reason => "failed to write output: " ++ reason

/-- The error of an argument that could not be read. -/
def ofParse (error : ParseError) : CommandError := .invalidArguments error.message

/-- The same failure as an error of the arguments. -/
def asInvalidArguments (error : CommandError) : CommandError :=
  match error with
  | .invalidArguments reason => .invalidArguments reason
  | other => .invalidArguments other.message

end CommandError

end BlockStorage
