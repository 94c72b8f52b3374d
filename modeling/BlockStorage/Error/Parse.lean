/-!
Errors of the literals that a user types: sizes, NFS exports, label selectors and labels.
-/

namespace BlockStorage

/-- Why a literal was rejected; every cause carries the text that it is about. -/
inductive ParseError where
  | invalidSize (literal : String)
  | invalidExport (config reason : String)
  | invalidSelector (expr reason : String)
  | invalidLabel (pair : String)
deriving DecidableEq, Repr

namespace ParseError

/-- The name of the kind of the error. -/
def kindName : ParseError → String
  | .invalidSize _ => "InvalidSize"
  | .invalidExport .. => "InvalidExportConfig"
  | .invalidSelector .. => "InvalidSelector"
  | .invalidLabel _ => "InvalidLabel"

/-- The wording shown to the user. -/
def message : ParseError → String
  | .invalidSize literal => "invalid size \"" ++ literal ++ "\""
  | .invalidExport config reason => "invalid export config \"" ++ config ++ "\": " ++ reason
  | .invalidSelector expr reason => "invalid selector \"" ++ expr ++ "\": " ++ reason
  | .invalidLabel pair => "invalid label \"" ++ pair ++ "\", expected key=value"

end ParseError

end BlockStorage
