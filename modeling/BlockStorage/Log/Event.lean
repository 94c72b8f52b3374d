import BlockStorage.Document.Json
import BlockStorage.Text.Quoted

/-!
Events of the log, and the two forms in which they are written.

An event has a level, a target, a message and fields in order. A line shows all but the target; the
JSON form shows everything.
-/

namespace BlockStorage.Log

open Text

/-- How much an event matters, the least first. -/
inductive Level where
  | trace | debug | info | warn | error
deriving DecidableEq, Repr

namespace Level

/-- The name of the level in the log. -/
def text : Level → String
  | .trace => "TRACE"
  | .debug => "DEBUG"
  | .info => "INFO"
  | .warn => "WARN"
  | .error => "ERROR"

/-- The place of a level in their order. -/
def rank : Level → Nat
  | .trace => 0
  | .debug => 1
  | .info => 2
  | .warn => 3
  | .error => 4

end Level

/-- The value of a field: a text, which lines show in quotes, or the form in which something else is
shown. -/
inductive FieldValue where
  | text (value : String)
  | shown (form : String)
deriving DecidableEq, Repr

namespace FieldValue

/-- The value as a line shows it. -/
def lineText : FieldValue → String
  | .text value => quoted value
  | .shown form => form

/-- The value as the JSON form shows it. -/
def plainText : FieldValue → String
  | .text value => value
  | .shown form => form

end FieldValue

/-- Something that happened, for the log. -/
structure Event where
  level : Level
  target : String
  message : String
  fields : List (String × FieldValue)
deriving DecidableEq, Repr

namespace Event

/-- The event in one line, without the time. -/
def line (e : Event) : String :=
  " ".intercalate
    ([e.level.text, e.message] ++ e.fields.map fun (name, value) => name ++ "=" ++ value.lineText)

/-- The event as a document, without the time. -/
def document (e : Event) : Document :=
  .record
    [("level", .text e.level.text),
      ("fields", .record
        (("message", .text e.message) ::
          e.fields.map fun (name, value) => (name, .text value.plainText))),
      ("target", .text e.target)]

end Event

end BlockStorage.Log
