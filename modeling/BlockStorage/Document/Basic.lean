import BlockStorage.Time.Timestamp

/-!
Documents: the trees of values in which resources are stored, sent and shown.

Numbers are natural, because no resource holds any other. A point in time is a leaf of its own,
which every written form shows as a text.
-/

namespace BlockStorage

/-- A tree of values. -/
inductive Document where
  | null
  | bool (value : Bool)
  | number (value : Nat)
  | text (value : String)
  | time (value : Timestamp)
  | list (items : List Document)
  | record (fields : List (String × Document))

namespace Document

/-- The value of the first field with a name. -/
def lookup? (name : String) : List (String × Document) → Option Document
  | [] => none
  | (key, value) :: rest => if key = name then some value else lookup? name rest

/-- The value of a field of a record. -/
def field? (d : Document) (name : String) : Option Document :=
  match d with
  | .record fields => lookup? name fields
  | _ => none

/-- A value that may not exist; then it is null. -/
def orNull {α : Type} (write : α → Document) : Option α → Document
  | some value => write value
  | none => .null

/-- The field of an optional value, which is left out when there is none. -/
def optionalField {α : Type} (name : String) (write : α → Document) :
    Option α → List (String × Document)
  | some value => [(name, write value)]
  | none => []

end Document

end BlockStorage
