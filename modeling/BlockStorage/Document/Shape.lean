import BlockStorage.Document.Draft
import BlockStorage.Labels

/-!
Shapes: what a document of a given kind looks like, and reading drafts by shape.

A shape says which fields a record has, in which order, and what it means that one is absent. Reading
a draft goes through it in its own order, stops at the first fault, and gives a document in which the
fields stand in the order of the shape, with the defaults of absent fields filled in.
-/

namespace BlockStorage

/-- What it means that a field is absent: it must not be, it has a default, or there is no value. A
field that may have no value may also be null. -/
inductive Absent where
  | refused
  | default (value : Document)
  | noValue

mutual

/-- What a document looks like. A choice may name the value for which all other names stand. -/
inductive Shape where
  | text
  | word
  | bool
  | time
  | labels
  | choice (names : List String) (other : Option String)
  | list (item : Shape)
  | record (fields : Shape.Fields)

/-- The fields of a record in order. -/
inductive Shape.Fields where
  | nil
  | field (name : String) (shape : Shape) (absent : Absent) (rest : Shape.Fields)

end

namespace Shape

/-- The shape of a field with a name, and what its absence means. -/
def Fields.find? (name : String) : Fields → Option (Shape × Absent)
  | .nil => none
  | .field key shape absent rest => if key = name then some (shape, absent) else rest.find? name

/-! ### Leaves -/

/-- A draft read as a text; any other good value does not fit. -/
def readText : Draft → Except Fault String
  | .missing fault => .error fault
  | .text leaf => leaf.read
  | .scalar leaf => leaf.read.bind fun _ => .error .data
  | .list _ => .error .data
  | .record _ => .error .data

/-- A draft read as a leaf that is no text. -/
def readScalar : Draft → Except Fault Scalar
  | .missing fault => .error fault
  | .text leaf => leaf.read.bind fun _ => .error .data
  | .scalar leaf => leaf.read
  | .list _ => .error .data
  | .record _ => .error .data

/-- Reads a natural number of 64 bits. -/
def readWord (d : Draft) : Except Fault Document := do
  match ← readScalar d with
  | .natural n => if n < UInt64.size then return .number n else throw .data
  | _ => throw .data

/-- Reads a truth value. -/
def readBool (d : Draft) : Except Fault Document := do
  match ← readScalar d with
  | .bool b => return .bool b
  | _ => throw .data

/-- Reads a text that is a point in time. -/
def readTime (d : Draft) : Except Fault Document := do
  match Timestamp.parse? (← readText d) with
  | some t => return .time t
  | none => throw .data

/-- The choice that a name stands for. -/
def chosen (names : List String) (other : Option String) (name : String) :
    Except Fault Document :=
  if names.contains name then .ok (.text name)
  else match other with
  | some name => .ok (.text name)
  | none => .error .data

/-- Whether a draft is null. -/
def isNull : Draft → Bool
  | .scalar ⟨.ok .null, _⟩ => true
  | _ => false

/-- A key of a record, which must be a text. -/
def readKey : Draft → Except Fault String
  | .text leaf => leaf.read
  | .missing fault => .error fault
  | _ => .error .form

/-- A choice is a name, or a record with the name as its only key and null as its value. -/
def readChoice (names : List String) (other : Option String) : Draft → Except Fault Document
  | .missing fault => .error fault
  | .text leaf => leaf.read.bind (chosen names other)
  | .scalar _ => .error .form
  | .list _ => .error .form
  | .record .closed => .error .form
  | .record (.broken fault) => .error fault
  | .record (.entry key value rest) => do
    let choice ← chosen names other (← readKey key)
    match ← readScalar value with
    | .null =>
      match rest with
      | .closed => return choice
      | .broken fault => throw fault
      | .entry _ _ _ => throw .form
    | _ => throw .data

/-- The entries of a draft read as labels. -/
def readEntries : Draft.Entries → Except Fault (List (String × String))
  | .closed => .ok []
  | .broken fault => .error fault
  | .entry key value rest => do
    let key ← readKey key
    let value ← readText value
    let entries ← readEntries rest
    return (key, value) :: entries

/-- Labels are a record of texts; of entries with one key the last counts. -/
def readLabels : Draft → Except Fault Document
  | .record entries => do
    let entries ← readEntries entries
    return .record ((Labels.ofList entries).entries.map fun (key, value) => (key, .text value))
  | d => (readText d).bind fun _ => .error .data

/-! ### Records -/

/-- What stands for an absent field. -/
def absentField (name : String) : Absent → Except Fault (List (String × Document))
  | .refused => .error .data
  | .default value => .ok [(name, value)]
  | .noValue => .ok []

/-- The fields of a shape in order, taken from those that were found. -/
def arrange (found : List (String × Document)) : Fields → Except Fault (List (String × Document))
  | .nil => .ok []
  | .field name _ absent rest => do
    let first ← match Document.lookup? name found with
      | some .null => pure []
      | some value => pure [(name, value)]
      | none => absentField name absent
    let others ← arrange found rest
    return first ++ others

/-- Whether a field may be null, which says that it has no value. -/
def admitsNull : Absent → Bool
  | .noValue => true
  | _ => false

mutual

/-- Reads a draft by a shape. -/
def read (shape : Shape) (d : Draft) : Except Fault Document :=
  match d with
  | .list items =>
    match shape with
    | .list item => (readItems item items).map .list
    | .record fields => (readRow fields items).map .record
    | .choice .. => .error .form
    | _ => .error .data
  | .record entries =>
    match shape with
    | .record fields => do
      let found ← readFields fields [] entries
      let arranged ← arrange found fields
      return .record arranged
    | .labels => readLabels (.record entries)
    | .choice names other => readChoice names other (.record entries)
    | _ => .error .data
  | d => readLeaf shape d
where
  /-- Reads a draft that is no tree. -/
  readLeaf (shape : Shape) (d : Draft) : Except Fault Document :=
    match shape with
    | .text => (readText d).map .text
    | .word => readWord d
    | .bool => readBool d
    | .time => readTime d
    | .choice names other => readChoice names other d
    | _ =>
      match d with
      | .text _ => (readText d).bind fun _ => .error .data
      | d => (readScalar d).bind fun _ => .error .data

/-- Reads the items of a list. -/
def readItems (shape : Shape) : Draft.Items → Except Fault (List Document)
  | .closed => .ok []
  | .broken fault => .error fault
  | .item d rest => do
    let value ← read shape d
    let values ← readItems shape rest
    return value :: values

/-- Reads a list as the fields of a record in order; fields at the end may be absent. -/
def readRow (fields : Fields) : Draft.Items → Except Fault (List (String × Document))
  | .closed =>
    match fields with
    | .nil => .ok []
    | .field name _ absent rest => do
      let first ← absentField name absent
      let others ← arrange [] rest
      return first ++ others
  | .broken fault => .error fault
  | .item d items =>
    match fields with
    | .nil => .error .form
    | .field name shape absent rest => do
      let value ← if admitsNull absent && isNull d then .ok .null else read shape d
      let others ← readRow rest items
      return match value with
        | .null => others
        | value => (name, value) :: others

/-- Reads the entries of a record; `found` holds the fields so far. Entries with other names are
passed over, and no field may stand twice. -/
def readFields (fields : Fields) (found : List (String × Document)) :
    Draft.Entries → Except Fault (List (String × Document))
  | .closed => .ok found
  | .broken fault => .error fault
  | .entry key d rest => do
    let name ← readKey key
    match fields.find? name with
    | some (shape, absent) =>
      if (Document.lookup? name found).isSome then .error .data
      else do
        let value ← if admitsNull absent && isNull d then .ok .null else read shape d
        readFields fields (found ++ [(name, value)]) rest
    | none =>
      match Draft.skip d with
      | some fault => .error fault
      | none => readFields fields found rest

end

/-- Reads a JSON text by a shape; nothing may stand behind the value. -/
def readText? (shape : Shape) (s : List Char) : Except Fault Document := do
  let (draft, hasMore) := Draft.ofText s
  let value ← read shape draft
  if hasMore then throw .form else return value

end Shape

end BlockStorage
