/-!
TOML trees, and how the statements of a TOML text build them.

A text is a list of statements: headers open tables, and assignments set keys in the table that was
opened last. A key is set once, a table has one header at most, and what stands between braces is
complete. Dots in a key open tables on the way, which only further dotted keys may extend.
-/

namespace BlockStorage

namespace Toml

/-- How a table came to be: between braces, by its own header, on the way of a header of a table in
it, or on the way of a dotted key. -/
inductive Opening where
  | braces | header | passed | dotted
deriving DecidableEq, Repr

/-- A value. Numbers and points in time are told from other values only, because no setting holds
them. -/
inductive Tree where
  | text (value : String)
  | bool (value : Bool)
  | number
  | moment
  | list (items : List Tree)
  | table (opening : Opening) (entries : List (String × Tree))
  /-- The tables that headers in double brackets opened under one name. -/
  | rows (tables : List (List (String × Tree)))

/-- The keys of a table with their values. -/
abbrev Entries := List (String × Tree)

/-- The value of a key. -/
def find? (name : String) : Entries → Option Tree
  | [] => none
  | (key, value) :: rest => if key = name then some value else find? name rest

/-- Changes the value of a key, or gives the key a value when it has none. -/
def update (name : String) (change : Option Tree → Option Tree) : Entries → Option Entries
  | [] => (change none).map fun value => [(name, value)]
  | (key, value) :: rest =>
    if key = name then (change (some value)).map fun value => (key, value) :: rest
    else (update name change rest).map ((key, value) :: ·)

/-- Changes the last of the tables under one name. -/
def changeLast (change : Entries → Option Entries) : List Entries → Option (List Entries)
  | [] => none
  | [table] => (change table).map ([·])
  | table :: tables => (changeLast change tables).map (table :: ·)

/-- Changes the table at the path of a header. Tables on the way are opened when they are not there,
and of the tables under one name the last is meant. -/
def changeAt (change : Entries → Option Entries) : List String → Entries → Option Entries
  | [], entries => change entries
  | name :: path, entries =>
    update name
      (fun
        | none => (changeAt change path []).map (.table .passed)
        | some (.table .braces _) => none
        | some (.table opening entries) => (changeAt change path entries).map (.table opening)
        | some (.rows tables) => (changeLast (changeAt change path) tables).map .rows
        | some _ => none)
      entries

/-- Opens a table by its header. -/
def openTable (name : String) (entries : Entries) : Option Entries :=
  update name
    (fun
      | none => some (.table .header [])
      | some (.table .passed entries) => some (.table .header entries)
      | some _ => none)
    entries

/-- Opens one more table under a name by a header in double brackets. -/
def openRow (name : String) (entries : Entries) : Option Entries :=
  update name
    (fun
      | none => some (.rows [[]])
      | some (.rows tables) => some (.rows (tables ++ [[]]))
      | some _ => none)
    entries

/-- Sets a key that has no value yet. -/
def addKey (name : String) (value : Tree) (entries : Entries) : Option Entries :=
  if (find? name entries).isSome then none else some (entries ++ [(name, value)])

/-- Sets a key behind dots; `reached` says how the table came to be that the dots have led to, if any
dot has been passed. -/
def assign (name : String) (value : Tree) :
    List String → Option Opening → Entries → Option Entries
  | [], reached, entries =>
    if reached.all (· = .dotted) then addKey name value entries else none
  | key :: path, _, entries =>
    update key
      (fun
        | none => (assign name value path (some .dotted) []).map (.table .dotted)
        | some (.table .passed entries) =>
          (assign name value path (some .passed) entries).map (.table .passed)
        | some (.table .dotted entries) =>
          (assign name value path (some .dotted) entries).map (.table .dotted)
        | some (.rows tables) =>
          (changeLast (assign name value path (some .header)) tables).map .rows
        | some _ => none)
      entries

/-- A key: the names in front of its dots and the last name. -/
structure Key where
  path : List String
  name : String
deriving DecidableEq, Repr

/-- A statement of a text. -/
inductive Statement where
  | header (key : Key)
  | row (key : Key)
  | assignment (key : Key) (value : Tree)

/-- A document in the making: its entries and the path of the table that was opened last. -/
structure Builder where
  entries : Entries
  current : List String

namespace Builder

/-- The document before its first statement. -/
def start : Builder := ⟨[], []⟩

/-- What a statement makes of a document, unless it contradicts what came before. -/
def step (b : Builder) : Statement → Option Builder
  | .header key => do
    let entries ← changeAt (openTable key.name) key.path b.entries
    return ⟨entries, key.path ++ [key.name]⟩
  | .row key => do
    let entries ← changeAt (openRow key.name) key.path b.entries
    return ⟨entries, key.path ++ [key.name]⟩
  | .assignment key value => do
    let entries ← changeAt (assign key.name value key.path none) b.current b.entries
    return ⟨entries, b.current⟩

/-- What statements make of a document in order. -/
def run (b : Builder) : List Statement → Option Builder
  | [] => some b
  | statement :: statements => do
    let b ← b.step statement
    run b statements

end Builder

/-- The table between braces that holds assignments. -/
def inlineTable? (pairs : List (Key × Tree)) : Option Tree := do
  let b ← Builder.start.run (pairs.map fun (key, value) => .assignment key value)
  return .table .braces b.entries

end Toml

end BlockStorage
