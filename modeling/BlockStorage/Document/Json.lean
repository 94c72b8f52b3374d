import BlockStorage.Document.Basic
import BlockStorage.Text.Quoted

/-!
JSON texts of documents.

The compact form has no blanks. The pretty form puts every item and field on a line of its own,
indented by two blanks a level; it is made of the pieces in which it is written out, so that an
output that stops early stops between two pieces.
-/

namespace BlockStorage.Document.Json

open Text

/-- The escape of a character in a JSON text, if it needs one. -/
def escape? (c : Char) : Option (List Char) :=
  if c = '"' then some ['\\', '"']
  else if c = '\\' then some ['\\', '\\']
  else if c = '\n' then some ['\\', 'n']
  else if c = '\r' then some ['\\', 'r']
  else if c = '\t' then some ['\\', 't']
  else if c.toNat = 8 then some ['\\', 'b']
  else if c.toNat = 12 then some ['\\', 'f']
  else if c.toNat < 0x20 then
    let digits := hexDigits c.toNat
    some (['\\', 'u'] ++ List.replicate (4 - digits.length) '0' ++ digits)
  else none

/-- The characters of a text between its quotes. -/
def escaped (s : List Char) : List Char := s.flatMap fun c => (escape? c).getD [c]

/-- A text in quotes. -/
def textChars (s : String) : List Char := ['"'] ++ escaped s.toList ++ ['"']

mutual

/-- The compact form. -/
def compactChars : Document → List Char
  | .null => "null".toList
  | .bool value => (toString value).toList
  | .number value => Nat.toDigits 10 value
  | .text value => textChars value
  | .time value => ['"'] ++ value.chars ++ ['"']
  | .list items => ['['] ++ compactItems items ++ [']']
  | .record fields => ['\x7b'] ++ compactFields fields ++ ['\x7d']

/-- The items of a list with commas between them. -/
def compactItems : List Document → List Char
  | [] => []
  | [item] => compactChars item
  | item :: items => compactChars item ++ [','] ++ compactItems items

/-- The fields of a record with commas between them. -/
def compactFields : List (String × Document) → List Char
  | [] => []
  | [(name, value)] => textChars name ++ [':'] ++ compactChars value
  | (name, value) :: fields =>
    textChars name ++ [':'] ++ compactChars value ++ [','] ++ compactFields fields

end

/-- The compact form as a text. -/
def compact (d : Document) : String := String.ofList (compactChars d)

/-! ### The pretty form, in pieces -/

/-- The pieces between the quotes of a text: runs of plain characters, and single escapes. `run` is
the run so far, last character first. -/
def textPieces (run : List Char) : List Char → List String
  | [] => flush run
  | c :: s =>
    match escape? c with
    | some e => flush run ++ [String.ofList e] ++ textPieces [] s
    | none => textPieces (c :: run) s
where
  flush (run : List Char) : List String :=
    if run.isEmpty then [] else [String.ofList run.reverse]

/-- The pieces of a text with its quotes. -/
def quotedPieces (s : String) : List String := ["\""] ++ textPieces [] s.toList ++ ["\""]

/-- One piece a character. -/
def charPieces (s : List Char) : List String := s.map String.singleton

/-- A number that is written after its padding zeros. -/
def paddedPieces (digits : List Char) : List String :=
  let zeros := digits.takeWhile (· = '0')
  let rest := digits.dropWhile (· = '0')
  charPieces zeros ++ (if rest.isEmpty then [] else [String.ofList rest])

/-- The pieces of the year: single digits up to 9999, and otherwise the sign, the padding and the
number. -/
def yearPieces (year : Int) : List String :=
  match Date.yearText year with
  | '+' :: digits => "+" :: paddedPieces digits
  | '-' :: digits => "-" :: paddedPieces digits
  | digits => charPieces digits

/-- The pieces of a point in time with its quotes. -/
def timePieces (t : Timestamp) : List String :=
  ["\""] ++ yearPieces t.date.year ++
    charPieces (['-'] ++ natPadded 2 t.date.month ++ ['-'] ++ natPadded 2 t.date.day ++ ['T'] ++
      t.clockText) ++
    (if t.fractionDigits.isEmpty then [] else "." :: paddedPieces t.fractionDigits) ++ ["Z", "\""]

/-- The indentation of a line. -/
def indent (level : Nat) : List String := List.replicate level "  "

mutual

/-- The pieces of a document whose lines stand at a level. -/
def pieces (level : Nat) : Document → List String
  | .null => ["null"]
  | .bool value => [toString value]
  | .number value => [toString value]
  | .text value => quotedPieces value
  | .time value => timePieces value
  | .list items =>
    ["["] ++ itemPieces level "\n" items ++
      (if items.isEmpty then [] else ["\n"] ++ indent level) ++ ["]"]
  | .record fields =>
    ["\x7b"] ++ fieldPieces level "\n" fields ++
      (if fields.isEmpty then [] else ["\n"] ++ indent level) ++ ["\x7d"]

/-- The items of a list, each after a line break. -/
def itemPieces (level : Nat) (lineBreak : String) : List Document → List String
  | [] => []
  | item :: items =>
    [lineBreak] ++ indent (level + 1) ++ pieces (level + 1) item ++ itemPieces level ",\n" items

/-- The fields of a record, each after a line break. -/
def fieldPieces (level : Nat) (lineBreak : String) : List (String × Document) → List String
  | [] => []
  | (name, value) :: fields =>
    [lineBreak] ++ indent (level + 1) ++ quotedPieces name ++ [": "] ++ pieces (level + 1) value ++
      fieldPieces level ",\n" fields

end

/-- The pieces of the pretty form. -/
def pretty (d : Document) : List String := pieces 0 d

end BlockStorage.Document.Json
