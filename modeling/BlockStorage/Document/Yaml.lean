import BlockStorage.Document.Json
import BlockStorage.Number.Binary64

/-!
YAML texts of documents.

Fields and items stand on lines of their own; a list inside a record is not indented. A text is
written without quotes when that reads back as the same text, in single quotes when it would read as
something else, in double quotes when it holds characters that need escapes, and as a literal block
when it has several lines.
-/

namespace BlockStorage.Document.Yaml

open Text

/-! ### What a text without quotes would read as -/

/-- Digits in a base of at most sixteen, at least one. -/
def isNumeral (base : Nat) (s : List Char) : Bool :=
  let value (c : Char) : Nat :=
    if isDigit c then digitValue c
    else if 'a' ≤ c && c ≤ 'f' then c.toNat - 87
    else if 'A' ≤ c && c ≤ 'F' then c.toNat - 55
    else 99
  !s.isEmpty && s.all fun c => value c < base

/-- The number that such digits denote. -/
def numeralValue (base : Nat) (s : List Char) : Nat :=
  let value (c : Char) : Nat :=
    if isDigit c then digitValue c
    else if 'a' ≤ c && c ≤ 'f' then c.toNat - 87
    else c.toNat - 55
  s.foldl (fun n c => base * n + value c) 0

/-- The base of a number and its digits, by the mark in front of them. -/
def basedDigits (s : List Char) : Nat × List Char :=
  match s with
  | '0' :: 'x' :: r => (16, r)
  | '0' :: 'o' :: r => (8, r)
  | '0' :: 'b' :: r => (2, r)
  | s => (10, s)

/-- A number that starts with a zero that it does not need is a text. -/
def hasNeedlessZero (s : List Char) : Bool :=
  let digits := match s with
    | '-' :: r => r
    | '+' :: r => r
    | s => s
  match digits with
  | '0' :: r => !r.isEmpty && r.all isDigit
  | _ => false

/-- Whether a text reads as an integer of 128 bits. -/
def readsAsInteger (s : List Char) : Bool :=
  if hasNeedlessZero s then false
  else match s with
  | '-' :: r =>
    let (base, digits) := basedDigits r
    isNumeral base digits && numeralValue base digits ≤ 170141183460469231731687303715884105728
  | s =>
    let unsigned := match s with
      | '+' :: r => r
      | s => s
    let (base, digits) := basedDigits unsigned
    isNumeral base digits && numeralValue base digits < 340282366920938463463374607431768211456

/-- The exponent part of a decimal: nothing, or `e`, a sign and digits. -/
def exponent? (s : List Char) : Option Int :=
  match s with
  | [] => some 0
  | c :: r =>
    if c = 'e' || c = 'E' then
      match r with
      | '-' :: digits => (natOfDigits? digits).map fun n => -(n : Int)
      | '+' :: digits => (natOfDigits? digits).map Int.ofNat
      | digits => (natOfDigits? digits).map Int.ofNat
    else none

/-- Whether a decimal, given by its digits, how many of them are behind the point and an exponent,
fits the format binary64. -/
def isFinite (digits : List Char) (places : Nat) (exponent : Int) : Bool :=
  let n := digitsValue 0 digits
  let e := exponent - places
  let magnitude := e + (Nat.toDigits 10 n).length
  if n = 0 || magnitude ≤ 308 then true
  else if magnitude > 309 then false
  else if e < 0 then (Binary64.ofQuotient? n (Nat.pow 10 e.natAbs)).isSome
  else (Binary64.ofNat? (n * Nat.pow 10 e.toNat)).isSome

/-- Whether a text without a sign reads as a finite decimal number. -/
def readsAsDecimal (s : List Char) : Bool :=
  let whole := s.takeWhile isDigit
  let rest := s.dropWhile isDigit
  let (fraction, rest) := match rest with
    | '.' :: r => (r.takeWhile isDigit, r.dropWhile isDigit)
    | r => ([], r)
  if whole.isEmpty && fraction.isEmpty then false
  else match exponent? rest with
  | some e => isFinite (whole ++ fraction) fraction.length e
  | none => false

/-- Whether a text reads as a number that is not whole, or as none at all. -/
def readsAsFloat (s : List Char) : Bool :=
  if hasNeedlessZero s then false
  else
    let unsigned := match s with
      | '+' :: r => r
      | '-' :: r => r
      | s => s
    readsAsDecimal unsigned || [".inf", ".Inf", ".INF"].contains (String.ofList unsigned) ||
      [".nan", ".NaN", ".NAN"].contains (String.ofList s)

/-- Whether a text reads as something else than a text. -/
def readsAsOther (s : List Char) : Bool :=
  ["", "~", "null", "Null", "NULL", "true", "True", "TRUE", "false", "False", "FALSE"].contains
    (String.ofList s) || readsAsInteger s || readsAsFloat s || hasNeedlessZero s

/-! ### Classes of characters -/

/-- Whether a character ends a line. -/
def isBreak (c : Char) : Bool :=
  c = '\n' || c = '\r' || c.toNat = 0x85 || c.toNat = 0x2028 || c.toNat = 0x2029

/-- Whether a character may stand in a text as it is. -/
def isPrintable (c : Char) : Bool :=
  let n := c.toNat
  n = 0x0A || (0x20 ≤ n && n ≤ 0x7E) ||
    (0xA0 ≤ n && n ≤ 0xFFFD && n ≠ 0xFEFF) || 0x10000 ≤ n

/-- Whether what follows separates words. -/
def isGap (next : Option Char) : Bool :=
  match next with
  | none => true
  | some c => c = ' ' || c = '\t' || c.toNat = 0 || isBreak c

/-- Marks with a meaning of their own at the start of a text. -/
def isLeadingMark (c : Char) : Bool := "#,[]\x7b\x7d&*!|>'\"%@`".toList.contains c

/-! ### The ways to write a text -/

/-- Whether a mark in a text would end it or give it another meaning; `previous` is the character
before. -/
def hasInnerMark (previous : Option Char) : List Char → Bool
  | [] => false
  | c :: s =>
    let here := match previous with
      | none => isLeadingMark c || ((c = '?' || c = ':' || c = '-') && isGap s.head?)
      | some p => (c = ':' && isGap s.head?) || (c = '#' && isGap (some p))
    here || hasInnerMark (some c) s

/-- Whether a text starts like the mark of a document. -/
def startsDocument (s : List Char) : Bool :=
  s.take 3 = ['-', '-', '-'] || s.take 3 = ['.', '.', '.']

/-- Whether one of two neighbours is a blank and the other, in the given order, ends a line. -/
def hasPair (first second : Char → Bool) : List Char → Bool
  | a :: b :: s => (first a && second b) || hasPair first second (b :: s)
  | _ => false

/-- Whether a text keeps its characters only with escapes. -/
def needsEscapes (s : List Char) : Bool :=
  !s.all isPrintable || hasPair (· = ' ') isBreak s

/-- Whether a text may stand in single quotes. -/
def allowsQuotes (s : List Char) : Bool :=
  !needsEscapes s && !hasPair isBreak (· = ' ') s

/-- Whether a text may stand without quotes. -/
def allowsPlain (s : List Char) : Bool :=
  let outer := fun c => c = ' ' || isBreak c
  allowsQuotes s && !s.any isBreak && !s.head?.any outer && !s.getLast?.any outer &&
    !startsDocument s && !hasInnerMark none s

/-- Whether a text may stand as a literal block. -/
def allowsBlock (s : List Char) : Bool :=
  !s.isEmpty && !needsEscapes s && s.getLast? ≠ some ' '

/-- The ways to write a text. -/
inductive Style where
  | plain | single | double | literal
deriving DecidableEq

/-- The way to write a text. -/
def styleOf (s : List Char) : Style :=
  if s.contains '\n' then (if allowsBlock s then .literal else .double)
  else if allowsPlain s && !readsAsOther s then .plain
  else if allowsQuotes s then .single
  else .double

/-- Blanks up to a column. -/
def pad (n : Nat) : List Char := List.replicate n ' '

/-- The lines of a text, each line that holds something indented; `fresh` says that a line starts. -/
def indented (n : Nat) (fresh : Bool) : List Char → List Char
  | [] => []
  | c :: s =>
    if isBreak c then c :: indented n true s
    else (if fresh then pad n else []) ++ c :: indented n false s

/-- The marks of a block: the indentation when the text starts with a blank or a break, and what
becomes of the breaks at the end. -/
def blockMarks (s : List Char) : List Char :=
  let lead := if s.head?.any fun c => c = ' ' || isBreak c then ['2'] else []
  let chomp := match s.reverse with
    | [] => ['-']
    | [c] => if isBreak c then ['+'] else ['-']
    | c :: d :: _ => if !isBreak c then ['-'] else if isBreak d then ['+'] else []
  lead ++ chomp

/-- The escape of a character in double quotes. -/
def doubleChar (c : Char) : List Char :=
  let n := c.toNat
  let numbered (mark : Char) (width : Nat) : List Char :=
    let digits := (hexDigits n).map Char.toUpper
    ['\\', mark] ++ List.replicate (width - digits.length) '0' ++ digits
  if isPrintable c && !isBreak c && c ≠ '"' && c ≠ '\\' then [c]
  else match shortEscapes.find? (fun e => e.1 = n) with
  | some (_, e) => ['\\', e]
  | none =>
    if n ≤ 0xFF then numbered 'x' 2 else if n ≤ 0xFFFF then numbered 'u' 4 else numbered 'U' 8
where
  shortEscapes : List (Nat × Char) :=
    [(0, '0'), (7, 'a'), (8, 'b'), (9, 't'), (10, 'n'), (11, 'v'), (12, 'f'), (13, 'r'), (27, 'e'),
      (34, '"'), (92, '\\'), (0x85, 'N'), (0xA0, '_'), (0x2028, 'L'), (0x2029, 'P')]

/-- A text in single quotes; a quote in it is written twice and its lines are indented. -/
def singleChars (n : Nat) (s : List Char) : List Char :=
  let body := s.flatMap fun c => if c = '\'' then [c, c] else [c]
  let closing := if s.getLast?.any isBreak then pad n else []
  ['\''] ++ indented n false body ++ closing ++ ['\'']

/-- A text, with its own lines at an indentation. -/
def textChars (n : Nat) (value : String) : List Char :=
  let s := value.toList
  match styleOf s with
  | .plain => s
  | .single => singleChars n s
  | .double => ['"'] ++ s.flatMap doubleChar ++ ['"']
  | .literal => ['|'] ++ blockMarks s ++ ['\n'] ++ indented n true s

/-- Ends the line, unless a block has ended it. -/
def endLine (s : List Char) : List Char :=
  if s.getLast?.any isBreak then s else s ++ ['\n']

/-- Whether a key stands on the line of its value: it is short and has one line. -/
def isSimpleKey (key : String) : Bool :=
  key.utf8ByteSize ≤ 128 && !key.toList.any isBreak

/-- A leaf in its plain form. -/
def leafChars (n : Nat) : Document → List Char
  | .null => "null".toList
  | .bool value => (toString value).toList
  | .number value => Nat.toDigits 10 value
  | .text value => textChars n value
  | .time value => textChars n value.text
  | .list _ => ['[', ']']
  | .record _ => ['\x7b', '\x7d']

/-! ### Records and lists -/

/-- A key with its mark, and what stands before the mark of its value. -/
def keyChars (column : Nat) (key : String) : List Char :=
  if isSimpleKey key then textChars column key ++ [':']
  else ['?', ' '] ++ endLine (textChars (column + 2) key) ++ pad column ++ [':', ' ']

mutual

/-- A document behind a mark in a line; its lines start at a column. -/
def inlineChars (column : Nat) : Document → List Char
  | .list [] => endLine (leafChars column (.list []))
  | .list items => itemChars column [] items
  | .record [] => endLine (leafChars column (.record []))
  | .record fields => fieldChars column [] fields
  | leaf => endLine (leafChars column leaf)

/-- The value of a field, behind the mark of a key at a column. -/
def valueChars (column : Nat) : Document → List Char
  | .list [] => [' '] ++ endLine (leafChars column (.list []))
  | .list items => ['\n'] ++ itemChars column (pad column) items
  | .record [] => [' '] ++ endLine (leafChars column (.record []))
  | .record fields => ['\n'] ++ fieldChars (column + 2) (pad (column + 2)) fields
  | leaf => [' '] ++ endLine (leafChars (column + 2) leaf)

/-- The items of a list, each on a line of its own; `front` stands before the first. -/
def itemChars (column : Nat) (front : List Char) : List Document → List Char
  | [] => []
  | item :: items =>
    front ++ ['-', ' '] ++ inlineChars (column + 2) item ++ itemChars column (pad column) items

/-- The fields of a record, each on a line of its own; `front` stands before the first. -/
def fieldChars (column : Nat) (front : List Char) : List (String × Document) → List Char
  | [] => []
  | (key, value) :: fields =>
    front ++ keyChars column key ++
      (if isSimpleKey key then valueChars column value else inlineChars (column + 2) value) ++
      fieldChars column (pad column) fields

end

/-- The document from the first column on. -/
def chars (d : Document) : List Char := inlineChars 0 d

/-- The number of bytes after which the output is passed on. -/
def pieceSize : Nat := 16379

/-- Cuts a text after every `pieceSize` bytes; `run` is the piece so far, last character first, and
`used` its bytes. -/
def cutPieces (run : List Char) (used : Nat) : List Char → List String
  | [] => if run.isEmpty then [] else [String.ofList run.reverse]
  | c :: s =>
    if used ≥ pieceSize then String.ofList run.reverse :: cutPieces [c] c.utf8Size s
    else cutPieces (c :: run) (used + c.utf8Size) s

/-- The pieces in which the text of a document is written out. -/
def pieces (d : Document) : List String := cutPieces [] 0 (chars d)

end BlockStorage.Document.Yaml
