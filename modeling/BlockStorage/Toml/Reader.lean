import BlockStorage.Text.Split
import BlockStorage.Toml.Scalar
import BlockStorage.Toml.Tree

/-!
Reading TOML texts.

A text is read into statements, one to a line, and the statements build a document. Values may nest
less than `depthLimit` deep and keys may have less than `depthLimit` names. Each reader takes the start
of a text and gives what follows; reading fails as a whole or not at all.
-/

namespace BlockStorage.Toml

open Text

/-- The depth that no nesting reaches. -/
def depthLimit : Nat := 80

/-! ### Blanks and comments -/

/-- Whether a character may stand for itself: in a comment, and also in a text, where quotes and
backslashes have their own rules. -/
def isPlain (c : Char) : Bool := c = '\t' || (0x20 ≤ c.toNat && c.toNat ≠ 0x7F)

/-- Drops the blanks of a line. -/
def skipBlanks (s : List Char) : List Char := s.dropWhile fun c => c = ' ' || c = '\t'

/-- What follows a line break at the start of a text. -/
def newline? : List Char → Option (List Char)
  | '\n' :: s => some s
  | '\r' :: '\n' :: s => some s
  | _ => none

/-- Drops a comment, if there is one. -/
def skipComment : List Char → List Char
  | '#' :: s => s.dropWhile isPlain
  | s => s

/-- The end of a line: blanks, a comment, and a line break or the end of the text. -/
def lineEnd? (s : List Char) : Option (List Char) :=
  match skipComment (skipBlanks s) with
  | [] => some []
  | s => newline? s

/-- Drops blanks, line breaks and comments with the line breaks behind them. -/
def skipLines : Nat → List Char → List Char
  | 0, s => s
  | fuel + 1, s =>
    let s := skipBlanks s
    match newline? (skipComment s) with
    | some rest => skipLines fuel rest
    | none => s

/-! ### Texts -/

/-- The character of a number of as many hexadecimal digits as asked for. -/
def numbered? (width : Nat) (s : List Char) : Option (Char × List Char) :=
  let digits := s.take width
  if digits.length = width && digits.all (isDigitOf 16) then
    let n := valueOf 16 digits
    if n < 0xD800 || (0xDFFF < n && n < 0x110000) then some (Char.ofNat n, s.drop width) else none
  else none

/-- The character behind a backslash. -/
def escaped? : List Char → Option (Char × List Char)
  | 'b' :: s => some (Char.ofNat 8, s)
  | 'f' :: s => some (Char.ofNat 12, s)
  | 'n' :: s => some ('\n', s)
  | 'r' :: s => some ('\r', s)
  | 't' :: s => some ('\t', s)
  | '\\' :: s => some ('\\', s)
  | '"' :: s => some ('"', s)
  | 'u' :: s => numbered? 4 s
  | 'U' :: s => numbered? 8 s
  | _ => none

/-- A text between double quotes on one line, from behind the first quote. -/
def basicText? : Nat → List Char → Option (List Char × List Char)
  | 0, _ => none
  | fuel + 1, s =>
    match s with
    | '"' :: s => some ([], s)
    | '\\' :: s => do
      let (c, s) ← escaped? s
      let (chars, s) ← basicText? fuel s
      return (c :: chars, s)
    | c :: s =>
      if isPlain c then (basicText? fuel s).map fun (chars, s) => (c :: chars, s) else none
    | [] => none

/-- A text between single quotes on one line, from behind the first quote. -/
def literalText? : List Char → Option (List Char × List Char)
  | '\'' :: s => some ([], s)
  | c :: s =>
    if isPlain c then (literalText? s).map fun (chars, s) => (c :: chars, s) else none
  | [] => none

/-- The end of a text in triple quotes: three quotes, with up to two more in front that belong to the
text. -/
def tripleEnd? (quote : Char) (s : List Char) : Option (List Char × List Char) :=
  let count := (s.takeWhile (· = quote)).length
  if count < 3 then none else some (List.replicate (min count 5 - 3) quote, s.drop (min count 5))

/-- What follows a backslash at the end of a line: the next character that is no blank. -/
def continued? (s : List Char) : Option (List Char) :=
  (newline? (skipBlanks s)).map fun s =>
    let rec skip : Nat → List Char → List Char
      | 0, s => s
      | fuel + 1, s =>
        match newline? (skipBlanks s) with
        | some rest => skip fuel rest
        | none => skipBlanks s
    skip s.length s

/-- A text in triple double quotes, from behind the first quotes and a line break. -/
def basicLines? : Nat → List Char → Option (List Char × List Char)
  | 0, _ => none
  | fuel + 1, s =>
    match tripleEnd? '"' s with
    | some (quotes, rest) => some (quotes, rest)
    | none =>
      match s with
      | '\\' :: s =>
        match continued? s with
        | some s => basicLines? fuel s
        | none => do
          let (c, s) ← escaped? s
          let (chars, s) ← basicLines? fuel s
          return (c :: chars, s)
      | c :: s =>
        match newline? (c :: s) with
        | some s => (basicLines? fuel s).map fun (chars, s) => ('\n' :: chars, s)
        | none =>
          if isPlain c then (basicLines? fuel s).map fun (chars, s) => (c :: chars, s) else none
      | [] => none

/-- A text in triple single quotes, from behind the first quotes and a line break. -/
def literalLines? : Nat → List Char → Option (List Char × List Char)
  | 0, _ => none
  | fuel + 1, s =>
    match tripleEnd? '\'' s with
    | some (quotes, rest) => some (quotes, rest)
    | none =>
      match s with
      | c :: s =>
        match newline? (c :: s) with
        | some s => (literalLines? fuel s).map fun (chars, s) => ('\n' :: chars, s)
        | none =>
          if isPlain c then (literalLines? fuel s).map fun (chars, s) => (c :: chars, s)
          else none
      | [] => none

/-- Drops the line break that may follow the opening quotes. -/
def skipFirstBreak (s : List Char) : List Char := (newline? s).getD s

/-- A text in quotes of any kind. -/
def text? (s : List Char) : Option (String × List Char) :=
  let read := match s with
    | '"' :: '"' :: '"' :: s => basicLines? (s.length + 1) (skipFirstBreak s)
    | '\'' :: '\'' :: '\'' :: s => literalLines? (s.length + 1) (skipFirstBreak s)
    | '"' :: s => basicText? (s.length + 1) s
    | '\'' :: s => literalText? s
    | _ => none
  read.map fun (chars, rest) => (String.ofList chars, rest)

/-! ### Keys -/

/-- Whether a character may stand in a key without quotes. -/
def isKeyChar (c : Char) : Bool := c.isAlphanum || c = '-' || c = '_'

/-- One name of a key. -/
def name? (s : List Char) : Option (String × List Char) :=
  match s with
  | '"' :: s => (basicText? (s.length + 1) s).map fun (chars, s) => (String.ofList chars, s)
  | '\'' :: s => (literalText? s).map fun (chars, s) => (String.ofList chars, s)
  | s =>
    let chars := s.takeWhile isKeyChar
    if chars.isEmpty then none else some (String.ofList chars, s.dropWhile isKeyChar)

/-- A key with blanks around its names; it has at most as many names as told. -/
def key? : Nat → List Char → Option (Key × List Char)
  | 0, _ => none
  | names + 1, s => do
    let (name, s) ← name? (skipBlanks s)
    match skipBlanks s with
    | '.' :: s => do
      let (key, s) ← key? names s
      return (⟨name :: key.path, key.name⟩, s)
    | s => return (⟨[], name⟩, s)

/-- A key and the equals sign behind it. -/
def keyEquals? (s : List Char) : Option (Key × List Char) := do
  let (key, s) ← key? (depthLimit - 1) s
  let s ← after? '=' s
  return (key, s)

/-! ### Values -/

/-- A value that holds no others. -/
def scalar? (s : List Char) : Option (Tree × List Char) :=
  match s with
  | [] => none
  | c :: _ =>
    if c = '"' || c = '\'' then (text? s).map fun (t, rest) => (.text t, rest)
    else if c = 't' then (afterWord? "true".toList s).map fun rest => (.bool true, rest)
    else if c = 'f' then (afterWord? "false".toList s).map fun rest => (.bool false, rest)
    else
      match moment? s with
      | some rest => some (.moment, rest)
      | none => (((decimal? s).or (special? s)).or (integer? s)).map fun rest => (.number, rest)

mutual

/-- A value at most as deep as told. -/
def value? : Nat → Nat → List Char → Option (Tree × List Char)
  | 0, _, _ => none
  | fuel + 1, depth, s =>
    match s, depth with
    | '[' :: s, depth + 1 => do
      let (items, s) ← items? fuel depth s
      return (.list items, s)
    | '[' :: _, 0 => none
    | '\x7b' :: s, depth + 1 =>
      match skipBlanks s with
      | '\x7d' :: s => some (.table .braces [], s)
      | s => do
        let (pairs, s) ← pairs? fuel depth s
        let table ← inlineTable? pairs
        return (table, s)
    | '\x7b' :: _, 0 => none
    | s, _ => scalar? s

/-- The items of a list up to its end; a comma may stand behind the last. -/
def items? : Nat → Nat → List Char → Option (List Tree × List Char)
  | 0, _, _ => none
  | fuel + 1, depth, s =>
    match skipLines s.length s with
    | ']' :: s => some ([], s)
    | s => do
      let (item, s) ← value? fuel depth s
      match skipLines s.length s with
      | ',' :: s => do
        let (items, s) ← items? fuel depth s
        return (item :: items, s)
      | ']' :: s => return ([item], s)
      | _ => none

/-- The assignments between braces up to the end, at least one and none behind the last comma. -/
def pairs? : Nat → Nat → List Char → Option (List (Key × Tree) × List Char)
  | 0, _, _ => none
  | fuel + 1, depth, s => do
    let (key, s) ← keyEquals? s
    let (value, s) ← value? fuel depth (skipBlanks s)
    match skipBlanks s with
    | ',' :: s => do
      let (pairs, s) ← pairs? fuel depth s
      return ((key, value) :: pairs, s)
    | '\x7d' :: s => return ([(key, value)], s)
    | _ => none

end

/-! ### Documents -/

/-- A header, from behind its first bracket. -/
def header? (s : List Char) : Option (Statement × List Char) :=
  match s with
  | '[' :: s => do
    let (key, s) ← key? (depthLimit - 1) s
    let s ← after? ']' s
    let s ← after? ']' s
    return (.row key, s)
  | s => do
    let (key, s) ← key? (depthLimit - 1) s
    let s ← after? ']' s
    return (.header key, s)

/-- A key that is set to a value. -/
def assignment? (s : List Char) : Option (Statement × List Char) := do
  let (key, s) ← keyEquals? s
  let (value, s) ← value? (2 * s.length + 2) (depthLimit - 1) (skipBlanks s)
  return (.assignment key value, s)

/-- The statements of a text in order. -/
def statements? : Nat → List Char → Option (List Statement)
  | 0, _ => none
  | fuel + 1, s =>
    match skipBlanks s with
    | [] => some []
    | '#' :: s => do
      let s ← lineEnd? ('#' :: s)
      statements? fuel s
    | '\n' :: s => statements? fuel s
    | '\r' :: '\n' :: s => statements? fuel s
    | '[' :: s => do
      let (statement, s) ← header? s
      let s ← lineEnd? s
      let statements ← statements? fuel s
      return statement :: statements
    | s => do
      let (statement, s) ← assignment? s
      let s ← lineEnd? s
      let statements ← statements? fuel s
      return statement :: statements

/-- Reads a text, which may start with a byte order mark. -/
def parse? (text : String) : Option Entries := do
  let s := match text.toList with
    | '\ufeff' :: s => s
    | s => s
  let statements ← statements? (s.length + 1) s
  let b ← Builder.start.run statements
  return b.entries

end BlockStorage.Toml
