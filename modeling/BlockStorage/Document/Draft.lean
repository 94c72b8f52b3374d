import BlockStorage.Document.Basic
import BlockStorage.Number.Binary64
import BlockStorage.Text.Numeral

/-!
Drafts: what a JSON text holds up to its first fault.

A reader of values goes through a text once and stops at the first thing that is wrong, be it the
form of the text or a value that does not fit. A draft keeps every fault at its place in the tree, so
that the reader can still meet whichever comes first. A leaf that the reader passes over has a
reading of its own, which is more lenient.
-/

namespace BlockStorage

open Text

/-- What is wrong with a text: its form, a value that does not fit, or that it ends too early. -/
inductive Fault where
  | form | data | ended
deriving DecidableEq, Repr

/-- A leaf of a text, read for its value or passed over; `skipped` is the fault of passing over. -/
structure Leaf (α : Type) where
  read : Except Fault α
  skipped : Option Fault

/-- A leaf that is no text. -/
inductive Scalar where
  | null
  | bool (value : Bool)
  | natural (value : Nat)
  | otherNumber
deriving DecidableEq

mutual

/-- The tree of a text; `missing` stands where a value was due and none begins. -/
inductive Draft where
  | missing (fault : Fault)
  | text (leaf : Leaf String)
  | scalar (leaf : Leaf Scalar)
  | list (items : Draft.Items)
  | record (entries : Draft.Entries)

/-- The items of a list, up to its end or a fault where a comma or the end was due. -/
inductive Draft.Items where
  | closed
  | broken (fault : Fault)
  | item (value : Draft) (rest : Draft.Items)

/-- The entries of a record, up to its end or a fault where a comma or the end was due. What stands
in the place of a key may be any value. -/
inductive Draft.Entries where
  | closed
  | broken (fault : Fault)
  | entry (key value : Draft) (rest : Draft.Entries)

end

namespace Draft

/-! ### Texts -/

/-- Four hexadecimal digits; fewer than four bytes are an end. -/
def readHex (s : List Char) : Except Fault (Nat × List Char) :=
  match s.take 4 |>.map hexValue? with
  | [some a, some b, some c, some d] => .ok (((a * 16 + b) * 16 + c) * 16 + d, s.drop 4)
  | _ => if (String.ofList (s.take 4)).utf8ByteSize < 4 then .error .ended else .error .form

/-- The character of a short escape. -/
def shortEscape? (c : Char) : Option Char :=
  match c with
  | '"' => some '"'
  | '\\' => some '\\'
  | '/' => some '/'
  | 'b' => some (Char.ofNat 8)
  | 'f' => some (Char.ofNat 12)
  | 'n' => some '\n'
  | 'r' => some '\r'
  | 't' => some '\t'
  | _ => none

/-- The character of two halves of a pair. -/
def pairedChar (high low : Nat) : Char :=
  Char.ofNat ((high - 0xD800) * 0x400 + (low - 0xDC00) + 0x10000)

/-- A character by its number; a half of a pair needs the other half behind it. -/
def readNumbered (s : List Char) : Except Fault (Char × List Char) := do
  let (n, s) ← readHex s
  if 0xDC00 ≤ n && n ≤ 0xDFFF then .error .form
  else if n < 0xD800 || 0xDBFF < n then .ok (Char.ofNat n, s)
  else match s with
  | '\\' :: 'u' :: s => do
    let (low, s) ← readHex s
    if 0xDC00 ≤ low && low ≤ 0xDFFF then .ok (pairedChar n low, s) else .error .form
  | '\\' :: [] => .error .ended
  | [] => .error .ended
  | _ => .error .form

/-- Reads a text up to its closing quote; `fuel` bounds the number of characters. -/
def readText : Nat → List Char → Except Fault (List Char × List Char)
  | 0, _ => .error .ended
  | fuel + 1, s =>
    match s with
    | [] => .error .ended
    | '"' :: s => .ok ([], s)
    | '\\' :: 'u' :: s => do
      let (c, s) ← readNumbered s
      let (rest, s) ← readText fuel s
      return (c :: rest, s)
    | '\\' :: [] => .error .ended
    | '\\' :: e :: s =>
      match shortEscape? e with
      | some c => do
        let (rest, s) ← readText fuel s
        return (c :: rest, s)
      | none => .error .form
    | c :: s =>
      if c.toNat < 0x20 then .error .form
      else do
        let (rest, s) ← readText fuel s
        return (c :: rest, s)

/-- Passes over a text up to its closing quote; what numbers mean does not matter. -/
def skipText : Nat → List Char → Except Fault (List Char)
  | 0, _ => .error .ended
  | fuel + 1, s =>
    match s with
    | [] => .error .ended
    | '"' :: s => .ok s
    | '\\' :: 'u' :: s => do
      let (_, s) ← readHex s
      skipText fuel s
    | '\\' :: [] => .error .ended
    | '\\' :: e :: s =>
      match shortEscape? e with
      | some _ => skipText fuel s
      | none => .error .form
    | c :: s => if c.toNat < 0x20 then .error .form else skipText fuel s

/-! ### Numbers and words -/

/-- The rest behind a word, given without its first letter. -/
def expectWord : List Char → List Char → Except Fault (List Char)
  | [], s => .ok s
  | _ :: _, [] => .error .ended
  | w :: word, c :: s => if w = c then expectWord word s else .error .form

/-- The parts of a number: digits, digits behind the point, the exponent. -/
structure Numeral where
  whole : List Char
  fraction : Option (List Char)
  exponent : Option (Bool × List Char)
deriving DecidableEq

/-- Digits, at least one; `atEnd` is the fault of a text that ends instead. -/
def someDigits (atEnd : Fault) (s : List Char) : Except Fault (List Char × List Char) :=
  let digits := s.takeWhile isDigit
  if digits.isEmpty then .error (if s.isEmpty then atEnd else .form)
  else .ok (digits, s.dropWhile isDigit)

/-- The digits in front of the point; a zero stands alone. -/
def wholeDigits (atEnd : Fault) (s : List Char) : Except Fault (List Char × List Char) := do
  let (digits, rest) ← someDigits atEnd s
  match digits with
  | '0' :: _ :: _ => .error .form
  | _ => .ok (digits, rest)

/-- The exponent of a number, if it has one. -/
def exponentPart (atEnd : Fault) (s : List Char) :
    Except Fault (Option (Bool × List Char) × List Char) :=
  match s with
  | c :: s =>
    if c = 'e' || c = 'E' then do
      let (negative, s) := match s with
        | '-' :: r => (true, r)
        | '+' :: r => (false, r)
        | r => (false, r)
      let (digits, s) ← someDigits atEnd s
      return (some (negative, digits), s)
    else .ok (none, c :: s)
  | [] => .ok (none, [])

/-- A number without its sign. -/
def numeral (atEnd : Fault) (s : List Char) : Except Fault (Numeral × List Char) := do
  let (whole, s) ← wholeDigits atEnd s
  match s with
  | '.' :: r => do
    let (fraction, s) ← someDigits atEnd r
    let (exponent, s) ← exponentPart atEnd s
    return (⟨whole, some fraction, exponent⟩, s)
  | _ => do
    let (exponent, s) ← exponentPart atEnd s
    return (⟨whole, none, exponent⟩, s)

/-- The digits that count in a number that is not whole, as long as they fit a word of 64 bits. -/
def significant (acc : Nat) : List Char → Nat × Nat
  | [] => (acc, 0)
  | c :: r =>
    let n := 10 * acc + digitValue c
    if n < UInt64.size then
      let (m, dropped) := significant n r
      (m, dropped)
    else (acc, (c :: r).length)

/-- Whether a number that is not whole is too large for the format binary64. -/
def isHuge (n : Numeral) : Bool :=
  let fraction := n.fraction.getD []
  let (m, dropped) := significant 0 (n.whole ++ fraction)
  let (negative, digits) := n.exponent.getD (false, [])
  let magnitude := digitsValue 0 digits
  let exponent : Int :=
    (dropped : Int) - fraction.length + (if negative then -(magnitude : Int) else magnitude)
  if m = 0 || exponent < 0 then false
  else if exponent > 308 then true
  else
    match Binary64.ofNat? m, Binary64.ofNat? (Nat.pow 10 exponent.toNat) with
    | some a, some b => (a.mul? b).isNone
    | _, _ => true

/-- The value of a number. -/
def scalarOf (negative : Bool) (n : Numeral) : Except Fault Scalar :=
  if n.fraction.isNone && n.exponent.isNone then
    let value := digitsValue 0 n.whole
    if negative then (if isHuge n then .error .form else .ok .otherNumber)
    else if value < UInt64.size then .ok (.natural value)
    else if isHuge n then .error .form
    else .ok .otherNumber
  else if isHuge n then .error .form
  else .ok .otherNumber

/-- A number as a leaf, and the rest behind it when it can be passed over. -/
def numberLeaf (negative : Bool) (s : List Char) : Draft × Option (List Char) :=
  let read := do
    let (n, _) ← numeral .ended s
    scalarOf negative n
  match numeral .form s with
  | .ok (_, rest) => (.scalar ⟨read, none⟩, some rest)
  | .error fault => (.scalar ⟨read, some fault⟩, none)

/-- A word as a leaf, and the rest behind it. -/
def wordLeaf (value : Scalar) (word s : List Char) : Draft × Option (List Char) :=
  match expectWord word s with
  | .ok rest => (.scalar ⟨.ok value, none⟩, some rest)
  | .error fault => (.scalar ⟨.error fault, some fault⟩, none)

/-- A text as a leaf, and the rest behind it when it can be passed over. -/
def textLeaf (s : List Char) : Draft × Option (List Char) :=
  let read := (readText (s.length + 1) s).map fun (chars, _) => String.ofList chars
  match skipText (s.length + 1) s with
  | .ok rest => (.text ⟨read, none⟩, some rest)
  | .error fault => (.text ⟨read, some fault⟩, none)

/-! ### Trees -/

/-- Drops the blanks between the parts of a text. -/
def skipBlanks (s : List Char) : List Char :=
  s.dropWhile fun c => c = ' ' || c = '\n' || c = '\t' || c = '\r'

mutual

/-- The draft at the start of a text, and the rest behind it unless there is a fault in it. -/
def ofChars : Nat → List Char → Draft × Option (List Char)
  | 0, _ => (.missing .ended, none)
  | fuel + 1, s =>
    match skipBlanks s with
    | [] => (.missing .ended, none)
    | '"' :: s => textLeaf s
    | 'n' :: s => wordLeaf .null ['u', 'l', 'l'] s
    | 't' :: s => wordLeaf (.bool true) ['r', 'u', 'e'] s
    | 'f' :: s => wordLeaf (.bool false) ['a', 'l', 's', 'e'] s
    | '-' :: s => numberLeaf true s
    | '[' :: s =>
      match skipBlanks s with
      | ']' :: s => (.list .closed, some s)
      | [] => (.list (.broken .ended), none)
      | s =>
        let (items, rest) := itemsOfChars fuel s
        (.list items, rest)
    | '\x7b' :: s =>
      match skipBlanks s with
      | '\x7d' :: s => (.record .closed, some s)
      | s =>
        let (entries, rest) := entriesOfChars fuel s
        (.record entries, rest)
    | c :: s => if isDigit c then numberLeaf false (c :: s) else (.missing .form, none)

/-- The items of a list from an item on. -/
def itemsOfChars : Nat → List Char → Items × Option (List Char)
  | 0, _ => (.broken .ended, none)
  | fuel + 1, s =>
    match ofChars fuel s with
    | (value, none) => (.item value .closed, none)
    | (value, some s) =>
      match skipBlanks s with
      | ']' :: s => (.item value .closed, some s)
      | ',' :: s =>
        let (items, rest) := itemsOfChars fuel s
        (.item value items, rest)
      | [] => (.item value (.broken .ended), none)
      | _ :: _ => (.item value (.broken .form), none)

/-- The entries of a record from an entry on. -/
def entriesOfChars : Nat → List Char → Entries × Option (List Char)
  | 0, _ => (.broken .ended, none)
  | fuel + 1, s =>
    match ofChars fuel s with
    | (.text leaf, some s) =>
      match skipBlanks s with
      | ':' :: s =>
        match ofChars fuel s with
        | (value, none) => (.entry (.text leaf) value .closed, none)
        | (value, some s) =>
          match skipBlanks s with
          | '\x7d' :: s => (.entry (.text leaf) value .closed, some s)
          | ',' :: s =>
            let (entries, rest) := entriesOfChars fuel s
            (.entry (.text leaf) value entries, rest)
          | [] => (.entry (.text leaf) value (.broken .ended), none)
          | _ :: _ => (.entry (.text leaf) value (.broken .form), none)
      | [] => (.entry (.text leaf) (.missing .ended) .closed, none)
      | _ :: _ => (.entry (.text leaf) (.missing .form) .closed, none)
    | (key, _) => (.entry key (.missing .form) .closed, none)

end

/-- The draft of a text, and whether something stands behind it. -/
def ofText (s : List Char) : Draft × Bool :=
  match ofChars (2 * s.length + 2) s with
  | (draft, some rest) => (draft, !(skipBlanks rest).isEmpty)
  | (draft, none) => (draft, false)

/-! ### Passing over -/

mutual

/-- The fault that is met by passing over a draft. -/
def skip : Draft → Option Fault
  | .missing fault => some fault
  | .text leaf => leaf.skipped
  | .scalar leaf => leaf.skipped
  | .list items => skipItems items
  | .record entries => skipEntries entries

/-- The first fault among the items of a list that are passed over. -/
def skipItems : Items → Option Fault
  | .closed => none
  | .broken fault => some fault
  | .item value rest => (skip value).or (skipItems rest)

/-- The first fault among the entries of a record that are passed over; a key must be a text. -/
def skipEntries : Entries → Option Fault
  | .closed => none
  | .broken fault => some fault
  | .entry (.text leaf) value rest => leaf.skipped.or ((skip value).or (skipEntries rest))
  | .entry (.missing fault) _ _ => some fault
  | .entry _ _ _ => some .form

end

/-! ### Drafts of documents -/

/-- A leaf without faults. -/
def goodLeaf {α : Type} (value : α) : Leaf α := ⟨.ok value, none⟩

mutual

/-- The draft of the JSON text of a document. -/
def ofDocument : Document → Draft
  | .null => .scalar (goodLeaf .null)
  | .bool value => .scalar (goodLeaf (.bool value))
  | .number value => .scalar (goodLeaf (.natural value))
  | .text value => .text (goodLeaf value)
  | .time value => .text (goodLeaf value.text)
  | .list items => .list (ofItems items)
  | .record fields => .record (ofFields fields)

/-- The draft of the items of a list. -/
def ofItems : List Document → Items
  | [] => .closed
  | item :: items => .item (ofDocument item) (ofItems items)

/-- The draft of the fields of a record. -/
def ofFields : List (String × Document) → Entries
  | [] => .closed
  | (name, value) :: fields => .entry (.text (goodLeaf name)) (ofDocument value) (ofFields fields)

end

end Draft

end BlockStorage
