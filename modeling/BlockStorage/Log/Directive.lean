import BlockStorage.Log.Event
import BlockStorage.Text.Alphanumeric
import BlockStorage.Text.Blank
import BlockStorage.Text.Numeral
import BlockStorage.Text.Pattern
import BlockStorage.Text.Split

/-!
Directives: how much the events of a part of the program must matter to be told.

A directive is a level, a target, or a target and its level as in `stor=debug`. Behind the target it
may name a span in brackets, and in it a field in braces, with or without a value. The value is a
number, a truth value or a regular expression.

The places where a directive is cut are found in the text without the blanks at its ends. The pieces
are taken from the same places of the text as it was given, so blanks in front of a directive move all
pieces, and blanks behind it belong to the last one.
-/

namespace BlockStorage.Log

open Text

/-- A field that a directive asks for. -/
structure FieldTest where
  name : String
  hasValue : Bool
deriving DecidableEq, Repr

/-- How much the events of targets must matter; without a level nothing is told. -/
structure Directive where
  target : Option String
  span : Option String
  field : Option FieldTest
  level : Option Level
deriving DecidableEq, Repr

/-- Why a text is no directive. -/
inductive DirectiveError where
  | malformed | badLevel | badField
deriving DecidableEq, Repr

/-- The wording shown to the user. -/
def DirectiveError.message : DirectiveError → String
  | .malformed => "invalid filter directive"
  | .badLevel =>
    "error parsing level filter: expected one of \"off\", \"error\", \"warn\", \"info\", " ++
      "\"debug\", \"trace\", or a number 0-5"
  | .badField => "invalid field filter: error building NFA"

namespace Directive

/-! ### Pieces -/

/-- The levels by name; a number counts them from nothing to everything. -/
def levels : List (String × Option Level) :=
  [("off", none), ("error", some .error), ("warn", some .warn), ("info", some .info),
    ("debug", some .debug), ("trace", some .trace)]

/-- Reads a level; an empty text asks for everything. -/
def levelOf? (s : List Char) : Option (Option Level) :=
  if s.isEmpty then some (some .trace)
  else
    match wordOfText? s with
    | some n => (levels[n.toNat]?).map Prod.snd
    | none => levels.lookup (String.ofList (s.map Char.toLower))

/-- Whether a text is a number with a decimal point or an exponent, or a number that is not finite. -/
def isNumber (s : List Char) : Bool :=
  let whole := s.takeWhile isDigit
  let rest := s.dropWhile isDigit
  let (fraction, rest) := match rest with
    | '.' :: rest => (rest.takeWhile isDigit, rest.dropWhile isDigit)
    | rest => ([], rest)
  let isExponent : Bool := match rest with
    | [] => true
    | e :: '+' :: digits => e.toLower = 'e' && (natOfDigits? digits).isSome
    | e :: '-' :: digits => e.toLower = 'e' && (natOfDigits? digits).isSome
    | e :: digits => e.toLower = 'e' && (natOfDigits? digits).isSome
  (!(whole ++ fraction).isEmpty && isExponent) ||
    ["inf", "infinity", "nan"].contains (String.ofList (s.map Char.toLower))

/-- Whether a text can be the value of a field. Of numbers and truth values only those with a plus sign
are no patterns. -/
def isValue : List Char → Bool
  | '+' :: s => isNumber s
  | s => Pattern.isWellFormed s

/-- Reads a field with or without a value; what follows a second equals sign counts for nothing. -/
def fieldOf (s : List Char) : Except DirectiveError FieldTest :=
  match splitAt '=' s with
  | name :: value :: _ =>
    if isValue value then .ok ⟨String.ofList name, true⟩ else .error .badField
  | _ => if s.isEmpty then .error .malformed else .ok ⟨String.ofList s, false⟩

/-- The piece of a text from one byte offset to another. -/
def piece (s : List Char) (start stop : Nat) : Except DirectiveError (List Char) :=
  match (cutAtByte? stop s).bind fun (before, _) => cutAtByte? start before with
  | some (_, piece) => .ok piece
  | none => .error .malformed

/-- The piece of a text from a byte offset to the end. -/
def lastPiece (s : List Char) (start : Nat) : Except DirectiveError (List Char) :=
  match cutAtByte? start s with
  | some (_, piece) => .ok piece
  | none => .error .malformed

/-! ### Reading -/

/-- What is being read; an offset is where the piece starts. -/
inductive Place where
  | start
  | word (start : Nat)
  | span (start : Nat)
  | field (start : Nat)
  | fieldEnd
  | spanEnd
  | level (start : Nat)
deriving DecidableEq, Repr

/-- Whether a directive can start with a character, other than with a bracket. -/
def isStart (c : Char) : Bool := isAlphanumeric c || c = '-' || c = ':' || c = '_'

/-- Reads the character at an offset of the text `s`. -/
def step (s : List Char) (place : Place) (d : Directive) (offset : Nat) (c : Char) :
    Except DirectiveError (Place × Directive) :=
  match place, c with
  | .start, '[' => .ok (.span (offset + 1), d)
  | .start, c => if isStart c then .ok (.word offset, d) else .error .malformed
  | .word start, '=' => do
    let target ← piece s start offset
    return (.level (offset + 1), { d with target := some (String.ofList target) })
  | .word start, '[' => do
    let target ← piece s start offset
    return (.span (offset + 1), { d with target := some (String.ofList target) })
  | .span start, ']' => do
    let span ← piece s start offset
    return (.spanEnd, { d with span := some (String.ofList span) })
  | .span start, '\x7b' => do
    let span ← piece s start offset
    let span := if span.isEmpty then none else some (String.ofList span)
    return (.field (offset + 1), { d with span := span })
  | .field start, '\x7d' => do
    let field ← fieldOf (← piece s start offset)
    return (.fieldEnd, { d with field := some field })
  | .fieldEnd, ']' => .ok (.spanEnd, d)
  | .fieldEnd, _ => .error .malformed
  | .spanEnd, '=' => .ok (.level (offset + 1), d)
  | .spanEnd, _ => .error .malformed
  | place, _ => .ok (place, d)

/-- Reads characters that stand at an offset of the text `s` and after it. -/
def walk (s : List Char) (place : Place) (d : Directive) (offset : Nat) :
    List Char → Except DirectiveError (Place × Directive)
  | [] => .ok (place, d)
  | c :: rest => do
    let (place, d) ← step s place d offset c
    walk s place d (offset + c.utf8Size) rest

/-- Reads the last piece. A word alone is a level if it can be one, and else a target. -/
def finish (s : List Char) (d : Directive) : Place → Except DirectiveError Directive
  | .word start => do
    let word ← lastPiece s start
    match levelOf? word with
    | some level => return { d with level := level }
    | none => return { d with target := some (String.ofList word) }
  | .level start => do
    match levelOf? (← lastPiece s start) with
    | some level => return { d with level := level }
    | none => throw .badLevel
  | .spanEnd => .ok d
  | _ => .error .malformed

/-- Reads a directive. One without a level asks for everything. -/
def parse (s : List Char) : Except DirectiveError Directive := do
  let (place, d) ← walk s .start ⟨none, none, none, some .trace⟩ 0 (trim s)
  finish s d place

/-! ### Meaning -/

/-- Whether a directive is about events. One that names a span or the value of a field is only about
events in spans, of which there are none. -/
def isForEvents (d : Directive) : Bool := d.span.isNone && d.field.all fun field => !field.hasValue

/-- Whether a directive is about an event. -/
def covers (d : Directive) (event : Event) : Bool :=
  d.isForEvents &&
    d.target.all (fun start => start.toList.isPrefixOf event.target.toList) &&
    d.field.all fun field =>
      field.name = "message" || event.fields.any fun (name, _) => name = field.name

/-- How much a directive says about its events: the length of its target counts first, and then
whether it asks for a field. -/
def weight (d : Directive) : Nat :=
  2 * (d.target.elim 0 fun start => start.utf8ByteSize + 1) + (if d.field.isSome then 1 else 0)

/-- Whether a directive that is given later decides in place of this one. Of two fields the one that
comes later in the alphabet counts more. -/
def yieldsTo (d other : Directive) : Bool :=
  d.weight < other.weight ||
    (d.weight = other.weight &&
      !decide ((other.field.elim "" FieldTest.name) < (d.field.elim "" FieldTest.name)))

/-- Whether an event matters enough. -/
def admits (d : Directive) (event : Event) : Bool :=
  d.level.any fun level => level.rank ≤ event.level.rank

end Directive

end BlockStorage.Log
