import BlockStorage.Text.Alphanumeric
import BlockStorage.Text.Numeral

/-!
Well-formed regular expressions.

A pattern is read character by character. Groups may nest, and so may classes in brackets; a repetition
needs something in front of it that can be repeated; a range in a class leads from a character to one
that is not smaller. Closing braces do not occur in these patterns, so an opening brace that is not
escaped or in a class is wrong. Word boundaries and references to groups are wrong as well.
-/

namespace BlockStorage.Text.Pattern

/-- Where an escape stands. In a class it is a member, or the end of a range behind its start; a set of
characters starts no range. -/
inductive Setting where
  | outside
  | member
  | rangeEnd (start : Option Char)
deriving DecidableEq, Repr

/-- What is being read. -/
inductive Place where
  /-- Nothing that can be repeated stands in front. -/
  | branch
  /-- Something that can be repeated stands in front. -/
  | piece
  | escape (setting : Setting)
  | property (setting : Setting)
  /-- The digits of a code point: how many are left, and the value so far. -/
  | code (setting : Setting) (left value : Nat)
  | group
  /-- The flags of a group, the last one first. -/
  | flags (seen : List Char)
  | nameMark
  | name (isEmpty : Bool)
  | classStart (mayNegate : Bool)
  | classDashes
  | members
  /-- One half of an operator of classes, or a member. -/
  | half (mark : Char)
  /-- A member that may start a range. -/
  | after (start : Option Char)
  | range (start : Option Char)
deriving DecidableEq, Repr

/-- What is being read, and how many groups and classes are open. -/
structure State where
  place : Place
  groups : Nat
  classes : Nat
deriving DecidableEq, Repr

namespace State

/-- The same nesting at another place. -/
def goTo (st : State) (place : Place) : State := { st with place := place }

/-- A group is open, and its first branch starts. -/
def enter (st : State) : State := { st with place := .branch, groups := st.groups + 1 }

/-- A group is closed. -/
def leave? (st : State) : Option State :=
  if st.groups = 0 then none else some { st with place := .piece, groups := st.groups - 1 }

/-- A class is open. -/
def enterClass (st : State) : State :=
  { st with place := .classStart true, classes := st.classes + 1 }

/-- A class is closed. -/
def leaveClass (st : State) : State :=
  { st with place := if st.classes ≤ 1 then .piece else .members, classes := st.classes - 1 }

/-- An escape stands for a character, or for a set of characters. -/
def escaped? (st : State) (found : Option Char) : Setting → Option State
  | .outside => some (st.goTo .piece)
  | .member => some (st.goTo (.after found))
  | .rangeEnd (some start) => if found.any (start ≤ ·) then some (st.goTo .members) else none
  | .rangeEnd none => none

end State

/-! ### Classes of characters -/

/-- Whether a character can be escaped to stand for itself. -/
def isEscapable (c : Char) : Bool := c.toNat < 128 && !c.isAlphanum && c ≠ '<' && c ≠ '>'

/-- Whether a character can stand in the name of a group. -/
def isNameChar (isFirst : Bool) (c : Char) : Bool :=
  c = '_' || (isAlphanumeric c && !(isFirst && isDigit c)) || (!isFirst && ".[]".toList.contains c)

/-- The letters that name control characters. -/
def controls : List (Char × Char) :=
  [('a', '\x07'), ('f', '\x0c'), ('t', '\t'), ('n', '\n'), ('r', '\r'), ('v', '\x0b')]

/-! ### Steps -/

/-- Reads a character outside classes. -/
def stepOutside (st : State) (canRepeat : Bool) (c : Char) : Option State :=
  match c with
  | '(' => some (st.goTo .group)
  | ')' => st.leave?
  | '|' => some (st.goTo .branch)
  | '[' => some st.enterClass
  | '\\' => some (st.goTo (.escape .outside))
  | '\x7b' => none
  | c => if "*+?".toList.contains c && !canRepeat then none else some (st.goTo .piece)

/-- Reads a character behind a backslash. -/
def stepEscape (st : State) (setting : Setting) (c : Char) : Option State :=
  if "dDsSwW".toList.contains c then st.escaped? none setting
  else if c = 'p' || c = 'P' then some (st.goTo (.property setting))
  else if c = 'x' then some (st.goTo (.code setting 2 0))
  else if c = 'u' then some (st.goTo (.code setting 4 0))
  else if c = 'U' then some (st.goTo (.code setting 8 0))
  else if c = 'A' || c = 'z' then if setting = .outside then some (st.goTo .piece) else none
  else
    match controls.lookup c with
    | some control => st.escaped? (some control) setting
    | none => if isEscapable c then st.escaped? (some c) setting else none

/-- Reads a digit of a code point. -/
def stepCode (st : State) (setting : Setting) (left value : Nat) (c : Char) : Option State := do
  let value := 16 * value + (← hexValue? c)
  if 1 < left then return st.goTo (.code setting (left - 1) value)
  else if value.isValidChar then st.escaped? (some (Char.ofNat value)) setting
  else none

/-- Reads a flag of a group. -/
def stepFlags (st : State) (seen : List Char) (c : Char) : Option State :=
  match c, seen with
  | 'P', [] => some (st.goTo .nameMark)
  | '<', [] => some (st.goTo (.name true))
  | ':', '-' :: _ => none
  | ':', _ => some st.enter
  | ')', [] => none
  | ')', '-' :: _ => none
  | ')', _ => some (st.goTo .branch)
  | c, seen =>
    if "imsRUux-".toList.contains c && !seen.contains c then some (st.goTo (.flags (c :: seen)))
    else none

/-- Reads a character of the name of a group. -/
def stepName (st : State) (isEmpty : Bool) (c : Char) : Option State :=
  if c = '>' then if isEmpty then none else some st.enter
  else if isNameChar isEmpty c then some (st.goTo (.name false))
  else none

/-- Reads a character of a class where a member may start. -/
def stepMembers (st : State) (c : Char) : State :=
  match c with
  | '[' => st.enterClass
  | ']' => st.leaveClass
  | '\\' => st.goTo (.escape .member)
  | c => if "-&~".toList.contains c then st.goTo (.half c) else st.goTo (.after (some c))

/-- Reads a character of a class behind a member. -/
def stepAfter (st : State) (start : Option Char) (c : Char) : State :=
  if c = '-' then st.goTo (.range start) else stepMembers st c

/-- Reads a character of a class behind a member and a dash. The dash is a member itself at the end of
the class, and one half of an operator in front of another dash. -/
def stepRange (st : State) (start : Option Char) (c : Char) : Option State :=
  match c with
  | ']' => some st.leaveClass
  | '-' => some (st.goTo .members)
  | '\\' => some (st.goTo (.escape (.rangeEnd start)))
  | c => st.escaped? (some c) (.rangeEnd start)

/-- Reads a character. -/
def step (st : State) (c : Char) : Option State :=
  match st.place with
  | .branch => stepOutside st false c
  | .piece => stepOutside st true c
  | .escape setting => stepEscape st setting c
  | .property setting =>
    if "CLMNPSZ".toList.contains c.toUpper then st.escaped? none setting else none
  | .code setting left value => stepCode st setting left value c
  | .group => if c = '?' then some (st.goTo (.flags [])) else stepOutside st.enter false c
  | .flags seen => stepFlags st seen c
  | .nameMark => if c = '<' then some (st.goTo (.name true)) else none
  | .name isEmpty => stepName st isEmpty c
  | .classStart mayNegate =>
    if c = '^' && mayNegate then some (st.goTo (.classStart false))
    else if c = '-' then some (st.goTo .classDashes)
    else if c = ']' then some (st.goTo .members)
    else some (stepMembers st c)
  | .classDashes => some (if c = '-' then st else stepMembers st c)
  | .members => some (stepMembers st c)
  | .half mark => some (if c = mark then st.goTo .members else stepAfter st (some mark) c)
  | .after start => some (stepAfter st start c)
  | .range start => stepRange st start c

/-- Whether nothing is left open. -/
def State.isComplete (st : State) : Bool :=
  st.groups = 0 && (st.place = .branch || st.place = .piece)

/-- Whether a text is a well-formed pattern. -/
def isWellFormed (s : List Char) : Bool :=
  (s.foldlM step ⟨.branch, 0, 0⟩).any State.isComplete

end BlockStorage.Text.Pattern
