import BlockStorage.Rest.Domain.Mapping
import BlockStorage.Text.Direction
import BlockStorage.Text.Joining
import BlockStorage.Text.Punycode

/-!
Labels of domains, and how a domain is written in ASCII.

A label may be given in any script or in ASCII behind a mark. It must not start with a combining mark,
a joiner in it must stand where it matters, and if one label of a domain is written from right to
left, every label must keep the rules for such domains.
-/

namespace BlockStorage.Rest.Domain

open Text

/-- The characters of ASCII that no domain holds. -/
def isDenied (c : Char) : Bool :=
  c.toNat ≤ 0x20 || c.toNat = 0x7F || "%#/:<>?@[\\]^|".toList.contains c

/-! ### Labels as they are shown -/

/-- The mark of a label that is written in ASCII. -/
def asciiMark : List Char := "xn--".toList

/-- No more characters than this are read behind the mark. -/
def longestEncoded : Nat := 2000

/-- No label with characters outside ASCII is longer than this. -/
def longestShown : Nat := 1000

/-- Whether all characters are of ASCII. -/
def isAscii (s : List Char) : Bool := s.all fun c => c.toNat < 0x80

/-- Reads a label behind the mark. -/
def decoded? (s : List Char) : Option (List Char) :=
  if !isAscii s || s.isEmpty || s.getLast? = some '-' || longestEncoded < s.length then none
  else do
    let shown ← Punycode.decode? s
    if isSettled shown && !shown.any fun c => isDenied c || c = '.' then some shown else none

/-- Whether the joiners of a label stand where they matter: behind a mark that would not show without
them, or, for the one that keeps letters apart, between letters that join. `before` are the characters
in front, last one first. -/
def joinersFit (before : List Char) : List Char → Bool
  | [] => true
  | c :: s =>
    (if c.toNat = 0x200C || c.toNat = 0x200D then
      before.head?.any (fun last => combiningClass last = 9) ||
        (c.toNat = 0x200C && Joining.joinsAcross before s)
    else true) && joinersFit (c :: before) s

/-- Whether a label may be shown. -/
def isGood (s : List Char) : Bool :=
  isAscii s || (!s.head?.any isMark && joinersFit [] s && s.length ≤ longestShown)

/-- The label as it is shown, if it is a good one. -/
def shown? (s : List Char) : Option (List Char) := do
  let shown ← match afterWord? asciiMark s with
    | some encoded => decoded? encoded
    | none => some s
  if isGood shown then some shown else none

/-! ### Labels from right to left -/

/-- Whether a character makes its domain one that is written from right to left. -/
def isRightToLeft (c : Char) : Bool :=
  let direction := Direction.ofChar c
  direction = .rightToLeft || direction = .arabicLetter || direction = .arabicNumber

/-- The classes that a label from left to right may hold. -/
def leftClasses : List Direction :=
  [.leftToRight, .europeanNumber, .sign, .separator, .unit, .neutral, .boundary, .mark]

/-- The classes that a label from right to left may hold. -/
def rightClasses : List Direction :=
  [.rightToLeft, .arabicLetter, .arabicNumber, .europeanNumber, .sign, .separator, .unit, .neutral,
    .boundary, .mark]

/-- Whether the last class that is no mark is one of some. -/
def endsIn (ends classes : List Direction) : Bool :=
  (classes.reverse.find? fun d => d ≠ .mark).any ends.contains

/-- Whether a label keeps the rules of a domain that is written from right to left: it starts with a
letter, which decides on the classes that may follow, it ends in a letter or number, and its numbers
are of one kind. -/
def keepsDirection (s : List Char) : Bool :=
  let classes := s.map Direction.ofChar
  match classes.head? with
  | none => true
  | some .leftToRight =>
    classes.all leftClasses.contains && endsIn [.leftToRight, .europeanNumber] classes
  | some first =>
    (first = .rightToLeft || first = .arabicLetter) && classes.all rightClasses.contains &&
      endsIn [.rightToLeft, .arabicLetter, .arabicNumber, .europeanNumber] classes &&
      !(classes.contains .arabicNumber && classes.contains .europeanNumber)

/-! ### Domains -/

/-- A label in ASCII. -/
def written (s : List Char) : List Char := if isAscii s then s else asciiMark ++ Punycode.encode s

/-- The labels of a domain in ASCII, if the domain is a good one. -/
def labels? (s : List Char) : Option (List (List Char)) := do
  let text ← mapped? s
  if text.any isDenied then none
  else
    let labels ← (splitAt '.' text).mapM shown?
    if labels.any (fun label => label.any isRightToLeft) && !labels.all keepsDirection then none
    else return labels.map written

end BlockStorage.Rest.Domain
