import BlockStorage.Text.Numeral
import BlockStorage.Text.Split

/-!
Tables of code points.

A table is written as lines of entries with a space between them. An entry names a run of code points
in hexadecimal: one alone, all from a first to a last one as in `41-5A`, or every second one of these
as in `100:12E`. Behind an equals sign it may give numbers that go with the run.
-/

namespace BlockStorage.Text

/-- Code points in equal steps, and the numbers that go with them. -/
structure Run where
  first : Nat
  last : Nat
  step : Nat
  numbers : List Nat
deriving DecidableEq, Repr

namespace Run

/-- Whether a code point is one of the run. -/
def holds (run : Run) (n : Nat) : Bool :=
  run.first ≤ n && n ≤ run.last && (n - run.first) % run.step = 0

/-- Reads the first and the last code point and the step. -/
def pointsOf? (s : List Char) : Option (Nat × Nat × Nat) :=
  match cut? ['-'] s, cut? [':'] s with
  | some (first, last), _ => return (← hexNumber? first, ← hexNumber? last, 1)
  | none, some (first, last) => return (← hexNumber? first, ← hexNumber? last, 2)
  | none, none => return (← hexNumber? s, ← hexNumber? s, 1)

/-- Reads an entry of a table. -/
def ofText? (s : List Char) : Option Run := do
  let (points, numbers) ← match cut? ['='] s with
    | some (points, numbers) => pure (points, ← (splitAt ',' numbers).mapM hexNumber?)
    | none => pure (s, [])
  let (first, last, step) ← pointsOf? points
  return ⟨first, last, step, numbers⟩

end Run

/-- Reads the lines of a table; what is no entry counts for nothing. -/
def readRuns (lines : List String) : List Run :=
  lines.flatMap fun line => (splitAt ' ' line.toList).filterMap Run.ofText?

/-- The first run of a table that holds a character. -/
def runOf? (runs : List Run) (c : Char) : Option Run := runs.find? fun run => run.holds c.toNat

/-- Whether a run of a table holds a character. -/
def isIn (runs : List Run) (c : Char) : Bool := runs.any fun run => run.holds c.toNat

end BlockStorage.Text
