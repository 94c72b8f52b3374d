import BlockStorage.Text.Blank
import BlockStorage.Text.Numeral

/-!
Lengths of time: the literals of the command timeout, the wire form and the form in logs.

A literal is a number, optional blanks and one of `ms`, `s`, `m`, `h` or nothing, which means
seconds. The wire form is whole seconds when they tell the length exactly and milliseconds
otherwise.
-/

namespace BlockStorage

open Text

/-- A length of time in nanoseconds. -/
structure Duration where
  nanos : Nat
deriving DecidableEq, Repr

namespace Duration

/-- No time at all. -/
def zero : Duration := ⟨0⟩

/-- A length of time in milliseconds. -/
def ofMillis (n : Nat) : Duration := ⟨n * 1000000⟩

/-- A length of time in seconds. -/
def ofSecs (n : Nat) : Duration := ⟨n * 1000000000⟩

/-- The whole seconds. -/
def secs (d : Duration) : Nat := d.nanos / 1000000000

/-- The whole milliseconds. -/
def millis (d : Duration) : Nat := d.nanos / 1000000

/-- The nanoseconds beyond the whole seconds. -/
def subsecNanos (d : Duration) : Nat := d.nanos % 1000000000

/-- A product of words that stops at the largest word. -/
def saturatingMul (a b : Nat) : Nat := min (a * b) 18446744073709551615

/-- The length of `n` units. -/
def ofUnit? (n : Nat) : List Char → Option Duration
  | ['m', 's'] => some (ofMillis n)
  | [] => some (ofSecs n)
  | ['s'] => some (ofSecs n)
  | ['m'] => some (ofSecs (saturatingMul n 60))
  | ['h'] => some (ofSecs (saturatingMul n 3600))
  | _ => none

/-- Reads a duration literal. -/
def parse? (literal : String) : Option Duration := do
  let s := trim literal.toList
  let n ← wordOfText? (s.takeWhile isDigit)
  ofUnit? n.toNat (trim (s.dropWhile isDigit))

/-- The form of the query strings: `15s`, `1500ms`. -/
def wireText (d : Duration) : String :=
  if d.subsecNanos = 0 then toString d.secs ++ "s" else toString d.millis ++ "ms"

/-- A number of units with a decimal fraction of `places` digits, without zeros at its end. -/
def withFraction (whole fraction places : Nat) : String :=
  let digits := trimZeros (natPadded places fraction)
  toString whole ++ (if digits.isEmpty then "" else "." ++ String.ofList digits)
where
  trimZeros (s : List Char) : List Char := (s.reverse.dropWhile (· = '0')).reverse

/-- The form of logs, in the largest unit that reaches one: `15s`, `1.5s`, `600ms`, `0ns`. -/
def logText (d : Duration) : String :=
  let n := d.nanos
  if n ≥ 1000000000 then withFraction (n / 1000000000) (n % 1000000000) 9 ++ "s"
  else if n ≥ 1000000 then withFraction (n / 1000000) (n % 1000000) 6 ++ "ms"
  else if n ≥ 1000 then withFraction (n / 1000) (n % 1000) 3 ++ "µs"
  else toString n ++ "ns"

end Duration

end BlockStorage
