/-!
Labels of any characters, written in ASCII.

The characters of ASCII come first. The others follow as differences, in ascending order of their
code points; each difference is a numeral of base 36 whose digits end at thresholds that adapt to the
differences so far.
-/

namespace BlockStorage.Text.Punycode

/-- The digit with a value below 36. -/
def digit (n : Nat) : Char := Char.ofNat (if n < 26 then 97 + n else 22 + n)

/-- The value of a digit. -/
def value? (c : Char) : Option Nat :=
  let n := c.toNat
  if 97 ≤ n && n ≤ 122 then some (n - 97)
  else if 65 ≤ n && n ≤ 90 then some (n - 65)
  else if 48 ≤ n && n ≤ 57 then some (n - 22)
  else none

/-- The threshold of the digit at a place, which counts in steps of 36. -/
def threshold (place bias : Nat) : Nat :=
  if place ≤ bias then 1 else if bias + 26 ≤ place then 26 else place - bias

/-- A threshold is never zero, so each digit below it ends a number. -/
theorem threshold_pos (place bias : Nat) : 0 < threshold place bias := by
  unfold threshold
  split
  · omega
  · split <;> omega

/-- Divides a difference by 35 until it is small, and counts the steps in places. -/
def settle (delta place : Nat) : Nat × Nat :=
  if 455 < delta then settle (delta / 35) (place + 36) else (delta, place)
termination_by delta
decreasing_by omega

/-- The bias after a difference, where `count` characters are written. -/
def adapt (delta count : Nat) (isFirst : Bool) : Nat :=
  let delta := if isFirst then delta / 700 else delta / 2
  let (delta, place) := settle (delta + delta / count) 0
  place + 36 * delta / (delta + 38)

/-- The digits of a difference. -/
def digits (place bias delta : Nat) : List Char :=
  let t := threshold place bias
  if delta < t then [digit delta]
  else digit (t + (delta - t) % (36 - t)) :: digits (place + 36) bias ((delta - t) / (36 - t))
termination_by delta
decreasing_by
  have h := threshold_pos place bias
  have : (delta - threshold place bias) / (36 - threshold place bias) ≤
      delta - threshold place bias := Nat.div_le_self _ _
  omega

/-- What is written so far: the difference that runs, the bias, the number of characters and the text,
last character first. -/
structure State where
  delta : Nat
  bias : Nat
  count : Nat
  written : List Char

/-- Goes through a label at one code point: smaller ones widen the difference, and equal ones write
it. -/
def pass (basic point : Nat) (state : State) (s : List Char) : State :=
  s.foldl
    (fun state c =>
      if c.toNat < point then { state with delta := state.delta + 1 }
      else if c.toNat = point then
        ⟨0, adapt state.delta (state.count + 1) (state.count = basic), state.count + 1,
          (digits 36 state.bias state.delta).reverse ++ state.written⟩
      else state)
    state

/-- Writes the code points in ascending order; `next` is the least one that may come. -/
def passes (basic next : Nat) (s : List Char) (state : State) : List Nat → State
  | [] => state
  | point :: points =>
    let state := pass basic point
      { state with delta := state.delta + (point - next) * (state.count + 1) } s
    passes basic (point + 1) s { state with delta := state.delta + 1 } points

/-- The code points outside ASCII, ascending, each one once. -/
def points (s : List Char) : List Nat :=
  ((s.map Char.toNat).filter fun n => 0x80 ≤ n).mergeSort.eraseDups

/-- Writes a label in ASCII. -/
def encode (s : List Char) : List Char :=
  let basic := s.filter fun c => c.toNat < 0x80
  let start := if basic.isEmpty then [] else '-' :: basic.reverse
  (passes basic.length 0x80 s ⟨0, 72, basic.length, start⟩ (points s)).written.reverse

/-- Reads the digits of a difference and adds it up. Sums and weights must stay below 2^32. -/
def readDelta (bias : Nat) : Nat → Nat → Nat → List Char → Option (Nat × List Char)
  | _, _, _, [] => none
  | place, weight, acc, c :: s => do
    let d ← value? c
    let t := threshold place bias
    let acc := acc + d * weight
    if UInt32.size ≤ weight || UInt32.size ≤ acc then none
    else if d < t then return (acc, s)
    else readDelta bias (place + 36) (weight * (36 - t)) acc s

/-- Reads differences until the end, each one a character to insert. The fuel bounds their number. -/
def insertions : Nat → Nat → Nat → Nat → List Char → List Char → Option (List Char)
  | _, _, _, _, label, [] => some label
  | 0, _, _, _, _, _ :: _ => none
  | fuel + 1, point, place, bias, label, c :: s => do
    let (sum, s) ← readDelta bias 36 1 place (c :: s)
    let count := label.length + 1
    let point := point + sum / count
    if h : point.isValidChar then
      insertions fuel point (sum % count + 1) (adapt (sum - place) count (place = 0))
        (label.insertIdx (sum % count) (Char.ofNatAux point h)) s
    else none

/-- The texts before and after the last hyphen; if nothing stands before it, everything stands
after. -/
def cutLast (s : List Char) : List Char × List Char :=
  let after := (s.reverse.takeWhile (· ≠ '-')).reverse
  let before := s.take (s.length - after.length - 1)
  (before, if before.isEmpty then s else after)

/-- Reads a label that is written in ASCII. -/
def decode? (s : List Char) : Option (List Char) :=
  let (basic, differences) := cutLast s
  insertions differences.length 0x80 0 72 basic differences

end BlockStorage.Text.Punycode
