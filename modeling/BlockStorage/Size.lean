import BlockStorage.Number.Binary64
import BlockStorage.Error.Parse
import BlockStorage.Text.Blank
import BlockStorage.Text.Numeral

/-!
Sizes in bytes: literals such as `42gib`, `5 GB` or `1.5TiB`, and the readable form.

A literal is a decimal number, optional blanks and a unit in any case. Units without `i` are powers
of 1000, units with `i` powers of 1024, and no unit counts bytes. A whole number is multiplied
exactly. A number with a point is read and multiplied in binary64 and then cut to whole bytes.
-/

namespace BlockStorage.Size

open Text

/-- The power in a unit of scale, by its letter. -/
def scaleOf? : Char → Option Nat
  | 'k' => some 1
  | 'm' => some 2
  | 'g' => some 3
  | 't' => some 4
  | 'p' => some 5
  | 'e' => some 6
  | _ => none

/-- What stands after the letter of a unit: the base of the powers it counts. -/
def baseOf? : List Char → Option Nat
  | [] => some 1000
  | ['b'] => some 1000
  | ['i'] => some 1024
  | ['i', 'b'] => some 1024
  | _ => none

/-- The number of bytes in a lower-case unit. -/
def unitBytes? : List Char → Option Nat
  | [] => some 1
  | ['b'] => some 1
  | letter :: rest => do
    let scale ← scaleOf? letter
    let base ← baseOf? rest
    return Nat.pow base scale

/-- A decimal number with one point and at least one digit, as a quotient. -/
def decimalQuotient? (s : List Char) : Option (Nat × Nat) :=
  let whole := s.takeWhile isDigit
  match s.dropWhile isDigit with
  | '.' :: fraction =>
    if fraction.all isDigit && !(whole.isEmpty && fraction.isEmpty) then
      some (digitsValue 0 (whole ++ fraction), Nat.pow 10 fraction.length)
    else none
  | _ => none

/-- The bytes of a whole number of units. -/
def wholeBytes? (number : List Char) (unit : Nat) : Option UInt64 := do
  let n ← wordOfText? number
  if n.toNat * unit < UInt64.size then some (UInt64.ofNat (n.toNat * unit)) else none

/-- The bytes of a number of units with a point, read and multiplied in binary64. -/
def pointBytes? (number : List Char) (unit : Nat) : Option UInt64 := do
  let (num, den) ← decimalQuotient? number
  let value ← Binary64.ofQuotient? num den
  let factor ← Binary64.ofNat? unit
  let bytes ← value.mul? factor
  if bytes.floor < UInt64.size then some (UInt64.ofNat bytes.floor) else none

/-- The bytes that a trimmed literal denotes. -/
def bytesOf? (s : List Char) : Option UInt64 := do
  let inNumber := fun c => isDigit c || c = '.'
  let number := s.takeWhile inNumber
  let unit := trim (s.dropWhile inNumber)
  if number.isEmpty then none
  else
    let bytes ← unitBytes? (unit.map Char.toLower)
    if number.contains '.' then pointBytes? number bytes else wholeBytes? number bytes

/-- Reads a size literal; a failure carries the literal as it was given. -/
def parse (literal : String) : Except ParseError UInt64 :=
  match bytesOf? (trim literal.toList) with
  | some bytes => .ok bytes
  | none => .error (.invalidSize literal)

/-- A number of hundredths with two decimal places. -/
def twoPlaces (hundredths : Nat) : String :=
  toString (hundredths / 100) ++ "." ++ String.ofList (natPadded 2 (hundredths % 100))

/-- The name of the largest unit, up to TiB, that a count of at least 1024 bytes reaches, with its
size. -/
def readableUnit (bytes : Nat) : String × Nat :=
  if bytes ≥ 1099511627776 then ("TiB", 1099511627776)
  else if bytes ≥ 1073741824 then ("GiB", 1073741824)
  else if bytes ≥ 1048576 then ("MiB", 1048576)
  else ("KiB", 1024)

/-- The hundredths of a unit in a count of bytes, which is first taken to binary64. Units are powers
of two, so dividing by one is exact. -/
def hundredthsOf (bytes unit : Nat) : Nat :=
  match Binary64.ofNat? bytes with
  | some value =>
    let (num, den) := value.quotient
    Binary64.roundHalfEven (100 * num) (den * unit)
  | none => 0

/-- The readable form of a count of bytes. -/
def format (bytes : UInt64) : String :=
  let n := bytes.toNat
  if n < 1024 then toString n ++ " B"
  else
    let (name, unit) := readableUnit n
    twoPlaces (hundredthsOf n unit) ++ " " ++ name

end BlockStorage.Size
