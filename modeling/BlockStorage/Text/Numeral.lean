/-!
Numerals: reading and writing.

A decimal numeral is one or more ASCII digits. A word numeral may start with one plus sign and denotes a
number below 2^64.
-/

namespace BlockStorage.Text

/-- The ASCII decimal digits. -/
def isDigit (c : Char) : Bool := 48 ≤ c.toNat && c.toNat ≤ 57

/-- The value of a decimal digit. -/
def digitValue (c : Char) : Nat := c.toNat - 48

/-- The number that a list of digits denotes after the digits of `acc`. -/
def digitsValue (acc : Nat) (digits : List Char) : Nat :=
  digits.foldl (fun n c => 10 * n + digitValue c) acc

/-- Reads one or more digits and nothing else. -/
def natOfDigits? (s : List Char) : Option Nat :=
  if s.isEmpty || !s.all isDigit then none else some (digitsValue 0 s)

/-- Reads a number below 2^64, with an optional plus sign. -/
def wordOfText? (s : List Char) : Option UInt64 :=
  let digits := match s with
    | '+' :: r => r
    | s => s
  match natOfDigits? digits with
  | some n => if n < UInt64.size then some (UInt64.ofNat n) else none
  | none => none

/-- The value of a hexadecimal digit. -/
def hexValue? (c : Char) : Option Nat :=
  if isDigit c then some (digitValue c)
  else if 65 ≤ c.toNat && c.toNat ≤ 70 then some (c.toNat - 55)
  else if 97 ≤ c.toNat && c.toNat ≤ 102 then some (c.toNat - 87)
  else none

/-- Reads one or more hexadecimal digits and nothing else. -/
def hexNumber? (s : List Char) : Option Nat :=
  if s.isEmpty then none else s.foldlM (fun n c => (hexValue? c).map (16 * n + ·)) 0

/-- The decimal digit with a value below ten. -/
def digitChar (n : Nat) : Char := Char.ofNat (48 + n % 10)

/-- The `width` lowest decimal digits of a number. -/
def digitsPadded : Nat → Nat → List Char
  | 0, _ => []
  | width + 1, n => digitsPadded width (n / 10) ++ [digitChar n]

/-- A number in decimal with at least `width` digits. -/
def natPadded (width n : Nat) : List Char :=
  let digits := Nat.toDigits 10 n
  List.replicate (width - digits.length) '0' ++ digits

end BlockStorage.Text
