import BlockStorage.Number.Binary64
import BlockStorage.Text.Numeral
import BlockStorage.Time.Date

/-!
Numbers and points in time as they stand in TOML texts.

Each reader takes the longest start of a text that has its form and gives what follows, or nothing
when no start of the text has it. Whole numbers have 64 bits and a sign, other numbers must not be
larger than the format binary64 allows, and dates must exist.
-/

namespace BlockStorage.Toml

open Text

/-- Whether a character is a digit to a base of at most sixteen. -/
def isDigitOf (base : Nat) (c : Char) : Bool :=
  let value :=
    if isDigit c then digitValue c
    else if 'a' ≤ c && c ≤ 'f' then c.toNat - 87
    else if 'A' ≤ c && c ≤ 'F' then c.toNat - 55
    else base
  value < base

/-- The value of a digit to a base of at most sixteen. -/
def valueOfDigit (c : Char) : Nat :=
  if isDigit c then digitValue c else if 'a' ≤ c then c.toNat - 87 else c.toNat - 55

/-- The number that digits denote. -/
def valueOf (base : Nat) (digits : List Char) : Nat :=
  digits.foldl (fun n c => base * n + valueOfDigit c) 0

/-- Digits that may have single underscores between them, without the underscores. -/
def moreDigits (isOk : Char → Bool) : List Char → Option (List Char × List Char)
  | '_' :: c :: s =>
    if isOk c then (moreDigits isOk s).map fun (digits, rest) => (c :: digits, rest) else none
  | c :: s =>
    if isOk c then (moreDigits isOk s).map fun (digits, rest) => (c :: digits, rest)
    else if c = '_' then none
    else some ([], c :: s)
  | [] => some ([], [])

/-- Digits, at least one, that may have single underscores between them. -/
def digits? (isOk : Char → Bool) : List Char → Option (List Char × List Char)
  | c :: s =>
    if isOk c then (moreDigits isOk s).map fun (digits, rest) => (c :: digits, rest) else none
  | [] => none

/-- The sign of a number, if it has one, and whether it is a minus. -/
def sign : List Char → Bool × List Char
  | '-' :: s => (true, s)
  | '+' :: s => (false, s)
  | s => (false, s)

/-- The digits in front of a point; a zero stands alone. -/
def wholeDigits? : List Char → Option (List Char × List Char)
  | '0' :: s => some (['0'], s)
  | s => digits? isDigit s

/-- A whole number of 64 bits behind the mark of its base. -/
def basedInteger? (base : Nat) (s : List Char) : Option (List Char) := do
  let (digits, rest) ← digits? (isDigitOf base) s
  if valueOf base digits < 9223372036854775808 then some rest else none

/-- A whole number. -/
def integer? (s : List Char) : Option (List Char) :=
  match s with
  | '0' :: 'x' :: s => basedInteger? 16 s
  | '0' :: 'o' :: s => basedInteger? 8 s
  | '0' :: 'b' :: s => basedInteger? 2 s
  | s => do
    let (negative, s) := sign s
    let (digits, rest) ← wholeDigits? s
    let n := digitsValue 0 digits
    if n < 9223372036854775808 || (negative && n = 9223372036854775808) then some rest else none

/-- Whether a decimal number with an exponent is larger than the format binary64 allows. -/
def isTooLarge (digits : List Char) (exponent : Int) : Bool :=
  let digits := digits.dropWhile (· = '0')
  let places : Int := digits.length + exponent
  if digits.isEmpty || places ≤ 308 then false
  else if places > 310 then true
  else
    let m := digitsValue 0 digits
    if exponent ≥ 0 then (Binary64.ofNat? (m * Nat.pow 10 exponent.toNat)).isNone
    else (Binary64.ofQuotient? m (Nat.pow 10 (-exponent).toNat)).isNone

/-- The digits behind a point. -/
def fraction? : List Char → Option (List Char × List Char)
  | '.' :: s => digits? isDigit s
  | _ => none

/-- The exponent of a number; none when there is no mark of one. -/
def exponent? : List Char → Option (Option Int × List Char)
  | c :: s =>
    if c = 'e' || c = 'E' then do
      let (negative, s) := sign s
      let (digits, rest) ← digits? isDigit s
      let n : Int := digitsValue 0 digits
      return (some (if negative then -n else n), rest)
    else some (none, c :: s)
  | [] => some (none, [])

/-- A number with a fraction or an exponent. -/
def decimal? (s : List Char) : Option (List Char) := do
  let (negative, s) := sign s
  let (whole, s) ← wholeDigits? s
  let (fraction, s) ← match s with
    | '.' :: _ => fraction? s
    | s => some ([], s)
  let (exponent, rest) ← exponent? s
  if fraction.isEmpty && exponent.isNone then none
  else if !negative && isTooLarge (whole ++ fraction) (exponent.getD 0 - fraction.length) then none
  else some rest

/-- The names of the values that are no numbers proper. -/
def special? (s : List Char) : Option (List Char) :=
  match (sign s).2 with
  | 'i' :: 'n' :: 'f' :: s => some s
  | 'n' :: 'a' :: 'n' :: s => some s
  | _ => none

/-- The number of as many digits as asked for, within bounds. -/
def field? (width least most : Nat) (s : List Char) : Option (Nat × List Char) :=
  let digits := s.take width
  if digits.length = width && digits.all isDigit then
    let n := digitsValue 0 digits
    if least ≤ n && n ≤ most then some (n, s.drop width) else none
  else none

/-- What follows a character that must come next. -/
def after? (c : Char) : List Char → Option (List Char)
  | [] => none
  | d :: s => if c = d then some s else none

/-- A date that exists. -/
def date? (s : List Char) : Option (List Char) := do
  let (year, s) ← field? 4 0 9999 s
  let s ← after? '-' s
  let (month, s) ← field? 2 1 12 s
  let s ← after? '-' s
  let (_, s) ← field? 2 1 (daysInMonth year month) s
  return s

/-- The digits of a fraction of a second, if there is one. -/
def secondFraction (s : List Char) : List Char :=
  match s with
  | '.' :: c :: r => if isDigit c then r.dropWhile isDigit else s
  | s => s

/-- A time of day; a minute may have a leap second. -/
def timeOfDay? (s : List Char) : Option (List Char) := do
  let (_, s) ← field? 2 0 23 s
  let s ← after? ':' s
  let (_, s) ← field? 2 0 59 s
  let s ← after? ':' s
  let (_, s) ← field? 2 0 60 s
  return secondFraction s

/-- The offset of a time, if there is one. -/
def offset? (s : List Char) : Option (List Char) :=
  match s with
  | 'Z' :: s => some s
  | 'z' :: s => some s
  | c :: r =>
    if c = '+' || c = '-' then do
      let (_, r) ← field? 2 0 23 r
      let r ← after? ':' r
      let (_, r) ← field? 2 0 59 r
      return r
    else some s
  | [] => some []

/-- A point in time: a date, a time of day, or both. -/
def moment? (s : List Char) : Option (List Char) :=
  match date? s with
  | none => timeOfDay? s
  | some rest =>
    match rest with
    | c :: r =>
      if c = 'T' || c = 't' || c = ' ' then
        match timeOfDay? r with
        | some r => offset? r
        | none => some rest
      else some rest
    | [] => some []

end BlockStorage.Toml
