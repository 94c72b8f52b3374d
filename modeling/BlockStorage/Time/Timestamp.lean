import BlockStorage.Text.Blank
import BlockStorage.Time.Date

/-!
Points in time, in UTC, to the nanosecond.

A leap second is the second 59 with a billion nanoseconds more. The written form has a fraction of
0, 3, 6 or 9 digits, the fewest that tell the time exactly. Reading is more liberal: blanks around
the parts, any offset below a day, and fractions of any length, of which nine digits count.
-/

namespace BlockStorage

open Text

/-- The nanoseconds in a second. -/
def nanosPerSecond : Nat := 1000000000

/-- What a second of the day and its nanoseconds need to be a time of day. -/
def InDay (second nanos : Nat) : Prop :=
  second < 86400 ∧ (nanos < nanosPerSecond ∨ (second % 60 = 59 ∧ nanos < 2 * nanosPerSecond))

instance (second nanos : Nat) : Decidable (InDay second nanos) := by
  unfold InDay; infer_instance

/-- A point in time: a date, a second of the day, and the nanoseconds within the second. -/
structure Timestamp where
  date : Date
  second : Nat
  nanos : Nat
  valid : InDay second nanos
deriving DecidableEq

namespace Timestamp

/-- The point in time with the given parts, if there is one. -/
def ofParts? (date : Date) (second nanos : Nat) : Option Timestamp :=
  if h : InDay second nanos then some ⟨date, second, nanos, h⟩ else none

/-- The first second of 1970. -/
def epoch : Timestamp := ⟨⟨1970, 1, 1, by decide⟩, 0, 0, by decide⟩

instance : Inhabited Timestamp := ⟨epoch⟩

/-! ### Lengths between points in time -/

/-- Whether the nanoseconds say that this is a leap second. -/
def isLeap (t : Timestamp) : Bool := t.nanos ≥ nanosPerSecond

/-- The leap second that lies between two times of day, if one of them is in it. -/
def leapBetween (later earlier : Timestamp) : Int :=
  if later.second > earlier.second then (if earlier.isLeap then 1 else 0)
  else if later.second < earlier.second then (if later.isLeap then -1 else 0)
  else 0

/-- The whole seconds from one point in time to another; a part of a second is cut. -/
def secondsSince (later earlier : Timestamp) : Int :=
  let days := later.date.dayNumber - earlier.date.dayNumber
  let seconds := 86400 * days + later.second - earlier.second + leapBetween later earlier
  (seconds * nanosPerSecond + later.nanos - earlier.nanos).tdiv nanosPerSecond

/-- The nanoseconds of a time that is left behind: those of a leap second fall into the second
before it. -/
def plainNanos (t : Timestamp) : Nat := t.nanos % nanosPerSecond

theorem plainNanos_lt (t : Timestamp) : t.plainNanos < nanosPerSecond :=
  Nat.mod_lt _ (by decide)

/-- The same time of day a number of days later. -/
def addDays (n : Nat) (t : Timestamp) : Timestamp :=
  ⟨t.date.addDays n, t.second, t.plainNanos, t.valid.1, .inl t.plainNanos_lt⟩

/-- The point in time a number of seconds later. -/
def addSeconds (n : Nat) (t : Timestamp) : Timestamp :=
  let total := t.second + n
  ⟨t.date.addDays (total / 86400), total % 86400, t.plainNanos, Nat.mod_lt _ (by decide),
    .inl t.plainNanos_lt⟩

/-- How long ago a point in time was, in the largest unit that fits. -/
def ageText (now then_ : Timestamp) : String :=
  let seconds := now.secondsSince then_
  if seconds < 0 then "just now"
  else
    let s := seconds.toNat
    let (value, unit) :=
      if s < 60 then (s, "second")
      else if s < 3600 then (s / 60, "minute")
      else if s < 86400 then (s / 3600, "hour")
      else (s / 86400, "day")
    if value = 1 then "1 " ++ unit ++ " ago" else toString value ++ " " ++ unit ++ "s ago"

/-! ### Writing -/

/-- The hours, minutes and seconds; a leap second shows as second 60. -/
def clockText (t : Timestamp) : List Char :=
  natPadded 2 (t.second / 3600) ++ [':'] ++ natPadded 2 (t.second / 60 % 60) ++ [':'] ++
    natPadded 2 (t.second % 60 + t.nanos / nanosPerSecond)

/-- The digits after the point: none, three, six or nine. -/
def fractionDigits (t : Timestamp) : List Char :=
  let n := t.plainNanos
  if n = 0 then []
  else if n % 1000000 = 0 then natPadded 3 (n / 1000000)
  else if n % 1000 = 0 then natPadded 6 (n / 1000)
  else natPadded 9 n

/-- The fraction with its point, or nothing. -/
def fractionText (t : Timestamp) : List Char :=
  if t.fractionDigits.isEmpty then [] else '.' :: t.fractionDigits

/-- The point in time as it is stored and sent. -/
def chars (t : Timestamp) : List Char :=
  t.date.text ++ ['T'] ++ t.clockText ++ t.fractionText ++ ['Z']

/-- The stored form as a text. -/
def text (t : Timestamp) : String := String.ofList t.chars

/-- The point in time to the second. -/
def secondText (t : Timestamp) : String :=
  String.ofList (t.date.text ++ ['T'] ++ t.clockText ++ ['Z'])

/-! ### Reading -/

/-- Reads one to `width` digits after blanks. -/
def readNumber? (width : Nat) (s : List Char) : Option (Nat × List Char) :=
  let s := trimStart s
  let digits := (s.take width).takeWhile isDigit
  if digits.isEmpty then none else some (digitsValue 0 digits, s.drop digits.length)

/-- Reads a year: up to four digits, or a sign and any number of digits. -/
def readYear? (s : List Char) : Option (Int × List Char) :=
  match trimStart s with
  | '-' :: r => (readSigned? r).map fun (n, rest) => (-(n : Int), rest)
  | '+' :: r => (readSigned? r).map fun (n, rest) => ((n : Int), rest)
  | r => (readNumber? 4 r).map fun (n, rest) => ((n : Int), rest)
where
  readSigned? (r : List Char) : Option (Nat × List Char) :=
    let digits := r.takeWhile isDigit
    if digits.isEmpty then none else some (digitsValue 0 digits, r.drop digits.length)

/-- Reads a separator after blanks. -/
def readMark? (mark : Char) (s : List Char) : Option (List Char) :=
  match trimStart s with
  | c :: r => if c = mark then some r else none
  | [] => none

/-- Reads a fraction of a second, if there is one, in nanoseconds. -/
def readFraction? (s : List Char) : Option (Nat × List Char) :=
  match s with
  | '.' :: r =>
    let digits := r.takeWhile isDigit
    if digits.isEmpty then none
    else
      let used := digits.take 9
      some (digitsValue 0 used * Nat.pow 10 (9 - used.length), r.drop digits.length)
  | _ => some (0, s)

/-- Reads two digits. -/
def readTwoDigits? : List Char → Option (Nat × List Char)
  | a :: b :: r => if isDigit a && isDigit b then some (digitsValue 0 [a, b], r) else none
  | _ => none

/-- Reads the hours and minutes of an offset, in minutes. -/
def readOffsetMinutes? (s : List Char) : Option (Nat × List Char) := do
  let (hours, s) ← readTwoDigits? s
  let (minutes, s) ← readTwoDigits? (s.dropWhile fun c => c = ':' || isBlank c)
  if minutes < 60 ∧ hours < 24 then some (60 * hours + minutes, s) else none

/-- Reads an offset from UTC in minutes: `Z`, `UTC`, or a sign, hours and minutes. -/
def readOffset? (s : List Char) : Option (Int × List Char) :=
  match (s.take 3).map Char.toUpper with
  | ['U', 'T', 'C'] => some (0, s.drop 3)
  | _ => match s with
    | 'Z' :: r => some (0, r)
    | 'z' :: r => some (0, r)
    | '+' :: r => (readOffsetMinutes? r).map fun (n, rest) => ((n : Int), rest)
    | '-' :: r => (readOffsetMinutes? r).map fun (n, rest) => (-(n : Int), rest)
    | '−' :: r => (readOffsetMinutes? r).map fun (n, rest) => (-(n : Int), rest)
    | _ => none

/-- The point in time that clocks ahead of UTC by a number of minutes show as the given one. -/
def ofLocal? (date : Date) (second nanos : Nat) (ahead : Int) : Option Timestamp :=
  let shifted := (second : Int) - 60 * ahead
  if shifted < 0 then do
    let date ← date.prev?
    ofParts? date (shifted + 86400).toNat nanos
  else if shifted < 86400 then ofParts? date shifted.toNat nanos
  else do
    let date ← date.next?
    ofParts? date (shifted - 86400).toNat nanos

/-- A second of a minute and its nanoseconds; second 60 is the leap second. -/
def leapSecond? (second nanos : Nat) : Option (Nat × Nat) :=
  if second < 60 then some (second, nanos)
  else if second = 60 then some (59, nanos + nanosPerSecond)
  else none

/-- Reads a point in time. -/
def ofChars? (s : List Char) : Option Timestamp := do
  let (year, s) ← readYear? s
  let s ← readMark? '-' s
  let (month, s) ← readNumber? 2 s
  let s ← readMark? '-' s
  let (day, s) ← readNumber? 2 s
  let date ← Date.ofParts? year month day
  let s ← match s with
    | 'T' :: r => some r
    | 't' :: r => some r
    | ' ' :: r => some r
    | _ => none
  let (hour, s) ← readNumber? 2 s
  let s ← readMark? ':' s
  let (minute, s) ← readNumber? 2 s
  let s ← readMark? ':' s
  let (second, s) ← readNumber? 2 s
  let (nanos, s) ← readFraction? s
  let (second, nanos) ← leapSecond? second nanos
  if hour < 24 ∧ minute < 60 then
    let (ahead, s) ← readOffset? (trimStart s)
    if (trimStart s).isEmpty then ofLocal? date (3600 * hour + 60 * minute + second) nanos ahead
    else none
  else none

/-- Reads a point in time. -/
def parse? (s : String) : Option Timestamp := ofChars? s.toList

end Timestamp

end BlockStorage
