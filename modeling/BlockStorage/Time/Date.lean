import BlockStorage.Text.Numeral

/-!
Days of the proleptic Gregorian calendar.

A date is a year, a month and a day that the calendar has, within the years -262143 to 262142. The
day number counts days from a fixed day, so that differences of day numbers are lengths in days.
-/

namespace BlockStorage

open Text

/-- Whether a year has a 29th of February. -/
def isLeapYear (year : Int) : Bool := year % 4 = 0 && (year % 100 ≠ 0 || year % 400 = 0)

/-- The number of days in a month. -/
def daysInMonth (year : Int) (month : Nat) : Nat :=
  if month = 2 then (if isLeapYear year then 29 else 28)
  else if month = 4 ∨ month = 6 ∨ month = 9 ∨ month = 11 then 30
  else 31

/-- What a year, a month and a day need to be a date. -/
def InCalendar (year : Int) (month day : Nat) : Prop :=
  -262143 ≤ year ∧ year ≤ 262142 ∧ 1 ≤ month ∧ month ≤ 12 ∧ 1 ≤ day ∧ day ≤ daysInMonth year month

instance (year : Int) (month day : Nat) : Decidable (InCalendar year month day) := by
  unfold InCalendar; infer_instance

/-- A day of the calendar. -/
structure Date where
  year : Int
  month : Nat
  day : Nat
  valid : InCalendar year month day
deriving DecidableEq

namespace Date

/-- The date with the given parts, if the calendar has it. -/
def ofParts? (year : Int) (month day : Nat) : Option Date :=
  if h : InCalendar year month day then some ⟨year, month, day, h⟩ else none

@[simp] theorem ofParts?_eta (d : Date) : ofParts? d.year d.month d.day = some d := by
  simp [ofParts?, d.valid]

/-- The day after, unless the calendar ends. -/
def next? (d : Date) : Option Date :=
  if d.day < daysInMonth d.year d.month then ofParts? d.year d.month (d.day + 1)
  else if d.month < 12 then ofParts? d.year (d.month + 1) 1
  else ofParts? (d.year + 1) 1 1

/-- The day before, unless the calendar starts. -/
def prev? (d : Date) : Option Date :=
  if 1 < d.day then ofParts? d.year d.month (d.day - 1)
  else if 1 < d.month then ofParts? d.year (d.month - 1) (daysInMonth d.year (d.month - 1))
  else ofParts? (d.year - 1) 12 31

/-- The date a number of days later; it stays at the end of the calendar. -/
def addDays : Nat → Date → Date
  | 0, d => d
  | n + 1, d => (d.next?.map (addDays n)).getD d

/-- The number of days up to the date, counted in years that start with March. -/
def dayNumber (d : Date) : Int :=
  let y : Int := if d.month ≤ 2 then d.year - 1 else d.year
  let m : Nat := if d.month ≤ 2 then d.month + 9 else d.month - 3
  365 * y + y / 4 - y / 100 + y / 400 + ((153 * m + 2) / 5 : Nat) + d.day

/-- A year: four digits up to 9999, and otherwise a sign and at least four digits. -/
def yearText (year : Int) : List Char :=
  if 0 ≤ year ∧ year ≤ 9999 then natPadded 4 year.toNat
  else (if year < 0 then '-' else '+') :: natPadded 4 year.natAbs

/-- The date with dashes between its parts. -/
def text (d : Date) : List Char :=
  yearText d.year ++ ['-'] ++ natPadded 2 d.month ++ ['-'] ++ natPadded 2 d.day

end Date

end BlockStorage
