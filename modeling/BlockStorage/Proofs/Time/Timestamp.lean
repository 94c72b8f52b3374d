import BlockStorage.Proofs.Failure
import BlockStorage.Proofs.Text.Numeral
import BlockStorage.Time.Timestamp
import Mathlib.Data.List.TakeWhile

/-!
A point in time is read back from its stored form.

The written form has a fixed layout, so each part of it is read by its own reader up to exactly where the
next part starts. Years beyond 9999 have a sign, and a leap second is told apart as second 60.
-/

namespace BlockStorage.Timestamp

open Text

/-! ### Parts -/

theorem readNumber?_append {width : Nat} {digits : List Char} (hlength : digits.length = width)
    (hne : digits ≠ []) (hdigits : ∀ c ∈ digits, isDigit c = true) (rest : List Char) :
    readNumber? width (digits ++ rest) = some (digitsValue 0 digits, rest) := by
  have hstart : trimStart (digits ++ rest) = digits ++ rest := by
    refine trimStart_eq_self fun c hc => isBlank_of_isDigit (hdigits c ?_)
    rw [List.head?_append_of_ne_nil _ hne] at hc
    exact List.mem_of_mem_head? hc
  have htaken : ((digits ++ rest).take width).takeWhile isDigit = digits := by
    rw [← hlength, List.take_left]
    exact List.takeWhile_eq_self_iff.2 hdigits
  simp [readNumber?, hstart, htaken, hne]

/-- A number that fits its width is read up to its last digit. -/
theorem readNumber?_natPadded {width n : Nat} (hwidth : 0 < width) (h : n < 10 ^ width)
    (rest : List Char) : readNumber? width (natPadded width n ++ rest) = some (n, rest) := by
  rw [readNumber?_append (length_natPadded hwidth h) (natPadded_ne_nil width n)
    (fun _ => isDigit_of_mem_natPadded), digitsValue_natPadded]

theorem readMark?_cons {mark : Char} (hmark : isBlank mark = false) (rest : List Char) :
    readMark? mark (mark :: rest) = some rest := by
  have hstart : trimStart (mark :: rest) = mark :: rest := trimStart_eq_self (by simpa using hmark)
  simp [readMark?, hstart]

theorem readSigned?_natPadded (width n : Nat) {rest : List Char}
    (hrest : ∀ c ∈ rest.head?, isDigit c = false) :
    readYear?.readSigned? (natPadded width n ++ rest) = some (n, rest) := by
  have htaken : (natPadded width n ++ rest).takeWhile isDigit = natPadded width n :=
    takeWhile_append_of_head (fun _ => isDigit_of_mem_natPadded) hrest
  simp [readYear?.readSigned?, htaken, natPadded_ne_nil, digitsValue_natPadded]

/-- A year is read back, with or without its sign. -/
theorem readYear?_yearText (year : Int) {rest : List Char}
    (hrest : ∀ c ∈ rest.head?, isDigit c = false) :
    readYear? (Date.yearText year ++ rest) = some (year, rest) := by
  have signed {sign : Char} (hsign : isBlank sign = false) (digits : List Char) :
      trimStart (sign :: digits) = sign :: digits := trimStart_eq_self (by simpa using hsign)
  rw [Date.yearText]
  split_ifs with hplain hnegative
  · have hwidth : year.toNat < 10 ^ 4 := by omega
    have hread := readNumber?_natPadded (by decide : 0 < 4) hwidth rest
    -- the text starts with a digit, so it has no sign and no blank in front
    have hdigit : ∀ c ∈ (natPadded 4 year.toNat ++ rest).head?, isDigit c = true := by
      intro c hc
      rw [List.head?_append_of_ne_nil _ (natPadded_ne_nil 4 year.toNat)] at hc
      exact isDigit_of_mem_natPadded (List.mem_of_mem_head? hc)
    have hstart : trimStart (natPadded 4 year.toNat ++ rest) = natPadded 4 year.toNat ++ rest :=
      trimStart_eq_self fun c hc => isBlank_of_isDigit (hdigit c hc)
    rw [readYear?, hstart]
    split
    next r heq => exact absurd (hdigit '-' (by simp [heq])) (by decide)
    next r heq => exact absurd (hdigit '+' (by simp [heq])) (by decide)
    next => simp [hread, hplain.1]
  · have hread := readSigned?_natPadded 4 year.natAbs hrest
    have habs : -(year.natAbs : Int) = year := by omega
    rw [List.cons_append, readYear?, signed (by decide)]
    simp only [hread, Option.map_some, habs]
  · have hread := readSigned?_natPadded 4 year.natAbs hrest
    have habs : (year.natAbs : Int) = year := by omega
    rw [List.cons_append, readYear?, signed (by decide)]
    simp only [hread, Option.map_some, habs]

/-- The digits of a fraction count as if zeros filled them up to nine. -/
theorem readFraction?_digits {width n : Nat} (hwidth : 0 < width) (hnine : width ≤ 9)
    (h : n < 10 ^ width) {rest : List Char} (hrest : ∀ c ∈ rest.head?, isDigit c = false) :
    readFraction? ('.' :: natPadded width n ++ rest) = some (n * 10 ^ (9 - width), rest) := by
  have hlength := length_natPadded hwidth h
  have htaken : (natPadded width n ++ rest).takeWhile isDigit = natPadded width n :=
    takeWhile_append_of_head (fun _ => isDigit_of_mem_natPadded) hrest
  have hused : (natPadded width n).take 9 = natPadded width n :=
    List.take_of_length_le (by omega)
  simp [readFraction?, htaken, hused, natPadded_ne_nil, digitsValue_natPadded, hlength]

/-- The fraction is left out, or it is a number of as many digits as it needs. -/
theorem fractionDigits_cases (t : Timestamp) :
    (t.plainNanos = 0 ∧ t.fractionDigits = []) ∨
      ∃ width n, 0 < width ∧ width ≤ 9 ∧ n < 10 ^ width ∧ n * 10 ^ (9 - width) = t.plainNanos ∧
        t.fractionDigits = natPadded width n := by
  have hlt : t.plainNanos < 1000000000 := t.plainNanos_lt
  rw [fractionDigits]
  generalize t.plainNanos = n at hlt ⊢
  split_ifs with hzero hmilli hmicro
  · exact .inl ⟨hzero, rfl⟩
  · exact .inr ⟨3, n / 1000000, by omega, by omega, by omega, by omega, rfl⟩
  · exact .inr ⟨6, n / 1000, by omega, by omega, by omega, by omega, rfl⟩
  · exact .inr ⟨9, n, by omega, by omega, by omega, by omega, rfl⟩

theorem readFraction?_fractionText (t : Timestamp) :
    readFraction? (t.fractionText ++ ['Z']) = some (t.plainNanos, ['Z']) := by
  rw [fractionText]
  rcases t.fractionDigits_cases with ⟨hzero, hdigits⟩ | ⟨width, n, hwidth, hnine, hn, hvalue, hdigits⟩
  · simp [hdigits, hzero, readFraction?]
  · have hshown : (natPadded width n).isEmpty = false := by simp [natPadded_ne_nil]
    rw [hdigits, hshown, if_neg Bool.false_ne_true,
      readFraction?_digits hwidth hnine hn (by simp; decide), hvalue]

/-- The leap second is told apart by its number. -/
theorem leapSecond?_clock (t : Timestamp) :
    leapSecond? (t.second % 60 + t.nanos / nanosPerSecond) t.plainNanos =
      some (t.second % 60, t.nanos) := by
  obtain ⟨-, hplain | ⟨hlast, hleap⟩⟩ := t.valid
  · have hminute : t.second % 60 < 60 := Nat.mod_lt _ (by decide)
    rw [leapSecond?, plainNanos, Nat.div_eq_of_lt hplain, Nat.mod_eq_of_lt hplain, Nat.add_zero,
      if_pos hminute]
  · rcases Nat.lt_or_ge t.nanos nanosPerSecond with hplain | hover
    · rw [leapSecond?, plainNanos, Nat.div_eq_of_lt hplain, Nat.mod_eq_of_lt hplain, hlast,
        if_pos (by decide)]
    · have hone : t.nanos / nanosPerSecond = 1 := by
        rw [Nat.div_eq_iff (by decide)]
        omega
      have hrest : t.nanos % nanosPerSecond + nanosPerSecond = t.nanos := by
        have hdivided := Nat.div_add_mod t.nanos nanosPerSecond
        rw [hone] at hdivided
        omega
      rw [leapSecond?, plainNanos, hone, hlast, if_neg (by decide), if_pos rfl, hrest]

/-! ### The whole -/

/-- The layout of the stored form. -/
theorem chars_eq (t : Timestamp) :
    t.chars = Date.yearText t.date.year ++ '-' :: (natPadded 2 t.date.month ++
      '-' :: (natPadded 2 t.date.day ++ 'T' :: (natPadded 2 (t.second / 3600) ++
      ':' :: (natPadded 2 (t.second / 60 % 60) ++ ':' :: (natPadded 2 (t.second % 60 +
      t.nanos / nanosPerSecond) ++ (t.fractionText ++ ['Z'])))))) := by
  simp [chars, Date.text, clockText]

/-- Clocks that show UTC show the time itself. -/
theorem ofLocal?_utc (t : Timestamp) : ofLocal? t.date t.second t.nanos 0 = some t := by
  have hsecond := t.valid.1
  have hnonneg : ¬ (t.second : Int) < 0 := by omega
  have hday : (t.second : Int) < 86400 := by omega
  simp [ofLocal?, hnonneg, hday, ofParts?, t.valid]

/-- **A point in time is read back from its stored form.** -/
theorem ofChars?_chars (t : Timestamp) : ofChars? t.chars = some t := by
  obtain ⟨-, -, -, hmonth, -, hday⟩ := t.date.valid
  have hdays : daysInMonth t.date.year t.date.month ≤ 31 := by
    rw [daysInMonth]
    split_ifs <;> omega
  have hsecond := t.valid.1
  have hleap : t.nanos / nanosPerSecond < 2 := by
    have hnanos : t.nanos < 2 * nanosPerSecond := by
      rcases t.valid.2 with hplain | ⟨-, hleap⟩ <;> omega
    exact Nat.div_lt_of_lt_mul (by omega)
  have two {n : Nat} (h : n < 100) (rest : List Char) :
      readNumber? 2 (natPadded 2 n ++ rest) = some (n, rest) := readNumber?_natPadded (by decide) h rest
  have hyear (rest : List Char) :
      readYear? (Date.yearText t.date.year ++ '-' :: rest) = some (t.date.year, '-' :: rest) :=
    readYear?_yearText t.date.year (by simp; decide)
  have hdash := readMark?_cons (by decide : isBlank '-' = false)
  have hcolon := readMark?_cons (by decide : isBlank ':' = false)
  have hzone : readOffset? (trimStart ['Z']) = some (0, []) := by decide
  have hclock : 3600 * (t.second / 3600) + 60 * (t.second / 60 % 60) + t.second % 60 = t.second := by
    omega
  have hmidnight : t.second / 3600 < 24 ∧ t.second / 60 % 60 < 60 := by omega
  -- one reader after the other, each stops where the next part starts
  rw [chars_eq]
  refine bind_of_some (hyear _) <| bind_of_some (hdash _) <| bind_of_some (two (by omega) _) <|
    bind_of_some (hdash _) <| bind_of_some (two (by omega) _) <| bind_of_some (Date.ofParts?_eta _) <|
    bind_of_some rfl <| bind_of_some (two (by omega) _) <| bind_of_some (hcolon _) <|
    bind_of_some (two (by omega) _) <| bind_of_some (hcolon _) <| bind_of_some (two (by omega) _) <|
    bind_of_some t.readFraction?_fractionText <| bind_of_some t.leapSecond?_clock ?_
  refine (if_pos hmidnight).trans (bind_of_some hzone ((if_pos (by decide)).trans ?_))
  rw [hclock, ofLocal?_utc]

/-- A point in time is read back from its text. -/
theorem parse?_text (t : Timestamp) : parse? t.text = some t := by
  rw [parse?, text, String.toList_ofList, ofChars?_chars]

end BlockStorage.Timestamp
