import BlockStorage.Text.Blank
import BlockStorage.Text.Numeral
import Mathlib.Data.Nat.Digits.Lemmas

/-!
Numerals that are written are read as the number.

A number has its decimal digits and nothing else, no digit is the sign of a word numeral, and zeros in
front change no value.
-/

namespace BlockStorage.Text

theorem isDigit_eq (c : Char) : isDigit c = c.isDigit := by
  simp [isDigit, Char.isDigit, UInt32.le_iff_toNat_le, ← Char.toNat_val]

theorem isDigit_of_mem_toDigits {n : Nat} {c : Char} (h : c ∈ Nat.toDigits 10 n) : isDigit c = true := by
  rw [isDigit_eq]
  exact Nat.isDigit_of_mem_toDigits (by decide) (by decide) h

theorem not_mem_toDigits {n : Nat} {c : Char} (h : isDigit c = false) : c ∉ Nat.toDigits 10 n :=
  fun hc => by
    rw [isDigit_of_mem_toDigits hc] at h
    cases h

@[simp] theorem digitsValue_toDigits (n : Nat) : digitsValue 0 (Nat.toDigits 10 n) = n :=
  Nat.ofDigitChars_toDigits (by decide) (by decide)

@[simp] theorem natOfDigits?_toDigits (n : Nat) : natOfDigits? (Nat.toDigits 10 n) = some n := by
  have hall : (Nat.toDigits 10 n).all isDigit = true :=
    List.all_eq_true.2 fun _ => isDigit_of_mem_toDigits
  simp [natOfDigits?, hall]

/-- A word is read back from its decimal digits. -/
theorem wordOfText?_toDigits (w : UInt64) : wordOfText? (Nat.toDigits 10 w.toNat) = some w := by
  have hword : w.toNat < UInt64.size := w.toNat_lt
  have hunsigned : ∀ r, Nat.toDigits 10 w.toNat = '+' :: r → False := fun r heq =>
    not_mem_toDigits (n := w.toNat) (c := '+') (by decide) (by simp [heq])
  rw [wordOfText?]
  split
  next n hn =>
    rw [natOfDigits?_toDigits] at hn
    obtain rfl := Option.some.inj hn
    rw [if_pos hword, UInt64.ofNat_toNat]
  next hn =>
    rw [natOfDigits?_toDigits] at hn
    cases hn
  exact hunsigned

/-! ### Zeros in front -/

theorem digitsValue_zeros (k : Nat) (digits : List Char) :
    digitsValue 0 (List.replicate k '0' ++ digits) = digitsValue 0 digits := by
  induction k with
  | zero => rfl
  | succ k ih => rw [List.replicate_succ, List.cons_append, ← ih]; rfl

theorem digitsValue_natPadded (width n : Nat) : digitsValue 0 (natPadded width n) = n := by
  rw [natPadded, digitsValue_zeros, digitsValue_toDigits]

theorem length_natPadded {width n : Nat} (hwidth : 0 < width) (h : n < 10 ^ width) :
    (natPadded width n).length = width := by
  have hdigits : (Nat.toDigits 10 n).length ≤ width :=
    (Nat.length_toDigits_le_iff (by decide) hwidth).2 h
  simp only [natPadded, List.length_append, List.length_replicate]
  omega

theorem natPadded_ne_nil (width n : Nat) : natPadded width n ≠ [] :=
  List.append_ne_nil_of_right_ne_nil _ Nat.toDigits_ne_nil

theorem isDigit_of_mem_natPadded {width n : Nat} {c : Char} (h : c ∈ natPadded width n) :
    isDigit c = true := by
  rcases List.mem_append.1 h with h | h
  · rw [List.eq_of_mem_replicate h]
    rfl
  · exact isDigit_of_mem_toDigits h

/-! ### Digits at the start of a text -/

section

variable {inClass : Char → Bool} {start rest : List Char}

/-- The longest start of a text with characters of a class ends where another character stands. -/
theorem takeWhile_append_of_head (hstart : ∀ c ∈ start, inClass c = true)
    (hrest : ∀ c ∈ rest.head?, inClass c = false) : (start ++ rest).takeWhile inClass = start := by
  have hnone : rest.takeWhile inClass = [] := by
    cases rest with
    | nil => rfl
    | cons c rest => exact List.takeWhile_cons_of_neg (by simp [hrest c (by simp)])
  rw [List.takeWhile_append_of_pos hstart, hnone, List.append_nil]

theorem dropWhile_append_of_head (hstart : ∀ c ∈ start, inClass c = true)
    (hrest : ∀ c ∈ rest.head?, inClass c = false) : (start ++ rest).dropWhile inClass = rest := by
  have hsplit := List.takeWhile_append_dropWhile (p := inClass) (l := start ++ rest)
  rw [takeWhile_append_of_head hstart hrest] at hsplit
  exact List.append_cancel_left hsplit

end

/-- No digit is blank. -/
theorem isBlank_of_isDigit {c : Char} (h : isDigit c = true) : isBlank c = false := by
  simp only [isDigit, Bool.and_eq_true, decide_eq_true_eq] at h
  simp only [isBlank, Bool.or_eq_false_iff, Bool.and_eq_false_iff, decide_eq_false_iff_not,
    beq_eq_false_iff_ne]
  omega

end BlockStorage.Text
