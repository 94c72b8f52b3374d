import BlockStorage.Document.Draft
import BlockStorage.Document.Json
import BlockStorage.Proofs.Text.Numeral

/-!
Leaves of JSON texts are read as they are written.

A text goes through its escapes character by character, read for its value or passed over. A number is
read up to its last digit, because no number is written with a zero in front and what stands behind it
does not carry it on.
-/

namespace BlockStorage

open Text

namespace Draft

open Document.Json (escape? escaped textChars)

/-! ### Texts -/

/-- A character as it stands in a text. -/
def shownChar (c : Char) : List Char := (escape? c).getD [c]

/-- The number of a character in four hexadecimal digits. -/
def numberedChar (c : Char) : List Char :=
  List.replicate (4 - (hexDigits c.toNat).length) '0' ++ hexDigits c.toNat

/-- How a character is written: plain, with a short escape, or by its number. -/
theorem shownChar_cases (c : Char) :
    (shownChar c = [c] ∧ c ≠ '"' ∧ c ≠ '\\' ∧ ¬ c.toNat < 0x20) ∨
      (∃ e, shownChar c = ['\\', e] ∧ e ≠ 'u' ∧ shortEscape? e = some c) ∨
      (shownChar c = '\\' :: 'u' :: numberedChar c ∧ c.toNat < 0x20) := by
  unfold shownChar escape?
  split_ifs with h1 h2 h3 h4 h5 h6 h7 h8
  · exact .inr (.inl ⟨'"', rfl, by decide, by rw [h1]; rfl⟩)
  · exact .inr (.inl ⟨'\\', rfl, by decide, by rw [h2]; rfl⟩)
  · exact .inr (.inl ⟨'n', rfl, by decide, by rw [h3]; rfl⟩)
  · exact .inr (.inl ⟨'r', rfl, by decide, by rw [h4]; rfl⟩)
  · exact .inr (.inl ⟨'t', rfl, by decide, by rw [h5]; rfl⟩)
  · have hc : c = Char.ofNat 8 := by rw [← h6, Char.ofNat_toNat]
    exact .inr (.inl ⟨'b', rfl, by decide, by rw [hc]; rfl⟩)
  · have hc : c = Char.ofNat 12 := by rw [← h7, Char.ofNat_toNat]
    exact .inr (.inl ⟨'f', rfl, by decide, by rw [hc]; rfl⟩)
  · exact .inr (.inr ⟨rfl, h8⟩)
  · exact .inl ⟨rfl, h1, h2, h8⟩

theorem hexValues_control : ∀ n < 0x20,
    (List.replicate (4 - (hexDigits n).length) '0' ++ hexDigits n).map hexValue? =
      [some 0, some 0, some (n / 16), some (n % 16)] := by decide

theorem readHex_numberedChar {c : Char} (h : c.toNat < 0x20) (s : List Char) :
    readHex (numberedChar c ++ s) = .ok (c.toNat, s) := by
  have hvalues : (numberedChar c).map hexValue? =
      [some 0, some 0, some (c.toNat / 16), some (c.toNat % 16)] := hexValues_control c.toNat h
  have hlength : (numberedChar c).length = 4 := by simpa using congrArg List.length hvalues
  rw [readHex, List.take_left' hlength, List.drop_left' hlength, hvalues]
  simp only [Except.ok.injEq, Prod.mk.injEq, and_true]
  omega

theorem readNumbered_numberedChar {c : Char} (h : c.toNat < 0x20) (s : List Char) :
    readNumbered (numberedChar c ++ s) = .ok (c, s) := by
  have hlow : (decide (0xDC00 ≤ c.toNat) && decide (c.toNat ≤ 0xDFFF)) = false := by
    simp only [Bool.and_eq_false_iff, decide_eq_false_iff_not]
    omega
  have hplain : (decide (c.toNat < 0xD800) || decide (0xDBFF < c.toNat)) = true := by
    simp only [Bool.or_eq_true, decide_eq_true_eq]
    omega
  rw [readNumbered, readHex_numberedChar h]
  simp [bind, Except.bind, hlow, hplain]

/-- A character is read as it is written. -/
theorem readText_shownChar (c : Char) (fuel : Nat) (s : List Char) :
    readText (fuel + 1) (shownChar c ++ s) =
      (readText fuel s).map fun (chars, rest) => (c :: chars, rest) := by
  rcases shownChar_cases c with
    ⟨hshown, hquote, hslash, hplain⟩ | ⟨e, hshown, hu, hescape⟩ | ⟨hshown, hcontrol⟩
  · rw [hshown]
    simp [readText, hslash, hplain]
    cases readText fuel s <;> rfl
  · rw [hshown]
    simp [readText, hescape]
    cases readText fuel s <;> rfl
  · rw [hshown]
    simp [readText, readNumbered_numberedChar hcontrol, bind, Except.bind]
    cases readText fuel s <;> rfl

/-- A character is passed over as it is written. -/
theorem skipText_shownChar (c : Char) (fuel : Nat) (s : List Char) :
    skipText (fuel + 1) (shownChar c ++ s) = skipText fuel s := by
  rcases shownChar_cases c with
    ⟨hshown, hquote, hslash, hplain⟩ | ⟨e, hshown, hu, hescape⟩ | ⟨hshown, hcontrol⟩
  · rw [hshown]
    simp [skipText, hslash, hplain]
  · rw [hshown]
    simp [skipText, hescape]
  · rw [hshown]
    simp [skipText, readHex_numberedChar hcontrol, bind, Except.bind]

/-- What goes through a text character by character, as it is written, has the whole text at its quote. -/
theorem through_escaped {α : Type} {through : Nat → List Char → Except Fault α} {result : List Char → α}
    {rest : List Char} (hquote : ∀ fuel, through (fuel + 1) ('"' :: rest) = .ok (result []))
    (hchar : ∀ c chars fuel s, through fuel s = .ok (result chars) →
      through (fuel + 1) (shownChar c ++ s) = .ok (result (c :: chars)))
    (chars : List Char) {fuel : Nat} (hfuel : chars.length < fuel) :
    through fuel (escaped chars ++ '"' :: rest) = .ok (result chars) := by
  induction chars generalizing fuel with
  | nil =>
    obtain ⟨fuel, rfl⟩ := Nat.exists_eq_add_one.2 hfuel
    exact hquote fuel
  | cons c chars ih =>
    obtain ⟨fuel, rfl⟩ := Nat.exists_eq_add_one.2 (Nat.zero_lt_of_lt hfuel)
    have hshown : escaped (c :: chars) = shownChar c ++ escaped chars := rfl
    rw [hshown, List.append_assoc]
    exact hchar c chars fuel _ (ih (Nat.lt_of_succ_lt_succ hfuel))

/-- A text is read up to its quote. -/
theorem readText_escaped (chars rest : List Char) {fuel : Nat} (hfuel : chars.length < fuel) :
    readText fuel (escaped chars ++ '"' :: rest) = .ok (chars, rest) := by
  refine @through_escaped _ _ (fun chars => (chars, rest)) rest (fun _ => rfl) (fun c chars fuel s h => ?_)
    chars _ hfuel
  rw [readText_shownChar, h]
  rfl

theorem skipText_escaped (chars rest : List Char) {fuel : Nat} (hfuel : chars.length < fuel) :
    skipText fuel (escaped chars ++ '"' :: rest) = .ok rest := by
  refine @through_escaped _ _ (fun _ => rest) rest (fun _ => rfl) (fun c chars fuel s h => ?_) chars _ hfuel
  rw [skipText_shownChar, h]

theorem length_le_escaped (chars : List Char) : chars.length ≤ (escaped chars).length := by
  induction chars with
  | nil => rfl
  | cons c chars ih =>
    have hshown : escaped (c :: chars) = shownChar c ++ escaped chars := rfl
    have hpos : 0 < (shownChar c).length := by
      rcases shownChar_cases c with ⟨hc, -⟩ | ⟨e, hc, -⟩ | ⟨hc, -⟩ <;> simp [hc]
    rw [hshown, List.length_append, List.length_cons]
    omega

/-- **A text is read as it is written.** -/
theorem textLeaf_escaped (s : String) (rest : List Char) :
    textLeaf (escaped s.toList ++ '"' :: rest) = (.text (goodLeaf s), some rest) := by
  have hfuel : s.toList.length < (escaped s.toList ++ '"' :: rest).length + 1 := by
    have := length_le_escaped s.toList
    rw [List.length_append]
    omega
  rw [textLeaf, readText_escaped _ _ hfuel, skipText_escaped _ _ hfuel]
  simp [Except.map, goodLeaf]

/-! ### Numbers -/

/-- What can stand behind a number without carrying it on. -/
def Ends (rest : List Char) : Prop :=
  ∀ c ∈ rest.head?, isDigit c = false ∧ c ≠ '.' ∧ c ≠ 'e' ∧ c ≠ 'E'

/-- No number is written with a zero in front. -/
theorem toDigits_head_ne_zero {n : Nat} (hn : 0 < n) : (Nat.toDigits 10 n).head? ≠ some '0' := by
  induction n using Nat.strong_induction_on with
  | _ n ih =>
    rcases Nat.lt_or_ge n 10 with hsmall | hlarge
    · rw [Nat.toDigits_of_lt_base hsmall]
      interval_cases n <;> decide
    · have hhead := ih (n / 10) (by omega) (by omega)
      rw [Nat.toDigits_of_base_le (by decide) hlarge, List.head?_append_of_ne_nil _ Nat.toDigits_ne_nil]
      exact hhead

theorem exponentPart_of_ends {rest : List Char} (h : Ends rest) (atEnd : Fault) :
    exponentPart atEnd rest = .ok (none, rest) := by
  cases rest with
  | nil => rfl
  | cons c rest =>
    obtain ⟨-, -, he, hE⟩ := h c (by simp)
    simp [exponentPart, he, hE]

theorem wholeDigits_toDigits (n : Nat) {rest : List Char} (h : Ends rest) (atEnd : Fault) :
    wholeDigits atEnd (Nat.toDigits 10 n ++ rest) = .ok (Nat.toDigits 10 n, rest) := by
  have hdigits : ∀ c ∈ Nat.toDigits 10 n, isDigit c = true := fun _ => isDigit_of_mem_toDigits
  have hrest : ∀ c ∈ rest.head?, isDigit c = false := fun c hc => (h c hc).1
  have hsome : someDigits atEnd (Nat.toDigits 10 n ++ rest) = .ok (Nat.toDigits 10 n, rest) := by
    simp [someDigits, takeWhile_append_of_head hdigits hrest, dropWhile_append_of_head hdigits hrest]
  rw [wholeDigits, hsome]
  simp only [bind, Except.bind]
  split
  next second digits heq =>
    rcases Nat.eq_zero_or_pos n with rfl | hpos
    · cases heq
    · exact absurd (by rw [heq]; rfl) (toDigits_head_ne_zero hpos)
  next => rfl

theorem numeral_toDigits (n : Nat) {rest : List Char} (h : Ends rest) (atEnd : Fault) :
    numeral atEnd (Nat.toDigits 10 n ++ rest) = .ok (⟨Nat.toDigits 10 n, none, none⟩, rest) := by
  rw [numeral, wholeDigits_toDigits n h]
  simp only [bind, Except.bind]
  split
  next r => exact absurd rfl (h '.' (by simp)).2.1
  next => rw [exponentPart_of_ends h]; rfl

/-- **A number of 64 bits is read as it is written.** -/
theorem numberLeaf_toDigits {n : Nat} (hn : n < UInt64.size) {rest : List Char} (h : Ends rest) :
    numberLeaf false (Nat.toDigits 10 n ++ rest) = (.scalar (goodLeaf (.natural n)), some rest) := by
  simp only [numberLeaf, numeral_toDigits n h, bind, Except.bind, scalarOf, digitsValue_toDigits, hn]
  rfl

end Draft

end BlockStorage
