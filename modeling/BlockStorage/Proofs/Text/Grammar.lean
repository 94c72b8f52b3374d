import BlockStorage.Proofs.Text.Blank
import BlockStorage.Proofs.Text.Numeral
import BlockStorage.Proofs.Text.Split

/-!
What texts say, told without the functions that read them.

A text can be another one with blanks around it, a list of fields between separators, a numeral, or a number
with a unit behind it. Each of these is a relation between a text and its parts, and trimming, cutting and
reading find the parts exactly if there are any.
-/

namespace BlockStorage.Text

/-! ### Blanks around a text -/

/-- The text is `core` with blanks around it. -/
def IsPadded (s core : List Char) : Prop :=
  ∃ before after, s = before ++ core ++ after ∧ (∀ c ∈ before, isBlank c = true) ∧
    ∀ c ∈ after, isBlank c = true

variable {s core : List Char}

theorem IsPadded.of_blanks_append {before : List Char} (hbefore : ∀ c ∈ before, isBlank c = true)
    (h : IsPadded s core) : IsPadded (before ++ s) core := by
  obtain ⟨front, after, rfl, hfront, hafter⟩ := h
  refine ⟨before ++ front, after, by simp, fun c hc => ?_, hafter⟩
  exact (List.mem_append.1 hc).elim (hbefore c) (hfront c)

theorem exists_eq_trimEnd_append (s : List Char) :
    ∃ lost, s = trimEnd s ++ lost ∧ ∀ c ∈ lost, isBlank c = true :=
  ⟨s.rtakeWhile isBlank, List.rdropWhile_append_rtakeWhile.symm, fun _ hc => List.mem_rtakeWhile_imp hc⟩

theorem isPadded_trimEnd (s : List Char) : IsPadded s (trimEnd s) := by
  obtain ⟨lost, heq, hlost⟩ := exists_eq_trimEnd_append s
  exact ⟨[], lost, heq, by simp, hlost⟩

/-- Trimming takes blanks away and nothing else. -/
theorem isPadded_trim (s : List Char) : IsPadded s (trim s) := by
  have hblanks : ∀ c ∈ s.takeWhile isBlank, isBlank c = true := fun c hc => List.mem_takeWhile_imp hc
  have hpadded := (isPadded_trimEnd (trimStart s)).of_blanks_append hblanks
  rwa [trimStart, List.takeWhile_append_dropWhile] at hpadded

theorem trimStart_blanks_append {before : List Char} (hbefore : ∀ c ∈ before, isBlank c = true)
    (s : List Char) : trimStart (before ++ s) = trimStart s :=
  List.dropWhile_append_of_pos hbefore

theorem trimEnd_append_blanks {after : List Char} (hafter : ∀ c ∈ after, isBlank c = true)
    (s : List Char) : trimEnd (s ++ after) = trimEnd s := by
  rw [trimEnd, List.reverse_append, List.dropWhile_append_of_pos (by simpa using hafter), trimEnd]

/-- Only what ends with the text can be lost. -/
theorem trimEnd_append_of_mem {c : Char} {rest : List Char} (hc : c ∈ rest) (hblank : isBlank c = false)
    (s : List Char) : trimEnd (s ++ rest) = s ++ trimEnd rest := by
  have hkept : (rest.reverse.dropWhile isBlank).isEmpty = false := by
    rw [List.isEmpty_eq_false_iff, Ne, List.dropWhile_eq_nil_iff]
    intro hall
    rw [hall c (List.mem_reverse.2 hc)] at hblank
    cases hblank
  rw [trimEnd, List.reverse_append, List.dropWhile_append, hkept, if_neg Bool.false_ne_true, List.reverse_append,
    List.reverse_reverse, trimEnd]

theorem IsPadded.trim_eq (h : IsPadded s core) (hcore : IsTrimmed core) : trim s = core := by
  obtain ⟨before, after, rfl, hbefore, hafter⟩ := h
  rw [List.append_assoc, trim, trimStart_blanks_append hbefore]
  cases core with
  | nil =>
    have hnone : trimStart after = [] := List.dropWhile_eq_nil_iff.2 hafter
    rw [List.nil_append, hnone]
    rfl
  | cons c core =>
    have hstart : trimStart ((c :: core) ++ after) = (c :: core) ++ after :=
      trimStart_eq_self fun d hd => hcore.head d hd
    rw [hstart, trimEnd_append_blanks hafter, trimEnd_eq_self hcore.last]

/-- What trimming leaves is the text that has the blanks around it. -/
theorem trim_eq_iff : trim s = core ↔ IsPadded s core ∧ IsTrimmed core := by
  constructor
  · rintro rfl
    exact ⟨isPadded_trim s, isTrimmed_trim s⟩
  · rintro ⟨hpadded, htrimmed⟩
    exact hpadded.trim_eq htrimmed

/-! ### Fields between separators -/

/-- The text is made of fields, with separators between them and blanks around each. -/
def HasFields (sep : Char) (s : List Char) (fields : List (List Char)) : Prop :=
  ∃ parts, parts ≠ [] ∧ s = [sep].intercalate parts ∧ (∀ part ∈ parts, sep ∉ part) ∧
    List.Forall₂ (fun part field => IsPadded part field ∧ IsTrimmed field) parts fields

theorem joinWith_eq_intercalate (sep : List Char) (parts : List (List Char)) :
    joinWith sep parts = sep.intercalate parts := by
  induction parts with
  | nil => rfl
  | cons part parts ih =>
    cases parts with
    | nil => rw [joinWith, List.intercalate_singleton]
    | cons next parts => rw [List.intercalate_cons_cons, ← ih, joinWith]; simp

/-- Cutting at separators and trimming finds the fields. -/
theorem hasFields_iff {sep : Char} {fields : List (List Char)} :
    HasFields sep s fields ↔ (splitAt sep s).map trim = fields := by
  have htrim (parts : List (List Char)) :
      List.Forall₂ (fun part field => IsPadded part field ∧ IsTrimmed field) parts fields ↔
        parts.map trim = fields := by
    simp only [← trim_eq_iff]
    rw [← List.forall₂_map_left_iff, List.forall₂_eq_eq_eq]
  constructor
  · rintro ⟨parts, hne, rfl, hparts, hfields⟩
    rw [splitAt_intercalate hne hparts]
    exact (htrim parts).1 hfields
  · intro hfields
    refine ⟨splitAt sep s, splitAt_ne_nil sep s, ?_, fun _ => not_mem_of_mem_splitAt, (htrim _).2 hfields⟩
    rw [← joinWith_eq_intercalate, joinWith_splitAt]

/-! ### Numerals -/

/-- One or more decimal digits, and the number that they denote. -/
structure IsDecimal (s : List Char) (n : Nat) : Prop where
  nonempty : s ≠ []
  digits : ∀ c ∈ s, isDigit c = true
  value : n = Nat.ofDigits 10 (s.reverse.map digitValue)

/-- Decimal digits with at most a plus sign in front. -/
def IsUnsigned (s : List Char) (n : Nat) : Prop :=
  IsDecimal s n ∨ ∃ digits, s = '+' :: digits ∧ IsDecimal digits n

theorem digitsValue_eq_ofDigits (s : List Char) :
    digitsValue 0 s = Nat.ofDigits 10 (s.reverse.map digitValue) := by
  rw [Nat.ofDigits_eq_foldr, List.foldr_map, List.foldr_reverse, digitsValue]
  congr 1
  funext n c
  simp [Nat.add_comm]

theorem natOfDigits?_eq_some_iff {n : Nat} : natOfDigits? s = some n ↔ IsDecimal s n := by
  rw [natOfDigits?, digitsValue_eq_ofDigits]
  constructor
  · intro h
    split at h
    · cases h
    next hs =>
      obtain ⟨hne, hdigits⟩ : s ≠ [] ∧ ∀ c ∈ s, isDigit c = true := by simpa using hs
      exact ⟨hne, hdigits, (Option.some.inj h).symm⟩
  · rintro ⟨hne, hdigits, rfl⟩
    rw [if_neg (by simpa using ⟨hne, hdigits⟩)]

theorem IsDecimal.not_plus {n : Nat} {digits : List Char} (h : IsDecimal ('+' :: digits) n) : False := by
  have hplus := h.digits '+' List.mem_cons_self
  cases hplus

theorem IsUnsigned.isDecimal {n : Nat} (h : IsUnsigned s n) (hdigits : ∀ c ∈ s, isDigit c = true) :
    IsDecimal s n := by
  rcases h with h | ⟨digits, rfl, -⟩
  · exact h
  · cases hdigits '+' List.mem_cons_self

theorem isDecimal_toDigits (n : Nat) : IsDecimal (Nat.toDigits 10 n) n :=
  natOfDigits?_eq_some_iff.1 (natOfDigits?_toDigits n)

theorem isDecimal_natPadded (width n : Nat) : IsDecimal (natPadded width n) n where
  nonempty := natPadded_ne_nil width n
  digits := fun _ => isDigit_of_mem_natPadded
  value := by rw [← digitsValue_eq_ofDigits, digitsValue_natPadded]

theorem IsDecimal.append {t : List Char} {m n : Nat} (hs : IsDecimal s m) (ht : IsDecimal t n) :
    IsDecimal (s ++ t) (m * 10 ^ t.length + n) where
  nonempty := List.append_ne_nil_of_left_ne_nil hs.nonempty t
  digits := fun c hc => (List.mem_append.1 hc).elim (hs.digits c) (ht.digits c)
  value := by
    rw [List.reverse_append, List.map_append, Nat.ofDigits_append, ← hs.value, ← ht.value, List.length_map,
      List.length_reverse, Nat.add_comm, Nat.mul_comm]

theorem IsDecimal.append_zero {n : Nat} (h : IsDecimal s n) : IsDecimal (s ++ ['0']) (10 * n) := by
  have hzero : IsDecimal ['0'] 0 := isDecimal_toDigits 0
  rw [Nat.mul_comm]
  exact h.append hzero

theorem wordOfDigits?_eq_some_iff {w : UInt64} :
    (match natOfDigits? s with
      | some n => if n < UInt64.size then some (UInt64.ofNat n) else none
      | none => none) = some w ↔ IsDecimal s w.toNat := by
  have hlt : w.toNat < UInt64.size := w.toNat_lt
  rw [← natOfDigits?_eq_some_iff]
  cases natOfDigits? s with
  | none => simp
  | some n =>
    simp only [Option.some.injEq]
    constructor
    · intro h
      split at h
      next hn => rw [← Option.some.inj h, UInt64.toNat_ofNat_of_lt' hn]
      next => cases h
    · rintro rfl
      rw [if_pos hlt, UInt64.ofNat_toNat]

/-- Words are read off decimals below 2^64. -/
theorem wordOfText?_eq_some_iff {w : UInt64} : wordOfText? s = some w ↔ IsUnsigned s w.toNat := by
  by_cases hplus : ∃ digits, s = '+' :: digits
  · obtain ⟨digits, rfl⟩ := hplus
    refine wordOfDigits?_eq_some_iff.trans ⟨fun h => .inr ⟨digits, rfl, h⟩, ?_⟩
    rintro (h | ⟨other, hother, h⟩)
    · exact h.not_plus.elim
    · rwa [(List.cons.inj hother).2]
  · rw [wordOfText?]
    · refine wordOfDigits?_eq_some_iff.trans ⟨.inl, ?_⟩
      rintro (h | ⟨digits, rfl, -⟩)
      · exact h
      · exact absurd ⟨digits, rfl⟩ hplus
    · exact fun digits h => hplus ⟨digits, h⟩

/-- A decimal below 2^64 is a word. -/
theorem IsDecimal.wordOfText? {n : Nat} (h : IsDecimal s n) (hlt : n < UInt64.size) :
    Text.wordOfText? s = some (UInt64.ofNat n) := by
  rw [wordOfText?_eq_some_iff, UInt64.toNat_ofNat_of_lt' hlt]
  exact .inl h

/-! ### Letters in either case -/

/-- A character that is lower-cased was the result or its capital. -/
theorem eq_of_toLower_eq {c d : Char} (h : c.toLower = d) :
    c = d ∨ 97 ≤ d.toNat ∧ c = Char.ofNat (d.toNat - 32) := by
  unfold Char.toLower at h
  split at h
  next hc =>
    have hlow : 65 ≤ c.toNat := by simpa [UInt32.le_iff_toNat_le] using hc.1
    have hhigh : c.toNat ≤ 90 := by simpa [UInt32.le_iff_toNat_le] using hc.2
    have hd : d.toNat = c.toNat + 32 := by
      rw [← h, ← Char.toNat_val, UInt32.toNat_add, Char.toNat_val]
      exact Nat.mod_eq_of_lt (by simp; omega)
    refine .inr ⟨by omega, ?_⟩
    rw [hd, Nat.add_sub_cancel, Char.ofNat_toNat]
  next => exact .inl h

/-! ### Numbers with a unit -/

/-- The text is a number, blanks and a unit, with blanks around it all. -/
def IsLiteral (s number unit : List Char) : Prop :=
  ∃ gap, (∀ c ∈ gap, isBlank c = true) ∧ IsPadded s (number ++ gap ++ unit)

theorem IsLiteral.subset {number unit : List Char} (h : IsLiteral s number unit) : number ⊆ s := by
  obtain ⟨gap, -, before, after, rfl, -, -⟩ := h
  intro c hc
  simp [hc]

theorem isLiteral_append (number unit : List Char) : IsLiteral (number ++ unit) number unit :=
  ⟨[], by simp, [], [], by simp, by simp, by simp⟩

/-- What is not blank in a literal belongs to the number or to the unit. -/
theorem IsLiteral.mem_or_mem {number unit : List Char} (h : IsLiteral s number unit) {c : Char} (hc : c ∈ s)
    (hblank : isBlank c = false) : c ∈ number ∨ c ∈ unit := by
  obtain ⟨gap, hgap, before, after, rfl, hbefore, hafter⟩ := h
  have hnot {blanks : List Char} (h : ∀ c ∈ blanks, isBlank c = true) : c ∉ blanks := fun hmem => by
    rw [h c hmem] at hblank
    cases hblank
  simpa [hnot hbefore, hnot hafter, hnot hgap] using hc

/-- A trimmed literal starts with the number. Without a unit, trimming takes the gap behind it as well. -/
theorem IsLiteral.exists_trim_eq {number unit : List Char} (h : IsLiteral s number unit)
    (hne : number ≠ []) (hnumber : IsTrimmed number) (hunit : IsTrimmed unit) :
    ∃ rest, trim s = number ++ rest ∧ IsPadded rest unit ∧
      ∀ c ∈ rest.head?, isBlank c = true ∨ c ∈ unit.head? := by
  obtain ⟨gap, hgap, hpadded⟩ := h
  by_cases hnone : unit = []
  · subst hnone
    obtain ⟨before, after, rfl, hbefore, hafter⟩ := hpadded
    refine ⟨[], ?_, ⟨[], [], by simp⟩, by simp⟩
    have hwhole : before ++ (number ++ gap) ++ after = before ++ number ++ (gap ++ after) := by simp
    rw [List.append_nil, List.append_nil, hwhole]
    refine IsPadded.trim_eq ⟨before, gap ++ after, rfl, hbefore, fun c hc => ?_⟩ hnumber
    exact (List.mem_append.1 hc).elim (hgap c) (hafter c)
  · refine ⟨gap ++ unit, ?_, ⟨gap, [], by simp, hgap, by simp⟩, fun c hc => ?_⟩
    · rw [← List.append_assoc]
      refine hpadded.trim_eq ⟨fun c hc => ?_, fun c hc => ?_⟩
      · rw [List.append_assoc, List.head?_append_of_ne_nil _ hne] at hc
        exact hnumber.head c hc
      · rw [List.getLast?_append_of_ne_nil _ hnone] at hc
        exact hunit.last c hc
    · cases gap with
      | nil => exact .inr hc
      | cons d gap =>
        obtain rfl := Option.some.inj hc
        exact .inl (hgap d List.mem_cons_self)

/-- The longest start of a trimmed text with characters of a class is the number of a literal, and what is
left behind it is the unit. -/
theorem isLiteral_iff {inNumber : Char → Bool} (hclass : ∀ c, inNumber c = true → isBlank c = false)
    {number unit : List Char} (hne : number ≠ []) (hnumber : ∀ c ∈ number, inNumber c = true)
    (hunit : IsTrimmed unit) (hhead : ∀ c ∈ unit.head?, inNumber c = false) :
    IsLiteral s number unit ↔
      (trim s).takeWhile inNumber = number ∧ trim ((trim s).dropWhile inNumber) = unit := by
  constructor
  · intro h
    obtain ⟨rest, htrim, hrest, hbehind⟩ :=
      h.exists_trim_eq hne (isTrimmed_of_forall fun c hc => hclass c (hnumber c hc)) hunit
    have hend : ∀ c ∈ rest.head?, inNumber c = false := fun c hc => by
      rcases hbehind c hc with hblank | hc
      · by_contra hclassed
        rw [hclass c (by simpa using hclassed)] at hblank
        cases hblank
      · exact hhead c hc
    rw [htrim, takeWhile_append_of_head hnumber hend, dropWhile_append_of_head hnumber hend]
    exact ⟨rfl, hrest.trim_eq hunit⟩
  · rintro ⟨hstart, hrest⟩
    obtain ⟨before, after, hs, hbefore, hafter⟩ := isPadded_trim s
    obtain ⟨gap, behind, hdrop, hgap, hbehind⟩ := (trim_eq_iff.1 hrest).1
    refine ⟨gap, hgap, before, behind ++ after, ?_, hbefore, fun c hc => ?_⟩
    · rw [hs, ← List.takeWhile_append_dropWhile (p := inNumber) (l := trim s), hstart, hdrop]
      simp
    · exact (List.mem_append.1 hc).elim (hbehind c) (hafter c)

end BlockStorage.Text
