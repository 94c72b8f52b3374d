import BlockStorage.Proofs.Number.Binary64
import BlockStorage.Proofs.Size.Literal

/-!
Size literals with a point.

The number is rounded to binary64, its product with the unit is rounded again, and then the rest of a byte is
cut off. The units themselves are values. So the bytes are those of the exact product only up to two roundings:
a number that the format has, in a unit in which its product fits, is cut as it stands, and a whole number of
bytes is kept if 53 binary digits are enough for it.
-/

namespace BlockStorage.Size

open Text Binary64

/-! ### Numbers with a point -/

/-- Decimal digits with a point before, between or behind them, and the number that they denote. -/
def IsPointed (number : List Char) (x : ℚ) : Prop :=
  ∃ whole fraction n, number = whole ++ '.' :: fraction ∧ IsDecimal (whole ++ fraction) n ∧
    x = n / 10 ^ fraction.length

/-- The text spells a number with a point, of units of so many bytes. -/
def IsSpelledPointed (s : String) (x : ℚ) (bytes : Nat) : Prop :=
  ∃ number unit, IsLiteral s.toList number unit ∧ IsPointed number x ∧ IsUnit (unit.map Char.toLower) bytes

variable {number : List Char} {x : ℚ} {bytes : Nat}

theorem IsPointed.point_mem (h : IsPointed number x) : '.' ∈ number := by
  obtain ⟨whole, fraction, n, rfl, -, -⟩ := h
  simp

theorem IsPointed.inNumber (h : IsPointed number x) : ∀ c ∈ number, inNumber c = true := by
  obtain ⟨whole, fraction, n, rfl, hdecimal, -⟩ := h
  intro c hc
  have hor : c ∈ whole ++ fraction ∨ c = '.' := by
    simp only [List.mem_append, List.mem_cons] at hc ⊢
    tauto
  rcases hor with hdigit | rfl
  · exact Bool.or_eq_true_iff.2 (.inl (hdecimal.digits c hdigit))
  · rfl

theorem IsSpelledPointed.exists_isSpelled {s : String} (h : IsSpelledPointed s x bytes) :
    ∃ number, IsSpelled s number bytes ∧ IsPointed number x := by
  obtain ⟨number, unit, hliteral, hpointed, hbytes⟩ := h
  exact ⟨number, ⟨List.ne_nil_of_mem hpointed.point_mem, hpointed.inNumber, unit, hliteral, hbytes⟩, hpointed⟩

/-- The digits are read as a whole number, over the power of ten for those behind the point. -/
theorem decimalQuotient?_eq_some_iff {num den : Nat} :
    decimalQuotient? number = some (num, den) ↔ ∃ whole fraction, number = whole ++ '.' :: fraction ∧
      IsDecimal (whole ++ fraction) num ∧ den = 10 ^ fraction.length := by
  constructor
  · intro h
    unfold decimalQuotient? at h
    split at h
    next fraction hrest =>
      dsimp only at h
      split at h
      next hfraction =>
        obtain ⟨rfl, rfl⟩ := Prod.mk.inj (Option.some.inj h)
        refine ⟨number.takeWhile isDigit, fraction, ?_, ⟨?_, ?_, digitsValue_eq_ofDigits _⟩, rfl⟩
        · rw [← hrest, List.takeWhile_append_dropWhile]
        · rintro hnil
          simp [List.append_eq_nil_iff.1 hnil] at hfraction
        · intro c hc
          rcases List.mem_append.1 hc with hc | hc
          · exact List.mem_takeWhile_imp hc
          · exact List.all_eq_true.1 (Bool.and_eq_true_iff.1 hfraction).1 c hc
      next => cases h
    next => cases h
  · rintro ⟨whole, fraction, rfl, hdecimal, rfl⟩
    have hwhole : ∀ c ∈ whole, isDigit c = true := fun c hc =>
      hdecimal.digits c (List.mem_append_left _ hc)
    have hfraction : ∀ c ∈ fraction, isDigit c = true := fun c hc =>
      hdecimal.digits c (List.mem_append_right _ hc)
    have hend : ∀ c ∈ ('.' :: fraction).head?, isDigit c = false := by simp; decide
    have hsome : (fraction.all isDigit && !(whole.isEmpty && fraction.isEmpty)) = true := by
      have hne := hdecimal.nonempty
      simp only [Bool.and_eq_true, List.all_eq_true, Bool.not_eq_true', Bool.and_eq_false_iff,
        List.isEmpty_eq_false_iff]
      refine ⟨hfraction, ?_⟩
      by_contra! hnil
      exact hne (by rw [hnil.1, hnil.2]; rfl)
    unfold decimalQuotient?
    simp only [takeWhile_append_of_head hwhole hend, dropWhile_append_of_head hwhole hend, hsome, if_true]
    rw [digitsValue_eq_ofDigits, ← hdecimal.value]
    rfl

theorem IsPointed.unique {y : ℚ} (hx : IsPointed number x) (hy : IsPointed number y) : y = x := by
  obtain ⟨whole, fraction, n, hnumber, hdecimal, rfl⟩ := hx
  obtain ⟨whole', fraction', n', hnumber', hdecimal', rfl⟩ := hy
  have hread := decimalQuotient?_eq_some_iff.2 ⟨whole, fraction, hnumber, hdecimal, rfl⟩
  rw [decimalQuotient?_eq_some_iff.2 ⟨whole', fraction', hnumber', hdecimal', rfl⟩] at hread
  obtain ⟨rfl, hden⟩ := Prod.mk.inj (Option.some.inj hread)
  have hden' : (10 ^ fraction'.length : ℚ) = 10 ^ fraction.length := by exact_mod_cast hden
  rw [hden']

theorem IsSpelledPointed.unique {s : String} {y : ℚ} {otherBytes : Nat} (h : IsSpelledPointed s x bytes)
    (h' : IsSpelledPointed s y otherBytes) : y = x ∧ otherBytes = bytes := by
  obtain ⟨number, hspelled, hx⟩ := h.exists_isSpelled
  obtain ⟨other, hspelled', hy⟩ := h'.exists_isSpelled
  obtain ⟨rfl, hbytes⟩ := hspelled.unique hspelled'
  exact ⟨hx.unique hy, hbytes⟩

theorem IsSpelledPointed.nonneg {s : String} (h : IsSpelledPointed s x bytes) : 0 ≤ x := by
  obtain ⟨number, unit, -, ⟨whole, fraction, n, -, -, rfl⟩, -⟩ := h
  positivity

/-! ### Units as values -/

/-- Units have few digits in front of their last zeros, and are far below the end of the format. -/
theorem IsUnit.bounds {unit : List Char} (h : IsUnit unit bytes) :
    IsValue (bytes : ℚ) ∧ (bytes : ℚ) ≤ 2 ^ 60 := by
  have hpower {power : Nat} {letter : Char} (hletter : scales[power]? = some letter) : power + 1 ≤ 6 :=
    (List.getElem?_eq_some_iff.1 hletter).1
  cases h with
  | single => exact ⟨isValue_natCast_iff.2 ⟨1, 0, by norm_num, rfl⟩, by norm_num⟩
  | @decimal power _ _ hletter =>
    have hfactors : 1000 ^ (power + 1) = 125 ^ (power + 1) * 2 ^ (3 * (power + 1)) := by
      rw [pow_mul, ← mul_pow]
      norm_num
    have hdigits : 125 ^ (power + 1) ≤ 125 ^ 6 := Nat.pow_le_pow_right (by norm_num) (hpower hletter)
    have hle : 1000 ^ (power + 1) ≤ 1000 ^ 6 := Nat.pow_le_pow_right (by norm_num) (hpower hletter)
    exact ⟨isValue_natCast_iff.2 ⟨_, _, hdigits.trans_lt (by norm_num), hfactors⟩,
      by exact_mod_cast hle.trans (by norm_num)⟩
  | @binary power _ _ hletter =>
    have hfactors : 1024 ^ (power + 1) = 1 * 2 ^ (10 * (power + 1)) := by
      rw [pow_mul, one_mul]
      norm_num
    have hle : 1024 ^ (power + 1) ≤ 1024 ^ 6 := Nat.pow_le_pow_right (by norm_num) (hpower hletter)
    exact ⟨isValue_natCast_iff.2 ⟨_, _, by norm_num, hfactors⟩, by exact_mod_cast hle⟩

/-! ### Reading -/

/-- A number with a point is rounded, its product with the unit is rounded as well, and then cut. -/
theorem pointBytes?_eq_some_iff {unit : List Char} (hunit : IsUnit unit bytes) {n : UInt64} :
    pointBytes? number bytes = some n ↔ ∃ x v b, IsPointed number x ∧ Rounds x v ∧ Rounds (v * bytes) b ∧
      n.toNat = ⌊b⌋₊ := by
  obtain ⟨hvalue, hle⟩ := hunit.bounds
  constructor
  · intro h
    obtain ⟨⟨num, den⟩, hquotient, h⟩ := Option.bind_eq_some_iff.1 h
    obtain ⟨value, hnumber, h⟩ := Option.bind_eq_some_iff.1 h
    obtain ⟨factor, hfactor, h⟩ := Option.bind_eq_some_iff.1 h
    obtain ⟨product, hproduct, h⟩ := Option.bind_eq_some_iff.1 h
    split at h
    next hlt =>
      obtain rfl := Option.some.inj h
      obtain ⟨whole, fraction, hdigits, hdecimal, rfl⟩ := decimalQuotient?_eq_some_iff.1 hquotient
      refine ⟨_, value.toRat, product.toRat, ⟨whole, fraction, num, hdigits, hdecimal, rfl⟩, ?_, ?_, ?_⟩
      · simpa using rounds_of_ofQuotient? (by positivity) hnumber
      · rw [← (rounds_of_ofNat? hfactor).eq_of_isValue hvalue]
        exact rounds_of_mul? hproduct
      · rw [UInt64.toNat_ofNat_of_lt' hlt, floor_eq]
    next => cases h
  · rintro ⟨_, v, b, ⟨whole, fraction, num, hdigits, hdecimal, rfl⟩, hv, hb, hn⟩
    have hend : (2 ^ (64 : Int) : ℚ) < 2 ^ (1023 : Int) := zpow_lt_zpow_right₀ one_lt_two (by norm_num)
    -- the result fits, so the numbers before it did
    have hbLt : b < 2 ^ (64 : Int) := by
      have hlt : ⌊b⌋₊ < 2 ^ 64 := hn ▸ n.toNat_lt
      exact_mod_cast Nat.lt_of_floor_lt hlt
    have hvLt : v < 2 ^ (64 : Int) := by
      refine lt_of_le_of_lt ?_ (hb.lt_of_lt (isValue_two_zpow (by norm_num)) hbLt)
      exact le_mul_of_one_le_right hv.isValue.nonneg (by exact_mod_cast hunit.pos)
    have hbytesLt : (bytes : ℚ) < 2 ^ (64 : Int) := hle.trans_lt (by norm_num)
    have hv' : Rounds (num / (10 ^ fraction.length : Nat)) v := by simpa using hv
    obtain ⟨value, hnumber, rfl⟩ := exists_ofQuotient?_of_rounds (by positivity) hv' (hvLt.trans hend)
    obtain ⟨factor, hfactor, hfactorEq⟩ := exists_ofNat?_of_isValue hvalue (hbytesLt.trans hend)
    rw [← hfactorEq] at hb
    obtain ⟨product, hproduct, rfl⟩ := exists_mul?_of_rounds hb (hbLt.trans hend)
    rw [← floor_eq] at hn
    have hquotient := decimalQuotient?_eq_some_iff.2 ⟨whole, fraction, hdigits, hdecimal, rfl⟩
    have hword : n.toNat < UInt64.size := n.toNat_lt
    simp only [pointBytes?, hquotient, hnumber, hfactor, hproduct, ← hn, hword, bind, Option.bind_some, if_true,
      UInt64.ofNat_toNat]

/-- The literals with a point are read by rounding twice. -/
theorem parse_point_iff {s : String} {n : UInt64} (hpoint : '.' ∈ s.toList) :
    parse s = .ok n ↔ ∃ x bytes v b, IsSpelledPointed s x bytes ∧ Rounds x v ∧ Rounds (v * bytes) b ∧
      n.toNat = ⌊b⌋₊ := by
  constructor
  · intro h
    obtain ⟨number, bytes, hspelled, hn⟩ := parse_eq_ok_iff.1 h
    have ⟨_, _, unit, hliteral, hunit⟩ := hspelled
    rw [if_pos (by simpa using hspelled.point_mem hpoint), pointBytes?_eq_some_iff hunit] at hn
    obtain ⟨x, v, b, hpointed, hrounds⟩ := hn
    exact ⟨x, bytes, v, b, ⟨number, unit, hliteral, hpointed, hunit⟩, hrounds⟩
  · rintro ⟨x, bytes, v, b, hspelled, hrounds⟩
    obtain ⟨number, hspelled, hpointed⟩ := hspelled.exists_isSpelled
    have ⟨_, _, unit, hliteral, hunit⟩ := hspelled
    rw [hspelled.parse_eq_ok_iff, if_pos (by simpa using hpointed.point_mem), pointBytes?_eq_some_iff hunit]
    exact ⟨x, v, b, hpointed, hrounds⟩

/-! ### How far from the exact bytes -/

section Twice

variable {v b k : ℚ}

/-- Two roundings with an exact factor between them. -/
theorem twice_rounded (hv : Rounds x v) (hb : Rounds (v * k) b) (hx : 2 ^ (-1022 : Int) ≤ x) (hk : 1 ≤ k) :
    x * k * (1 - 2 ^ (-53 : Int)) ^ 2 ≤ b ∧ b ≤ x * k * (1 + 2 ^ (-53 : Int)) ^ 2 := by
  have hstart : (2 ^ (-1022 : Int) : ℚ) ≤ v := hv.ge_of_ge (isValue_two_zpow (by norm_num)) hx
  have hv0 : 0 ≤ v := hv.isValue.nonneg
  have hproduct : (2 ^ (-1022 : Int) : ℚ) ≤ v * k := hstart.trans (le_mul_of_one_le_right hv0 hk)
  obtain ⟨hvLow, hvHigh⟩ := abs_le.1 (hv.abs_sub_le hx)
  obtain ⟨hbLow, hbHigh⟩ := abs_le.1 (hb.abs_sub_le hproduct)
  have hdown : (0 : ℚ) ≤ 1 - 2 ^ (-53 : Int) := by norm_num
  have hup : (0 : ℚ) ≤ 1 + 2 ^ (-53 : Int) := by norm_num
  constructor
  · calc x * k * (1 - 2 ^ (-53 : Int)) ^ 2 = x * (1 - 2 ^ (-53 : Int)) * k * (1 - 2 ^ (-53 : Int)) := by ring
      _ ≤ v * k * (1 - 2 ^ (-53 : Int)) := by
        gcongr
        linarith
      _ ≤ b := by linarith
  · calc b ≤ v * k * (1 + 2 ^ (-53 : Int)) := by linarith
      _ ≤ x * (1 + 2 ^ (-53 : Int)) * k * (1 + 2 ^ (-53 : Int)) := by
        gcongr
        linarith
      _ = x * k * (1 + 2 ^ (-53 : Int)) ^ 2 := by ring

/-- The bytes are those of the exact product, up to two roundings. Numbers with fewer digits than usual are so
small that nothing is left of them in any unit. -/
theorem floor_twice_rounded (hv : Rounds x v) (hb : Rounds (v * k) b) (hx : 0 ≤ x) (hk : 1 ≤ k)
    (hle : k ≤ 2 ^ 60) :
    ⌊x * k * (1 - 2 ^ (-53 : Int)) ^ 2⌋₊ ≤ ⌊b⌋₊ ∧ ⌊b⌋₊ ≤ ⌊x * k * (1 + 2 ^ (-53 : Int)) ^ 2⌋₊ := by
  rcases le_or_gt (2 ^ (-1022 : Int)) x with hbinade | hbinade
  · obtain ⟨hlow, hhigh⟩ := twice_rounded hv hb hbinade hk
    exact ⟨Nat.floor_le_floor hlow, Nat.floor_le_floor hhigh⟩
  · have hhalf : (2 ^ (-1 : Int) : ℚ) < 1 := by norm_num
    have hsmall {y : ℚ} (hlt : y ≤ 2 ^ (-1022 : Int)) : y * k ≤ 2 ^ (-1 : Int) := by
      calc y * k ≤ 2 ^ (-1022 : Int) * 2 ^ 60 := by gcongr
        _ = 2 ^ (-1022 + (60 : Nat) : Int) := by rw [zpow_add₀ two_ne_zero, zpow_natCast]
        _ ≤ 2 ^ (-1 : Int) := zpow_le_zpow_right₀ one_le_two (by norm_num)
    have hv' : v ≤ 2 ^ (-1022 : Int) := hv.le_of_le (isValue_two_zpow (by norm_num)) hbinade.le
    have hb' : b ≤ 2 ^ (-1 : Int) := hb.le_of_le (isValue_two_zpow (by norm_num)) (hsmall hv')
    have hdown : x * k * (1 - 2 ^ (-53 : Int)) ^ 2 ≤ x * k :=
      mul_le_of_le_one_right (by positivity) (by norm_num)
    rw [Nat.floor_eq_zero.2 (hb'.trans_lt hhalf),
      Nat.floor_eq_zero.2 ((hdown.trans (hsmall hbinade.le)).trans_lt hhalf)]
    exact ⟨le_rfl, Nat.zero_le _⟩

/-- Below 2^51, two roundings are less than one. -/
theorem floor_within_one {q : ℚ} (hq : 0 ≤ q) (hlt : q < 2 ^ 51) :
    ⌊q⌋₊ ≤ ⌊q * (1 - 2 ^ (-53 : Int)) ^ 2⌋₊ + 1 ∧ ⌊q * (1 + 2 ^ (-53 : Int)) ^ 2⌋₊ ≤ ⌊q⌋₊ + 1 := by
  have hdown : (0 : ℚ) ≤ q * (1 - 2 ^ (-53 : Int)) ^ 2 := by positivity
  rw [← Nat.floor_add_one hdown, ← Nat.floor_add_one hq]
  constructor <;> refine Nat.floor_le_floor ?_ <;> norm_num <;> linarith

end Twice

/-! ### Whole numbers with a point -/

/-- A point and a zero behind a whole number are read as the same number. -/
theorem isPointed_append_zero {n : Nat} (h : IsDecimal number n) : IsPointed (number ++ ['.', '0']) n := by
  refine ⟨number, ['0'], 10 * n, rfl, h.append_zero, ?_⟩
  rw [Nat.cast_mul, List.length_singleton, pow_one]
  exact (mul_div_cancel_left₀ _ (by norm_num)).symm

/-- A whole number of bytes is read again with a point and a zero behind it if 53 binary digits are enough. -/
theorem parse_append_zero_iff {whole s : String} {n : UInt64} (h : IsSpelled whole number bytes)
    (hnone : '.' ∉ number) (hs : IsSpelled s (number ++ ['.', '0']) bytes) (hn : parse whole = .ok n) :
    parse s = .ok n ↔ IsValue (n.toNat : ℚ) := by
  obtain ⟨k, hdecimal, htotal⟩ := (h.parse_whole_iff hnone).1 hn
  have ⟨_, _, unit, _, hunit⟩ := hs
  rw [hs.parse_eq_ok_iff, if_pos (by simp), pointBytes?_eq_some_iff hunit]
  constructor
  · rintro ⟨x, v, b, -, -, hb, hfloor⟩
    rw [hfloor]
    exact hb.isValue.floor
  · intro hvalue
    rw [htotal] at hvalue
    have hk : IsValue (k : ℚ) := by
      rcases k.eq_zero_or_pos with rfl | hpos
      · exact_mod_cast isValue_zero
      · exact hvalue.of_dvd (Dvd.intro _ rfl) (Nat.mul_pos hpos hunit.pos).ne'
    refine ⟨k, k, (k * bytes : Nat), isPointed_append_zero hdecimal, .self hk, ?_, ?_⟩
    · rw [← Nat.cast_mul]
      exact .self hvalue
    · rw [htotal, Nat.floor_natCast]

/-! ### The bytes of a number with a point -/

/-- What a literal with a point is read as: the number rounded, times the unit, rounded again and cut. So it is
within two roundings of the exact bytes, and by at most one byte off below 2^51. It is cut from the exact bytes
if neither the number nor its product has to be rounded. With a point and a zero behind it, a whole number is
read as before exactly if its bytes have at most 53 binary digits in front of their last zeros. -/
theorem point_numbers_rounded (s : String) (hpoint : '.' ∈ s.toList) :
    (∀ n, parse s = .ok n ↔ ∃ x bytes v b, IsSpelledPointed s x bytes ∧ Rounds x v ∧ Rounds (v * bytes) b ∧
      n.toNat = ⌊b⌋₊) ∧
    (∀ n x bytes, IsSpelledPointed s x bytes → parse s = .ok n →
      let total := x * bytes
      (⌊total * (1 - 2 ^ (-53 : Int)) ^ 2⌋₊ ≤ n.toNat ∧ n.toNat ≤ ⌊total * (1 + 2 ^ (-53 : Int)) ^ 2⌋₊) ∧
        (total < 2 ^ 51 → ⌊total⌋₊ ≤ n.toNat + 1 ∧ n.toNat ≤ ⌊total⌋₊ + 1) ∧
        (IsValue x → IsValue total → n.toNat = ⌊total⌋₊)) ∧
    ∀ whole number bytes n, IsSpelled whole number bytes → '.' ∉ number →
      IsSpelled s (number ++ ['.', '0']) bytes → parse whole = .ok n →
        (parse s = .ok n ↔ ∃ m k : Nat, m < 2 ^ 53 ∧ n.toNat = m * 2 ^ k) := by
  refine ⟨fun n => parse_point_iff hpoint, ?_, ?_⟩
  · intro n x bytes hspelled hn total
    have ⟨_, _, _, _, hunit⟩ := hspelled
    obtain ⟨x', bytes', v, b, hspelled', hv, hb, hfloor⟩ := (parse_point_iff hpoint).1 hn
    obtain ⟨rfl, rfl⟩ := hspelled.unique hspelled'
    have hk : 1 ≤ (bytes' : ℚ) := by exact_mod_cast hunit.pos
    have hbounds := floor_twice_rounded hv hb hspelled.nonneg hk hunit.bounds.2
    rw [← hfloor] at hbounds
    refine ⟨hbounds, fun hlt => ?_, fun hx htotal => ?_⟩
    · obtain ⟨hdown, hup⟩ := floor_within_one (mul_nonneg hspelled.nonneg (Nat.cast_nonneg _)) hlt
      exact ⟨hdown.trans (Nat.add_le_add_right hbounds.1 1), hbounds.2.trans hup⟩
    · obtain rfl := hv.eq_of_isValue hx
      rw [hfloor, hb.eq_of_isValue htotal]
  · intro whole number bytes n hwhole hnone hs hn
    rw [parse_append_zero_iff hwhole hnone hs hn, isValue_natCast_iff]

/-- One and a half kibibytes are cut exactly, and three may have a point. -/
theorem point_numbers_rounded_kibibytes :
    (parse "1.5KiB" = .ok 1536 ∧ IsSpelledPointed "1.5KiB" (3 / 2) 1024 ∧ 1536 = ⌊(3 / 2 * 1024 : ℚ)⌋₊) ∧
      parse "3KiB" = .ok 3072 ∧ parse "3.0KiB" = .ok 3072 := by
  have hread : parse "1.5KiB" = .ok 1536 := by decide +kernel
  have hwhole : parse "3KiB" = .ok 3072 := by decide +kernel
  have hunit : IsUnit ("KiB".toList.map Char.toLower) (1024 ^ 1) := .binary rfl (.inr rfl)
  have hspelled : IsSpelledPointed "1.5KiB" (3 / 2) 1024 := by
    refine ⟨_, _, isLiteral_append "1.5".toList "KiB".toList, ⟨['1'], ['5'], 15, rfl, ?_, by norm_num⟩, hunit⟩
    exact ⟨by decide, List.all_eq_true.1 rfl, by decide⟩
  have hplain : IsSpelled "3KiB" ['3'] 1024 :=
    ⟨by decide, List.all_eq_true.1 rfl, _, isLiteral_append "3".toList "KiB".toList, hunit⟩
  have hdotted : IsSpelled "3.0KiB" ['3', '.', '0'] 1024 :=
    ⟨by decide, List.all_eq_true.1 rfl, _, isLiteral_append "3.0".toList "KiB".toList, hunit⟩
  refine ⟨⟨hread, hspelled, ?_⟩, hwhole, ?_⟩
  · obtain ⟨-, -, hexact⟩ := (point_numbers_rounded "1.5KiB" (by decide)).2.1 1536 _ _ hspelled hread
    refine hexact ⟨3, -1, by norm_num, by norm_num, by norm_num⟩ ?_
    exact ⟨3, 9, by norm_num, by norm_num, by norm_num⟩
  · refine ((point_numbers_rounded "3.0KiB" (by decide)).2.2 _ _ _ 3072 hplain (by decide) hdotted hwhole).2 ?_
    exact ⟨3, 10, by norm_num, rfl⟩

/-- The bytes can be one less than those of the exact product, or one more, and a point and a zero behind a
whole number can cost a byte or the whole literal. -/
theorem point_numbers_not_cut :
    (parse "1.005mb" = .ok 1004999 ∧ IsSpelledPointed "1.005mb" (1005 / 1000) (1000 ^ 2) ∧
      ⌊(1005 / 1000 * 1000 ^ 2 : ℚ)⌋₊ = 1005000) ∧
    (parse "1.9999999999999999" = .ok 2 ∧
      IsSpelledPointed "1.9999999999999999" (19999999999999999 / 10 ^ 16) 1 ∧
      ⌊(19999999999999999 / 10 ^ 16 * 1 : ℚ)⌋₊ = 1) ∧
    (parse "9007199254740993" = .ok 9007199254740993 ∧
      parse "9007199254740993.0" = .ok 9007199254740992) ∧
    parse "18446744073709551615" = .ok 18446744073709551615 ∧
      parse "18446744073709551615.0" = .error (.invalidSize "18446744073709551615.0") := by
  have hmega : IsSpelledPointed "1.005mb" (1005 / 1000) (1000 ^ 2) := by
    refine ⟨_, _, isLiteral_append "1.005".toList "mb".toList, ?_, .decimal rfl (.inr rfl)⟩
    exact ⟨['1'], ['0', '0', '5'], 1005, rfl, ⟨by decide, List.all_eq_true.1 rfl, by decide⟩, by norm_num⟩
  have hbytes : IsSpelledPointed "1.9999999999999999" (19999999999999999 / 10 ^ 16) 1 := by
    refine ⟨_, _, isLiteral_append "1.9999999999999999".toList [], ?_, .single (.inl rfl)⟩
    exact ⟨['1'], List.replicate 16 '9', 19999999999999999, rfl, ⟨by decide, List.all_eq_true.1 rfl, by decide⟩,
      by norm_num⟩
  refine ⟨⟨by decide +kernel, hmega, ?_⟩, ⟨by decide +kernel, hbytes, ?_⟩, ?_⟩
  · rw [Nat.floor_eq_iff (by norm_num)]
    norm_num
  · rw [Nat.floor_eq_iff (by norm_num)]
    norm_num
  · exact ⟨⟨by decide +kernel, by decide +kernel⟩, by decide +kernel, by decide +kernel⟩

end BlockStorage.Size
