import BlockStorage.Number.Binary64
import Mathlib.Algebra.Order.Field.Power
import Mathlib.Algebra.Order.Floor.Semifield
import Mathlib.Algebra.Ring.Parity
import Mathlib.Data.Nat.Factorization.Basic
import Mathlib.Data.Rat.Floor
import Mathlib.Tactic.Linarith
import Mathlib.Tactic.NormNum
import Mathlib.Tactic.Positivity
import Mathlib.Tactic.Ring

/-!
Rounding to binary64, over the rational numbers.

A number is rounded to the nearest of those with 53 binary digits and no digit below 2^-1074, and halfway
between two to the one whose last digit is even. The digits end at the last place: all numbers of the format
with a higher place are multiples of it, and all others are below the binade of the number that is rounded. So
it is enough to round to the nearest multiple.
-/

namespace BlockStorage.Binary64

/-! ### Values -/

/-- The number that a value is. -/
def toRat (x : Binary64) : ℚ := x.mantissa * 2 ^ x.exponent

/-- The numbers with 53 binary digits, of which none is below 2^-1074. -/
def IsValue (q : ℚ) : Prop :=
  ∃ (m : Nat) (e : Int), m < 2 ^ 53 ∧ -1074 ≤ e ∧ q = m * 2 ^ e

/-- The last of the 53 binary digits is even, or the one at 2^-1074. -/
def IsEven (q : ℚ) : Prop :=
  ∃ (m : Nat) (e : Int), Even m ∧ m < 2 ^ 53 ∧ (e = -1074 ∨ -1074 < e ∧ 2 ^ 52 ≤ m) ∧ q = m * 2 ^ e

/-- The second number is the first after rounding: no value is nearer, and if another is as near, this one is
even. -/
structure Rounds (q y : ℚ) : Prop where
  isValue : IsValue y
  nearest : ∀ z, IsValue z → |q - y| ≤ |q - z|
  even : ∀ z, IsValue z → z ≠ y → |q - z| = |q - y| → IsEven y

theorem IsValue.nonneg {q : ℚ} (h : IsValue q) : 0 ≤ q := by
  obtain ⟨m, e, -, -, rfl⟩ := h
  positivity

theorem isValue_zero : IsValue 0 := ⟨0, 0, by norm_num, by norm_num, by simp⟩

theorem isValue_two_zpow {e : Int} (he : -1074 ≤ e) : IsValue (2 ^ e) :=
  ⟨1, e, by norm_num, he, by simp⟩

/-- A number is whole, or it is less than its digits are without the point. -/
theorem eq_natCast_or_le (m : Nat) (e : Int) :
    (∃ k : Nat, (m * 2 ^ e : ℚ) = (m * 2 ^ k : Nat)) ∨ (m * 2 ^ e : ℚ) ≤ m := by
  rcases le_total 0 e with he | he
  · obtain ⟨k, rfl⟩ := Int.eq_ofNat_of_zero_le he
    exact .inl ⟨k, by push_cast; rfl⟩
  · exact .inr (mul_le_of_le_one_right (Nat.cast_nonneg m) (zpow_le_one_of_nonpos₀ one_le_two he))

/-- A whole number is a value if 53 binary digits are enough in front of its last zeros. -/
theorem isValue_natCast_iff {n : Nat} : IsValue n ↔ ∃ m k : Nat, m < 2 ^ 53 ∧ n = m * 2 ^ k := by
  constructor
  · rintro ⟨m, e, hm, -, hn⟩
    rcases eq_natCast_or_le m e with ⟨k, hk⟩ | hle
    · exact ⟨m, k, hm, Nat.cast_injective (hn.trans hk)⟩
    · exact ⟨n, 0, (Nat.cast_le.1 (hn.trans_le hle)).trans_lt hm, by simp⟩
  · rintro ⟨m, k, hm, rfl⟩
    exact ⟨m, k, hm, by omega, by push_cast; rfl⟩

/-- A divisor has no more digits: what of it is odd divides the digits of the number. -/
theorem IsValue.of_dvd {n l : Nat} (h : IsValue l) (hdvd : n ∣ l) (hl : l ≠ 0) : IsValue n := by
  obtain ⟨m, k, hm, rfl⟩ := isValue_natCast_iff.1 h
  obtain ⟨t, o, ho, rfl⟩ := Nat.exists_eq_two_pow_mul_odd (ne_zero_of_dvd_ne_zero hl hdvd)
  have hodd : o ∣ m := (ho.coprime_two_right.pow_right k).dvd_of_dvd_mul_right ((Dvd.intro_left _ rfl).trans hdvd)
  have hle : o ≤ m := Nat.le_of_dvd (Nat.pos_of_ne_zero (left_ne_zero_of_mul hl)) hodd
  exact isValue_natCast_iff.2 ⟨o, t, hle.trans_lt hm, Nat.mul_comm _ _⟩

/-- Cutting a value to a whole number leaves a value. -/
theorem IsValue.floor {q : ℚ} (h : IsValue q) : IsValue (⌊q⌋₊ : ℚ) := by
  obtain ⟨m, e, hm, -, rfl⟩ := h
  rcases eq_natCast_or_le m e with ⟨k, hk⟩ | hle
  · rw [hk, Nat.floor_natCast]
    exact isValue_natCast_iff.2 ⟨m, k, hm, rfl⟩
  · exact isValue_natCast_iff.2 ⟨_, 0, (Nat.floor_le_of_le hle).trans_lt hm, by simp⟩

/-! ### Places -/

/-- A number is a multiple of every place below its own. -/
theorem mul_two_zpow_add (m j : Nat) (e : Int) : (m * 2 ^ (e + j) : ℚ) = (m * 2 ^ j : Nat) * 2 ^ e := by
  rw [zpow_add₀ two_ne_zero, zpow_natCast]
  push_cast
  ring

/-- A value with a lower place is below the binade. -/
theorem lt_of_place_lt {m : Nat} {f e : Int} (hm : m < 2 ^ 53) (hf : f < e) :
    (m * 2 ^ f : ℚ) < 2 ^ (e + 52) := by
  have hm' : (m : ℚ) < 2 ^ (53 : Int) := by exact_mod_cast hm
  calc (m * 2 ^ f : ℚ) < 2 ^ (53 : Int) * 2 ^ f := by gcongr
    _ = 2 ^ (53 + f) := (zpow_add₀ two_ne_zero _ _).symm
    _ ≤ 2 ^ (e + 52) := zpow_le_zpow_right₀ one_le_two (by omega)

/-- No value from a number with all its digits on has a lower place. -/
theorem place_le {m k : Nat} {e f : Int} (hplace : e = -1074 ∨ -1074 < e ∧ 2 ^ 52 ≤ m) (hk : k < 2 ^ 53)
    (hlowest : -1074 ≤ f) (hle : (m * 2 ^ e : ℚ) ≤ k * 2 ^ f) : e ≤ f := by
  by_contra! hlower
  have hdigits : 2 ^ 52 ≤ m := by omega
  have hbinade : (2 ^ (e + 52) : ℚ) ≤ m * 2 ^ e := by
    rw [zpow_add₀ two_ne_zero, mul_comm]
    gcongr
    exact_mod_cast hdigits
  linarith [lt_of_place_lt hk hlower]

/-- Between two even values there is another one. -/
theorem IsEven.exists_between {y z : ℚ} (hy : IsEven y) (hz : IsEven z) (hlt : y < z) :
    ∃ w, IsValue w ∧ y < w ∧ w < z := by
  obtain ⟨m, e, hm, hdigits, hplace, rfl⟩ := hy
  obtain ⟨k, f, hk, hkdigits, hkplace, rfl⟩ := hz
  have hpos : (0 : ℚ) < 2 ^ e := by positivity
  obtain ⟨j, rfl⟩ := Int.le.dest (place_le hplace hkdigits (by omega) hlt.le)
  rw [mul_two_zpow_add] at hlt ⊢
  have hmk : m < k * 2 ^ j := Nat.cast_lt.1 (lt_of_mul_lt_mul_right hlt hpos.le)
  -- both are even multiples of the lower place
  have hmk' : m + 1 < k * 2 ^ j := by
    obtain ⟨a, rfl⟩ := hm
    obtain ⟨b, hb⟩ := hk.mul_right (2 ^ j)
    omega
  have hm' : m + 1 < 2 ^ 53 := by
    obtain ⟨a, rfl⟩ := hm
    omega
  refine ⟨(m + 1 : Nat) * 2 ^ e, ⟨m + 1, e, hm', by omega, rfl⟩, ?_, ?_⟩
  · exact mul_lt_mul_of_pos_right (Nat.cast_lt.2 m.lt_succ_self) hpos
  · exact mul_lt_mul_of_pos_right (Nat.cast_lt.2 hmk') hpos

namespace Rounds

variable {q y z : ℚ}

theorem self (hq : IsValue q) : Rounds q q where
  isValue := hq
  nearest := fun z _ => by simp
  even := fun z _ hne has => by
    rw [sub_self, abs_zero, abs_eq_zero, sub_eq_zero] at has
    exact absurd has.symm hne

/-- A value is kept. -/
theorem eq_of_isValue (h : Rounds q y) (hq : IsValue q) : y = q := by
  have hzero := h.nearest q hq
  rw [sub_self, abs_zero] at hzero
  linarith [abs_nonpos_iff.1 hzero]

/-- Rounding does not pass a value. -/
theorem le_of_le (h : Rounds q y) (hz : IsValue z) (hle : q ≤ z) : y ≤ z := by
  by_contra! hlt
  have hnear := h.nearest z hz
  rw [abs_of_nonpos (by linarith), abs_of_nonpos (by linarith)] at hnear
  linarith

theorem ge_of_ge (h : Rounds q y) (hz : IsValue z) (hle : z ≤ q) : z ≤ y := by
  by_contra! hlt
  have hnear := h.nearest z hz
  rw [abs_of_nonneg (by linarith), abs_of_nonneg (by linarith)] at hnear
  linarith

theorem lt_of_lt (h : Rounds q y) (hz : IsValue z) (hlt : y < z) : q < z :=
  lt_of_not_ge fun hle => absurd hlt (not_lt.2 (h.ge_of_ge hz hle))

theorem eq_of_le (hy : Rounds q y) (hz : Rounds q z) (hle : y ≤ z) : y = z := by
  by_contra hne
  have hlt : y < z := lt_of_le_of_ne hle hne
  have has : |q - y| = |q - z| := le_antisymm (hy.nearest z hz.isValue) (hz.nearest y hy.isValue)
  have hyEven : IsEven y := hy.even z hz.isValue (Ne.symm hne) has.symm
  have hzEven : IsEven z := hz.even y hy.isValue hne has
  obtain ⟨w, hw, hyw, hwz⟩ := hyEven.exists_between hzEven hlt
  -- the number is in the middle, so that what lies between is nearer
  have hmiddle : q - y = z - q := by
    rcases abs_eq_abs.1 has with h | h <;> linarith
  have hnear := hy.nearest w hw
  rw [abs_of_nonneg (by linarith : 0 ≤ q - y)] at hnear
  exact absurd hnear (not_le.2 (abs_lt.2 ⟨by linarith, by linarith⟩))

/-- There is one number after rounding. -/
theorem unique (hy : Rounds q y) (hz : Rounds q z) : y = z := by
  rcases le_total y z with h | h
  · exact hy.eq_of_le hz h
  · exact (hz.eq_of_le hy h).symm

/-- Rounding keeps the order: of two results the wrong way round, each number would be nearer to the other's. -/
theorem mono {p : ℚ} (hy : Rounds q y) (hz : Rounds p z) (hle : q ≤ p) : y ≤ z := by
  by_contra! hlt
  have hleft : (q - y) ^ 2 ≤ (q - z) ^ 2 := sq_le_sq.2 (hy.nearest z hz.isValue)
  have hright : (p - z) ^ 2 ≤ (p - y) ^ 2 := sq_le_sq.2 (hz.nearest y hy.isValue)
  have hscaled : (y - z) * p ≤ (y - z) * q := by linarith
  obtain rfl : q = p := le_antisymm hle (le_of_mul_le_mul_left hscaled (sub_pos.2 hlt))
  exact hlt.ne' (hy.unique hz)

end Rounds

/-! ### Rounding to whole numbers -/

theorem div_eq_add_mod_div {num den : Nat} (hden : 0 < den) :
    (num / den : ℚ) = (num / den : Nat) + (num % den : Nat) / (den : ℚ) := by
  have hne : (den : ℚ) ≠ 0 := by positivity
  rw [div_eq_iff hne, add_mul, div_mul_cancel₀ _ hne]
  exact_mod_cast (Nat.div_add_mod' num den).symm

theorem div_lt_half_iff {num den : Nat} (hden : 0 < den) : (num / den : ℚ) < 1 / 2 ↔ 2 * num < den := by
  rw [div_lt_div_iff₀ (Nat.cast_pos.2 hden) two_pos, one_mul, mul_comm]
  exact_mod_cast Iff.rfl

theorem half_lt_div_iff {num den : Nat} (hden : 0 < den) : (1 / 2 : ℚ) < num / den ↔ den < 2 * num := by
  rw [div_lt_div_iff₀ two_pos (Nat.cast_pos.2 hden), one_mul, mul_comm]
  exact_mod_cast Iff.rfl

/-- The whole number is at most a half away, and even if it is a half. -/
theorem roundHalfEven_spec {num den : Nat} (hden : 0 < den) :
    |(num / den : ℚ) - roundHalfEven num den| ≤ 1 / 2 ∧
      (|(num / den : ℚ) - roundHalfEven num den| = 1 / 2 → Even (roundHalfEven num den)) := by
  have hfraction : (0 : ℚ) ≤ (num % den : Nat) / (den : ℚ) := by positivity
  have hbelow : ((num % den : Nat) / (den : ℚ) : ℚ) < 1 :=
    (div_lt_one (Nat.cast_pos.2 hden)).2 (Nat.cast_lt.2 (Nat.mod_lt num hden))
  rw [div_eq_add_mod_div hden]
  simp only [roundHalfEven]
  split
  next hlow =>
    have hlt := (div_lt_half_iff hden).2 hlow
    rw [add_sub_cancel_left, abs_of_nonneg hfraction]
    exact ⟨hlt.le, fun h => absurd h hlt.ne⟩
  next hlow =>
    split
    next hhigh =>
      have hlt := (half_lt_div_iff hden).2 hhigh
      rw [Nat.cast_add_one, add_sub_add_left_eq_sub, abs_of_nonpos (by linarith)]
      exact ⟨by linarith, fun h => by linarith⟩
    next hhigh =>
      have heq : ((num % den : Nat) / (den : ℚ) : ℚ) = 1 / 2 :=
        le_antisymm (not_lt.1 (mt (half_lt_div_iff hden).1 hhigh)) (not_lt.1 (mt (div_lt_half_iff hden).1 hlow))
      rw [heq]
      split
      next heven =>
        rw [add_sub_cancel_left]
        exact ⟨by norm_num, fun _ => Nat.even_iff.2 heven⟩
      next hodd =>
        rw [Nat.cast_add_one, add_sub_add_left_eq_sub]
        exact ⟨by norm_num, fun _ => Nat.even_iff.2 (by omega)⟩

/-- Rounding to whole numbers keeps the order as well: of two results the wrong way round, both would be a half
away and even, and they would be neighbours. -/
theorem roundHalfEven_mono {num den num' den' : Nat} (hden : 0 < den) (hden' : 0 < den')
    (h : (num / den : ℚ) ≤ num' / den') : roundHalfEven num den ≤ roundHalfEven num' den' := by
  obtain ⟨hnear, heven⟩ := @roundHalfEven_spec num den hden
  obtain ⟨hnear', heven'⟩ := @roundHalfEven_spec num' den' hden'
  generalize roundHalfEven num den = m at *
  generalize roundHalfEven num' den' = k at *
  by_contra! hlt
  have hstep : (k : ℚ) + 1 ≤ m := by exact_mod_cast hlt
  have hlow := (abs_le.1 hnear).1
  have hhigh := (abs_le.1 hnear').2
  have hm : Even m := heven (by rw [abs_of_nonpos (by linarith)]; linarith)
  have hk : Even k := heven' (by rw [abs_of_nonneg (by linarith)]; linarith)
  have hneighbours : m = k + 1 := by
    have hle : (m : ℚ) ≤ k + 1 := by linarith
    exact le_antisymm (by exact_mod_cast hle) hlt
  rw [hneighbours] at hm
  exact Nat.not_even_iff_odd.2 hk.add_one hm

/-- Every other whole number is at least a half away. -/
theorem half_le_abs_sub {t : ℚ} {m k : Nat} (hm : |t - m| ≤ 1 / 2) (hne : k ≠ m) : 1 / 2 ≤ |t - k| := by
  have hone : (1 : ℚ) ≤ |(k : ℚ) - m| := by
    exact_mod_cast Int.one_le_abs (sub_ne_zero.2 (Nat.cast_injective.ne hne))
  have htriangle : |(k : ℚ) - m| ≤ |t - m| + |t - k| := by
    have hsplit : (k : ℚ) - m = (t - m) - (t - k) := by ring
    rw [hsplit]
    exact abs_sub _ _
  linarith

/-! ### The last place -/

section Place

variable {q : ℚ}

/-- Distances to multiples of the place. -/
theorem abs_sub_multiple (k : ℚ) (e : Int) : |q - k * 2 ^ e| = |q / 2 ^ e - k| * 2 ^ e := by
  have hpos : (0 : ℚ) < 2 ^ e := by positivity
  calc |q - k * 2 ^ e| = |(q / 2 ^ e - k) * 2 ^ e| := by rw [sub_mul, div_mul_cancel₀ _ hpos.ne']
    _ = |q / 2 ^ e - k| * 2 ^ e := by rw [abs_mul, abs_of_pos hpos]

theorem abs_sub_le_of_multiple {m : Nat} {e : Int} (herror : |q / 2 ^ e - m| ≤ 1 / 2) (k : Nat) :
    |q - m * 2 ^ e| ≤ |q - k * 2 ^ e| := by
  rw [abs_sub_multiple, abs_sub_multiple]
  by_cases hk : k = m
  · rw [hk]
  · exact mul_le_mul_of_nonneg_right (herror.trans (half_le_abs_sub herror hk)) (by positivity)

/-- The mantissa in the last place has all its digits, and may have one more. -/
theorem mantissa_bounds {m : Nat} {e : Int} (hlt : q < 2 ^ (e + 53))
    (hle : -1074 < e → 2 ^ (e + 52) ≤ q) (herror : |q / 2 ^ e - m| ≤ 1 / 2) :
    m ≤ 2 ^ 53 ∧ (-1074 < e → 2 ^ 52 ≤ m) := by
  have hpos : (0 : ℚ) < 2 ^ e := by positivity
  obtain ⟨hlow, hhigh⟩ := abs_le.1 herror
  constructor
  · have hscaled : q / 2 ^ e < 2 ^ 53 := by
      rw [div_lt_iff₀ hpos]
      rwa [zpow_add₀ two_ne_zero, mul_comm] at hlt
    have hm : (m : ℚ) < (2 ^ 53 + 1 : Nat) := by
      push_cast
      linarith
    exact Nat.lt_succ_iff.1 (Nat.cast_lt.1 hm)
  · intro hplace
    have hscaled : 2 ^ 52 ≤ q / 2 ^ e := by
      rw [le_div_iff₀ hpos]
      have hbinade := hle hplace
      rwa [zpow_add₀ two_ne_zero, mul_comm] at hbinade
    have hm : ((2 ^ 52 : Nat) : ℚ) < (m + 1 : Nat) := by
      push_cast
      linarith
    exact Nat.lt_succ_iff.1 (Nat.cast_lt.1 hm)

/-- A number is rounded in its last place, to the nearest multiple, and halfway to the even one. -/
theorem Rounds.of_place {m : Nat} {e : Int} (hlowest : -1074 ≤ e) (hlt : q < 2 ^ (e + 53))
    (hle : -1074 < e → 2 ^ (e + 52) ≤ q) (herror : |q / 2 ^ e - m| ≤ 1 / 2)
    (heven : |q / 2 ^ e - m| = 1 / 2 → Even m) : Rounds q (m * 2 ^ e) := by
  have hpos : (0 : ℚ) < 2 ^ e := by positivity
  obtain ⟨hm, hdigits⟩ := mantissa_bounds hlt hle herror
  have hcarry : ((2 ^ 53 : Nat) * 2 ^ e : ℚ) = (2 ^ 52 : Nat) * 2 ^ (e + 1) := by
    rw [zpow_add_one₀ two_ne_zero]
    push_cast
    ring
  -- what is below the binade is farther than its start, which is a multiple
  have hlower {z : ℚ} (hz : z < 2 ^ (e + 52)) (hplace : -1074 < e) : |q - m * 2 ^ e| < |q - z| := by
    have hbinade := hle hplace
    have hstart : (2 ^ (e + 52) : ℚ) = (2 ^ 52 : Nat) * 2 ^ e := by
      rw [zpow_add₀ two_ne_zero, mul_comm]
      norm_num
    refine (abs_sub_le_of_multiple herror (2 ^ 52)).trans_lt ?_
    rw [← hstart, abs_of_nonneg (by linarith), abs_of_nonneg (by linarith)]
    linarith
  refine ⟨?_, ?_, ?_⟩
  · rcases hm.lt_or_eq with hm | rfl
    · exact ⟨m, e, hm, hlowest, rfl⟩
    · exact ⟨2 ^ 52, e + 1, by norm_num, by omega, hcarry⟩
  · rintro z ⟨k, f, hk, hf, rfl⟩
    rcases lt_or_ge f e with hfe | hfe
    · exact (hlower (lt_of_place_lt hk hfe) (by omega)).le
    · obtain ⟨j, rfl⟩ := Int.le.dest hfe
      rw [mul_two_zpow_add]
      exact abs_sub_le_of_multiple herror _
  · rintro z ⟨k, f, hk, hf, rfl⟩ hne has
    have hhalf : |q / 2 ^ e - m| = 1 / 2 := by
      rcases lt_or_ge f e with hfe | hfe
      · exact absurd has (hlower (lt_of_place_lt hk hfe) (by omega)).ne'
      · obtain ⟨j, rfl⟩ := Int.le.dest hfe
        rw [mul_two_zpow_add] at hne has
        have hother : k * 2 ^ j ≠ m := fun h => hne (by rw [h])
        rw [abs_sub_multiple, abs_sub_multiple] at has
        exact le_antisymm herror (mul_right_cancel₀ hpos.ne' has ▸ half_le_abs_sub herror hother)
    rcases hm.lt_or_eq with hm | rfl
    · exact ⟨m, e, heven hhalf, hm, by omega, rfl⟩
    · exact ⟨2 ^ 52, e + 1, by decide, by norm_num, by omega, hcarry⟩

end Place

/-! ### Quotients -/

theorem scaleDown_spec (num : Nat) {den : Nat} (hden : 0 < den) (e : Int) :
    0 < (scaleDown num den e).2 ∧
      ((scaleDown num den e).1 / (scaleDown num den e).2 : ℚ) = num / den / 2 ^ e := by
  cases e with
  | ofNat k =>
    refine ⟨by simp only [scaleDown, Nat.pow_eq]; positivity, ?_⟩
    simp only [scaleDown, Nat.pow_eq, Int.ofNat_eq_natCast, zpow_natCast]
    push_cast
    rw [div_div]
  | negSucc k =>
    refine ⟨hden, ?_⟩
    simp only [scaleDown, Nat.pow_eq, zpow_negSucc]
    push_cast
    rw [div_inv_eq_mul, div_mul_eq_mul_div]

theorem quotient_spec (x : Binary64) :
    0 < x.quotient.2 ∧ (x.quotient.1 / x.quotient.2 : ℚ) = x.toRat := by
  obtain ⟨hpos, heq⟩ := scaleDown_spec x.mantissa Nat.one_pos (-x.exponent)
  refine ⟨hpos, heq.trans ?_⟩
  rw [toRat, zpow_neg, div_inv_eq_mul, Nat.cast_one, div_one]

/-- A value is cut to a whole number. -/
theorem floor_eq (x : Binary64) : x.floor = ⌊x.toRat⌋₊ := by
  rw [← (quotient_spec x).2, Nat.floor_div_eq_div]
  rfl

variable {num den : Nat} {x y z : Binary64}

/-- The lengths of the two numbers tell their quotient up to two binades. -/
theorem div_log2_bounds (hnum : num ≠ 0) (hden : den ≠ 0) :
    let e : Int := Nat.log2 num - Nat.log2 den
    (2 ^ (e - 1) : ℚ) ≤ num / den ∧ (num / den : ℚ) < 2 ^ (e + 1) := by
  intro e
  have hpos : (0 : ℚ) < den := by positivity
  have hnumLow : (2 ^ Nat.log2 num : ℚ) ≤ num := by exact_mod_cast Nat.log2_self_le hnum
  have hnumHigh : (num : ℚ) < 2 ^ (Nat.log2 num + 1) := by exact_mod_cast Nat.lt_log2_self
  have hdenLow : (2 ^ Nat.log2 den : ℚ) ≤ den := by exact_mod_cast Nat.log2_self_le hden
  have hdenHigh : (den : ℚ) < 2 ^ (Nat.log2 den + 1) := by exact_mod_cast Nat.lt_log2_self
  have hjoin {a : Int} {b c : Nat} (h : a + b = c) : (2 ^ a * 2 ^ b : ℚ) = 2 ^ c := by
    rw [← zpow_natCast, ← zpow_natCast, ← zpow_add₀ two_ne_zero, h]
  constructor
  · rw [le_div_iff₀ hpos]
    calc (2 ^ (e - 1) * den : ℚ) ≤ 2 ^ (e - 1) * 2 ^ (Nat.log2 den + 1) := by gcongr
      _ = 2 ^ Nat.log2 num := hjoin (by push_cast; ring)
      _ ≤ num := hnumLow
  · rw [div_lt_iff₀ hpos]
    calc (num : ℚ) < 2 ^ (Nat.log2 num + 1) := hnumHigh
      _ = 2 ^ (e + 1) * 2 ^ Nat.log2 den := (hjoin (by push_cast; ring)).symm
      _ ≤ 2 ^ (e + 1) * den := by gcongr

theorem scaleDown_lt_iff (hden : den ≠ 0) (e : Int) :
    (scaleDown num den e).1 < (scaleDown num den e).2 ↔ (num / den : ℚ) < 2 ^ e := by
  obtain ⟨hpos, hscaled⟩ := scaleDown_spec num (Nat.pos_of_ne_zero hden) e
  have hpos' : (0 : ℚ) < (scaleDown num den e).2 := Nat.cast_pos.2 hpos
  rw [← div_lt_one (by positivity : (0 : ℚ) < 2 ^ e), ← hscaled, div_lt_one hpos', Nat.cast_lt]

/-- A quotient lies in the binade of its logarithm. -/
theorem log2Quotient_spec (hnum : num ≠ 0) (hden : den ≠ 0) :
    (2 ^ log2Quotient num den : ℚ) ≤ num / den ∧ (num / den : ℚ) < 2 ^ (log2Quotient num den + 1) := by
  obtain ⟨hlow, hhigh⟩ := div_log2_bounds hnum hden
  simp only [log2Quotient]
  split
  next hbelow => exact ⟨hlow, by simpa using (scaleDown_lt_iff hden _).1 hbelow⟩
  next hbelow => exact ⟨not_lt.1 fun hlt => hbelow ((scaleDown_lt_iff hden _).2 hlt), hhigh⟩

theorem placeOf_spec (hnum : num ≠ 0) (hden : den ≠ 0) :
    (num / den : ℚ) < 2 ^ (placeOf num den + 53) ∧
      (-1074 < placeOf num den → (2 ^ (placeOf num den + 52) : ℚ) ≤ num / den) := by
  obtain ⟨hlow, hhigh⟩ := log2Quotient_spec hnum hden
  refine ⟨hhigh.trans_le (zpow_le_zpow_right₀ one_le_two ?_), fun h => ?_⟩
  · simp only [placeOf]
    omega
  · refine (zpow_le_zpow_right₀ one_le_two ?_).trans hlow
    simp only [placeOf] at h ⊢
    omega

/-- A positive quotient in its last place. -/
def ofPlace (num den : Nat) : Binary64 :=
  let (n, d) := scaleDown num den (placeOf num den)
  ⟨roundHalfEven n d, placeOf num den⟩

theorem ofPlace_spec (num : Nat) (hden : den ≠ 0) :
    |(num / den / 2 ^ placeOf num den : ℚ) - (ofPlace num den).mantissa| ≤ 1 / 2 ∧
      (|(num / den / 2 ^ placeOf num den : ℚ) - (ofPlace num den).mantissa| = 1 / 2 →
        Even (ofPlace num den).mantissa) := by
  obtain ⟨hpos, hscaled⟩ := scaleDown_spec num (Nat.pos_of_ne_zero hden) (placeOf num den)
  rw [← hscaled]
  exact roundHalfEven_spec hpos

theorem rounds_ofPlace (hnum : num ≠ 0) (hden : den ≠ 0) : Rounds (num / den) (ofPlace num den).toRat := by
  obtain ⟨hlt, hle⟩ := placeOf_spec hnum hden
  obtain ⟨herror, heven⟩ := ofPlace_spec num hden
  exact .of_place (le_max_left _ _) hlt hle herror heven

theorem ofQuotient?_eq (hnum : num ≠ 0) :
    ofQuotient? num den =
      if placeOf num den > 971 || (placeOf num den = 971 && (ofPlace num den).mantissa ≥ 9007199254740992)
      then none else some (ofPlace num den) := by
  rw [ofQuotient?, if_neg hnum]
  rfl

/-- What a quotient becomes is the quotient after rounding. -/
theorem rounds_of_ofQuotient? (hden : den ≠ 0) (h : ofQuotient? num den = some x) :
    Rounds (num / den) x.toRat := by
  by_cases hnum : num = 0
  · subst hnum
    obtain rfl : ⟨0, 0⟩ = x := Option.some.inj h
    rw [Nat.cast_zero, zero_div, toRat, Nat.cast_zero, zero_mul]
    exact .self isValue_zero
  · rw [ofQuotient?_eq hnum] at h
    split at h
    · cases h
    · exact Option.some.inj h ▸ rounds_ofPlace hnum hden

/-- Quotients well below the end of the format have a value. -/
theorem exists_ofQuotient?_eq_some (hden : den ≠ 0) (hlt : (num / den : ℚ) < 2 ^ (1023 : Int)) :
    ∃ x, ofQuotient? num den = some x := by
  by_cases hnum : num = 0
  · exact ⟨⟨0, 0⟩, by rw [ofQuotient?, if_pos hnum]⟩
  · have hlog : log2Quotient num den < 1023 :=
      (zpow_lt_zpow_iff_right₀ one_lt_two).1 ((log2Quotient_spec hnum hden).1.trans_lt hlt)
    have hplace : placeOf num den < 971 := by
      simp only [placeOf]
      omega
    refine ⟨ofPlace num den, ?_⟩
    rw [ofQuotient?_eq hnum, if_neg]
    simp only [Bool.or_eq_true, decide_eq_true_eq, Bool.and_eq_true, not_or, not_and]
    exact ⟨by omega, fun h => by omega⟩

/-- What is well below the end of the format after rounding is found. -/
theorem exists_ofQuotient?_of_rounds {v : ℚ} (hden : den ≠ 0) (h : Rounds (num / den) v)
    (hlt : v < 2 ^ (1023 : Int)) : ∃ x, ofQuotient? num den = some x ∧ x.toRat = v := by
  obtain ⟨x, hx⟩ := exists_ofQuotient?_eq_some hden (h.lt_of_lt (isValue_two_zpow (by norm_num)) hlt)
  exact ⟨x, hx, (rounds_of_ofQuotient? hden hx).unique h⟩

theorem rounds_of_ofNat? {n : Nat} (h : ofNat? n = some x) : Rounds n x.toRat := by
  simpa using rounds_of_ofQuotient? one_ne_zero h

theorem exists_ofNat?_of_isValue {n : Nat} (h : IsValue n) (hlt : (n : ℚ) < 2 ^ (1023 : Int)) :
    ∃ x, ofNat? n = some x ∧ x.toRat = n :=
  exists_ofQuotient?_of_rounds one_ne_zero (by simpa using Rounds.self h) hlt

theorem quotient_mul_spec (x y : Binary64) :
    x.quotient.2 * y.quotient.2 ≠ 0 ∧
      ((x.quotient.1 * y.quotient.1 : Nat) / (x.quotient.2 * y.quotient.2 : Nat) : ℚ) =
        x.toRat * y.toRat := by
  obtain ⟨hx, hxRat⟩ := quotient_spec x
  obtain ⟨hy, hyRat⟩ := quotient_spec y
  refine ⟨(Nat.mul_pos hx hy).ne', ?_⟩
  push_cast
  rw [mul_div_mul_comm, hxRat, hyRat]

/-- What a product becomes is the product after rounding. -/
theorem rounds_of_mul? (h : x.mul? y = some z) : Rounds (x.toRat * y.toRat) z.toRat := by
  obtain ⟨hne, heq⟩ := quotient_mul_spec x y
  exact heq ▸ rounds_of_ofQuotient? hne h

theorem exists_mul?_of_rounds {v : ℚ} (h : Rounds (x.toRat * y.toRat) v) (hlt : v < 2 ^ (1023 : Int)) :
    ∃ z, x.mul? y = some z ∧ z.toRat = v := by
  obtain ⟨hne, heq⟩ := quotient_mul_spec x y
  exact exists_ofQuotient?_of_rounds hne (heq ▸ h) hlt

/-- Rounding changes a number that is not below the smallest binade by at most its 2^53rd part. -/
theorem Rounds.abs_sub_le {q y : ℚ} (h : Rounds q y) (hq : 2 ^ (-1022 : Int) ≤ q) :
    |q - y| ≤ q * 2 ^ (-53 : Int) := by
  have hpos : 0 < q := lt_of_lt_of_le (by positivity) hq
  obtain ⟨num, den, hnum, hden, rfl⟩ : ∃ num den : Nat, num ≠ 0 ∧ den ≠ 0 ∧ (num / den : ℚ) = q := by
    refine ⟨q.num.toNat, q.den, ?_, q.den_nz, ?_⟩
    · have := Rat.num_pos.2 hpos
      omega
    · have hcast : ((q.num.toNat : Nat) : ℚ) = q.num := by
        exact_mod_cast Int.toNat_of_nonneg (Rat.num_pos.2 hpos).le
      rw [hcast, Rat.num_div_den]
  obtain ⟨hlow, hhigh⟩ := log2Quotient_spec hnum hden
  have hlog : -1022 < log2Quotient num den + 1 :=
    (zpow_lt_zpow_iff_right₀ one_lt_two).1 (hq.trans_lt hhigh)
  have hplace : placeOf num den = log2Quotient num den - 52 := by
    simp only [placeOf]
    omega
  calc |(num / den : ℚ) - y| ≤ |(num / den : ℚ) - (ofPlace num den).toRat| :=
        h.nearest _ (rounds_ofPlace hnum hden).isValue
    _ ≤ 1 / 2 * 2 ^ placeOf num den := by
        rw [toRat, abs_sub_multiple]
        exact mul_le_mul_of_nonneg_right (ofPlace_spec num hden).1 (by positivity)
    _ = 2 ^ log2Quotient num den * 2 ^ (-53 : Int) := by
        rw [hplace, zpow_sub₀ two_ne_zero]
        norm_num
        ring
    _ ≤ num / den * 2 ^ (-53 : Int) := by
        gcongr

end BlockStorage.Binary64
