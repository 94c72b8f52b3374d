import BlockStorage.Proofs.Size.Point

/-!
The readable form of sizes.

A count of bytes is shown in the largest unit that it reaches, up to TiB, with two digits behind the point. The
unit is chosen for the count as it is, and the number is rounded afterwards, so that what lies less than half a
hundredth below the next unit is shown as 1024.00 of this one. The number is never further than that from the
count, apart from what the count loses in binary64, and a larger count is never shown as less.
-/

namespace BlockStorage.Size

open Text Binary64

/-! ### What a text shows -/

/-- The names of the units in readable forms, from the first power of 1024 to the fourth. -/
def readableNames : List String := ["KiB", "MiB", "GiB", "TiB"]

/-- The text shows a number of units of so many bytes: whole bytes, or a number with two digits behind the point
and the name of its unit. -/
inductive Shows : String → ℚ → Nat → Prop
  | bytes {digits : List Char} {n : Nat} (h : IsDecimal digits n) : Shows (String.ofList digits ++ " B") n 1
  | units {whole fraction : List Char} {n power : Nat} {name : String} (hwhole : whole ≠ [])
      (hfraction : fraction.length = 2) (h : IsDecimal (whole ++ fraction) n)
      (hname : readableNames[power]? = some name) :
      Shows (String.ofList (whole ++ '.' :: fraction) ++ " " ++ name) (n / 100) (1024 ^ (power + 1))

theorem isUnit_of_readableNames {power : Nat} {name : String} (h : readableNames[power]? = some name) :
    IsUnit (name.toList.map Char.toLower) (1024 ^ (power + 1)) := by
  have hlt : power < 4 := (List.getElem?_eq_some_iff.1 h).1
  interval_cases power <;> cases h <;> exact .binary rfl (.inr rfl)

theorem isLiteral_append_blank (number unit : List Char) :
    IsLiteral (number ++ ' ' :: unit) number unit :=
  ⟨[' '], by simp; decide, [], [], by simp, by simp, by simp⟩

variable {s : String} {x y : ℚ} {bytes unit : Nat}

/-- What is shown is a literal, with or without a point. -/
theorem Shows.exists_isSpelled (h : Shows s x bytes) : ∃ number, IsSpelled s number bytes ∧
    (IsPointed number x ∨ '.' ∉ number ∧ ∃ n, IsDecimal number n ∧ x = n) := by
  cases h with
  | @bytes digits n h =>
    have hnumber : ∀ c ∈ digits, inNumber c = true := fun c hc => Bool.or_eq_true_iff.2 (.inl (h.digits c hc))
    have hnone : '.' ∉ digits := fun hpoint => nomatch h.digits '.' hpoint
    refine ⟨digits, ⟨h.nonempty, hnumber, ['B'], ?_, .single (.inr rfl)⟩, .inr ⟨hnone, n, h, rfl⟩⟩
    simpa using isLiteral_append_blank digits ['B']
  | @units whole fraction n power name hwhole hfraction h hname =>
    have hpointed : IsPointed (whole ++ '.' :: fraction) (n / 100) :=
      ⟨whole, fraction, n, rfl, h, by rw [hfraction]; norm_num⟩
    refine ⟨whole ++ '.' :: fraction, ⟨by simp, hpointed.inNumber, name.toList, ?_, ?_⟩, .inl hpointed⟩
    · simpa using isLiteral_append_blank (whole ++ '.' :: fraction) name.toList
    · exact isUnit_of_readableNames hname

/-- A text shows one number of one unit. -/
theorem Shows.unique (h : Shows s x bytes) (h' : Shows s y unit) : y = x ∧ unit = bytes := by
  obtain ⟨number, hspelled, hx⟩ := h.exists_isSpelled
  obtain ⟨other, hspelled', hy⟩ := h'.exists_isSpelled
  obtain ⟨rfl, rfl⟩ := hspelled.unique hspelled'
  refine ⟨?_, rfl⟩
  rcases hx with hx | ⟨hnone, n, hn, rfl⟩ <;> rcases hy with hy | ⟨hnone', k, hk, rfl⟩
  · exact hx.unique hy
  · exact absurd hx.point_mem hnone'
  · exact absurd hy.point_mem hnone
  · rw [hn.value, hk.value]

/-! ### Units -/

/-- A count of at least 1024 is shown in the largest unit that it reaches. -/
theorem readableUnit_spec {n : Nat} (hn : 1024 ≤ n) : ∃ power,
    readableNames[power]? = some (readableUnit n).1 ∧ (readableUnit n).2 = 1024 ^ (power + 1) ∧
      1024 ^ (power + 1) ≤ n ∧ (power + 1 ≠ 4 → n < 1024 ^ (power + 2)) := by
  unfold readableUnit
  split
  next h => exact ⟨3, rfl, rfl, h, by simp⟩
  split
  next hlt h => exact ⟨2, rfl, rfl, h, fun _ => not_le.1 hlt⟩
  split
  next hlt h => exact ⟨1, rfl, rfl, h, fun _ => not_le.1 hlt⟩
  next hlt => exact ⟨0, rfl, rfl, hn, fun _ => not_le.1 hlt⟩

theorem readableUnit_pos {n : Nat} (hn : 1024 ≤ n) : 0 < (readableUnit n).2 := by
  obtain ⟨power, -, hunit, -⟩ := readableUnit_spec hn
  rw [hunit]
  positivity

/-! ### Hundredths -/

section

variable {n m power : Nat}

/-- The hundredths of a unit are those of the count after rounding, rounded to whole ones. -/
theorem hundredthsOf_spec (hn : n < 2 ^ 64) (hunit : 0 < unit) :
    ∃ (v : ℚ) (num den : Nat), Rounds n v ∧ 0 < den ∧ (num / den : ℚ) = 100 * (v / unit) ∧
      hundredthsOf n unit = roundHalfEven num den := by
  have hlt : ((n : Nat) / (1 : Nat) : ℚ) < 2 ^ (1023 : Int) := by
    have hend : (2 ^ (64 : Int) : ℚ) < 2 ^ (1023 : Int) := zpow_lt_zpow_right₀ one_lt_two (by norm_num)
    have hn' : (n : ℚ) < 2 ^ (64 : Int) := by exact_mod_cast hn
    simpa using hn'.trans hend
  obtain ⟨value, hvalue⟩ := exists_ofQuotient?_eq_some one_ne_zero hlt
  obtain ⟨hpos, hquotient⟩ := quotient_spec value
  have hvalue' : ofNat? n = some value := hvalue
  refine ⟨value.toRat, 100 * value.quotient.1, value.quotient.2 * unit, rounds_of_ofNat? hvalue',
    Nat.mul_pos hpos hunit, ?_, ?_⟩
  · rw [← hquotient]
    push_cast
    field_simp
  · simp only [hundredthsOf, hvalue']

theorem exists_near_hundredthsOf (hn : n < 2 ^ 64) (hunit : 0 < unit) :
    ∃ v : ℚ, Rounds n v ∧ |100 * (v / unit) - hundredthsOf n unit| ≤ 1 / 2 ∧
      (|100 * (v / unit) - hundredthsOf n unit| = 1 / 2 → Even (hundredthsOf n unit)) := by
  obtain ⟨v, num, den, hv, hden, hquotient, hundredths⟩ := hundredthsOf_spec hn hunit
  refine ⟨v, hv, ?_⟩
  rw [← hquotient, hundredths]
  exact roundHalfEven_spec hden

theorem hundredthsOf_mono (hm : m < 2 ^ 64) (hunit : 0 < unit) (h : n ≤ m) :
    hundredthsOf n unit ≤ hundredthsOf m unit := by
  obtain ⟨v, num, den, hv, hden, hquotient, hundredths⟩ := hundredthsOf_spec (h.trans_lt hm) hunit
  obtain ⟨v', num', den', hv', hden', hquotient', hundredths'⟩ := hundredthsOf_spec hm hunit
  rw [hundredths, hundredths']
  refine roundHalfEven_mono hden hden' ?_
  rw [hquotient, hquotient']
  gcongr
  exact hv.mono hv' (Nat.cast_le.2 h)

theorem isValue_power (power : Nat) : IsValue ((1024 ^ power : Nat) : ℚ) :=
  isValue_natCast_iff.2 ⟨1, 10 * power, by norm_num, by rw [pow_mul, one_mul]; norm_num⟩

/-- A count that reaches the unit is shown as one of it at least. -/
theorem hundred_le_hundredthsOf (hn : n < 2 ^ 64) (h : 1024 ^ power ≤ n) :
    100 ≤ hundredthsOf n (1024 ^ power) := by
  have hpos : 0 < 1024 ^ power := by positivity
  obtain ⟨v, hv, hnear, -⟩ := exists_near_hundredthsOf hn hpos
  have hreached : 1 ≤ v / (1024 ^ power : Nat) :=
    (one_le_div (Nat.cast_pos.2 hpos)).2 (hv.ge_of_ge (isValue_power power) (Nat.cast_le.2 h))
  have hcast : (99 : Nat) < (hundredthsOf n (1024 ^ power) : ℚ) := by
    push_cast
    linarith [(abs_le.1 hnear).2]
  exact Nat.cast_lt.1 hcast

/-- A count below the next unit is shown as 1024 of this one at most. -/
theorem hundredthsOf_le (hn : n < 2 ^ 64) (h : n ≤ 1024 ^ (power + 1)) :
    hundredthsOf n (1024 ^ power) ≤ 102400 := by
  have hpos : 0 < 1024 ^ power := by positivity
  obtain ⟨v, hv, hnear, -⟩ := exists_near_hundredthsOf hn hpos
  have hbelow : v / (1024 ^ power : Nat) ≤ 1024 := by
    rw [div_le_iff₀ (Nat.cast_pos.2 hpos)]
    have hle := hv.le_of_le (isValue_power (power + 1)) (Nat.cast_le.2 h)
    rwa [pow_succ', Nat.cast_mul] at hle
  have hcast : (hundredthsOf n (1024 ^ power) : ℚ) < (102401 : Nat) := by
    push_cast
    linarith [(abs_le.1 hnear).1]
  exact Nat.lt_succ_iff.1 (Nat.cast_lt.1 hcast)

/-- It is shown as 1024 from half a hundredth below the next unit on. -/
theorem hundredthsOf_eq_iff (hn : n < 2 ^ 53) (hunit : 0 < unit) (hle : hundredthsOf n unit ≤ 102400) :
    hundredthsOf n unit = 102400 ↔ (1024 - 1 / 200 : ℚ) ≤ n / unit := by
  obtain ⟨v, hv, hnear, heven⟩ := exists_near_hundredthsOf (hn.trans (by norm_num)) hunit
  obtain rfl := hv.eq_of_isValue (isValue_natCast_iff.2 ⟨n, 0, hn, by simp⟩)
  obtain ⟨hlow, hhigh⟩ := abs_le.1 hnear
  constructor
  · intro h
    rw [h] at hlow
    push_cast at hlow
    linarith
  · intro h
    by_contra hne
    -- the number could only be the half below, and that is odd
    have hcast : (hundredthsOf n unit : ℚ) ≤ (102399 : Nat) := by exact_mod_cast (by omega)
    have hhalf : hundredthsOf n unit = 102399 := by
      have hge : ((102399 : Nat) : ℚ) ≤ hundredthsOf n unit := by
        push_cast at hcast ⊢
        linarith
      exact Nat.cast_injective (le_antisymm hcast hge)
    rw [hhalf] at heven hhigh
    push_cast at heven hhigh
    refine absurd (heven ?_) (by decide)
    rw [abs_of_nonneg (by linarith)]
    linarith

end

/-! ### The readable form -/

/-- The number and the unit of the readable form of a count. -/
def shown (n : Nat) : ℚ × Nat :=
  if n < 1024 then (n, 1)
  else (hundredthsOf n (readableUnit n).2 / 100, (readableUnit n).2)

theorem shown_of_lt {n : Nat} (h : n < 1024) : shown n = ((n : ℚ), 1) := if_pos h

theorem shown_of_le {n : Nat} (h : 1024 ≤ n) :
    shown n = ((hundredthsOf n (readableUnit n).2 / 100 : ℚ), (readableUnit n).2) := if_neg (not_lt.2 h)

theorem twoPlaces_eq (hundredths : Nat) : twoPlaces hundredths =
    String.ofList (Nat.toDigits 10 (hundredths / 100) ++ '.' :: natPadded 2 (hundredths % 100)) := by
  have hwhole : toString (hundredths / 100) = String.ofList (Nat.toDigits 10 (hundredths / 100)) := rfl
  have hpoint : "." = String.ofList ['.'] := rfl
  rw [twoPlaces, hwhole, hpoint, ← String.ofList_append, ← String.ofList_append, List.append_assoc,
    List.singleton_append]

theorem shows_of_eq (power : Nat) {name : String} (hname : readableNames[power]? = some name) {hundredths : Nat}
    (hs : s = twoPlaces hundredths ++ " " ++ name) (hx : x = hundredths / 100)
    (hunit : unit = 1024 ^ (power + 1)) : Shows s x unit := by
  have hpadded : (natPadded 2 (hundredths % 100)).length = 2 := length_natPadded two_pos (by omega)
  have hdecimal := (isDecimal_toDigits (hundredths / 100)).append (isDecimal_natPadded 2 (hundredths % 100))
  have hwhole : hundredths / 100 * 10 ^ 2 + hundredths % 100 = hundredths := by omega
  rw [hpadded, hwhole] at hdecimal
  rw [hs, hx, hunit, twoPlaces_eq]
  exact .units Nat.toDigits_ne_nil hpadded hdecimal hname

theorem format_of_lt {b : UInt64} (h : b.toNat < 1024) : format b = toString b.toNat ++ " B" := if_pos h

theorem format_of_le {b : UInt64} (h : 1024 ≤ b.toNat) :
    format b = twoPlaces (hundredthsOf b.toNat (readableUnit b.toNat).2) ++ " " ++ (readableUnit b.toNat).1 :=
  if_neg (not_lt.2 h)

theorem shows_format (b : UInt64) : Shows (format b) (shown b.toNat).1 (shown b.toNat).2 := by
  rcases lt_or_ge b.toNat 1024 with hlt | hge
  · rw [shown_of_lt hlt, format_of_lt hlt]
    exact .bytes (isDecimal_toDigits _)
  · obtain ⟨power, hname, hunit, -⟩ := readableUnit_spec hge
    rw [shown_of_le hge]
    exact shows_of_eq power hname (format_of_le hge) rfl hunit

theorem shows_format_iff {b : UInt64} :
    Shows (format b) x unit ↔ x = (shown b.toNat).1 ∧ unit = (shown b.toNat).2 := by
  constructor
  · exact (shows_format b).unique
  · rintro ⟨rfl, rfl⟩
    exact shows_format b

/-- The unit is a power of 1024, the largest up to the fourth that the count reaches, and the number is at least
one and at most 1024, unless there is no smaller unit or no larger one. -/
theorem shown_spec {n : Nat} (hn : n < 2 ^ 64) :
    ∃ power ≤ 4, (shown n).2 = 1024 ^ power ∧
      (power ≠ 0 → 1024 ^ power ≤ n ∧ 1 ≤ (shown n).1) ∧
      (power ≠ 4 → n < 1024 ^ (power + 1) ∧ (shown n).1 ≤ 1024) := by
  rcases lt_or_ge n 1024 with hlt | hge
  · rw [shown_of_lt hlt]
    have hle : (n : ℚ) ≤ 1024 := by exact_mod_cast hlt.le
    exact ⟨0, by norm_num, rfl, fun h => absurd rfl h, fun _ => ⟨hlt, hle⟩⟩
  · rw [shown_of_le hge]
    obtain ⟨power, hname, hunit, hreached, hbelow⟩ := readableUnit_spec hge
    have hlt : power < 4 := (List.getElem?_eq_some_iff.1 hname).1
    refine ⟨power + 1, hlt, hunit, fun _ => ⟨hreached, ?_⟩, fun hlast => ⟨hbelow hlast, ?_⟩⟩
    · have hlow : (100 : ℚ) ≤ hundredthsOf n (1024 ^ (power + 1)) := by
        exact_mod_cast hundred_le_hundredthsOf hn hreached
      rw [hunit, le_div_iff₀ (by norm_num)]
      linarith
    · have hhigh : (hundredthsOf n (1024 ^ (power + 1)) : ℚ) ≤ 102400 := by
        exact_mod_cast hundredthsOf_le hn (hbelow hlast).le
      rw [hunit, div_le_iff₀ (by norm_num)]
      linarith

/-- Of two counts in the same unit, the larger one is not shown as less. -/
theorem shown_mono_of_eq {n m : Nat} (hm : m < 2 ^ 64) (h : n ≤ m) (hunit : (shown m).2 = (shown n).2) :
    (shown n).1 ≤ (shown m).1 := by
  rcases lt_or_ge n 1024 with hlt | hge
  · rcases lt_or_ge m 1024 with hlt' | hge'
    · rw [shown_of_lt hlt, shown_of_lt hlt']
      exact Nat.cast_le.2 h
    · rw [shown_of_lt hlt, shown_of_le hge'] at hunit
      obtain ⟨power, -, hunit', -⟩ := readableUnit_spec hge'
      have hbyte : 1024 ^ (power + 1) = 1 := hunit'.symm.trans hunit
      exact absurd hbyte (Nat.one_lt_pow power.succ_ne_zero (by norm_num)).ne'
  · rw [shown_of_le hge, shown_of_le (hge.trans h)] at hunit ⊢
    dsimp only at hunit ⊢
    rw [hunit]
    gcongr
    exact hundredthsOf_mono hm (readableUnit_pos hge) h

/-- A larger count is not shown as fewer bytes. -/
theorem shown_bytes_mono {n m : Nat} (hm : m < 2 ^ 64) (h : n ≤ m) :
    (shown n).1 * (shown n).2 ≤ (shown m).1 * (shown m).2 := by
  obtain ⟨power, hpower, hunit, hlow, hhigh⟩ := shown_spec (h.trans_lt hm)
  obtain ⟨power', hlast, hunit', hlow', hhigh'⟩ := shown_spec hm
  rcases lt_trichotomy power power' with hlt | rfl | hgt
  · -- the number is at most the next unit
    have hsmaller := (hhigh (by omega)).2
    have hone := (hlow' (by omega)).2
    have hnext : 1024 * 1024 ^ power ≤ 1024 ^ power' := by
      rw [← pow_succ']
      exact Nat.pow_le_pow_right (by norm_num) hlt
    rw [hunit, hunit']
    calc (shown n).1 * (1024 ^ power : Nat) ≤ 1024 * (1024 ^ power : Nat) := by gcongr
      _ ≤ (1024 ^ power' : Nat) := by exact_mod_cast hnext
      _ ≤ (shown m).1 * (1024 ^ power' : Nat) := le_mul_of_one_le_left (Nat.cast_nonneg _) hone
  · have hnumber := shown_mono_of_eq hm h (hunit'.trans hunit.symm)
    rw [hunit, hunit']
    gcongr
  · -- the larger count would be below the unit that the smaller one reaches
    have hbelow := (hhigh' (by omega)).1
    have hreached := (hlow (by omega)).1
    have hnext : 1024 ^ (power' + 1) ≤ 1024 ^ power := Nat.pow_le_pow_right (by norm_num) hgt
    omega

/-- The number is within half a hundredth of the count in units, apart from what rounding to binary64 changes. -/
theorem shown_near {n : Nat} (hn : 1024 ≤ n) (hlt : n < 2 ^ 64) : ∃ v : ℚ, Rounds n v ∧
    |(shown n).1 - n / (shown n).2| ≤ 1 / 200 + |v - n| / (shown n).2 := by
  have hpos : (0 : ℚ) < (readableUnit n).2 := Nat.cast_pos.2 (readableUnit_pos hn)
  obtain ⟨v, hv, hnear, -⟩ := exists_near_hundredthsOf hlt (readableUnit_pos hn)
  refine ⟨v, hv, ?_⟩
  rw [shown_of_le hn]
  generalize hundredthsOf n (readableUnit n).2 = hundredths at *
  generalize (readableUnit n).2 = unit at *
  have hrounded : |(hundredths / 100 - v / unit : ℚ)| ≤ 1 / 200 := by
    obtain ⟨hlow, hhigh⟩ := abs_le.1 hnear
    rw [abs_le]
    constructor <;> linarith
  have hlost : |v / unit - n / unit| = |v - n| / unit := by
    rw [← sub_div, abs_div, abs_of_pos hpos]
  calc |(hundredths / 100 - n / unit : ℚ)| ≤ |(hundredths / 100 - v / unit : ℚ)| + |v / unit - n / unit| :=
        abs_sub_le _ _ _
    _ ≤ 1 / 200 + |v - n| / unit := by rw [hlost]; gcongr

/-- A count that rounding to binary64 keeps is shown as 1024 from half a hundredth below the next unit on. -/
theorem shown_eq_iff {n : Nat} (hn : 1024 ≤ n) (hlt : n < 2 ^ 53) (hle : (shown n).1 ≤ 1024) :
    (shown n).1 = 1024 ↔ (1024 - 1 / 200 : ℚ) ≤ n / (shown n).2 := by
  rw [shown_of_le hn] at hle ⊢
  have hhundredths : hundredthsOf n (readableUnit n).2 ≤ 102400 := by
    rw [div_le_iff₀ (by norm_num)] at hle
    norm_num at hle
    exact_mod_cast hle
  rw [← hundredthsOf_eq_iff hlt (readableUnit_pos hn) hhundredths, div_eq_iff (by norm_num)]
  norm_num
  exact_mod_cast Iff.rfl

/-- How the number and the unit of a readable form stand to the count. -/
structure Fits (n : Nat) (x : ℚ) (unit : Nat) : Prop where
  reached : unit ≤ n
  /-- There is no larger unit than TiB. -/
  below : unit ≠ 1024 ^ 4 → n < 1024 * unit
  one_le : 1 ≤ x
  le : unit ≠ 1024 ^ 4 → x ≤ 1024
  /-- It is less than 1024 only below half a hundredth before the next unit. -/
  lt_iff : unit ≠ 1024 ^ 4 → (x < 1024 ↔ (n / unit : ℚ) < 1024 - 1 / 200)
  near : n < 2 ^ 53 → |x - n / unit| ≤ 1 / 200
  /-- From 2^53 on, a count may be changed by rounding to binary64. -/
  nearRounded : ∀ v : ℚ, Rounds n v → |x - n / unit| ≤ 1 / 200 + |v - n| / unit

theorem fits_shown {n : Nat} (hn : 1024 ≤ n) (hlt : n < 2 ^ 64) : Fits n (shown n).1 (shown n).2 := by
  obtain ⟨power, hpower, hunit, hlow, hhigh⟩ := shown_spec hlt
  have hfirst : power ≠ 0 := by
    rintro rfl
    have hbelow := (hhigh (by norm_num)).1
    omega
  have hlast (h : (shown n).2 ≠ 1024 ^ 4) : power ≠ 4 := by
    rintro rfl
    exact h hunit
  obtain ⟨hreached, hone⟩ := hlow hfirst
  obtain ⟨v, hv, hnear⟩ := shown_near hn hlt
  refine ⟨hunit ▸ hreached, fun h => ?_, hone, fun h => (hhigh (hlast h)).2, fun h => ?_, fun h => ?_,
    fun w hw => hw.unique hv ▸ hnear⟩
  · rw [hunit, ← pow_succ']
    exact (hhigh (hlast h)).1
  · obtain ⟨hbelow, hle⟩ := hhigh (hlast h)
    have hpower' : power + 1 ≤ 4 := lt_of_le_of_ne hpower (hlast h)
    have hend : 1024 ^ (power + 1) ≤ 1024 ^ 4 := Nat.pow_le_pow_right (by norm_num) hpower'
    have hfull := shown_eq_iff hn (by omega) hle
    rw [hle.lt_iff_ne, ← not_le]
    exact not_congr hfull
  · have hexact : v = n := hv.eq_of_isValue (isValue_natCast_iff.2 ⟨n, 0, h, by simp⟩)
    simpa [hexact] using hnear

/-- What a count of bytes is shown as. A count of at least 1024 is shown as a number of the largest unit that it
reaches, up to TiB. The number is within half a hundredth of the count in units, apart from what the count loses
when it is rounded to binary64, which is nothing below 2^53. It is at least 1.00. Unless the unit is TiB, it is at
most 1024.00, and below that exactly if the count is more than half a hundredth of the unit below the next unit.
And no larger count is shown as less. -/
theorem readable_form_rounded (b : UInt64) :
    ∃ x unit, (∀ y u, Shows (format b) y u ↔ y = x ∧ u = unit) ∧
      (1024 ≤ b.toNat → Fits b.toNat x unit) ∧
      ∀ c : UInt64, b ≤ c → ∀ y u, Shows (format c) y u → x * unit ≤ y * u := by
  refine ⟨_, _, fun y u => shows_format_iff, fun hb => fits_shown hb b.toNat_lt, fun c hbc y u hy => ?_⟩
  obtain ⟨rfl, rfl⟩ := shows_format_iff.1 hy
  exact shown_bytes_mono c.toNat_lt hbc

/-- The last count below a mebibyte. -/
theorem shows_last_kibibytes : Shows (format 1048575) 1024 1024 := by
  have htext : format 1048575 = twoPlaces 102400 ++ " " ++ "KiB" := by decide +kernel
  exact shows_of_eq 0 rfl htext (by norm_num) (by norm_num)

/-- A little less than a mebibyte is shown as 1023.99 KiB, five bytes more as 1024.00 KiB, and a mebibyte as no
less than that. -/
theorem readable_form_rounded_mebibyte :
    (Shows (format 1048570) (102399 / 100) 1024 ∧ Fits 1048570 (102399 / 100) 1024) ∧
      (Shows (format 1048575) 1024 1024 ∧ Fits 1048575 1024 1024) ∧
      Shows (format 1048576) 1 (1024 ^ 2) ∧ (1024 * 1024 : ℚ) ≤ 1 * (1024 ^ 2 : Nat) := by
  have hmost : Shows (format 1048570) (102399 / 100) 1024 := by
    have htext : format 1048570 = twoPlaces 102399 ++ " " ++ "KiB" := by decide +kernel
    exact shows_of_eq 0 rfl htext (by norm_num) (by norm_num)
  have hnext : Shows (format 1048576) 1 (1024 ^ 2) := by
    have htext : format 1048576 = twoPlaces 100 ++ " " ++ "MiB" := by decide +kernel
    exact shows_of_eq 1 rfl htext (by norm_num) (by norm_num)
  obtain ⟨x, unit, hiff, hx, -⟩ := readable_form_rounded 1048570
  obtain ⟨rfl, rfl⟩ := (hiff _ _).1 hmost
  obtain ⟨y, unit', hiff', hy, hmono⟩ := readable_form_rounded 1048575
  obtain ⟨rfl, rfl⟩ := (hiff' _ _).1 shows_last_kibibytes
  exact ⟨⟨hmost, hx (by decide)⟩, ⟨shows_last_kibibytes, hy (by decide)⟩, hnext,
    hmono 1048576 (by decide) _ _ hnext⟩

/-- Just below each unit, a count is shown as 1024.00 of the unit before. -/
theorem readable_form_full :
    format 1048575 = "1024.00 KiB" ∧ format 1073741823 = "1024.00 MiB" ∧
      format 1099511627775 = "1024.00 GiB" ∧
      ¬∀ b : UInt64, 1024 ≤ b.toNat → ∀ x unit, Shows (format b) x unit → unit ≠ 1024 ^ 4 → x < 1024 := by
  refine ⟨by decide +kernel, by decide +kernel, by decide +kernel, fun h => ?_⟩
  exact absurd (h _ (by decide) _ _ shows_last_kibibytes (by norm_num)) (lt_irrefl _)

end BlockStorage.Size
