import BlockStorage.Proofs.Text.Grammar
import BlockStorage.Size

/-!
Size literals: a number, blanks and a unit.

The number is the longest start with digits and points, and the unit is what follows the blanks behind it, in
any case. A whole number of units is read exactly if it denotes less than 2^64 bytes, and then as the product,
which is never cut to the word.
-/

namespace BlockStorage.Size

open Text

/-! ### Units -/

/-- The letters of the units of scale, from the first power to the sixth. -/
def scales : List Char := ['k', 'm', 'g', 't', 'p', 'e']

/-- What a unit in lower case counts: a byte, or a power of 1000, or one of 1024 if there is an `i`. A `b` at
the end means nothing. -/
inductive IsUnit : List Char → Nat → Prop
  | single {ending : List Char} (h : ending = [] ∨ ending = ['b']) : IsUnit ending 1
  | decimal {power : Nat} {letter : Char} {ending : List Char} (hletter : scales[power]? = some letter)
      (h : ending = [] ∨ ending = ['b']) : IsUnit (letter :: ending) (1000 ^ (power + 1))
  | binary {power : Nat} {letter : Char} {ending : List Char} (hletter : scales[power]? = some letter)
      (h : ending = [] ∨ ending = ['b']) : IsUnit (letter :: 'i' :: ending) (1024 ^ (power + 1))

theorem scaleOf?_eq_some_iff {letter : Char} {scale : Nat} :
    scaleOf? letter = some scale ↔ ∃ power, scales[power]? = some letter ∧ scale = power + 1 := by
  constructor
  · intro h
    unfold scaleOf? at h
    split at h <;> cases h
    · exact ⟨0, rfl, rfl⟩
    · exact ⟨1, rfl, rfl⟩
    · exact ⟨2, rfl, rfl⟩
    · exact ⟨3, rfl, rfl⟩
    · exact ⟨4, rfl, rfl⟩
    · exact ⟨5, rfl, rfl⟩
  · rintro ⟨power, hpower, rfl⟩
    have hlt : power < 6 := (List.getElem?_eq_some_iff.1 hpower).1
    interval_cases power <;> cases hpower <;> rfl

theorem baseOf?_eq_some_iff {rest : List Char} {base : Nat} :
    baseOf? rest = some base ↔ ∃ ending, (ending = [] ∨ ending = ['b']) ∧
      (rest = ending ∧ base = 1000 ∨ rest = 'i' :: ending ∧ base = 1024) := by
  constructor
  · intro h
    unfold baseOf? at h
    split at h <;> cases h
    · exact ⟨[], .inl rfl, .inl ⟨rfl, rfl⟩⟩
    · exact ⟨['b'], .inr rfl, .inl ⟨rfl, rfl⟩⟩
    · exact ⟨[], .inl rfl, .inr ⟨rfl, rfl⟩⟩
    · exact ⟨['b'], .inr rfl, .inr ⟨rfl, rfl⟩⟩
  · rintro ⟨ending, rfl | rfl, ⟨rfl, rfl⟩ | ⟨rfl, rfl⟩⟩ <;> rfl

theorem unitBytes?_cons {letter : Char} {rest : List Char} {scale base : Nat}
    (hscale : scaleOf? letter = some scale) (hbase : baseOf? rest = some base) :
    unitBytes? (letter :: rest) = some (base ^ scale) := by
  have hbyte : letter = 'b' → rest = [] → False := by
    rintro rfl
    cases hscale
  rw [unitBytes?, hscale, hbase]
  · rfl
  · exact hbyte

/-- The units that are read are those that there are. -/
theorem unitBytes?_eq_some_iff {unit : List Char} {bytes : Nat} :
    unitBytes? unit = some bytes ↔ IsUnit unit bytes := by
  constructor
  · intro h
    unfold unitBytes? at h
    split at h
    · cases h
      exact .single (.inl rfl)
    · cases h
      exact .single (.inr rfl)
    next letter rest _ =>
      obtain ⟨scale, hscale, h⟩ := Option.bind_eq_some_iff.1 h
      obtain ⟨base, hbase, h⟩ := Option.bind_eq_some_iff.1 h
      obtain rfl := Option.some.inj h
      obtain ⟨power, hpower, rfl⟩ := scaleOf?_eq_some_iff.1 hscale
      obtain ⟨ending, hending, ⟨rfl, rfl⟩ | ⟨rfl, rfl⟩⟩ := baseOf?_eq_some_iff.1 hbase
      · exact .decimal hpower hending
      · exact .binary hpower hending
  · intro h
    cases h with
    | single h => rcases h with rfl | rfl <;> rfl
    | decimal hletter h =>
      exact unitBytes?_cons (scaleOf?_eq_some_iff.2 ⟨_, hletter, rfl⟩)
        (baseOf?_eq_some_iff.2 ⟨_, h, .inl ⟨rfl, rfl⟩⟩)
    | binary hletter h =>
      exact unitBytes?_cons (scaleOf?_eq_some_iff.2 ⟨_, hletter, rfl⟩)
        (baseOf?_eq_some_iff.2 ⟨_, h, .inr ⟨rfl, rfl⟩⟩)

theorem IsUnit.pos {unit : List Char} {bytes : Nat} (h : IsUnit unit bytes) : 0 < bytes := by
  cases h <;> positivity

/-- The characters of units in lower case. -/
def unitLetters : List Char := ['b', 'i'] ++ scales

theorem IsUnit.mem_unitLetters {unit : List Char} {bytes : Nat} (h : IsUnit unit bytes) {c : Char}
    (hc : c ∈ unit) : c ∈ unitLetters := by
  have hscale {power : Nat} {letter : Char} (hletter : scales[power]? = some letter) :
      letter ∈ unitLetters := List.mem_append_right _ (List.mem_of_getElem? hletter)
  have hending {ending : List Char} (h : ending = [] ∨ ending = ['b']) (hc : c ∈ ending) :
      c ∈ unitLetters := by
    rcases h with rfl | rfl
    · cases hc
    · rw [List.mem_singleton.1 hc]
      decide
  cases h with
  | single h => exact hending h hc
  | decimal hletter h =>
    rcases List.mem_cons.1 hc with rfl | hc
    · exact hscale hletter
    · exact hending h hc
  | binary hletter h =>
    rcases List.mem_cons.1 hc with rfl | hc
    · exact hscale hletter
    rcases List.mem_cons.1 hc with rfl | hc
    · decide
    · exact hending h hc

/-! ### Literals -/

/-- The characters of numbers: digits and the point. -/
def inNumber (c : Char) : Bool := isDigit c || c = '.'

theorem isBlank_of_inNumber {c : Char} (h : inNumber c = true) : isBlank c = false := by
  rcases Bool.or_eq_true_iff.1 h with h | h
  · exact isBlank_of_isDigit h
  · rw [of_decide_eq_true h]
    rfl

/-- No letter of a unit is blank or in a number, in either case. -/
theorem not_inNumber_of_unitLetter {c : Char} (h : c.toLower ∈ unitLetters) :
    isBlank c = false ∧ inNumber c = false := by
  obtain ⟨d, hd, hlower⟩ : ∃ d ∈ unitLetters, c.toLower = d := ⟨_, h, rfl⟩
  simp only [unitLetters, scales, List.mem_append, List.mem_cons, List.not_mem_nil, or_false] at hd
  rcases eq_of_toLower_eq hlower with rfl | ⟨-, rfl⟩
  · rcases hd with (rfl | rfl) | rfl | rfl | rfl | rfl | rfl | rfl <;> decide
  · rcases hd with (rfl | rfl) | rfl | rfl | rfl | rfl | rfl | rfl <;> decide

/-- The text spells a number and a unit, in any case, of so many bytes. -/
def IsSpelled (s : String) (number : List Char) (bytes : Nat) : Prop :=
  number ≠ [] ∧ (∀ c ∈ number, inNumber c = true) ∧
    ∃ unit, IsLiteral s.toList number unit ∧ IsUnit (unit.map Char.toLower) bytes

theorem IsSpelled.pos {s : String} {number : List Char} {bytes : Nat} (h : IsSpelled s number bytes) :
    0 < bytes := by
  obtain ⟨-, -, unit, -, hbytes⟩ := h
  exact hbytes.pos

/-- The points of a literal are in its number. -/
theorem IsSpelled.point_mem {s : String} {number : List Char} {bytes : Nat} (h : IsSpelled s number bytes)
    (hpoint : '.' ∈ s.toList) : '.' ∈ number := by
  obtain ⟨-, -, unit, hliteral, hbytes⟩ := h
  refine (hliteral.mem_or_mem hpoint (by decide)).resolve_right fun hunit => ?_
  exact absurd (hbytes.mem_unitLetters (List.mem_map_of_mem hunit)) (by decide)

/-- A literal that is refused is named as it was given. -/
theorem error_of_parse {s : String} {error : ParseError} (h : parse s = .error error) :
    error = .invalidSize s := by
  rw [parse] at h
  split at h
  · cases h
  · exact (Except.error.inj h).symm

theorem bytesOf?_eq_some_iff {s : List Char} {n : UInt64} :
    bytesOf? s = some n ↔ s.takeWhile inNumber ≠ [] ∧
      ∃ bytes, IsUnit ((trim (s.dropWhile inNumber)).map Char.toLower) bytes ∧
        (if (s.takeWhile inNumber).contains '.' then pointBytes? (s.takeWhile inNumber) bytes
          else wholeBytes? (s.takeWhile inNumber) bytes) = some n := by
  have hread : bytesOf? s = if (s.takeWhile inNumber).isEmpty then none else
      (unitBytes? ((trim (s.dropWhile inNumber)).map Char.toLower)).bind fun bytes =>
        if (s.takeWhile inNumber).contains '.' then pointBytes? (s.takeWhile inNumber) bytes
        else wholeBytes? (s.takeWhile inNumber) bytes := rfl
  simp only [← unitBytes?_eq_some_iff]
  rw [hread]
  split
  next hempty => simp [List.isEmpty_iff.1 hempty]
  next hne => simp [Option.bind_eq_some_iff, mt List.isEmpty_iff.2 hne]

/-- The number is the longest start of the trimmed text in its class, and the rest is the unit. -/
theorem isSpelled_iff {s : String} {number : List Char} {bytes : Nat} :
    IsSpelled s number bytes ↔ number ≠ [] ∧ (trim s.toList).takeWhile inNumber = number ∧
      IsUnit ((trim ((trim s.toList).dropWhile inNumber)).map Char.toLower) bytes := by
  have hunit {unit : List Char} (h : IsUnit (unit.map Char.toLower) bytes) :
      ∀ c ∈ unit, isBlank c = false ∧ inNumber c = false := fun c hc =>
    not_inNumber_of_unitLetter (h.mem_unitLetters (List.mem_map_of_mem hc))
  constructor
  · rintro ⟨hne, hnumber, unit, hliteral, hbytes⟩
    obtain ⟨rfl, rfl⟩ := (isLiteral_iff (fun _ => isBlank_of_inNumber) hne hnumber
      (isTrimmed_of_forall fun c hc => (hunit hbytes c hc).1)
      fun c hc => (hunit hbytes c (List.mem_of_mem_head? hc)).2).1 hliteral
    exact ⟨hne, rfl, hbytes⟩
  · rintro ⟨hne, rfl, hbytes⟩
    refine ⟨hne, fun c hc => List.mem_takeWhile_imp hc, _, ?_, hbytes⟩
    exact (isLiteral_iff (fun _ => isBlank_of_inNumber) hne (fun c hc => List.mem_takeWhile_imp hc)
      (isTrimmed_trim _) fun c hc => (hunit hbytes c (List.mem_of_mem_head? hc)).2).2 ⟨rfl, rfl⟩

/-- A literal is read as its number of units, if the number can be read. -/
theorem parse_eq_ok_iff {s : String} {n : UInt64} :
    parse s = .ok n ↔ ∃ number bytes, IsSpelled s number bytes ∧
      (if number.contains '.' then pointBytes? number bytes else wholeBytes? number bytes) = some n := by
  have hread : parse s = .ok n ↔ bytesOf? (trim s.toList) = some n := by
    rw [parse]
    split <;> simp [*]
  rw [hread, bytesOf?_eq_some_iff]
  constructor
  · rintro ⟨hne, bytes, hbytes, hn⟩
    exact ⟨_, bytes, isSpelled_iff.2 ⟨hne, rfl, hbytes⟩, hn⟩
  · rintro ⟨number, bytes, hspelled, hn⟩
    obtain ⟨hne, rfl, hbytes⟩ := isSpelled_iff.1 hspelled
    exact ⟨hne, bytes, hbytes, hn⟩

/-- There is one way to take a literal apart. -/
theorem IsSpelled.unique {s : String} {number other : List Char} {bytes otherBytes : Nat}
    (h : IsSpelled s number bytes) (h' : IsSpelled s other otherBytes) :
    other = number ∧ otherBytes = bytes := by
  obtain ⟨-, rfl, hbytes⟩ := isSpelled_iff.1 h
  obtain ⟨-, rfl, hbytes'⟩ := isSpelled_iff.1 h'
  rw [← unitBytes?_eq_some_iff] at hbytes hbytes'
  exact ⟨rfl, Option.some.inj (hbytes'.symm.trans hbytes)⟩

/-- A literal that is taken apart is read if its number can be read. -/
theorem IsSpelled.parse_eq_ok_iff {s : String} {number : List Char} {bytes : Nat} {n : UInt64}
    (h : IsSpelled s number bytes) :
    parse s = .ok n ↔
      (if number.contains '.' then pointBytes? number bytes else wholeBytes? number bytes) = some n := by
  rw [Size.parse_eq_ok_iff]
  constructor
  · rintro ⟨other, otherBytes, hother, hn⟩
    obtain ⟨rfl, rfl⟩ := h.unique hother
    exact hn
  · exact fun hn => ⟨number, bytes, h, hn⟩

/-! ### Whole numbers -/

/-- The text spells a whole number of units, of so many bytes in all. -/
def IsSpelledWhole (s : String) (total : Nat) : Prop :=
  ∃ number unit n bytes, IsLiteral s.toList number unit ∧ IsDecimal number n ∧
    IsUnit (unit.map Char.toLower) bytes ∧ total = n * bytes

theorem wholeBytes?_eq_some_iff {number : List Char} (hnumber : ∀ c ∈ number, isDigit c = true)
    {bytes : Nat} (hbytes : 0 < bytes) {n : UInt64} :
    wholeBytes? number bytes = some n ↔ ∃ k, IsDecimal number k ∧ n.toNat = k * bytes := by
  have hn : n.toNat < UInt64.size := n.toNat_lt
  constructor
  · intro h
    obtain ⟨w, hw, h⟩ := Option.bind_eq_some_iff.1 h
    split at h
    next hlt =>
      obtain rfl := Option.some.inj h
      rw [UInt64.toNat_ofNat_of_lt' hlt]
      exact ⟨w.toNat, (wordOfText?_eq_some_iff.1 hw).isDecimal hnumber, rfl⟩
    next => cases h
  · rintro ⟨k, hdecimal, hproduct⟩
    -- the number itself fits, for no unit is less than a byte
    have hk : k < UInt64.size :=
      (Nat.le_mul_of_pos_right k hbytes).trans_lt (hproduct ▸ hn)
    rw [wholeBytes?, hdecimal.wordOfText? hk]
    simp only [Option.bind_some, bind, UInt64.toNat_ofNat_of_lt' hk, ← hproduct, hn, if_true,
      UInt64.ofNat_toNat]

/-- A number without a point is read as the product with its unit. -/
theorem IsSpelled.parse_whole_iff {s : String} {number : List Char} {bytes : Nat} {n : UInt64}
    (h : IsSpelled s number bytes) (hnone : '.' ∉ number) :
    parse s = .ok n ↔ ∃ k, IsDecimal number k ∧ n.toNat = k * bytes := by
  have hdigits : ∀ c ∈ number, isDigit c = true := fun c hc =>
    (Bool.or_eq_true_iff.1 (h.2.1 c hc)).resolve_right fun h => hnone (of_decide_eq_true h ▸ hc)
  rw [h.parse_eq_ok_iff, if_neg (by simpa using hnone), wholeBytes?_eq_some_iff hdigits h.pos]

/-- A whole number of units is read exactly if it is below 2^64 bytes, as that number. All other literals
without a point are refused as they were given. -/
theorem whole_numbers_exact (s : String) (hpoint : '.' ∉ s.toList) :
    (∀ n, parse s = .ok n ↔ IsSpelledWhole s n.toNat) ∧
      (parse s = .error (.invalidSize s) ↔ ∀ total < UInt64.size, ¬ IsSpelledWhole s total) := by
  have hread (n : UInt64) : parse s = .ok n ↔ IsSpelledWhole s n.toNat := by
    constructor
    · intro hn
      obtain ⟨number, bytes, hspelled, -⟩ := parse_eq_ok_iff.1 hn
      have ⟨_, _, unit, hliteral, hbytes⟩ := hspelled
      obtain ⟨k, hdecimal, htotal⟩ :=
        (hspelled.parse_whole_iff fun h => hpoint (hliteral.subset h)).1 hn
      exact ⟨number, unit, k, bytes, hliteral, hdecimal, hbytes, htotal⟩
    · rintro ⟨number, unit, k, bytes, hliteral, hdecimal, hbytes, htotal⟩
      have hnumber : ∀ c ∈ number, inNumber c = true := fun c hc =>
        Bool.or_eq_true_iff.2 (.inl (hdecimal.digits c hc))
      have hspelled : IsSpelled s number bytes := ⟨hdecimal.nonempty, hnumber, unit, hliteral, hbytes⟩
      exact (hspelled.parse_whole_iff fun h => hpoint (hliteral.subset h)).2 ⟨k, hdecimal, htotal⟩
  refine ⟨hread, fun herror total hlt hspelled => ?_, fun hnone => ?_⟩
  · rw [← UInt64.toNat_ofNat_of_lt' hlt, ← hread, herror] at hspelled
    cases hspelled
  · cases hparse : parse s with
    | ok n => exact absurd ((hread n).1 hparse) (hnone n.toNat n.toNat_lt)
    | error error => rw [error_of_parse hparse]

/-- One less than 2^14 pebibytes are still a word, and one more are too many. -/
theorem whole_numbers_exact_pebibytes :
    parse " 016383\tPiB" = .ok 18445618173802708992 ∧
      IsSpelledWhole " 016383\tPiB" 18445618173802708992 ∧
      parse "16384pib" = .error (.invalidSize "16384pib") ∧ IsSpelledWhole "16384pib" 18446744073709551616 ∧
      ∀ total < UInt64.size, ¬ IsSpelledWhole "16384pib" total := by
  have hread : parse " 016383\tPiB" = .ok 18445618173802708992 := by decide +kernel
  have hrefused : parse "16384pib" = .error (.invalidSize "16384pib") := by decide +kernel
  refine ⟨hread, ((whole_numbers_exact _ (by decide)).1 _).1 hread, hrefused, ?_,
    (whole_numbers_exact _ (by decide)).2.1 hrefused⟩
  exact ⟨_, _, 16384, 1024 ^ 5, isLiteral_append "16384".toList "pib".toList,
    ⟨by decide, List.all_eq_true.1 rfl, by decide⟩, .binary rfl (.inr rfl), by decide⟩

end BlockStorage.Size
