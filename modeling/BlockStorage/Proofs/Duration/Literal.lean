import BlockStorage.Duration
import BlockStorage.Proofs.Text.Grammar

/-!
Duration literals, and the wire form as one of them.

A literal is a number below 2^64, blanks and a unit. Minutes and hours stop at the largest number of seconds.
What is read is a whole number of seconds or of milliseconds, of which there are again fewer than 2^64, so that
its wire form is a literal and says the same.
-/

namespace BlockStorage.Duration

open Text

/-! ### Reading -/

/-- So many of a unit last so long. -/
inductive Lasts (n : Nat) : List Char → Duration → Prop
  | millis : Lasts n ['m', 's'] (ofMillis n)
  | secs : Lasts n ['s'] (ofSecs n)
  | unmarked : Lasts n [] (ofSecs n)
  | minutes : Lasts n ['m'] (ofSecs (min (60 * n) (2 ^ 64 - 1)))
  | hours : Lasts n ['h'] (ofSecs (min (3600 * n) (2 ^ 64 - 1)))

/-- The text spells the duration: a number below 2^64 of a unit. -/
def IsSpelled (s : String) (d : Duration) : Prop :=
  ∃ number unit n, IsLiteral s.toList number unit ∧ IsDecimal number n ∧ n < 2 ^ 64 ∧ Lasts n unit d

variable {s : String} {d : Duration} {n : Nat} {unit : List Char}

theorem saturatingMul_eq (a b : Nat) : saturatingMul a b = min (b * a) (2 ^ 64 - 1) := by
  rw [saturatingMul, Nat.mul_comm]
  rfl

theorem ofUnit?_eq_some_iff : ofUnit? n unit = some d ↔ Lasts n unit d := by
  constructor
  · intro h
    unfold ofUnit? at h
    split at h <;> cases h
    · exact .millis
    · exact .unmarked
    · exact .secs
    · rw [saturatingMul_eq]
      exact .minutes
    · rw [saturatingMul_eq]
      exact .hours
  · intro h
    cases h with
    | millis => rfl
    | secs => rfl
    | unmarked => rfl
    | minutes => rw [← saturatingMul_eq]; rfl
    | hours => rw [← saturatingMul_eq]; rfl

/-- No unit has a blank or a digit in it. -/
theorem Lasts.not_isDigit (h : Lasts n unit d) : ∀ c ∈ unit, isBlank c = false ∧ isDigit c = false := by
  have hall : (unit.all fun c => !isBlank c && !isDigit c) = true := by cases h <;> rfl
  intro c hc
  simpa using List.all_eq_true.1 hall c hc

/-- The duration that a text spells is read, and nothing else. -/
theorem parse?_eq_some_iff : parse? s = some d ↔ d.IsSpelled s := by
  constructor
  · intro h
    obtain ⟨w, hw, h⟩ := Option.bind_eq_some_iff.1 h
    have hlasts := ofUnit?_eq_some_iff.1 h
    have hdigits : ∀ c ∈ (trim s.toList).takeWhile isDigit, isDigit c = true := fun c hc =>
      List.mem_takeWhile_imp hc
    have hdecimal := (wordOfText?_eq_some_iff.1 hw).isDecimal hdigits
    refine ⟨_, _, w.toNat, ?_, hdecimal, w.toNat_lt, hlasts⟩
    exact (isLiteral_iff (fun _ => isBlank_of_isDigit) hdecimal.nonempty hdigits (isTrimmed_trim _)
      fun c hc => (hlasts.not_isDigit c (List.mem_of_mem_head? hc)).2).2 ⟨rfl, rfl⟩
  · rintro ⟨number, unit, n, hliteral, hdecimal, hn, hlasts⟩
    obtain ⟨rfl, rfl⟩ := (isLiteral_iff (fun _ => isBlank_of_isDigit) hdecimal.nonempty hdecimal.digits
      (isTrimmed_of_forall fun c hc => (hlasts.not_isDigit c hc).1)
      fun c hc => (hlasts.not_isDigit c (List.mem_of_mem_head? hc)).2).1 hliteral
    have hword := hdecimal.wordOfText? hn
    simp only [parse?, hword, Option.bind_eq_bind, Option.bind_some, UInt64.toNat_ofNat_of_lt' hn,
      ofUnit?_eq_some_iff]
    exact hlasts

/-! ### Writing -/

@[simp] theorem secs_ofSecs (n : Nat) : (ofSecs n).secs = n :=
  Nat.mul_div_cancel n (Nat.succ_pos _)

/-- What is spelled is a whole number of seconds or of milliseconds. -/
theorem IsSpelled.cases (h : d.IsSpelled s) : ∃ n < 2 ^ 64, d = ofSecs n ∨ d = ofMillis n := by
  obtain ⟨number, unit, n, -, -, hn, hlasts⟩ := h
  cases hlasts with
  | millis => exact ⟨n, hn, .inr rfl⟩
  | secs => exact ⟨n, hn, .inl rfl⟩
  | unmarked => exact ⟨n, hn, .inl rfl⟩
  | minutes => exact ⟨_, by omega, .inl rfl⟩
  | hours => exact ⟨_, by omega, .inl rfl⟩

/-- A number is written before its unit as a literal has it. -/
theorem isSpelled_toString (hn : n < 2 ^ 64) {unit : String} (h : Lasts n unit.toList d) :
    d.IsSpelled (toString n ++ unit) := by
  refine ⟨Nat.toDigits 10 n, unit.toList, n, ?_, isDecimal_toDigits n, hn, h⟩
  simpa using isLiteral_append (Nat.toDigits 10 n) unit.toList

theorem isSpelled_wireText_ofSecs (hn : n < 2 ^ 64) : (ofSecs n).IsSpelled (ofSecs n).wireText := by
  have hwhole : (ofSecs n).subsecNanos = 0 := Nat.mul_mod_left n 1000000000
  rw [wireText, if_pos hwhole, secs_ofSecs]
  exact isSpelled_toString hn .secs

theorem isSpelled_wireText_ofMillis (hn : n < 2 ^ 64) : (ofMillis n).IsSpelled (ofMillis n).wireText := by
  by_cases hwhole : (ofMillis n).subsecNanos = 0
  · have hsecs : ofMillis n = ofSecs (n / 1000) := by
      simp only [subsecNanos, ofMillis] at hwhole
      rw [ofMillis, ofSecs, mk.injEq]
      omega
    rw [hsecs]
    exact isSpelled_wireText_ofSecs (by omega)
  · have hmillis : (ofMillis n).millis = n := Nat.mul_div_cancel n (Nat.succ_pos _)
    rw [wireText, if_neg hwhole, hmillis]
    exact isSpelled_toString hn .millis

/-- The wire form of a duration that was read is read as that duration. -/
theorem IsSpelled.parse?_wireText (h : d.IsSpelled s) : parse? d.wireText = some d := by
  rw [parse?_eq_some_iff]
  obtain ⟨n, hn, rfl | rfl⟩ := h.cases
  · exact isSpelled_wireText_ofSecs hn
  · exact isSpelled_wireText_ofMillis hn

end BlockStorage.Duration
