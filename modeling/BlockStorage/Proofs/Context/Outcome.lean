import BlockStorage.Context
import Mathlib.Order.Bounds.Basic

/-!
How a call under a context ends, and when.

What comes first ends the call: its result, the deadline of the context or a cancellation. A context that
has ended before ends the call at once.
-/

namespace BlockStorage

/-- The earliest of some times, if there are any. -/
def IsEarliest (times : Set Nat) : Option Nat → Prop
  | none => times = ∅
  | some t => IsLeast times t

theorem IsEarliest.mem_iff {times : Set Nat} {may : Option Nat} (h : IsEarliest times may) {t : Nat} :
    t ∈ may ↔ IsLeast times t := by
  cases may with
  | none =>
    rw [show times = ∅ from h]
    simp [IsLeast]
  | some d =>
    have h : IsLeast times d := h
    constructor
    · rintro ⟨rfl⟩
      exact h
    · intro ht
      rw [h.unique ht]
      rfl

theorem isEarliest_empty : IsEarliest ∅ none := rfl

theorem isEarliest_mem (may : Option Nat) : IsEarliest {t | t ∈ may} may := by
  cases may with
  | none => simp [IsEarliest]
  | some d => simp [IsEarliest]

namespace Context

variable {α : Type} {c : Context} {start done : Nat} {cancelledAt : Option Nat}
  {result : Except ClientError α}

/-- A call that would be done with its result at some time ends with what comes first: the first
cancellation, the deadline or its result. -/
structure EndsFirst (deadline : Option Nat) (cancellations : Set Nat) (done : Nat)
    (result : Except ClientError α) (ended : Except ClientError α × Nat) : Prop where
  cancelled : ∀ t, IsLeast cancellations t → t < done → (∀ d ∈ deadline, t < d) →
    ended = (.error .cancelled, t)
  expired : ∀ d ∈ deadline, d ≤ done → (∀ t ∈ cancellations, d < t) →
    ended = (.error .deadlineExceeded, d)
  done : (∀ d ∈ deadline, done < d) → (∀ t ∈ cancellations, done < t) → ended = (result, done)

/-! ### The earlier of two times -/

theorem earlier_of_le {may : Option Nat} {t : Nat} (h : ∀ d ∈ may, t ≤ d) : earlier may t = t := by
  cases may with
  | none => rfl
  | some d => exact Nat.min_eq_right (h d rfl)

theorem earlier_some_of_le {d t : Nat} (h : d ≤ t) : earlier (some d) t = d := Nat.min_eq_left h

theorem le_earlier {may : Option Nat} {s t : Nat} (h : ∀ d ∈ may, s ≤ d) (ht : s ≤ t) :
    s ≤ earlier may t := by
  cases may with
  | none => exact ht
  | some d => exact Nat.le_min.mpr ⟨h d rfl, ht⟩

theorem isEarliest_insert {times : Set Nat} {may : Option Nat} (h : IsEarliest times may) (t : Nat) :
    IsEarliest (insert t times) (some (earlier may t)) := by
  cases may with
  | none =>
    rw [show times = ∅ from h, earlier, insert_empty_eq]
    exact isLeast_singleton
  | some d =>
    have h : IsLeast times d := h
    rw [earlier, min_comm]
    exact h.insert t

theorem any_le_eq_false_iff {may : Option Nat} {t : Nat} :
    may.any (· ≤ t) = false ↔ ∀ d ∈ may, t < d := by
  cases may with
  | none => simp
  | some d => simp

theorem any_le_eq_true_iff {may : Option Nat} {t : Nat} :
    may.any (· ≤ t) = true ↔ ∃ d ∈ may, d ≤ t := by
  cases may with
  | none => simp
  | some d => simp

theorem isExpired_eq_false_iff {now : Nat} : c.isExpired now = false ↔ ∀ d ∈ c.deadline, now < d :=
  any_le_eq_false_iff

theorem isExpired_of_mem {d now : Nat} (hd : d ∈ c.deadline) (h : d ≤ now) :
    c.isExpired now = true := by
  rw [isExpired, Option.mem_def.mp hd]
  simpa using h

/-! ### How a call ends -/

theorem outcome_of_cancelled (h : c.cancelled = true) :
    c.outcome start done cancelledAt result = (.error .cancelled, start) := by
  rw [outcome, if_pos h]

theorem outcome_of_expired {d : Nat} (hlive : c.cancelled = false) (hd : d ∈ c.deadline)
    (h : d ≤ start) : c.outcome start done cancelledAt result = (.error .deadlineExceeded, start) := by
  rw [outcome, if_neg (by simp [hlive]), if_pos (isExpired_of_mem hd h)]

/-- A call that takes time and may start wakes up at the first end and takes what is there, first a
cancellation, then the deadline, then its result. -/
theorem outcome_of_open (hlive : c.cancelled = false) (hopen : ∀ d ∈ c.deadline, start < d)
    (hdone : start < done) {wake : Nat}
    (hwake : earlier cancelledAt (earlier c.deadline done) = wake) :
    c.outcome start done cancelledAt result =
      if cancelledAt.any (· ≤ wake) then (.error .cancelled, wake)
      else if c.isExpired wake then (.error .deadlineExceeded, wake)
      else (result, wake) := by
  rw [outcome, if_neg (by simp [hlive]), if_neg (by simp [isExpired_eq_false_iff.mpr hopen]),
    if_neg (Nat.not_le.mpr hdone), hwake]

/-- A call ends no earlier than it starts. -/
theorem start_le_outcome (hdone : start ≤ done) (hcancelled : ∀ t ∈ cancelledAt, start ≤ t) :
    start ≤ (c.outcome start done cancelledAt result).2 := by
  rw [outcome]
  split
  · exact le_rfl
  · split
    · exact le_rfl
    · rename_i hopen
      have hopen := isExpired_eq_false_iff.mp (Bool.not_eq_true _ ▸ hopen)
      have hwake : start ≤ earlier cancelledAt (earlier c.deadline done) :=
        le_earlier hcancelled (le_earlier (fun d hd => (hopen d hd).le) hdone)
      split
      · exact hdone
      · dsimp only
        split
        · exact hwake
        · split <;> exact hwake

/-- A call that is cancelled by the time it is done, and before the deadline, ends with that. -/
theorem outcome_of_cancelledAt {t : Nat} (hlive : c.cancelled = false) (hstart : start ≤ t)
    (hlong : start < done) (hdone : t ≤ done) (hdeadline : ∀ d ∈ c.deadline, t < d) :
    c.outcome start done (some t) result = (.error .cancelled, t) := by
  have hwake : earlier (some t) (earlier c.deadline done) = t :=
    earlier_some_of_le (le_earlier (fun d hd => (hdeadline d hd).le) hdone)
  rw [outcome_of_open hlive (fun d hd => hstart.trans_lt (hdeadline d hd)) hlong hwake]
  simp

/-- A call that is not done by the deadline, and not cancelled by then, ends with the deadline. -/
theorem outcome_of_deadline {d : Nat} (hlive : c.cancelled = false) (hd : d ∈ c.deadline)
    (hopen : start < d) (hdone : d ≤ done) (hcancelled : ∀ t ∈ cancelledAt, d < t) :
    c.outcome start done cancelledAt result = (.error .deadlineExceeded, d) := by
  have hwake : earlier cancelledAt (earlier c.deadline done) = d := by
    rw [Option.mem_def.mp hd, earlier_some_of_le hdone]
    exact earlier_of_le fun t ht => (hcancelled t ht).le
  have hstart : ∀ e ∈ c.deadline, start < e := by
    intro e he
    rwa [Option.mem_unique he hd]
  rw [outcome_of_open hlive hstart (hopen.trans_le hdone) hwake,
    any_le_eq_false_iff.mpr hcancelled, isExpired_of_mem hd le_rfl]
  simp

/-- A call that takes no time ends with its result if it may start. -/
theorem outcome_of_short (hlive : c.cancelled = false) (hopen : ∀ d ∈ c.deadline, start < d) :
    c.outcome start start cancelledAt result = (result, start) := by
  rw [outcome, if_neg (by simp [hlive]), if_neg (by simp [isExpired_eq_false_iff.mpr hopen]),
    if_pos le_rfl]

/-- A call that is done before the deadline and before it is cancelled ends with its result. -/
theorem outcome_of_done (hlive : c.cancelled = false) (hstart : start ≤ done)
    (hdeadline : ∀ d ∈ c.deadline, done < d) (hcancelled : ∀ t ∈ cancelledAt, done < t) :
    c.outcome start done cancelledAt result = (result, done) := by
  have hopen : ∀ d ∈ c.deadline, start < d := fun d hd => hstart.trans_lt (hdeadline d hd)
  rcases hstart.eq_or_lt with rfl | hlt
  · exact outcome_of_short hlive hopen
  · have hwake : earlier cancelledAt (earlier c.deadline done) = done := by
      rw [earlier_of_le fun d hd => (hdeadline d hd).le]
      exact earlier_of_le fun t ht => (hcancelled t ht).le
    rw [outcome_of_open hlive hopen hlt hwake, any_le_eq_false_iff.mpr hcancelled,
      isExpired_eq_false_iff.mpr hdeadline]
    simp

/-- The outcome of a call that may start is what comes first. -/
theorem outcome_endsFirst {cancellations : Set Nat} (hlive : c.cancelled = false)
    (hopen : ∀ d ∈ c.deadline, start < d) (hstart : start ≤ done)
    (hearliest : IsEarliest cancellations cancelledAt) (hlater : ∀ t ∈ cancellations, start ≤ t) :
    EndsFirst c.deadline cancellations done result
      (c.outcome start done cancelledAt result) where
  cancelled := by
    intro t ht hdone hdeadline
    have hstart := hlater t ht.1
    rw [Option.mem_def.mp (hearliest.mem_iff.mpr ht)]
    exact outcome_of_cancelledAt hlive hstart (hstart.trans_lt hdone) hdone.le hdeadline
  expired := by
    intro d hd hdone hcancelled
    refine outcome_of_deadline hlive hd (hopen d hd) hdone fun t ht => ?_
    exact hcancelled t (hearliest.mem_iff.mp ht).1
  done := by
    intro hdeadline hcancelled
    refine outcome_of_done hlive hstart hdeadline fun t ht => ?_
    exact hcancelled t (hearliest.mem_iff.mp ht).1

/-- The context has ended by some time, so that a call under it ends with an error then. -/
inductive EndedBy (c : Context) (cancelledAt : Option Nat) (time : Nat) : ClientError → Prop
  | cancelled : (c.cancelled = true ∨ ∃ t ∈ cancelledAt, t ≤ time) → EndedBy c cancelledAt time .cancelled
  | expired : (∃ d ∈ c.deadline, d ≤ time) → EndedBy c cancelledAt time .deadlineExceeded

/-- A call ends with its result, or with the context that has ended by then. -/
theorem outcome_cases (c : Context) (start done : Nat) (cancelledAt : Option Nat)
    (result : Except ClientError α) :
    (c.outcome start done cancelledAt result).1 = result ∨
      ∃ e, (c.outcome start done cancelledAt result).1 = .error e ∧
        c.EndedBy cancelledAt (c.outcome start done cancelledAt result).2 e := by
  rw [outcome]
  split
  · rename_i hcancelled
    exact .inr ⟨_, rfl, .cancelled (.inl hcancelled)⟩
  · split
    · rename_i hexpired
      exact .inr ⟨_, rfl, .expired (any_le_eq_true_iff.mp hexpired)⟩
    · split
      · exact .inl rfl
      · dsimp only
        split
        · rename_i hcancelled
          exact .inr ⟨_, rfl, .cancelled (.inr (any_le_eq_true_iff.mp hcancelled))⟩
        · split
          · rename_i hexpired
            exact .inr ⟨_, rfl, .expired (any_le_eq_true_iff.mp hexpired)⟩
          · exact .inl rfl

/-- What takes no time ends with its result before anything else happens. -/
theorem endsFirst_of_short {deadline : Option Nat} {cancellations : Set Nat}
    (hopen : ∀ d ∈ deadline, start < d) (hlater : ∀ t ∈ cancellations, start ≤ t) :
    EndsFirst deadline cancellations start result (result, start) where
  cancelled t ht hdone _ := absurd hdone (Nat.not_lt.mpr (hlater t ht.1))
  expired d hd hdone _ := absurd hdone (Nat.not_le.mpr (hopen d hd))
  done _ _ := rfl

end Context

end BlockStorage
