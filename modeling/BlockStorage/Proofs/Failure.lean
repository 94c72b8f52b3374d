/-!
Computations that can fail: what they did when they succeed.
-/

namespace BlockStorage

theorem bind_eq_ok {ε α β : Type} {x : Except ε α} {f : α → Except ε β} {b : β}
    (h : x >>= f = .ok b) : ∃ a, x = .ok a ∧ f a = .ok b := by
  cases x with
  | error e => cases h
  | ok a => exact ⟨a, rfl, h⟩

theorem bind_eq_ok_iff {ε α β : Type} {x : Except ε α} {f : α → Except ε β} {b : β} :
    x >>= f = .ok b ↔ ∃ a, x = .ok a ∧ f a = .ok b := by
  refine ⟨bind_eq_ok, ?_⟩
  rintro ⟨a, rfl, h⟩
  exact h

theorem eq_of_map_eq_ok {ε α β : Type} {x : Except ε α} {f : α → β} {b : β} (h : x.map f = .ok b) :
    ∃ a, x = .ok a ∧ f a = b := by
  cases x with
  | error => cases h
  | ok a => exact ⟨a, rfl, Except.ok.inj h⟩

/-- The fault of a computation that failed. -/
def faultOf {ε α : Type} : Except ε α → Option ε
  | .error e => some e
  | .ok _ => none

theorem faultOf_map {ε α β : Type} (x : Except ε α) (f : α → β) : faultOf (x.map f) = faultOf x := by
  cases x <;> rfl

theorem faultOf_mapError {ε ε' α : Type} (x : Except ε α) (f : ε → ε') :
    faultOf (x.mapError f) = (faultOf x).map f := by
  cases x <;> rfl

/-- A computation that goes on with another one has the fault of the first that fails. -/
theorem faultOf_bind {ε α β : Type} {x : Except ε α} {f : α → Except ε β} {next : Option ε}
    (h : ∀ a, x = .ok a → faultOf (f a) = next) : faultOf (x >>= f) = (faultOf x).or next := by
  cases x with
  | error e => rfl
  | ok a => exact h a rfl

/-- What cannot fail adds no fault. -/
theorem faultOf_bind_pure {ε α β : Type} (x : Except ε α) (f : α → β) :
    faultOf (x >>= fun a => .ok (f a)) = faultOf x := by
  cases x <;> rfl

/-- What fails in the end never succeeds. -/
theorem bind_error_ne_ok {ε α β : Type} (x : Except ε α) (fault : ε) (b : β) :
    (x.bind fun _ => .error fault) ≠ .ok b := by cases x <;> nofun

/-- What follows a choice follows either side of it. -/
theorem ite_bind {ε α β : Type} {c : Prop} [Decidable c] (x y : Except ε α) (f : α → Except ε β) :
    (if c then x >>= f else y >>= f) = (if c then x else y) >>= f := by split <;> rfl

/-- A reader that succeeds hands on what it has read. -/
theorem bind_of_some {α β : Type} {x : Option α} {a : α} {f : α → Option β} {b : Option β}
    (hx : x = some a) (hf : f a = b) : x >>= f = b := by rw [hx, ← hf]; rfl

end BlockStorage
