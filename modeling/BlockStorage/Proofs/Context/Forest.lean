import BlockStorage.Context
import Mathlib.Logic.Relation

/-!
The forest of contexts that a history makes.

A history says which context each context was derived from. The contexts themselves know less: a live one
knows all contexts derived from it, and a cancelled one knows none any more. What makes up for that is that
the contexts derived from a cancelled one are cancelled, or about to be. Whatever is done to contexts keeps
this.
-/

namespace BlockStorage

namespace Contexts

/-- Where a context comes from: the context that it was derived from and the end of the timeout that it was
derived with. A background has neither. -/
structure Origin where
  parent : Option Nat
  limit : Option Nat

/-- The origin of the context that an event makes, if it makes one. -/
def origin? (cs : Contexts) (event : Event) : Option Origin :=
  match event.operation with
  | .addBackground => some ⟨none, none⟩
  | .derive id timeout =>
    some ⟨if id < cs.contexts.length then some id else none,
      some (max cs.now event.time + timeout.nanos)⟩
  | .cancel _ => none
  | .dropGuard _ => none

/-- The origins of the contexts that events make, in the order of their numbers. -/
def originsFrom (cs : Contexts) : List Event → List Origin
  | [] => []
  | event :: events => (cs.origin? event).toList ++ (cs.after event).originsFrom events

/-- The origins of all contexts of a history, in the order of their numbers. -/
def origins (history : List Event) : List Origin := ⟨none, none⟩ :: start.originsFrom history

/-- One context was derived from another one. -/
def IsParent (forest : List Origin) (id k : Nat) : Prop :=
  ∃ origin, forest[k]? = some origin ∧ origin.parent = some id

/-- A context is another one, or that one was derived from it, directly or through others. -/
def Above (forest : List Origin) : Nat → Nat → Prop := Relation.ReflTransGen (IsParent forest)

/-- A context is there and was cancelled. -/
def Cancelled (contexts : List Context) (id : Nat) : Prop :=
  ∃ c, contexts[id]? = some c ∧ c.cancelled = true

/-- What contexts know of their forest while some of them are yet to be cancelled. -/
structure Tracks (forest : List Origin) (pending : List Nat) (contexts : List Context) : Prop where
  length : contexts.length = forest.length
  older : ∀ {id k : Nat}, IsParent forest id k → id < k
  /-- A live context knows what was derived from it, and nothing else. -/
  known : ∀ {id k : Nat} {c : Context}, contexts[id]? = some c → c.cancelled = false →
    (k ∈ c.children ↔ IsParent forest id k)
  /-- A cancelled one knows nothing. -/
  drained : ∀ {id : Nat} {c : Context}, contexts[id]? = some c → c.cancelled = true → c.children = []
  /-- What was derived from it is cancelled as well, or will be. -/
  inherited : ∀ {id k : Nat}, Cancelled contexts id → IsParent forest id k →
    k ∈ pending ∨ Cancelled contexts k

variable {forest : List Origin} {pending : List Nat} {contexts : List Context} {cs : Contexts}
  {id : Nat}

theorem getElem?_concat_eq_some_iff {α : Type} {xs : List α} {a b : α} {i : Nat} :
    (xs ++ [a])[i]? = some b ↔ xs[i]? = some b ∨ i = xs.length ∧ a = b := by
  by_cases hi : i < xs.length
  · rw [List.getElem?_append_left hi]
    simp [Nat.ne_of_lt hi]
  · rw [List.getElem?_append_right (Nat.not_lt.mp hi), List.getElem?_singleton,
      List.getElem?_eq_none (Nat.not_lt.mp hi)]
    grind

theorem exists_getElem?_concat_iff {α : Type} {xs : List α} {a : α} {i : Nat} {p : α → Prop} :
    (∃ b, (xs ++ [a])[i]? = some b ∧ p b) ↔
      (∃ b, xs[i]? = some b ∧ p b) ∨ i = xs.length ∧ p a := by
  simp only [getElem?_concat_eq_some_iff]
  constructor
  · rintro ⟨b, hb | ⟨hi, rfl⟩, hp⟩
    · exact .inl ⟨b, hb, hp⟩
    · exact .inr ⟨hi, hp⟩
  · rintro (⟨b, hb, hp⟩ | ⟨hi, hp⟩)
    · exact ⟨b, .inl hb, hp⟩
    · exact ⟨a, .inr ⟨hi, rfl⟩, hp⟩

theorem getElem?_modify_eq_some_iff {α : Type} {xs : List α} {f : α → α} {i j : Nat} {b : α} :
    (xs.modify i f)[j]? = some b ↔ ∃ a, xs[j]? = some a ∧ (if i = j then f a else a) = b := by
  simp [List.getElem?_modify]

theorem getElem?_set_of_some {α : Type} {xs : List α} {a b : α} {i j : Nat} (h : xs[i]? = some a) :
    (xs.set i b)[j]? = if i = j then some b else xs[j]? := by
  rw [List.getElem?_set, if_pos (List.getElem?_eq_some_iff.mp h).1]

theorem get_of_getElem? {c : Context} (h : cs.contexts[id]? = some c) : cs.get id = c := by
  rw [get, List.getD_eq_getElem?_getD, h, Option.getD_some]

theorem get_of_length_le (h : cs.contexts.length ≤ id) : cs.get id = background := by
  rw [get, List.getD_eq_getElem?_getD, List.getElem?_eq_none h, Option.getD_none]

theorem cancelled_iff_get :
    Cancelled cs.contexts id ↔ (cs.get id).cancelled = true := by
  rw [get, List.getD_eq_getElem?_getD, Cancelled]
  cases cs.contexts[id]? with
  | none => simp [background]
  | some c => simp

theorem Cancelled.lt_length (h : Cancelled contexts id) : id < contexts.length := by
  obtain ⟨c, hc, _⟩ := h
  exact (List.getElem?_eq_some_iff.mp hc).1

theorem Cancelled.not_live {c : Context} (h : Cancelled contexts id)
    (hc : contexts[id]? = some c) : c.cancelled ≠ false := by
  obtain ⟨c', hc', hcancelled⟩ := h
  obtain rfl : c = c' := Option.some.inj (hc.symm.trans hc')
  simp [hcancelled]

theorem cancelled_concat_iff {c : Context} :
    Cancelled (contexts ++ [c]) id ↔
      Cancelled contexts id ∨ id = contexts.length ∧ c.cancelled = true :=
  exists_getElem?_concat_iff

theorem cancelled_modify_register_iff {number k : Nat} :
    Cancelled (contexts.modify id (·.register number)) k ↔ Cancelled contexts k := by
  simp only [Cancelled, getElem?_modify_eq_some_iff]
  constructor
  · rintro ⟨_, ⟨c, hc, rfl⟩, hcancelled⟩
    refine ⟨c, hc, ?_⟩
    split at hcancelled <;> exact hcancelled
  · rintro ⟨c, hc, hcancelled⟩
    refine ⟨_, ⟨c, hc, rfl⟩, ?_⟩
    split <;> exact hcancelled

theorem cancelled_derive_iff {k : Nat} {timeout : Duration} :
    Cancelled (cs.derive id timeout).1.contexts k ↔
      Cancelled cs.contexts k ∨ k = cs.contexts.length ∧ (cs.get id).cancelled = true := by
  rw [derive]
  split
  case isTrue h => simp [cancelled_concat_iff, h]
  case isFalse h => simp [cancelled_concat_iff, cancelled_modify_register_iff, h]

theorem cancelled_set_ended_iff {c : Context} (hc : contexts[id]? = some c) {k : Nat} :
    Cancelled (contexts.set id c.ended) k ↔ id = k ∨ Cancelled contexts k := by
  rw [Cancelled, Cancelled, getElem?_set_of_some hc]
  by_cases hk : id = k
  · simp [hk]
  · simp [hk]

/-! ### Parents -/

theorem IsParent.lt_length {k : Nat} (h : IsParent forest id k) : k < forest.length := by
  obtain ⟨origin, hk, _⟩ := h
  exact (List.getElem?_eq_some_iff.mp hk).1

theorem isParent_concat_iff {origin : Origin} {k : Nat} :
    IsParent (forest ++ [origin]) id k ↔
      IsParent forest id k ∨ k = forest.length ∧ origin.parent = some id :=
  exists_getElem?_concat_iff

theorem isParent_append_iff {more : List Origin} {k : Nat} (hk : k < forest.length) :
    IsParent (forest ++ more) id k ↔ IsParent forest id k := by
  rw [IsParent, IsParent, List.getElem?_append_left hk]

/-- What comes later stands above nothing that is there. -/
theorem above_append_iff (holder : ∀ {id k : Nat}, IsParent forest id k → id < k)
    {more : List Origin} {k : Nat} (hk : k < forest.length) :
    Above (forest ++ more) id k ↔ Above forest id k := by
  constructor
  · intro h
    induction h with
    | refl => exact .refl
    | tail _ hparent ih =>
      have hparent := (isParent_append_iff hk).mp hparent
      exact (ih (Nat.lt_trans (holder hparent) hk)).tail hparent
  · intro h
    have hmono : ∀ a b, IsParent forest a b → IsParent (forest ++ more) a b :=
      fun _ _ hparent => (isParent_append_iff hparent.lt_length).mpr hparent
    exact Relation.ReflTransGen.mono hmono id k h

/-! ### Adding a context -/

namespace Tracks

/-- When nothing is pending, what was derived from a cancelled context is cancelled. -/
theorem cancelled_of_isParent (h : Tracks forest [] contexts) {k : Nat}
    (hid : Cancelled contexts id) (hk : IsParent forest id k) : Cancelled contexts k :=
  (h.inherited hid hk).resolve_left List.not_mem_nil

/-- Nothing is derived from a context that is not there yet. -/
theorem not_isParent_length (h : Tracks forest pending contexts) {k : Nat} :
    ¬IsParent forest contexts.length k := by
  intro hparent
  have := h.older hparent
  have := hparent.lt_length
  have := h.length
  omega

theorem older_concat (h : Tracks forest pending contexts) {origin : Origin}
    (hparent : ∀ id, origin.parent = some id → id < contexts.length) {k : Nat}
    (hid : IsParent (forest ++ [origin]) id k) : id < k := by
  rcases isParent_concat_iff.mp hid with hold | ⟨hk, hnew⟩
  · exact h.older hold
  · rw [hk, ← h.length]
    exact hparent id hnew

/-- A context is added that no live one has to know. -/
theorem append (h : Tracks forest [] contexts) {origin : Origin} {c : Context}
    (hempty : c.children = []) (hparent : ∀ id, origin.parent = some id →
      Cancelled contexts id ∧ c.cancelled = true) :
    Tracks (forest ++ [origin]) [] (contexts ++ [c]) where
  length := by simp [h.length]
  older := h.older_concat fun id hid => (hparent id hid).1.lt_length
  known := by
    intro id k c' hc' hlive
    rw [isParent_concat_iff]
    rcases getElem?_concat_eq_some_iff.mp hc' with hold | ⟨rfl, rfl⟩
    · rw [h.known hold hlive, or_iff_left]
      rintro ⟨_, hid⟩
      exact (hparent id hid).1.not_live hold hlive
    · simp only [hempty, List.not_mem_nil, h.not_isParent_length, false_or, false_iff]
      rintro ⟨_, hid⟩
      simp [(hparent _ hid).2] at hlive
  drained := by
    intro id c' hc' hcancelled
    rcases getElem?_concat_eq_some_iff.mp hc' with hold | ⟨_, rfl⟩
    · exact h.drained hold hcancelled
    · exact hempty
  inherited := by
    intro id k hid hk
    refine .inr ?_
    rw [cancelled_concat_iff] at hid ⊢
    rcases isParent_concat_iff.mp hk with hold | ⟨hlast, hnew⟩
    · have hlt := Nat.lt_trans (h.older hold) hold.lt_length
      have hid := hid.resolve_right fun hlast => Nat.ne_of_lt hlt (h.length ▸ hlast.1)
      exact .inl (h.cancelled_of_isParent hid hold)
    · exact .inr ⟨by rw [hlast, h.length], (hparent id hnew).2⟩

/-- A context is added, and a live one gets to know it. -/
theorem append_registered (h : Tracks forest [] contexts) {c : Context}
    (hc : contexts[id]? = some c) (hlive : c.cancelled = false) (deadline limit : Option Nat) :
    Tracks (forest ++ [⟨some id, limit⟩]) []
      (contexts.modify id (·.register contexts.length) ++ [⟨deadline, false, []⟩]) where
  length := by simp [h.length]
  older := by
    intro a k hk
    refine h.older_concat ?_ hk
    rintro _ ⟨rfl⟩
    exact (List.getElem?_eq_some_iff.mp hc).1
  known := by
    intro a k c' hc' hlive'
    rw [isParent_concat_iff]
    rcases getElem?_concat_eq_some_iff.mp hc' with hold | ⟨rfl, rfl⟩
    · obtain ⟨c₀, hc₀, rfl⟩ := getElem?_modify_eq_some_iff.mp hold
      by_cases ha : id = a
      · subst ha
        simp only [if_true] at hlive' ⊢
        simp [h.known hc₀ hlive', h.length]
      · simp only [ha, if_false] at hlive' ⊢
        simp [h.known hc₀ hlive', ha]
    · have hne : id ≠ contexts.length := Nat.ne_of_lt (List.getElem?_eq_some_iff.mp hc).1
      simp [h.not_isParent_length, hne]
  drained := by
    intro a c' hc' hcancelled
    rcases getElem?_concat_eq_some_iff.mp hc' with hold | ⟨_, rfl⟩
    · obtain ⟨c₀, hc₀, rfl⟩ := getElem?_modify_eq_some_iff.mp hold
      have hne : id ≠ a := by
        rintro rfl
        exact Cancelled.not_live ⟨c₀, hc₀, by simpa using hcancelled⟩ hc hlive
      simp only [hne, if_false] at hcancelled ⊢
      exact h.drained hc₀ hcancelled
    · rfl
  inherited := by
    intro a k ha hk
    refine .inr ?_
    simp only [cancelled_concat_iff, cancelled_modify_register_iff, Bool.false_eq_true, and_false,
      or_false] at ha ⊢
    rcases isParent_concat_iff.mp hk with hold | ⟨_, hnew⟩
    · exact h.cancelled_of_isParent ha hold
    · obtain rfl : id = a := Option.some.inj hnew
      exact absurd hlive (ha.not_live hc)

/-! ### Cancelling -/

/-- What is pending and not there, or cancelled already, need not be pending. -/
theorem pass_over (h : Tracks forest (id :: pending) contexts)
    (hid : id < contexts.length → Cancelled contexts id) : Tracks forest pending contexts := by
  refine ⟨h.length, h.older, h.known, h.drained, ?_⟩
  intro a k ha hk
  rcases h.inherited ha hk with hmem | hcancelled
  · rcases List.mem_cons.mp hmem with rfl | hmem
    · exact .inr (hid (h.length ▸ hk.lt_length))
    · exact .inl hmem
  · exact .inr hcancelled

theorem pass_over_absent (h : Tracks forest (id :: pending) contexts) (hid : contexts[id]? = none) :
    Tracks forest pending contexts :=
  h.pass_over fun hlt => absurd hlt (Nat.not_lt.mpr (List.getElem?_eq_none_iff.mp hid))

/-- Anything may be pending. -/
theorem pend (h : Tracks forest [] contexts) : Tracks forest pending contexts := by
  exact ⟨h.length, h.older, h.known, h.drained, fun hid hk => .inr (h.cancelled_of_isParent hid hk)⟩

/-- A live context that is pending is cancelled, and those that it knew are pending instead. -/
theorem end_one (h : Tracks forest (id :: pending) contexts) {c : Context}
    (hc : contexts[id]? = some c) (hlive : c.cancelled = false) :
    Tracks forest (c.children ++ pending) (contexts.set id c.ended) where
  length := by simp [h.length]
  older := h.older
  known := by
    intro a k c' hc' hlive'
    rw [getElem?_set_of_some hc] at hc'
    split at hc'
    · obtain rfl := Option.some.inj hc'
      simp at hlive'
    · exact h.known hc' hlive'
  drained := by
    intro a c' hc' hcancelled
    rw [getElem?_set_of_some hc] at hc'
    split at hc'
    · obtain rfl := Option.some.inj hc'
      rfl
    · exact h.drained hc' hcancelled
  inherited := by
    intro a k ha hk
    rw [cancelled_set_ended_iff hc] at ha ⊢
    rw [List.mem_append]
    rcases ha with rfl | ha
    · exact .inl (.inl ((h.known hc hlive).mpr hk))
    · rcases h.inherited ha hk with hmem | hcancelled
      · rcases List.mem_cons.mp hmem with rfl | hmem
        · exact .inr (.inl rfl)
        · exact .inl (.inr hmem)
      · exact .inr (.inr hcancelled)

/-- When all that is pending has been cancelled, nothing is pending any more. -/
protected theorem cancelAll (h : Tracks forest pending contexts) :
    Tracks forest [] (cancelAll contexts pending) := by
  induction contexts, pending using cancelAll.induct with
  | case1 contexts =>
    rw [cancelAll_nil]
    exact h
  | case2 contexts id pending habsent ih =>
    simp only [cancelAll_cons, habsent]
    exact ih (h.pass_over_absent habsent)
  | case3 contexts id pending c hc hcancelled ih =>
    simp only [cancelAll_cons, hc, hcancelled, if_true]
    exact ih (h.pass_over fun _ => ⟨c, hc, hcancelled⟩)
  | case4 contexts id pending c hc hlive ih =>
    simp only [cancelAll_cons, hc, hlive]
    exact ih (h.end_one hc (by simpa using hlive))

/-! ### Events -/

/-- A derived context has the context for its parent that it was derived from, if that is there. -/
theorem derive (h : Tracks forest [] cs.contexts) (id : Nat) (timeout : Duration)
    (limit : Option Nat) :
    Tracks (forest ++ [⟨if id < cs.contexts.length then some id else none, limit⟩]) []
      (cs.derive id timeout).1.contexts := by
  by_cases hid : id < cs.contexts.length
  · have hc : cs.contexts[id]? = some cs.contexts[id] := List.getElem?_eq_getElem hid
    rw [Contexts.derive, get_of_getElem? hc, if_pos hid]
    by_cases hcancelled : cs.contexts[id].cancelled = true
    · rw [if_pos hcancelled]
      refine h.append rfl ?_
      rintro _ ⟨rfl⟩
      exact ⟨⟨_, hc, hcancelled⟩, rfl⟩
    · rw [if_neg hcancelled]
      exact h.append_registered hc (by simpa using hcancelled) _ limit
  · have hget := get_of_length_le (Nat.not_lt.mp hid)
    rw [Contexts.derive, hget, if_neg hid, if_neg (by simp [background]),
      List.modify_eq_self (Nat.not_lt.mp hid)]
    refine h.append rfl ?_
    rintro _ ⟨⟩

theorem after (h : Tracks forest [] cs.contexts) (event : Event) :
    Tracks (forest ++ (cs.origin? event).toList) [] (cs.after event).contexts := by
  obtain ⟨time, operation⟩ := event
  have cancel (id : Nat) : Tracks (forest ++ []) [] (cancelAll cs.contexts [id]) := by
    rw [List.append_nil]
    exact h.pend.cancelAll
  cases operation with
  | addBackground =>
    refine h.append rfl ?_
    rintro _ ⟨⟩
  | derive id timeout =>
    have hadvanced : Tracks forest [] (cs.advanceTo time).contexts := h
    exact hadvanced.derive id timeout _
  | cancel id => exact cancel id
  | dropGuard id => exact cancel id

theorem afterAll (h : Tracks forest [] cs.contexts) (events : List Event) :
    Tracks (forest ++ cs.originsFrom events) [] (cs.afterAll events).contexts := by
  induction events generalizing forest cs with
  | nil =>
    rw [originsFrom, List.append_nil]
    exact h
  | cons event events ih =>
    rw [originsFrom, ← List.append_assoc]
    exact ih (h.after event)

theorem empty : Tracks [] [] [] := by
  constructor <;> simp [IsParent, Cancelled]

protected theorem start : Tracks [⟨none, none⟩] [] start.contexts := by
  refine empty.append rfl ?_
  rintro _ ⟨⟩

/-- After any history the contexts track the forest of the history. -/
theorem of_history (history : List Event) :
    Tracks (origins history) [] (start.afterAll history).contexts :=
  Tracks.start.afterAll history

end Tracks

/-! ### Histories -/

theorem afterAll_append (cs : Contexts) (events events' : List Event) :
    cs.afterAll (events ++ events') = (cs.afterAll events).afterAll events' :=
  List.foldl_append ..

theorem originsFrom_append (cs : Contexts) (events events' : List Event) :
    cs.originsFrom (events ++ events') =
      cs.originsFrom events ++ (cs.afterAll events).originsFrom events' := by
  induction events generalizing cs with
  | nil => rfl
  | cons event events ih =>
    rw [List.cons_append, originsFrom, originsFrom, ih, List.append_assoc]
    rfl

/-- To derive a context now is an event of the history. -/
theorem derive_of_history {history : List Event} {t : Nat} {cs : Contexts}
    (hcs : (start.afterAll history).advanceTo t = cs) (id : Nat) (timeout : Duration) :
    (cs.derive id timeout).1 = start.afterAll (history ++ [⟨cs.now, .derive id timeout⟩]) := by
  have hnow : (start.afterAll history).advanceTo cs.now = cs := by
    subst hcs
    rw [advanceTo, advanceTo, Nat.max_eq_right (Nat.le_max_left _ _)]
  rw [afterAll_append]
  change _ = (((start.afterAll history).advanceTo cs.now).derive id timeout).1
  rw [hnow]

/-- What is derived from a context that is there has it for its parent, whatever else happens. -/
theorem isParent_of_derive {history : List Event} {id : Nat}
    (hid : id < (start.afterAll history).contexts.length) (t : Nat) (timeout : Duration)
    (later : List Event) :
    IsParent (origins (history ++ ⟨t, .derive id timeout⟩ :: later)) id
      (start.afterAll history).contexts.length := by
  have hlength := (Tracks.of_history history).length
  rw [origins, originsFrom_append, originsFrom, ← List.cons_append, ← List.append_assoc, ← origins,
    isParent_append_iff]
  · simp only [origin?, if_pos hid, Option.toList_some, isParent_concat_iff]
    exact .inr ⟨hlength, trivial⟩
  · simp [origin?, hlength]

end Contexts

end BlockStorage
