import BlockStorage.Proofs.Context.Forest

/-!
Cancellation goes down the forest of contexts, and nowhere else.

To cancel a context is to work through a list of contexts that are pending. What is cancelled on the way
stands below a pending one, since a context knows only what was derived from it; and nothing below is
left out, since whatever the list loses was cancelled before, with all below it.
-/

namespace BlockStorage

namespace Contexts

/-- Between two states a context and all below it were cancelled, and nothing else happened. -/
structure EndsExactly (forest : List Origin) (id : Nat) (before after : Contexts) : Prop where
  now : after.now = before.now
  below : ∀ k, Above forest id k → after.contexts[k]? = (before.contexts[k]?).map Context.ended
  others : ∀ k, ¬Above forest id k → after.contexts[k]? = before.contexts[k]?

variable {forest : List Origin} {pending : List Nat} {contexts : List Context} {cs : Contexts}
  {id k : Nat}

/-! ### What is cancelled -/

/-- To cancel what is pending ends a context or leaves it as it is. -/
theorem cancelAll_getElem? (contexts : List Context) (pending : List Nat) (k : Nat) :
    (cancelAll contexts pending)[k]? = contexts[k]? ∨
      (cancelAll contexts pending)[k]? = (contexts[k]?).map Context.ended := by
  induction contexts, pending using cancelAll.induct with
  | case1 contexts =>
    rw [cancelAll_nil]
    exact .inl rfl
  | case2 contexts id pending habsent ih =>
    simp only [cancelAll_cons, habsent]
    exact ih
  | case3 contexts id pending c hc hcancelled ih =>
    simp only [cancelAll_cons, hc, hcancelled, if_true]
    exact ih
  | case4 contexts id pending c hc hlive ih =>
    simp only [cancelAll_cons, hc, hlive]
    rw [getElem?_set_of_some hc] at ih
    by_cases hk : id = k
    · subst hk
      rw [if_pos rfl] at ih
      rw [hc]
      exact .inr (by simpa using ih)
    · rwa [if_neg hk] at ih

theorem Cancelled.cancelAll (h : Cancelled contexts k) (pending : List Nat) :
    Cancelled (cancelAll contexts pending) k := by
  obtain ⟨c, hc, hcancelled⟩ := h
  rcases cancelAll_getElem? contexts pending k with hk | hk
  · exact ⟨c, hk.trans hc, hcancelled⟩
  · exact ⟨c.ended, by rw [hk, hc, Option.map_some], rfl⟩

theorem cancelled_cancelAll_singleton (hid : id < contexts.length) :
    Cancelled (cancelAll contexts [id]) id := by
  have hc : contexts[id]? = some contexts[id] := List.getElem?_eq_getElem hid
  by_cases hcancelled : contexts[id].cancelled = true
  · simp only [cancelAll_cons, hc, hcancelled, if_true]
    exact Cancelled.cancelAll ⟨_, hc, hcancelled⟩ []
  · simp only [cancelAll_cons, hc, hcancelled]
    exact ((cancelled_set_ended_iff hc).mpr (.inl rfl)).cancelAll _

namespace Tracks

/-- What stands below a cancelled context is cancelled. -/
theorem cancelled_of_above (h : Tracks forest [] contexts) (habove : Above forest id k)
    (hid : Cancelled contexts id) : Cancelled contexts k := by
  induction habove with
  | refl => exact hid
  | tail _ hparent ih => exact h.cancelled_of_isParent ih hparent

theorem le_of_above (h : Tracks forest pending contexts) (habove : Above forest id k) : id ≤ k := by
  induction habove with
  | refl => exact Nat.le_refl _
  | tail _ hparent ih => exact Nat.le_trans ih (Nat.le_of_lt (h.older hparent))

/-- To cancel what is pending leaves alone what is not below. -/
theorem cancelAll_others (h : Tracks forest pending contexts)
    (hk : ∀ id ∈ pending, ¬Above forest id k) : (cancelAll contexts pending)[k]? = contexts[k]? := by
  induction contexts, pending using cancelAll.induct with
  | case1 contexts => rw [cancelAll_nil]
  | case2 contexts id pending habsent ih =>
    simp only [cancelAll_cons, habsent]
    exact ih (h.pass_over_absent habsent) fun a ha => hk a (List.mem_cons_of_mem _ ha)
  | case3 contexts id pending c hc hcancelled ih =>
    simp only [cancelAll_cons, hc, hcancelled, if_true]
    exact ih (h.pass_over fun _ => ⟨c, hc, hcancelled⟩) fun a ha => hk a (List.mem_cons_of_mem _ ha)
  | case4 contexts id pending c hc hlive ih =>
    have hlive' : c.cancelled = false := by simpa using hlive
    have hne : id ≠ k := by
      rintro rfl
      exact hk id List.mem_cons_self .refl
    have hknown : ∀ a ∈ c.children ++ pending, ¬Above forest a k := by
      intro a ha habove
      rcases List.mem_append.mp ha with hchild | hmem
      · exact hk id List.mem_cons_self (.head ((h.known hc hlive').mp hchild) habove)
      · exact hk a (List.mem_cons_of_mem _ hmem) habove
    simp only [cancelAll_cons, hc, hlive]
    refine (ih (h.end_one hc hlive') hknown).trans ?_
    rw [getElem?_set_of_some hc, if_neg hne]

/-- To cancel a context ends it and all below it. -/
theorem cancelAll_below (h : Tracks forest [] contexts) (habove : Above forest id k) :
    (cancelAll contexts [id])[k]? = (contexts[k]?).map Context.ended := by
  rcases cancelAll_getElem? contexts [id] k with hsame | hended
  · cases hc : contexts[k]? with
    | none => rw [hsame, hc, Option.map_none]
    | some c =>
      -- what is left as it is was cancelled before, since it is cancelled now
      have hlt : id < contexts.length :=
        Nat.lt_of_le_of_lt (h.le_of_above habove) (List.getElem?_eq_some_iff.mp hc).1
      have hafter : Tracks forest [] (Contexts.cancelAll contexts [id]) := h.pend.cancelAll
      obtain ⟨c', hc', hcancelled⟩ :=
        hafter.cancelled_of_above habove (cancelled_cancelAll_singleton hlt)
      obtain rfl : c = c' := Option.some.inj (hc.symm.trans (hsame.symm.trans hc'))
      rw [hsame, hc, Option.map_some, Context.ended_of_cancelled hcancelled (h.drained hc hcancelled)]
  · exact hended

/-- To cancel a context ends it and all below it, and nothing else. -/
theorem cancel_endsExactly (h : Tracks forest [] cs.contexts) (id : Nat) :
    EndsExactly forest id cs (cs.cancel id) where
  now := rfl
  below k habove := h.cancelAll_below habove
  others k hk := by
    refine h.pend.cancelAll_others fun a ha => ?_
    rwa [List.mem_singleton.mp ha]

end Tracks

/-- When a context is cancelled after any history, so is all that was derived from it, and everything else is
as it was. -/
theorem get_cancel_of_history {history : List Event} {t : Nat} {cs : Contexts}
    (hcs : (start.afterAll history).advanceTo t = cs) {id : Nat} (hid : id < cs.contexts.length) (k : Nat) :
    (Above (origins history) id k → ((cs.cancel id).get k).cancelled = true) ∧
      (¬Above (origins history) id k → (cs.cancel id).get k = cs.get k) := by
  have htracks : Tracks (origins history) [] cs.contexts := hcs ▸ Tracks.of_history history
  constructor
  · intro habove
    rw [← cancelled_iff_get]
    exact htracks.pend.cancelAll.cancelled_of_above habove (cancelled_cancelAll_singleton hid)
  · intro hnot
    rw [get, get, List.getD_eq_getElem?_getD, List.getD_eq_getElem?_getD,
      (htracks.cancel_endsExactly id).others k hnot]

/-! ### What stays cancelled -/

theorem Cancelled.after (h : Cancelled cs.contexts k) (event : Event) :
    Cancelled (cs.after event).contexts k := by
  obtain ⟨time, operation⟩ := event
  cases operation with
  | addBackground => exact cancelled_concat_iff.mpr (.inl h)
  | derive id timeout => exact cancelled_derive_iff.mpr (.inl h)
  | cancel id => exact h.cancelAll [id]
  | dropGuard id => exact h.cancelAll [id]

theorem Cancelled.afterAll (h : Cancelled cs.contexts k) (events : List Event) :
    Cancelled (cs.afterAll events).contexts k := by
  induction events generalizing cs with
  | nil => exact h
  | cons event events ih => exact ih (h.after event)

/-- Cancellation is inherited, and that exactly. After any history of deriving, cancelling and dropping
guards, what was derived from a cancelled context, directly or through others, is cancelled; to cancel a
context or to drop its guard ends that context and what was derived from it and leaves everything else as
it is; and what is cancelled is cancelled after whatever else happens. -/
theorem cancellation_inherited (history : List Event) :
    (∀ id k, Above (origins history) id k →
      ((start.afterAll history).get id).cancelled = true →
      ((start.afterAll history).get k).cancelled = true) ∧
    (∀ id,
      EndsExactly (origins history) id (start.afterAll history)
        ((start.afterAll history).perform (.cancel id)) ∧
      EndsExactly (origins history) id (start.afterAll history)
        ((start.afterAll history).perform (.dropGuard id))) ∧
    ∀ later k, ((start.afterAll history).get k).cancelled = true →
      (((start.afterAll history).afterAll later).get k).cancelled = true := by
  have htracks := Tracks.of_history history
  refine ⟨?_, ?_, ?_⟩
  · intro id k habove hid
    exact cancelled_iff_get.mp (htracks.cancelled_of_above habove (cancelled_iff_get.mpr hid))
  · intro id
    exact ⟨htracks.cancel_endsExactly id, htracks.cancel_endsExactly id⟩
  · intro later k hk
    exact cancelled_iff_get.mp ((cancelled_iff_get.mpr hk).afterAll later)

/-- A context below another one, whose guard is dropped before a third one is derived from the second. -/
def guardDropped : List Event :=
  [⟨0, .derive 0 (.ofSecs 5)⟩, ⟨1, .derive 1 (.ofSecs 5)⟩, ⟨2, .dropGuard 1⟩,
    ⟨3, .derive 2 (.ofSecs 5)⟩]

/-- What is derived below a dropped guard is cancelled from the start. -/
theorem cancellation_inherited_guard_dropped :
    ((start.afterAll guardDropped).get 1).cancelled = true ∧
      ((start.afterAll guardDropped).get 3).cancelled = true := by
  have hparent : IsParent (origins guardDropped) 1 2 ∧ IsParent (origins guardDropped) 2 3 := by
    simp [IsParent, origins, guardDropped, originsFrom, origin?, start, Contexts.after, perform,
      advanceTo, derive, dropGuard, cancel, cancelAll_cons, get, background]
  have hfirst : ((start.afterAll guardDropped).get 1).cancelled = true := by
    simp [guardDropped, afterAll, start, Contexts.after, perform, advanceTo, derive, dropGuard,
      cancel, cancelAll_cons, get, background]
  exact ⟨hfirst, (cancellation_inherited guardDropped).1 1 3
    (.head hparent.1 (.single hparent.2)) hfirst⟩

end Contexts

end BlockStorage
