import BlockStorage.Proofs.Run.Exchange

/-!
The phases of a program: it reads, then makes one change at most, and then may fetch what it changed.

A program that looks references up only reads. Its look-ups by name are a given list, of which it may
miss the end if a call fails, and it fails in no other way. A program in phases starts as such a program
does and goes on with its change. Both kinds are closed under going on with another program, so that the
phases of a command follow its text.
-/

namespace BlockStorage

/-- Whether a call neither changes the cluster nor opens a session. -/
def Call.isReading (c : Call) : Bool := !c.method.isMutating && c.method ≠ .authenticate

/-- What a call looks up by name. -/
def Call.lookup? : Call → Option (ResourceKind × String)
  | .getNamespaceByName name => some (.namespace, name)
  | .getVolumeByName _ name => some (.volume, name)
  | .getNodeByName name => some (.node, name)
  | .getUserByName name => some (.user, name)
  | .getPolicyGroupByName name => some (.policyGroup, name)
  | _ => none

theorem Call.lookup?_isSome (c : Call) : c.lookup?.isSome = c.method.isByName := by
  cases c <;> rfl

/-- What is looked up by name, in order. -/
def lookupsOf (xs : List Exchange) : List (ResourceKind × String) :=
  xs.filterMap fun x => x.call.lookup?

theorem lookupsOf_append (xs ys : List Exchange) :
    lookupsOf (xs ++ ys) = lookupsOf xs ++ lookupsOf ys :=
  List.filterMap_append ..

/-- The call that fetches a volume again whose detachment was completed. -/
def Exchange.refetch? : Exchange → Option Call
  | ⟨.detachVolume ns id _, .ok (.completed _)⟩ => some (.getVolume ns id)
  | _ => none

/-- The exchanges of a handler, phase by phase. -/
structure Phases where
  reads : List Exchange
  change : List Exchange
  refetch : List Exchange

namespace Phases

/-- All exchanges in their order. -/
def exchanges (ph : Phases) : List Exchange := ph.reads ++ ph.change ++ ph.refetch

theorem mem_exchanges {ph : Phases} {x : Exchange} :
    x ∈ ph.exchanges ↔ x ∈ ph.reads ∨ x ∈ ph.change ∨ x ∈ ph.refetch := by
  rw [exchanges, List.mem_append, List.mem_append, or_assoc]

/-- The phases are as they should be: first the look-ups, of which a failed call may cut the end off, and
other reading, then at most one change, if everything was read, and then what is fetched again. -/
structure Fits (refs : List (ResourceKind × String)) (changes : Call → Prop) (ph : Phases) :
    Prop where
  reads : ∀ x ∈ ph.reads, x.call.isReading
  lookups : lookupsOf ph.reads <+: refs
  complete : (∀ x ∈ ph.reads, x.isOk) → lookupsOf ph.reads = refs
  change_length : ph.change.length ≤ 1
  change : ∀ x ∈ ph.change, changes x.call
  prepared : ph.change ≠ [] → ∀ x ∈ ph.reads, x.isOk
  refetch : ph.refetch.map Exchange.call = ph.change.filterMap Exchange.refetch?

end Phases

namespace Program

variable {α β : Type} {p : Program α} {f : α → Program β}
  {refs refs' : List (ResourceKind × String)} {changes : Call → Prop}

/-- The program only reads, looks these references up, and fails only with a call. -/
def Looks (refs : List (ResourceKind × String)) (p : Program α) : Prop :=
  ∀ xs r, p.Takes xs r → (∀ x ∈ xs, x.call.isReading) ∧ lookupsOf xs <+: refs ∧
    ((∀ x ∈ xs, x.isOk) → lookupsOf xs = refs ∧ ∃ a, r = .ok a)

/-- The program goes through its phases; if it fails, then with an error of the cluster. -/
def Phased (refs : List (ResourceKind × String)) (changes : Call → Prop) (p : Program α) : Prop :=
  ∀ xs r, p.Takes xs r → (∃ ph : Phases, ph.exchanges = xs ∧ ph.Fits refs changes) ∧
    ∀ e, r = .error (.command e) → e.kind = .client

/-! ### Looking up -/

theorem Looks.pure (a : α) : Looks [] (pure a : Program α) := by
  intro xs r h
  cases h
  exact ⟨by simp, List.nil_prefix, fun _ => ⟨rfl, a, rfl⟩⟩

theorem Looks.tell (event : Log.Event) : Looks [] (tell event) := by
  intro xs r h
  cases h with
  | note h =>
    cases h
    exact ⟨by simp, List.nil_prefix, fun _ => ⟨rfl, (), rfl⟩⟩

theorem Looks.ask {c : Call} (hc : c.isReading) : Looks c.lookup?.toList (ask c) := by
  have hlookups : ∀ answer, lookupsOf [⟨c, answer⟩] = c.lookup?.toList := by
    intro answer
    rw [lookupsOf]
    cases hc : c.lookup? <;> simp [hc]
  intro xs r h
  cases h with
  | @answered _ _ a _ _ h =>
    cases h
    refine ⟨?_, ?_, fun _ => ⟨hlookups _, a, rfl⟩⟩
    · intro x hx
      rw [List.mem_singleton.mp hx]
      exact hc
    · rw [hlookups]
  | failed f =>
    refine ⟨?_, ?_, ?_⟩
    · intro x hx
      rw [List.mem_singleton.mp hx]
      exact hc
    · rw [hlookups]
    · intro hok
      exact absurd (hok _ (List.mem_singleton_self _)) Bool.false_ne_true

theorem Looks.bind (hp : Looks refs p) (hf : ∀ a, Looks refs' (f a)) :
    Looks (refs ++ refs') (p >>= f) := by
  intro xs r h
  rcases h.bind with ⟨e, _, hpe⟩ | ⟨a, ys, zs, rfl, hpa, hfa⟩
  · obtain ⟨hreads, hprefix, hok⟩ := hp xs _ hpe
    refine ⟨hreads, hprefix.trans (List.prefix_append ..), ?_⟩
    intro hall
    obtain ⟨_, b, hb⟩ := hok hall
    cases hb
  · obtain ⟨hreads, _, hok⟩ := hp ys _ hpa
    obtain ⟨hreads', hprefix', hok'⟩ := hf a zs _ hfa
    have hlookups := (hok hpa.isOk_of_ok).1
    refine ⟨?_, ?_, ?_⟩
    · intro x hx
      rcases List.mem_append.mp hx with hx | hx
      · exact hreads x hx
      · exact hreads' x hx
    · rw [lookupsOf_append, hlookups]
      exact (List.prefix_append_right_inj _).mpr hprefix'
    · intro hall
      obtain ⟨hlookups', b, hb⟩ := hok' fun x hx => hall x (List.mem_append_right _ hx)
      rw [lookupsOf_append, hlookups, hlookups']
      exact ⟨rfl, b, hb⟩

theorem kind_of_ofCall {f : CallFailure} {e : CommandError}
    (h : (.error (.ofCall f) : Except Failure α) = .error (.command e)) : e.kind = .client := by
  cases f <;> cases h
  rfl

/-- A program that only looks up ends with the failure of a call if it fails. -/
theorem Looks.kind_of_error (hp : Looks refs p) {xs : List Exchange} {e : CommandError}
    (h : p.Takes xs (.error (.command e))) : e.kind = .client := by
  have hfailed : ¬ ∀ x ∈ xs, x.isOk := by
    intro hall
    obtain ⟨_, a, ha⟩ := (hp xs _ h).2.2 hall
    cases ha
  obtain ⟨f, hf⟩ := h.ofCall_of_failed hfailed
  exact kind_of_ofCall hf.symm

/-! ### Phases -/

theorem Phased.pure (a : α) : Phased [] changes (pure a : Program α) := by
  intro xs r h
  cases h
  refine ⟨⟨⟨[], [], []⟩, rfl, ?_⟩, ?_⟩
  · exact ⟨by simp, List.nil_prefix, fun _ => rfl, Nat.zero_le 1, by simp, by simp, rfl⟩
  · intro e he
    cases he

theorem Phased.client (e : ClientError) : Phased [] changes (fail (.client e) : Program α) := by
  intro xs r h
  cases h
  refine ⟨⟨⟨[], [], []⟩, rfl, ?_⟩, ?_⟩
  · exact ⟨by simp, List.nil_prefix, fun _ => rfl, Nat.zero_le 1, by simp, by simp, rfl⟩
  · intro e' he
    cases he
    rfl

/-- A program that looks up and goes on with one in phases is in phases. -/
theorem Phased.bind (hp : Looks refs p) (hf : ∀ a, Phased refs' changes (f a)) :
    Phased (refs ++ refs') changes (p >>= f) := by
  intro xs r h
  rcases h.bind with ⟨e, rfl, hpe⟩ | ⟨a, ys, zs, rfl, hpa, hfa⟩
  · obtain ⟨hreads, hprefix, hok⟩ := hp xs _ hpe
    refine ⟨⟨⟨xs, [], []⟩, by simp [Phases.exchanges], ?_⟩, ?_⟩
    · refine ⟨hreads, hprefix.trans (List.prefix_append ..), ?_, Nat.zero_le 1, by simp, by simp,
        rfl⟩
      intro hall
      obtain ⟨_, b, hb⟩ := hok hall
      cases hb
    · intro e' he
      cases he
      exact hp.kind_of_error hpe
  · obtain ⟨hreads, _, hok⟩ := hp ys _ hpa
    obtain ⟨⟨ph, rfl, hfits⟩, hkind⟩ := hf a zs _ hfa
    have hall := hpa.isOk_of_ok
    have hlookups := (hok hall).1
    refine ⟨⟨⟨ys ++ ph.reads, ph.change, ph.refetch⟩, by simp [Phases.exchanges], ?_⟩, hkind⟩
    refine ⟨?_, ?_, ?_, hfits.change_length, hfits.change, ?_, hfits.refetch⟩
    · intro x hx
      rcases List.mem_append.mp hx with hx | hx
      · exact hreads x hx
      · exact hfits.reads x hx
    · rw [lookupsOf_append, hlookups]
      exact (List.prefix_append_right_inj _).mpr hfits.lookups
    · intro hok'
      rw [lookupsOf_append, hlookups,
        hfits.complete fun x hx => hok' x (List.mem_append_right _ hx)]
    · intro hchange x hx
      rcases List.mem_append.mp hx with hx | hx
      · exact hall x hx
      · exact hfits.prepared hchange x hx

/-- The look-ups are over where only a change is left. -/
theorem Phased.bind_last (hp : Looks refs p) (hf : ∀ a, Phased [] changes (f a)) :
    Phased refs changes (p >>= f) := by
  have h := Phased.bind hp hf
  rw [List.append_nil] at h
  exact h

/-- A program that makes one change, fetches again what is to be fetched again, and ends, is in
phases. -/
theorem Phased.change {c : Call} {f : c.Answer → Program α} (hc : changes c)
    (hf : ∀ a,
      (Exchange.refetch? ⟨c, .ok a⟩ = none ∧ ∃ b, f a = Pure.pure b) ∨
        ∃ c', Exchange.refetch? ⟨c, .ok a⟩ = some c' ∧
          ∃ g : c'.Answer → α, f a = ask c' >>= fun answer => Pure.pure (g answer)) :
    Phased [] changes (ask c >>= f) := by
  have hfits : ∀ x refetch, x.call = c →
      refetch.map Exchange.call = x.refetch?.toList → Phases.Fits [] changes ⟨[], [x], refetch⟩ := by
    intro x refetch hx hrefetch
    refine ⟨by simp, List.nil_prefix, fun _ => rfl, le_rfl, ?_, by simp, ?_⟩
    · intro y hy
      rw [List.mem_singleton.mp hy, hx]
      exact hc
    · rw [hrefetch]
      cases hr : x.refetch? <;> simp [hr]
  intro xs r h
  cases h with
  | @answered _ _ a xs _ h =>
    change (f a).Takes xs r at h
    rcases hf a with ⟨hnone, b, hb⟩ | ⟨c', hsome, g, hg⟩
    · -- nothing is fetched again
      rw [hb] at h
      cases h
      refine ⟨⟨⟨[], [⟨c, .ok a⟩], []⟩, rfl, hfits _ _ rfl (by rw [hnone]; rfl)⟩, ?_⟩
      intro e he
      cases he
    · -- what was changed is fetched again
      rw [hg] at h
      have hlast : ∃ answer, xs = [⟨c', answer⟩] ∧
          ∀ e, r = .error (.command e) → e.kind = .client := by
        cases h with
        | @answered _ _ a' _ _ h =>
          cases h
          refine ⟨.ok a', rfl, ?_⟩
          intro e he
          cases he
        | failed f =>
          exact ⟨.error f, rfl, fun e he => kind_of_ofCall he⟩
      obtain ⟨answer, rfl, hkind⟩ := hlast
      exact ⟨⟨⟨[], [⟨c, .ok a⟩], [⟨c', answer⟩]⟩, rfl, hfits _ _ rfl (by rw [hsome]; rfl)⟩, hkind⟩
  | failed f =>
    have hnone : Exchange.refetch? ⟨c, .error f⟩ = none := by cases c <;> rfl
    exact ⟨⟨⟨[], [⟨c, .error f⟩], []⟩, rfl, hfits _ _ rfl (by rw [hnone]; rfl)⟩,
      fun e he => kind_of_ofCall he⟩

end Program

end BlockStorage
