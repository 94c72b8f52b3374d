import BlockStorage.Proofs.Run.Exchange
import BlockStorage.Run.Stage

/-!
What the standard stages let happen at a cluster in memory.

A run either is turned away before it makes a call, or fails to open a session, or runs its handler in an
open session. In the last case the licence is fetched if the handler ends with an error of the licence.
-/

namespace BlockStorage

/-- Two worlds differ in their contexts and logs at most. -/
def World.Same {σ : Type} (w v : World σ) : Prop :=
  v.now = w.now ∧ v.cluster = w.cluster ∧ v.sink = w.sink

theorem World.Same.trans {σ : Type} {u v w : World σ} (h : u.Same v) (h' : v.Same w) : u.Same w :=
  ⟨h'.1.trans h.1, h'.2.1.trans h.2.1, h'.2.2.trans h.2.2⟩

/-- The call that opens a session. -/
abbrev Credentials.opening (c : Credentials) : Call := .authenticate c.username c.password

/-- The world after a session was asked for. -/
def World.opened (w : World Cluster) (c : Credentials) : World Cluster :=
  { w with cluster := (w.cluster.perform w.now c.opening).2 }

theorem World.opened_same {w v : World Cluster} (h : w.Same v) (c : Credentials) :
    (w.opened c).Same (v.opened c) := by
  obtain ⟨hnow, hcluster, hsink⟩ := h
  refine ⟨hnow, ?_, hsink⟩
  simp only [World.opened, hnow, hcluster]

/-- A result is the error of something that the licence forbids. -/
def Failure.IsLicence (r : Except Failure Unit) : Prop :=
  ∃ reason, r = .error (.command (.client (.licenceCapability reason)))

theorem chain_append {σ : Type} (ms ms' : List (Middleware σ)) (h : Handler σ) :
    chain (ms ++ ms') h = chain ms (chain ms' h) :=
  List.foldr_append ..

/-! ### Around handlers that are related -/

namespace Stage

/-- Turns some arguments away. -/
def barring {σ : Type} (bars : List String → Bool) (error : CommandError) : Middleware σ :=
  fun next ctx args w => if bars args then (.error (.command error), w) else next ctx args w

section

variable {σ τ : Type} [Cluster.Callable σ] [Cluster.Callable τ]

/-- Two handlers, perhaps at clusters of different kinds, that are related still are so within a stage,
unless that is a deadline. -/
structure Respects (s : Settings) (R : Handler σ → Handler τ → Prop) : Prop where
  barred : ∀ (bars : List String → Bool) {error : CommandError}, error.kind = .precondition →
    ∀ {next : Handler σ} {next' : Handler τ}, R next next' →
      R (barring bars error next) (barring bars error next')
  session : ∀ {next : Handler σ} {next' : Handler τ}, R next next' →
    R (withSession s next) (withSession s next')
  explained : ∀ {next : Handler σ} {next' : Handler τ}, R next next' →
    R (withExplanation next) (withExplanation next')

/-- Handlers that are related still are so in any stages whose deadlines keep the relation. -/
theorem Respects.chain {s : Settings} {R : Handler σ → Handler τ → Prop} (hR : Respects s R)
    {stages : List Stage}
    (hdeadline : ∀ fallback, deadline fallback ∈ stages → ∀ {next : Handler σ} {next' : Handler τ},
      R next next' → R (middleware s (.deadline fallback) next) (middleware s (.deadline fallback) next'))
    {next : Handler σ} {next' : Handler τ} (h : R next next') :
    R (BlockStorage.chain (stages.map (middleware s)) next)
      (BlockStorage.chain (stages.map (middleware s)) next') := by
  induction stages with
  | nil => exact h
  | cons stage stages ih =>
    have hinner := ih fun fallback hmem => hdeadline fallback (List.mem_cons_of_mem _ hmem)
    rw [List.map_cons, List.map_cons, chain_cons, chain_cons]
    cases stage with
    | deadline fallback => exact hdeadline fallback List.mem_cons_self hinner
    | namespaceRequired =>
      have hkind : namespaceMissing.kind = .precondition := rfl
      exact hR.barred (fun _ => s.useIds && s.namespace.isEmpty) hkind hinner
    | targetOrSelectors selectors =>
      have hkind : targetMissing.kind = .precondition := rfl
      exact hR.barred (fun args => args.isEmpty && selectors.isEmpty) hkind hinner
    | authenticate => exact hR.session hinner
    | explainLicence => exact hR.explained hinner

/-- A handler keeps a property in any stages whose deadlines keep it. -/
theorem Respects.chain_one {s : Settings} {P : Handler σ → Prop}
    (hP : Respects s fun (next : Handler σ) (_ : Handler σ) => P next) {stages : List Stage}
    (hdeadline : ∀ fallback, deadline fallback ∈ stages → ∀ {next : Handler σ},
      P next → P (middleware s (.deadline fallback) next))
    {next : Handler σ} (h : P next) : P (BlockStorage.chain (stages.map (middleware s)) next) :=
  @Respects.chain σ σ _ _ s _ hP stages (fun fallback hmem _ _ => hdeadline fallback hmem) next next h

end

end Stage

/-- A relation of outcomes that the stages keep, if two handlers stand in it wherever they run. -/
structure Outcome.Kept (R : Outcome Cluster Unit → Outcome Cluster Unit → Prop) : Prop where
  refl : ∀ o, R o o
  cancelled : ∀ {o o'} (child : Nat), R o o' →
    R (o.1, { o.2 with contexts := o.2.contexts.cancel child })
      (o'.1, { o'.2 with contexts := o'.2.contexts.cancel child })
  explained : ∀ {next next' : Handler Cluster} {ctx : Nat} {args : List String} {w : World Cluster},
    R (next ctx args w) (next' ctx args w) →
      R (Stage.withExplanation next ctx args w) (Stage.withExplanation next' ctx args w)

namespace Stage

/-- Handlers that are related wherever they run still are so in any stages. -/
theorem kept_chain {R : Outcome Cluster Unit → Outcome Cluster Unit → Prop} {next next' : Handler Cluster}
    (hR : Outcome.Kept R) (h : ∀ ctx args w, R (next ctx args w) (next' ctx args w))
    (s : Settings) (stages : List Stage) (ctx : Nat) (args : List String) (w : World Cluster) :
    R (chain (stages.map (middleware s)) next ctx args w)
      (chain (stages.map (middleware s)) next' ctx args w) := by
  have hrespects : Respects s fun next next' : Handler Cluster =>
      ∀ ctx args w, R (next ctx args w) (next' ctx args w) := by
    constructor
    case barred =>
      intro bars error _ next next' h ctx args w
      rw [barring, barring]
      split
      · exact hR.refl _
      · exact h ctx args w
    case session =>
      intro next next' h ctx args w
      simp only [withSession]
      split
      · exact hR.refl _
      · split
        · exact hR.refl _
        · exact h ctx args _
    case explained => exact fun h ctx args w => hR.explained (h ctx args w)
  refine hrespects.chain (fun fallback _ next next' h ctx args w => ?_) h ctx args w
  simp only [middleware, underDeadline]
  split
  · exact hR.cancelled _ (h _ args _)
  · exact hR.refl _

/-- The preconditions of the standard stages let arguments through. -/
structure Lets (s : Settings) (isNamespaced : Bool) (targets : Option SelectorSet)
    (args : List String) : Prop where
  namespaced : isNamespaced → ¬ (s.useIds && s.namespace.isEmpty)
  targeted : ∀ selectors ∈ targets, ¬ (args.isEmpty && selectors.isEmpty)

variable {s : Settings} {next : Handler Cluster} {ctx : Nat} {args : List String}
  {w : World Cluster}

theorem namespaceRequired_cases (s : Settings) (next : Handler Cluster) (ctx : Nat)
    (args : List String) (w : World Cluster) (isNamespaced : Bool) :
    (∃ f, chain ((if isNamespaced then [namespaceRequired] else []).map (middleware s)) next ctx args
      w = (.error f, w)) ∨
    (chain ((if isNamespaced then [namespaceRequired] else []).map (middleware s)) next ctx args
        w = next ctx args w ∧
      (isNamespaced → ¬ (s.useIds && s.namespace.isEmpty))) := by
  cases isNamespaced with
  | false => exact Or.inr ⟨rfl, fun h => by cases h⟩
  | true =>
    by_cases hmissing : (s.useIds && s.namespace.isEmpty) = true
    · exact Or.inl ⟨_, if_pos hmissing⟩
    · exact Or.inr ⟨if_neg hmissing, fun _ => hmissing⟩

theorem targetOrSelectors_cases (s : Settings) (next : Handler Cluster) (ctx : Nat)
    (args : List String) (w : World Cluster) (targets : Option SelectorSet) :
    (∃ f, chain ((targets.toList.map targetOrSelectors).map (middleware s)) next ctx args w =
      (.error f, w)) ∨
    (chain ((targets.toList.map targetOrSelectors).map (middleware s)) next ctx args w =
        next ctx args w ∧
      ∀ selectors ∈ targets, ¬ (args.isEmpty && selectors.isEmpty)) := by
  cases targets with
  | none => exact Or.inr ⟨rfl, fun _ h => by cases h⟩
  | some selectors =>
    by_cases hmissing : (args.isEmpty && selectors.isEmpty) = true
    · exact Or.inl ⟨_, if_pos hmissing⟩
    · refine Or.inr ⟨if_neg hmissing, ?_⟩
      intro selectors' h
      cases h
      exact hmissing

/-- A deadline turns a run away, or lets it go on under a context of its own. -/
theorem deadline_cases (s : Settings) (fallback : Duration) (next : Handler Cluster) (ctx : Nat)
    (args : List String) (w : World Cluster) :
    (∃ f, (middleware s (.deadline fallback) next ctx args w).1 = .error f ∧
      w.Same (middleware s (.deadline fallback) next ctx args w).2) ∨
    ∃ child v, w.Same v ∧
      (middleware s (.deadline fallback) next ctx args w).1 = (next child args v).1 ∧
      (next child args v).2.Same (middleware s (.deadline fallback) next ctx args w).2 := by
  by_cases hadmits : Contexts.admits (s.effectiveTimeout fallback)
      (w.log (deadlineEvents s fallback)).contexts.now = true
  · refine Or.inr
      ⟨(w.contexts.derive ctx (s.effectiveTimeout fallback)).2,
        { w.log (deadlineEvents s fallback) with
          contexts := (w.contexts.derive ctx (s.effectiveTimeout fallback)).1 },
        ⟨rfl, rfl, rfl⟩, ?_⟩
    simp only [middleware, underDeadline, if_pos hadmits]
    exact ⟨rfl, rfl, rfl, rfl⟩
  · refine Or.inl ⟨.brokenOff, ?_⟩
    simp only [middleware, underDeadline, if_neg hadmits]
    exact ⟨trivial, rfl, rfl, rfl⟩

/-- A run is turned away for its credentials or its context, or asks for a session, and goes on if it
gets one. -/
theorem withSession_cases (s : Settings) (next : Handler Cluster) (ctx : Nat) (args : List String)
    (w : World Cluster) :
    (∃ f, withSession s next ctx args w = (.error f, w)) ∨
    ∃ credentials, s.credentials = .ok credentials ∧ w.contexts.mayStart ctx = .ok () ∧
      ((∃ f, (w.cluster.perform w.now credentials.opening).1 = .error f ∧
          withSession s next ctx args w = (.error (.ofCall f), w.opened credentials)) ∨
        ∃ session u, (w.cluster.perform w.now credentials.opening).1 = .ok session ∧
          (w.opened credentials).Same u ∧ u.contexts = w.contexts ∧
          withSession s next ctx args w = next ctx args u) := by
  unfold withSession
  cases hcredentials : s.credentials with
  | error e => exact Or.inl ⟨_, rfl⟩
  | ok credentials =>
    cases hctx : w.contexts.mayStart ctx with
    | error e =>
      simp only [w.call_dead hctx]
      exact Or.inl ⟨_, rfl⟩
    | ok _ =>
      refine Or.inr ⟨credentials, rfl, rfl, ?_⟩
      simp only [w.call_live hctx]
      cases hanswer : (w.cluster.perform w.now credentials.opening).1 with
      | error f => exact Or.inl ⟨f, rfl, rfl⟩
      | ok session =>
        exact Or.inr ⟨session, (w.opened credentials).log [authenticatedEvent session], rfl,
          ⟨rfl, rfl, rfl⟩, rfl, rfl⟩

/-- What the licence does not forbid is left as it is. -/
theorem withExplanation_of_not {σ : Type} [Cluster.Callable σ] {next : Handler σ} {w : World σ}
    (h : ¬ Failure.IsLicence (next ctx args w).1) :
    withExplanation next ctx args w = next ctx args w := by
  rw [withExplanation]
  split
  · rename_i reason v hnext
    exact absurd ⟨reason, by rw [hnext]⟩ h
  · rfl

/-- When the licence forbids something, it is fetched, and the error stays one of the cluster or becomes
one of the licence. -/
theorem withExplanation_of_licence (h : Failure.IsLicence (next ctx args w).1)
    (hctx : (next ctx args w).2.contexts.mayStart ctx = .ok ()) :
    (withExplanation next ctx args w).2.cluster =
        ((next ctx args w).2.cluster.perform (next ctx args w).2.now .getLicence).2 ∧
      (withExplanation next ctx args w).2.sink = (next ctx args w).2.sink ∧
      ((withExplanation next ctx args w).1 = .error .brokenOff ∨
        ∃ e, (withExplanation next ctx args w).1 = .error (.command e) ∧
          (e.kind = .client ∨ e.kind = .licenceLimit)) := by
  obtain ⟨reason, hreason⟩ := h
  obtain ⟨v, hv⟩ : ∃ v, next ctx args w =
      (.error (.command (.client (.licenceCapability reason))), v) :=
    ⟨(next ctx args w).2, by rw [← hreason]⟩
  rw [hv] at hctx
  simp only [withExplanation, hv, v.call_live hctx]
  cases hanswer : (v.cluster.perform v.now .getLicence).1 with
  | ok licence => exact ⟨rfl, rfl, Or.inr ⟨_, rfl, Or.inr rfl⟩⟩
  | error f =>
    cases f with
    | client e => exact ⟨rfl, rfl, Or.inr ⟨_, rfl, Or.inl rfl⟩⟩
    | brokenOff => exact ⟨rfl, rfl, Or.inl rfl⟩

/-- How a handler in the standard stages goes. -/
inductive Course (s : Settings) (isNamespaced : Bool) (targets : Option SelectorSet)
    (next : Handler Cluster) (args : List String) (w : World Cluster) :
    Outcome Cluster Unit → Prop where
  /-- The run ends before it makes a call. -/
  | turnedAway {f : Failure} {v : World Cluster} (same : w.Same v) :
      Course s isNamespaced targets next args w (.error f, v)
  /-- The cluster gives no session. -/
  | refused {credentials : Credentials} {f : CallFailure} {v : World Cluster}
      (lets : Lets s isNamespaced targets args) (known : s.credentials = .ok credentials)
      (answer : (w.cluster.perform w.now credentials.opening).1 = .error f)
      (same : (w.opened credentials).Same v) :
      Course s isNamespaced targets next args w (.error (.ofCall f), v)
  /-- The handler runs in an open session, under a context in which calls may start. -/
  | entered {credentials : Credentials} {session : Session} {child : Nat} {u v : World Cluster}
      (lets : Lets s isNamespaced targets args) (known : s.credentials = .ok credentials)
      (answer : (w.cluster.perform w.now credentials.opening).1 = .ok session)
      (opened : (w.opened credentials).Same u) (live : u.contexts.mayStart child = .ok ())
      (same : (withExplanation next child args u).2.Same v) :
      Course s isNamespaced targets next args w ((withExplanation next child args u).1, v)

theorem standard_course (s : Settings) (isNamespaced : Bool) (targets : Option SelectorSet)
    (next : Handler Cluster) (ctx : Nat) (args : List String) (w : World Cluster) :
    Course s isNamespaced targets next args w
      (chain ((standard isNamespaced targets).map (middleware s)) next ctx args w) := by
  simp only [standard, List.map_append, chain_append]
  generalize hinner : chain ([authenticate, explainLicence].map (middleware s)) next = inner
  have hsession : inner = withSession s (withExplanation next) := hinner.symm
  generalize hbarred : chain ((targets.toList.map targetOrSelectors).map (middleware s)) inner =
    targeted
  generalize hguarded : chain ((if isNamespaced then [namespaceRequired] else []).map
    (middleware s)) targeted = guarded
  change Course s isNamespaced targets next args w
    (middleware s (.deadline defaultFallback) guarded ctx args w)
  generalize hr : middleware s (.deadline defaultFallback) guarded ctx args w = r
  obtain ⟨result, v'⟩ := r
  rcases deadline_cases s defaultFallback guarded ctx args w with
    ⟨f, hf, hsame⟩ | ⟨child, v, hwv, hfst, hsame⟩
  · rw [hr] at hf hsame
    obtain rfl := hf
    exact .turnedAway hsame
  rw [hr] at hfst hsame
  obtain rfl := hfst
  subst hguarded
  rcases namespaceRequired_cases s targeted child args v isNamespaced with
    ⟨f, hf⟩ | ⟨heq, hnamespaced⟩
  · rw [hf] at hsame ⊢
    exact .turnedAway (hwv.trans hsame)
  rw [heq] at hsame ⊢
  subst hbarred
  rcases targetOrSelectors_cases s inner child args v targets with ⟨f, hf⟩ | ⟨heq, htargeted⟩
  · rw [hf] at hsame ⊢
    exact .turnedAway (hwv.trans hsame)
  rw [heq] at hsame ⊢
  subst hsession
  have hlets : Lets s isNamespaced targets args := ⟨hnamespaced, htargeted⟩
  rcases withSession_cases s (withExplanation next) child args v with
    ⟨f, hf⟩ | ⟨credentials, hcredentials, hlive,
      ⟨f, hanswer, hf⟩ | ⟨session, u, hanswer, hu, hcontexts, heq⟩⟩
  · rw [hf] at hsame ⊢
    exact .turnedAway (hwv.trans hsame)
  · rw [hf] at hsame ⊢
    rw [hwv.1, hwv.2.1] at hanswer
    exact .refused hlets hcredentials hanswer ((World.opened_same hwv credentials).trans hsame)
  · rw [heq] at hsame ⊢
    rw [hwv.1, hwv.2.1] at hanswer
    exact .entered hlets hcredentials hanswer ((World.opened_same hwv credentials).trans hu)
      (hcontexts ▸ hlive) hsame

end Stage

end BlockStorage
