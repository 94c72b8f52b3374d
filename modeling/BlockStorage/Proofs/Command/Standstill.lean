import BlockStorage.Proofs.Command.Transcript
import BlockStorage.Proofs.Context.Deadline

/-!
Runs under a context that has ended.

A context that was cancelled, or whose deadline has come, leaves nothing to a command but its own checks:
those of its literals, its preconditions and the credentials. One of them may object, and then its error is
the one that the command has under any context. Otherwise the first call that is tried ends the run with the
end of the context. In neither case has anything been done.
-/

namespace BlockStorage

/-- Under a context that has ended, a call fails with the end of the context and does nothing. -/
def Cluster.HeedsContexts (σ : Type) [Cluster.Callable σ] : Prop :=
  ∀ (w : World σ) (ctx : Nat) (e : ClientError), w.contexts.mayStart ctx = .error e →
    ∀ c, w.call ctx c = (.error (.client e), w)

theorem Cluster.heedsContexts : Cluster.HeedsContexts Cluster :=
  fun w _ _ hdead c => w.call_dead hdead c

/-- Clients at a network heed contexts as well. -/
theorem Rest.Client.heedsContexts (ν : Type) [Rest.Network ν] :
    Cluster.HeedsContexts (Rest.Client ν) := by
  intro w ctx e hdead c
  have hkept : ∀ call, Rest.Answer.reworded call e = e := by
    rcases Contexts.mayStart_eq_error_iff.mp hdead with ⟨rfl, -⟩ | ⟨rfl, -, -⟩
    · exact fun _ => rfl
    · exact fun _ => rfl
  have hcall := (Contexts.neverStarts_of_mayStart hdead hkept).remote ν w.cluster none c
  simp only [World.call, Cluster.Callable.answer, hcall, Contexts.advanceTo, max_self, List.append_nil]
  rfl

/-! ### Refusals -/

/-- A run was refused with an error: the cluster is what it was, and nothing was written. -/
structure Outcome.Refuses {σ : Type} (w : World σ) (e : CommandError) (o : Outcome σ Unit) : Prop where
  result : o.1 = .error (.command e)
  cluster : o.2.cluster = w.cluster
  sink : o.2.sink = w.sink

namespace Stage

/-- What the stages before the first call object to. -/
def objection? (s : Settings) (args : List String) : List Stage → Option CommandError
  | [] => none
  | .deadline _ :: stages => objection? s args stages
  | .namespaceRequired :: stages =>
    if s.useIds && s.namespace.isEmpty then some namespaceMissing else objection? s args stages
  | .targetOrSelectors selectors :: stages =>
    if args.isEmpty && selectors.isEmpty then some targetMissing else objection? s args stages
  | .authenticate :: _ =>
    match s.credentials with
    | .error error => some (.config error)
    | .ok _ => none
  | .explainLicence :: stages => objection? s args stages

variable {s : Settings} {args : List String} {stages : List Stage} {e : CommandError}

/-- No objection comes from the cluster. -/
theorem kind_of_objection? (h : objection? s args stages = some e) : e.kind ≠ .client := by
  induction stages with
  | nil => cases h
  | cons stage stages ih =>
    cases stage with
    | deadline fallback => exact ih h
    | namespaceRequired =>
      rw [objection?] at h
      split at h
      · obtain rfl := Option.some.inj h
        exact nofun
      · exact ih h
    | targetOrSelectors selectors =>
      rw [objection?] at h
      split at h
      · obtain rfl := Option.some.inj h
        exact nofun
      · exact ih h
    | authenticate =>
      rw [objection?] at h
      split at h
      · obtain rfl := Option.some.inj h
        exact nofun
      · cases h
    | explainLicence => exact ih h

/-- The end of a context is nothing that the licence forbids, and neither is an objection. -/
theorem not_isLicence_of_refuses {σ : Type} {w : World σ} {end' : ClientError} {cs : Contexts} {ctx : Nat}
    (hends : objection? s args stages = none → cs.mayStart ctx = .error end') {o : Outcome σ Unit}
    (h : o.Refuses w ((objection? s args stages).getD (.client end'))) : ¬ Failure.IsLicence o.1 := by
  rintro ⟨reason, hreason⟩
  have hsame : (objection? s args stages).getD (.client end') = .client (.licenceCapability reason) := by
    simpa using h.result.symm.trans hreason
  cases hobjection : objection? s args stages with
  | some e =>
    rw [hobjection, Option.getD_some] at hsame
    exact kind_of_objection? hobjection (hsame ▸ rfl)
  | none =>
    rw [hobjection, Option.getD_none] at hsame
    obtain rfl := CommandError.client.inj hsame
    rcases Contexts.mayStart_eq_error_iff.mp (hends hobjection) with ⟨h, -⟩ | ⟨h, -, -⟩
    · cases h
    · cases h

/-- A run that the stages object to, or that is to make its first call under a context that has ended, is
refused. -/
theorem chain_refuses {σ : Type} [Cluster.Callable σ] (hσ : Cluster.HeedsContexts σ) {e : ClientError}
    {ctx : Nat} {w : World σ} (hadmits : ∀ fallback, Stage.deadline fallback ∈ stages →
      Contexts.admits (s.effectiveTimeout fallback) w.contexts.now = true)
    (hcalls : .authenticate ∈ stages) (next : Handler σ)
    (hends : objection? s args stages = none → w.contexts.mayStart ctx = .error e) :
    Outcome.Refuses w ((objection? s args stages).getD (.client e))
      (chain (stages.map (middleware s)) next ctx args w) := by
  induction stages generalizing ctx w with
  | nil => cases hcalls
  | cons stage stages ih =>
    have hadmits' : ∀ fallback, Stage.deadline fallback ∈ stages →
        Contexts.admits (s.effectiveTimeout fallback) w.contexts.now = true :=
      fun fallback h => hadmits fallback (List.mem_cons_of_mem _ h)
    rw [List.map_cons, chain_cons]
    cases stage with
    | deadline fallback =>
      -- the context of the stages within has ended like the one that it is derived from, at the same time
      have hcalls : .authenticate ∈ stages := by simpa using hcalls
      have hinner := @ih (w.contexts.derive ctx (s.effectiveTimeout fallback)).2
        { w.log (deadlineEvents s fallback) with
          contexts := (w.contexts.derive ctx (s.effectiveTimeout fallback)).1 }
        (by simpa only [Contexts.derive_now] using hadmits') hcalls
        fun hnone => Contexts.mayStart_derive (hends hnone) _
      have hnow : Contexts.admits (s.effectiveTimeout fallback)
          (w.log (deadlineEvents s fallback)).contexts.now = true := hadmits fallback List.mem_cons_self
      simp only [middleware, underDeadline, if_pos hnow]
      exact ⟨hinner.result, hinner.cluster, hinner.sink⟩
    | namespaceRequired =>
      have hcalls : .authenticate ∈ stages := by simpa using hcalls
      rw [objection?] at hends ⊢
      simp only [middleware]
      split
      · exact ⟨rfl, rfl, rfl⟩
      · rename_i hgiven
        rw [if_neg hgiven] at hends
        exact ih hadmits' hcalls hends
    | targetOrSelectors selectors =>
      have hcalls : .authenticate ∈ stages := by simpa using hcalls
      rw [objection?] at hends ⊢
      simp only [middleware]
      split
      · exact ⟨rfl, rfl, rfl⟩
      · rename_i hgiven
        rw [if_neg hgiven] at hends
        exact ih hadmits' hcalls hends
    | authenticate =>
      rw [objection?] at hends ⊢
      simp only [middleware, withSession]
      cases hcredentials : s.credentials with
      | error error => exact ⟨rfl, rfl, rfl⟩
      | ok credentials =>
        rw [hcredentials] at hends
        simp only [hσ w ctx e (hends rfl)]
        exact ⟨rfl, rfl, rfl⟩
    | explainLicence =>
      have hcalls : .authenticate ∈ stages := by simpa using hcalls
      have hinner := ih hadmits' hcalls hends
      change Outcome.Refuses w _ (withExplanation _ ctx args w)
      rw [withExplanation_of_not (not_isLicence_of_refuses hends hinner)]
      exact hinner

/-- The standard stages object to nothing exactly if their preconditions let the arguments through and
there are credentials. -/
theorem objection?_standard {isNamespaced : Bool} {targets : Option SelectorSet} :
    objection? s args (standard isNamespaced targets) = none ↔
      Lets s isNamespaced targets args ∧ ∃ credentials, s.credentials = .ok credentials := by
  have hsession : objection? s args [authenticate, explainLicence] = none ↔
      ∃ credentials, s.credentials = .ok credentials := by
    rw [objection?]
    cases s.credentials <;> simp
  have htargets : objection? s args (targets.toList.map targetOrSelectors ++
      [authenticate, explainLicence]) = none ↔
        (∀ selectors ∈ targets, ¬ (args.isEmpty && selectors.isEmpty)) ∧
          ∃ credentials, s.credentials = .ok credentials := by
    cases targets with
    | none => simpa using hsession
    | some selectors =>
      change (if args.isEmpty && selectors.isEmpty then _ else
        objection? s args [authenticate, explainLicence]) = none ↔ _
      split
      · rename_i hbare
        exact iff_of_false nofun fun h => h.1 selectors rfl hbare
      · rename_i hgiven
        refine hsession.trans ⟨fun h => ⟨?_, h⟩, And.right⟩
        rintro _ ⟨rfl⟩
        exact hgiven
  cases isNamespaced with
  | false =>
    refine htargets.trans (and_congr_left' ⟨fun h => ⟨nofun, h⟩, Lets.targeted⟩)
  | true =>
    change (if s.useIds && s.namespace.isEmpty then _ else objection? s args
      (targets.toList.map targetOrSelectors ++ [authenticate, explainLicence])) = none ↔ _
    split
    · rename_i hmissing
      exact iff_of_false nofun fun h => h.1.namespaced rfl hmissing
    · rename_i hgiven
      exact htargets.trans (and_congr_left' ⟨fun h => ⟨fun _ => hgiven, h⟩, Lets.targeted⟩)

end Stage

namespace Command

variable {s : Settings} {c : Command}

/-- In which stages a command runs: those of a description refuse to describe everything. -/
theorem stages_of_plan {plan : Plan} (h : c.plan s = .ok plan) :
    (c.described? = none ∧ plan.stages = Stage.standard c.isNamespaced none) ∨
      ∃ listing selectors, c.described? = some listing ∧ Plan.selectorsOf listing = .ok selectors ∧
        plan.args = listing.names ∧ plan.stages = Stage.standard c.isNamespaced (some selectors) := by
  cases c with
  | describeVolumes listing =>
    obtain ⟨selectors, hselectors, h⟩ := bind_eq_ok h
    cases h
    exact .inr ⟨listing, selectors, rfl, hselectors, rfl, rfl⟩
  | describeNodes listing =>
    obtain ⟨selectors, hselectors, h⟩ := bind_eq_ok h
    cases h
    exact .inr ⟨listing, selectors, rfl, hselectors, rfl, rfl⟩
  | getNamespaces | getVolumes | getNodes | createNamespace | createVolume | updateExports =>
    obtain ⟨_, -, h⟩ := bind_eq_ok h
    cases h
    exact .inl ⟨rfl, rfl⟩
  | _ =>
    cases h
    exact .inl ⟨rfl, rfl⟩

/-- What objects to a command before its first call: a literal, a precondition or the credentials. -/
def objection? (s : Settings) (c : Command) : Option CommandError :=
  match c.plan s with
  | .error error => some error
  | .ok plan =>
    match plan.check with
    | .error error => some error.asInvalidArguments
    | .ok () => Stage.objection? s plan.args plan.stages

/-- Nothing objects to a command exactly if everything lets it through that is checked before a session is
asked for. -/
theorem objection?_eq_none_iff : c.objection? s = none ↔ c.Admitted s := by
  have hvalid (h : ∃ plan, c.plan s = .ok plan ∧ plan.check = .ok ()) :
      c.objection? s = none ↔ c.Admitted s := by
    obtain ⟨plan, hplan, hcheck⟩ := h
    rw [objection?, hplan]
    simp only [hcheck]
    rcases stages_of_plan hplan with
      ⟨hplain, hstages⟩ | ⟨listing, selectors, hlisting, hread, hargs, hstages⟩
    · rw [hstages, Stage.objection?_standard]
      refine ⟨fun ⟨hlets, hcredentials⟩ => ⟨⟨plan, hplan, hcheck⟩, hlets.namespaced, ?_, hcredentials⟩,
        fun h => ⟨⟨h.namespaced, nofun⟩, h.credentials⟩⟩
      rw [hplain]
      exact nofun
    · rw [hstages, Stage.objection?_standard, hargs]
      refine ⟨fun ⟨hlets, hcredentials⟩ => ⟨⟨plan, hplan, hcheck⟩, hlets.namespaced, ?_, hcredentials⟩,
        fun h => ⟨⟨h.namespaced, ?_⟩, h.credentials⟩⟩
      · intro listing' hlisting' selectors' hread'
        obtain rfl := Option.mem_unique hlisting hlisting'
        obtain rfl := Except.ok.inj (hread.symm.trans hread')
        exact hlets.targeted selectors rfl
      · rintro _ ⟨rfl⟩
        exact h.targeted listing hlisting selectors hread
  constructor
  · intro h
    refine (hvalid ?_).mp h
    rw [objection?] at h
    split at h
    · cases h
    · rename_i plan hplan
      split at h
      · cases h
      · rename_i hcheck
        exact ⟨plan, hplan, hcheck⟩
  · intro h
    exact (hvalid h.valid).mpr h

/-- A command that something objects to, or that runs under a context that has ended, is refused. -/
theorem run_refuses {σ : Type} [Cluster.Callable σ] (hσ : Cluster.HeedsContexts σ)
    {ctx : Nat} {w : World σ} {e : ClientError}
    (hadmits : Contexts.admits (s.effectiveTimeout Stage.defaultFallback) w.contexts.now = true)
    (hends : c.objection? s = none → w.contexts.mayStart ctx = .error e) :
    Outcome.Refuses w ((c.objection? s).getD (.client e)) (c.run s ctx w) := by
  rw [objection?] at hends ⊢
  cases hplan : c.plan s with
  | error error =>
    rw [run_of_plan_error ctx w hplan]
    exact ⟨rfl, rfl, rfl⟩
  | ok plan =>
    simp only [hplan] at hends ⊢
    cases hcheck : plan.check with
    | error error =>
      rw [run_of_check_error ctx w hplan hcheck]
      exact ⟨rfl, rfl, rfl⟩
    | ok _ =>
      simp only [hcheck] at hends ⊢
      obtain ⟨targets, hstages, -⟩ := (planned_of_plan hplan).stages
      have hcalls : .authenticate ∈ plan.stages := by
        rw [hstages, Stage.standard]
        simp
      rw [run_eq_chain ctx w hplan hcheck]
      refine Stage.chain_refuses hσ ?_ hcalls (plan.handler s) hends
      rw [hstages]
      intro fallback hmem
      obtain rfl : fallback = Stage.defaultFallback := by
        rw [Stage.standard] at hmem
        cases c.isNamespaced <;> cases targets <;> simpa using hmem
      exact hadmits

/-- A dead context has no effects: the run leaves the cluster exactly as it was, with its record of calls and
of their parameters, and writes nothing. If something objects to the command, the run fails with that, as it
does under any other context, and otherwise with the end of the context, where a cancellation counts before
a deadline. -/
theorem run_under_dead_context (s : Settings) (c : Command) (ctx : Nat) (w : World Cluster)
    (hadmits : Contexts.admits (s.effectiveTimeout Stage.defaultFallback) w.contexts.now = true) :
    ((w.contexts.get ctx).cancelled = true →
      Outcome.Refuses w ((c.objection? s).getD (.client .cancelled)) (c.run s ctx w)) ∧
    ((w.contexts.get ctx).cancelled = false → ∀ d ∈ (w.contexts.get ctx).deadline, d ≤ w.contexts.now →
      Outcome.Refuses w ((c.objection? s).getD (.client .deadlineExceeded)) (c.run s ctx w)) ∧
    (∀ e, c.objection? s = some e → ∀ (ctx : Nat) (w : World Cluster),
      Contexts.admits (s.effectiveTimeout Stage.defaultFallback) w.contexts.now = true →
      Outcome.Refuses w e (c.run s ctx w)) ∧
    (c.objection? s = none ↔ c.Admitted s) := by
  refine ⟨fun hcancelled => ?_, fun hlive d hd hexpired => ?_, fun e he ctx w hadmits => ?_,
    objection?_eq_none_iff⟩
  · exact run_refuses Cluster.heedsContexts hadmits fun _ => Contexts.mayStart_of_cancelled hcancelled
  · exact run_refuses Cluster.heedsContexts hadmits fun _ =>
      Contexts.mayStart_of_expired hlive hd hexpired
  · have h := @run_refuses s c _ _ Cluster.heedsContexts ctx w .cancelled hadmits
      fun hnone => nomatch he.symm.trans hnone
    rw [he] at h
    exact h

/-- Contexts of which the last one had no time. -/
def noTime : Contexts := (Contexts.start.derive 0 .zero).1

/-- A deletion that has no time deletes nothing, and one that lacks its password fails with that. -/
theorem run_under_dead_context_delete :
    Outcome.Refuses { oneVolumeWorld with contexts := noTime } (.client .deadlineExceeded)
      (run knownUser (.deleteVolume "data" none false) 1 { oneVolumeWorld with contexts := noTime }) ∧
    Outcome.Refuses { oneVolumeWorld with contexts := noTime } (.config .missingPassword)
      (run { knownUser with options := .empty } (.deleteVolume "data" none false) 1
        { oneVolumeWorld with contexts := noTime }) :=
  ⟨(run_under_dead_context knownUser (.deleteVolume "data" none false) 1
      { oneVolumeWorld with contexts := noTime } rfl).2.1 rfl 0 rfl le_rfl,
    (run_under_dead_context { knownUser with options := .empty } (.deleteVolume "data" none false) 1
      { oneVolumeWorld with contexts := noTime } rfl).2.1 rfl 0 rfl le_rfl⟩

/-- At a network, a dead context has no effects either: the client stays as it was, and its network carries
no request. -/
theorem run_under_dead_context_remote {ν : Type} [Rest.Network ν] (s : Settings) (c : Command) (ctx : Nat)
    (w : World (Rest.Client ν)) {e : ClientError} (hdead : w.contexts.mayStart ctx = .error e)
    (hadmits : Contexts.admits (s.effectiveTimeout Stage.defaultFallback) w.contexts.now = true) :
    Outcome.Refuses w ((c.objection? s).getD (.client e)) (c.run s ctx w) :=
  run_refuses (Rest.Client.heedsContexts ν) hadmits fun _ => hdead

end Command

end BlockStorage
