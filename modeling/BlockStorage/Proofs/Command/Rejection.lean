import BlockStorage.Proofs.Command.Handler

/-!
Runs that end because the invocation itself was wrong.

Everything that can be wrong with an invocation is found before the first call, but for the format of the
output, which is read when there is something to show. A run that finds no format then has done at the
cluster what it does under any other format.
-/

namespace BlockStorage

/-- The error says that the invocation itself was wrong. -/
def CommandError.IsRejection (e : CommandError) : Prop :=
  e.kind = .invalidArguments ∨ e.kind = .precondition ∨ e.kind = .config

/-- The error is that of an output format that nobody knows. -/
def CommandError.IsUnknownFormat (e : CommandError) : Prop :=
  ∃ literal, e = .config (.invalidOutputFormat literal)

/-- The settings with another output format in the options. -/
def Settings.withOutput (s : Settings) (output : Option String) : Settings :=
  { s with options := { s.options with output := output } }

theorem Settings.outputFormat_error {s : Settings} {e : ConfigError}
    (h : s.outputFormat = .error e) : ∃ literal, e = .invalidOutputFormat literal := by
  rw [outputFormat] at h
  split at h
  · cases h
  · rename_i literal _
    split at h
    · cases h
    · cases h
      exact ⟨literal, rfl⟩

/-- A call in worlds with the same cluster under the same contexts at the same time. -/
theorem World.call_congr {u v : World Cluster} (ctx : Nat) (c : Call) (hnow : u.now = v.now)
    (hcontexts : u.contexts = v.contexts) (hcluster : u.cluster = v.cluster) :
    (u.call ctx c).1 = (v.call ctx c).1 ∧ (u.call ctx c).2.now = (v.call ctx c).2.now ∧
      (u.call ctx c).2.contexts = (v.call ctx c).2.contexts ∧
      (u.call ctx c).2.cluster = (v.call ctx c).2.cluster := by
  simp only [World.call, hnow, hcontexts, hcluster]
  exact ⟨trivial, trivial, trivial, trivial⟩

/-! ### Outcomes at the same cluster -/

/-- Two outcomes leave the same behind but for output and log, and where they differ, neither is an error
of the licence. -/
structure Outcome.Agree (o o' : Outcome Cluster Unit) : Prop where
  now : o.2.now = o'.2.now
  contexts : o.2.contexts = o'.2.contexts
  cluster : o.2.cluster = o'.2.cluster
  result : o.1 = o'.1 ∨ (¬ Failure.IsLicence o.1 ∧ ¬ Failure.IsLicence o'.1)

theorem Outcome.Agree.refl (o : Outcome Cluster Unit) : o.Agree o :=
  ⟨rfl, rfl, rfl, Or.inl rfl⟩

/-- Two handlers agree wherever they run. -/
def Handler.Agree (next next' : Handler Cluster) : Prop :=
  ∀ ctx args w, Outcome.Agree (next ctx args w) (next' ctx args w)

/-- Handlers that agree are explained in agreement: if the licence is asked for, then by both and at the
same cluster. -/
theorem Outcome.Agree.explained {next next' : Handler Cluster} {ctx : Nat} {args : List String}
    {w : World Cluster} (h : Outcome.Agree (next ctx args w) (next' ctx args w)) :
    Outcome.Agree (Stage.withExplanation next ctx args w) (Stage.withExplanation next' ctx args w) := by
  obtain ⟨hnow, hcontexts, hcluster, hresult⟩ := h
  by_cases hlicence : Failure.IsLicence (next ctx args w).1
  · have hsame : (next ctx args w).1 = (next' ctx args w).1 := by
      rcases hresult with hsame | ⟨hnot, _⟩
      · exact hsame
      · exact absurd hlicence hnot
    obtain ⟨reason, hreason⟩ := hlicence
    have hleft := World.call_congr ctx .getLicence hnow hcontexts hcluster
    rw [hreason] at hsame
    generalize hu : next ctx args w = o at *
    generalize hv : next' ctx args w = o' at *
    obtain ⟨r, u⟩ := o
    obtain ⟨r', v⟩ := o'
    obtain rfl : r = _ := hreason
    obtain rfl : _ = r' := hsame
    simp only [Stage.withExplanation, hu, hv]
    generalize hx : u.call ctx .getLicence = x at *
    generalize hy : v.call ctx .getLicence = y at *
    obtain ⟨answer, u'⟩ := x
    obtain ⟨answer', v'⟩ := y
    obtain ⟨rfl, hn, hc, hs⟩ := hleft
    rcases answer with (e | _) | licence <;> exact ⟨hn, hc, hs, Or.inl rfl⟩
  · have hlicence' : ¬ Failure.IsLicence (next' ctx args w).1 := by
      rcases hresult with hsame | ⟨_, hnot⟩
      · rw [← hsame]
        exact hlicence
      · exact hnot
    rw [Stage.withExplanation_of_not hlicence, Stage.withExplanation_of_not hlicence']
    exact ⟨hnow, hcontexts, hcluster, hresult⟩

theorem Outcome.agree_kept : Outcome.Kept Outcome.Agree where
  refl := Outcome.Agree.refl
  cancelled child h := ⟨h.now, congrArg (Contexts.cancel · child) h.contexts, h.cluster, h.result⟩
  explained := Outcome.Agree.explained

/-- Handlers of a plan agree under all formats. -/
theorem Plan.agree_handler (s : Settings) (output : Option String) (plan : Plan) :
    Handler.Agree (plan.handler s) (plan.handler (s.withOutput output)) := by
  intro ctx args w
  simp only [Plan.handler]
  generalize plan.body.run ctx w = outcome
  obtain ⟨r, v⟩ := outcome
  cases r with
  | error f => exact Outcome.Agree.refl _
  | ok view =>
    obtain ⟨hcluster, hnow, hcontexts⟩ := v.display_cluster s view
    obtain ⟨hcluster', hnow', hcontexts'⟩ := v.display_cluster (s.withOutput output) view
    exact ⟨hnow.trans hnow'.symm, hcontexts.trans hcontexts'.symm, hcluster.trans hcluster'.symm,
      Or.inr ⟨v.display_not_licence, v.display_not_licence⟩⟩

namespace Command

/-- The format of the output has no part in the reading of a command. -/
theorem plan_withOutput (s : Settings) (output : Option String) (c : Command) :
    c.plan (s.withOutput output) = c.plan s := by
  cases c <;> rfl

/-- The format of the output has no part in what a run does at the cluster. -/
theorem cluster_withOutput (s : Settings) (output : Option String) (c : Command) (ctx : Nat)
    (w : World Cluster) :
    (c.run (s.withOutput output) ctx w).2.cluster = (c.run s ctx w).2.cluster := by
  rw [run, run, plan_withOutput]
  cases c.plan s with
  | error e => rfl
  | ok plan =>
    simp only [Invocation.run, Invocation.validate, Plan.invocation]
    cases plan.check with
    | error e => rfl
    | ok _ =>
      have hstages : plan.stages.map (Stage.middleware (σ := Cluster) (s.withOutput output)) =
          plan.stages.map (Stage.middleware s) := by
        apply List.map_congr_left
        intro stage _
        cases stage <;> rfl
      have hagree := Stage.kept_chain Outcome.agree_kept (Plan.agree_handler s output plan) s
        plan.stages ctx plan.args w
      simp only [Except.mapError, hstages]
      exact hagree.cluster.symm

/-- What the cluster, its licence or the output is to blame for is no fault of the invocation. -/
theorem not_rejection {e : CommandError}
    (h : e.kind = .client ∨ e.kind = .licenceLimit ∨ e.kind = .display) : ¬ e.IsRejection := by
  rintro (hkind | hkind | hkind)
  all_goals
    rw [hkind] at h
    rcases h with h | h | h <;> cases h

/-- A handler that ends with the invocation being wrong found no format to show something in, and wrote
nothing. -/
theorem handler_rejection {s : Settings} {c : Command} {plan : Plan} {child : Nat}
    {u : World Cluster} {e : CommandError} (hplan : c.plan s = .ok plan)
    (hcheck : plan.check = .ok ()) (live : u.contexts.mayStart child = .ok ())
    (h : (Stage.withExplanation (plan.handler s) child plan.args u).1 = .error (.command e))
    (hrejection : e.IsRejection) :
    e.IsUnknownFormat ∧
      (Stage.withExplanation (plan.handler s) child plan.args u).2.sink = u.sink := by
  obtain ⟨xs, result, htakes, _, _, hcontexts, hend⟩ := plan.handler_takes s plan.args live
  obtain ⟨_, hkind⟩ := (planned_of_plan hplan).phased hcheck xs result htakes
  by_cases hlicence : Failure.IsLicence (plan.handler s child plan.args u).1
  · exfalso
    obtain ⟨_, _, hbroken | ⟨e', he', hkind'⟩⟩ :=
      Stage.withExplanation_of_licence hlicence (hcontexts.symm ▸ live)
    · rw [hbroken] at h
      cases h
    · rw [he'] at h
      cases h
      rcases hkind' with hclient | hlimit
      · exact not_rejection (Or.inl hclient) hrejection
      · exact not_rejection (Or.inr (Or.inl hlimit)) hrejection
  rw [Stage.withExplanation_of_not hlicence] at h ⊢
  rcases hend with ⟨f, rfl, hf, _⟩ | ⟨view, v, _, hsink, hv⟩
  · exfalso
    rw [hf] at h
    cases h
    exact not_rejection (Or.inl (hkind e rfl)) hrejection
  · rw [hv] at h ⊢
    rcases World.display_error h with ⟨fe, hformat, he, hsame⟩ | ⟨e', he, hdisplay⟩
    · obtain ⟨literal, rfl⟩ := Settings.outputFormat_error hformat
      cases he
      refine ⟨⟨literal, rfl⟩, ?_⟩
      rw [hsame, hsink]
    · exfalso
      cases he
      exact not_rejection (Or.inr (Or.inr hdisplay)) hrejection

/-- A run that ends because the invocation itself was wrong has written nothing, and either did nothing
at all or found no format to show something in. -/
theorem rejection_cases {s : Settings} {c : Command} {ctx : Nat} {w : World Cluster}
    {e : CommandError} (h : (c.run s ctx w).1 = .error (.command e)) (hrejection : e.IsRejection) :
    (c.run s ctx w).2.sink = w.sink ∧
      ((c.run s ctx w).2.cluster = w.cluster ∨ e.IsUnknownFormat) := by
  rcases c.run_course s ctx w with ⟨e', hrun⟩ | ⟨plan, targets, hplan, hcheck, _, hcourse⟩
  · rw [hrun]
    exact ⟨rfl, Or.inl rfl⟩
  generalize c.run s ctx w = r at hcourse h ⊢
  cases hcourse with
  | turnedAway same => exact ⟨same.2.2, Or.inl same.2.1⟩
  | refused _ _ _ same => exact absurd hrejection (not_rejection (Or.inl (Program.kind_of_ofCall h)))
  | entered _ _ _ opened live same =>
    obtain ⟨hunknown, hsink⟩ := handler_rejection hplan hcheck live h hrejection
    exact ⟨same.2.2.trans (hsink.trans opened.2.2), Or.inr hunknown⟩

/-- A run that ends because the invocation itself was wrong has written nothing. It has made no call and
left the cluster exactly as it was, unless what was wrong is the format of the output; then it leaves the
cluster as it does under any other format. -/
theorem rejection_without_effect (s : Settings) (c : Command) (ctx : Nat) (w : World Cluster)
    (e : CommandError) (h : (c.run s ctx w).1 = .error (.command e)) (hrejection : e.IsRejection) :
    (c.run s ctx w).2.sink = w.sink ∧
      (¬ e.IsUnknownFormat → (c.run s ctx w).2.cluster = w.cluster) ∧
      (e.IsUnknownFormat → ∀ output,
        (c.run s ctx w).2.cluster = (c.run (s.withOutput output) ctx w).2.cluster) := by
  obtain ⟨hsink, hcluster⟩ := rejection_cases h hrejection
  refine ⟨hsink, ?_, ?_⟩
  · intro hknown
    rcases hcluster with hsame | hunknown
    · exact hsame
    · exact absurd hunknown hknown
  · intro _ output
    exact (cluster_withOutput s output c ctx w).symm

/-- A namespace cannot be shown as created where the format is unknown. -/
theorem createNamespace_unknownFormat :
    (run (knownUser.withOutput (some "xml")) (.createNamespace "x" []) 0 oneVolumeWorld).1 =
      .error (.command (.config (.invalidOutputFormat "xml"))) := by
  decide +kernel

/-- A size that cannot be read leaves the cluster as it was. A format that nobody knows leaves it as the
format of the default does. -/
theorem rejection_without_effect_size_and_format :
    (run knownUser (.resizeVolume "data" "many" none false) 0 oneVolumeWorld).2.cluster =
        oneVolumeWorld.cluster ∧
      (run (knownUser.withOutput (some "xml")) (.createNamespace "x" []) 0 oneVolumeWorld).2.cluster =
        (run knownUser (.createNamespace "x" []) 0 oneVolumeWorld).2.cluster := by
  refine ⟨?_, ?_⟩
  · obtain ⟨e, he, hkind⟩ : ∃ e, (run knownUser (.resizeVolume "data" "many" none false) 0
        oneVolumeWorld).1 = .error (.command e) ∧ e.kind = .invalidArguments := ⟨_, rfl, rfl⟩
    refine (rejection_without_effect _ _ 0 _ e he (Or.inl hkind)).2.1 ?_
    rintro ⟨literal, rfl⟩
    cases hkind
  · exact (rejection_without_effect _ _ 0 _ _ createNamespace_unknownFormat
      (Or.inr (Or.inr rfl))).2.2 ⟨"xml", rfl⟩ none

/-- Not every run that ends because the invocation itself was wrong makes no change: a namespace is
created before the format of the output turns out to be unknown. -/
theorem rejection_with_effect :
    ¬ ∀ (s : Settings) (c : Command) (ctx : Nat) (w : World Cluster) (e : CommandError),
      (c.run s ctx w).1 = .error (.command e) → e.IsRejection →
      (∃ ms, (c.run s ctx w).2.cluster.calls = w.cluster.calls ++ ms ∧
          ∀ m ∈ ms, Method.isMutating m = false) ∧
        (c.run s ctx w).2.cluster.inventory = w.cluster.inventory := by
  intro h
  have hcreated : (run (knownUser.withOutput (some "xml")) (.createNamespace "x" []) 0
      oneVolumeWorld).2.cluster.inventory.namespaces.length = 2 := by
    decide +kernel
  obtain ⟨_, hinventory⟩ := h _ _ 0 _ _ createNamespace_unknownFormat (Or.inr (Or.inr rfl))
  rw [hinventory] at hcreated
  exact absurd hcreated (by decide)

end Command

end BlockStorage
