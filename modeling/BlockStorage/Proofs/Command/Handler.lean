import BlockStorage.Proofs.Command.Bodies
import BlockStorage.Proofs.Failure
import BlockStorage.Proofs.Output.Sink
import BlockStorage.Proofs.Run.Stages

/-!
Plans and their handlers: in which stages each command runs, what its handler does at the cluster, and
how showing a view at the end can fail.
-/

namespace BlockStorage

/-! ### Showing a view -/

namespace World

variable {s : Settings} {view : Output.View}

/-- Showing a view changes the sink at most. -/
theorem display_cluster (w : World Cluster) (s : Settings) (view : Output.View) :
    (w.display s view).2.cluster = w.cluster ∧ (w.display s view).2.now = w.now ∧
      (w.display s view).2.contexts = w.contexts := by
  rw [display]
  cases s.outputFormat with
  | error e => exact ⟨rfl, rfl, rfl⟩
  | ok format => exact ⟨rfl, rfl, rfl⟩

/-- Showing a view fails because the format is unknown, and then writes nothing, or because the sink is
full. -/
theorem display_error {σ : Type} {w : World σ} {f : Failure} (h : (w.display s view).1 = .error f) :
    (∃ e, s.outputFormat = .error e ∧ f = .command (.config e) ∧ (w.display s view).2 = w) ∨
      ∃ e, f = .command e ∧ e.kind = .display := by
  rw [display] at h ⊢
  cases hformat : s.outputFormat with
  | error e =>
    simp only [hformat] at h
    cases h
    exact Or.inl ⟨e, rfl, rfl, rfl⟩
  | ok format =>
    simp only [hformat] at h
    cases hwrite : (w.sink.writeAll (view.pieces format w.now)).1 with
    | ok _ =>
      rw [hwrite] at h
      cases h
    | error e =>
      rw [hwrite] at h
      cases h
      exact Or.inr ⟨e, rfl, Sink.kind_of_writeAll hwrite⟩

theorem display_not_licence (w : World Cluster) : ¬ Failure.IsLicence (w.display s view).1 := by
  rintro ⟨reason, h⟩
  rcases display_error h with ⟨e, _, he, _⟩ | ⟨e, he, hkind⟩
  · cases he
  · cases he
    cases hkind

end World

/-! ### Handlers -/

/-- A handler makes the calls of its program. If the program fails, the handler fails with it, and
otherwise it shows what came of it. -/
theorem Plan.handler_takes (s : Settings) (plan : Plan) {child : Nat} (args : List String)
    {u : World Cluster} (h : u.contexts.mayStart child = .ok ()) :
    ∃ xs r, plan.body.Takes xs r ∧
      Cluster.Answers u.now u.cluster xs (plan.handler s child args u).2.cluster ∧
      (plan.handler s child args u).2.now = u.now ∧
      (plan.handler s child args u).2.contexts = u.contexts ∧
      ((∃ f, r = .error f ∧ (plan.handler s child args u).1 = .error f ∧
          (plan.handler s child args u).2.sink = u.sink) ∨
        ∃ (view : Output.View) (v : World Cluster), r = .ok view ∧ v.sink = u.sink ∧
          plan.handler s child args u = v.display s view) := by
  obtain ⟨xs, htakes, hanswers, hnow, hcontexts, hsink⟩ := plan.body.run_takes u h
  refine ⟨xs, (plan.body.run child u).1, htakes, ?_⟩
  rw [Plan.handler]
  generalize plan.body.run child u = outcome at *
  obtain ⟨r, v⟩ := outcome
  cases r with
  | error f => exact ⟨hanswers, hnow, hcontexts, Or.inl ⟨f, rfl, rfl, hsink⟩⟩
  | ok view =>
    obtain ⟨hcluster', hnow', hcontexts'⟩ := v.display_cluster s view
    refine ⟨?_, hnow'.trans hnow, hcontexts'.trans hcontexts, Or.inr ⟨view, v, rfl, hsink, rfl⟩⟩
    change Cluster.Answers u.now u.cluster xs (v.display s view).2.cluster
    rw [hcluster']
    exact hanswers

/-! ### Plans -/

namespace Command

/-- What a plan of a command is: it runs in the standard stages, which refuse to list everything where
the command does so, and its program goes through the phases of the command. -/
structure Planned (s : Settings) (c : Command) (plan : Plan) : Prop where
  stages : ∃ targets, plan.stages = Stage.standard c.isNamespaced targets ∧
    ∀ listing ∈ c.described?, plan.args = listing.names ∧
      ∀ selectors, Plan.selectorsOf listing = .ok selectors → targets = some selectors
  phased : plan.check = .ok () → plan.body.Phased (c.lookups s) (c.Changes s)

variable {s : Settings} {plan : Plan}

/-- The stages of a command that may list everything. -/
theorem Planned.plain {c : Command} {args : List String} {check : Except CommandError Unit}
    {body : Program Output.View} (hdescribed : c.described? = none)
    (hbody : check = .ok () → body.Phased (c.lookups s) (c.Changes s)) :
    c.Planned s ⟨c.name, args, Stage.standard c.isNamespaced none, check, body⟩ := by
  refine ⟨⟨none, rfl, ?_⟩, hbody⟩
  intro listing h
  rw [hdescribed] at h
  cases h

theorem lookups_namespaced {c : Command} (h : c.isNamespaced) :
    c.lookups s = s.wanted [(.namespace, s.namespace)] ++ s.wanted c.references := by
  rw [lookups, h, if_pos rfl, s.wanted_append]

theorem lookups_none {c : Command} (h : c.isNamespaced = false) (hrefs : c.references = []) :
    c.lookups s = [] := by
  rw [lookups, h, hrefs]
  exact ite_self _

theorem map_check {α : Type} {x : Except CommandError α}
    (h : (x.map fun _ => ()) = .ok ()) : ∃ a, x = .ok a := by
  cases x with
  | error e => cases h
  | ok a => exact ⟨a, rfl⟩

/-- What is read of a command is a plan of it. -/
theorem planned_of_plan {c : Command} (h : c.plan s = .ok plan) : c.Planned s plan := by
  cases c with
  | getNamespaces listing =>
    obtain ⟨selectors, _, h⟩ := bind_eq_ok h
    cases h
    refine Planned.plain rfl fun _ => ?_
    rw [lookups_none rfl rfl]
    exact Plan.phased_getNamespaces s listing.names selectors
  | getVolumes listing =>
    obtain ⟨selectors, _, h⟩ := bind_eq_ok h
    cases h
    exact Planned.plain rfl fun _ => Plan.phased_getVolumes s listing.names selectors
  | getNodes listing =>
    obtain ⟨selectors, _, h⟩ := bind_eq_ok h
    cases h
    refine Planned.plain rfl fun _ => ?_
    rw [lookups_none rfl rfl]
    exact Plan.phased_getNodes s listing.names selectors
  | getUsers names =>
    cases h
    exact Planned.plain rfl fun _ => Plan.phased_getUsers s names
  | getPolicyGroups names =>
    cases h
    exact Planned.plain rfl fun _ => Plan.phased_getPolicyGroups s names
  | getLicence =>
    cases h
    refine Planned.plain rfl fun _ => ?_
    rw [lookups_none rfl rfl]
    exact Plan.phased_getLicence
  | describeVolumes listing =>
    obtain ⟨selectors, hselectors, h⟩ := bind_eq_ok h
    cases h
    refine ⟨⟨some selectors, rfl, ?_⟩, fun _ => ?_⟩
    · intro listing' hlisting
      cases hlisting
      refine ⟨rfl, fun selectors' h => ?_⟩
      rw [hselectors] at h
      rw [Except.ok.inj h]
    · rw [lookups_namespaced rfl]
      exact Plan.phased_describeVolumes s listing.names selectors
  | describeNodes listing =>
    obtain ⟨selectors, hselectors, h⟩ := bind_eq_ok h
    cases h
    refine ⟨⟨some selectors, rfl, ?_⟩, fun _ => Plan.phased_describeNodes s listing.names selectors⟩
    intro listing' hlisting
    cases hlisting
    refine ⟨rfl, fun selectors' h => ?_⟩
    rw [hselectors] at h
    rw [Except.ok.inj h]
  | createNamespace name labels =>
    obtain ⟨read, hread, h⟩ := bind_eq_ok h
    cases h
    refine Planned.plain rfl fun _ => ?_
    rw [lookups_none rfl rfl]
    exact Plan.phased_createNamespace ⟨read, hread, rfl⟩
  | createVolume name draft isAsync =>
    obtain ⟨spec, hspec, h⟩ := bind_eq_ok h
    cases h
    exact Planned.plain rfl fun _ => Plan.phased_createVolume fun ns => ⟨ns, spec, hspec, rfl⟩
  | resizeVolume volume size cas isAsync =>
    cases h
    refine Planned.plain rfl fun hcheck => ?_
    obtain ⟨sizeBytes, hsize⟩ := map_check hcheck
    rw [lookups_namespaced rfl, Plan.resizeVolume, hsize]
    exact Plan.phased_changeVolume s volume cas isAsync fun ns id =>
      Program.Phased.change ⟨ns, id, sizeBytes, hsize, rfl⟩ fun _ => Or.inl ⟨rfl, _, rfl⟩
  | setReplicas volume replicas cas isAsync =>
    cases h
    refine Planned.plain rfl fun hcheck => ?_
    obtain ⟨count, hcount⟩ := map_check hcheck
    rw [lookups_namespaced rfl, Plan.setReplicas, hcount]
    exact Plan.phased_changeVolume s volume cas isAsync fun ns id =>
      Program.Phased.change ⟨ns, id, count, hcount, rfl⟩ fun _ => Or.inl ⟨rfl, _, rfl⟩
  | updateExports volume exports cas isAsync =>
    obtain ⟨read, hread, h⟩ := bind_eq_ok h
    cases h
    refine Planned.plain rfl fun _ => ?_
    rw [lookups_namespaced rfl]
    exact Plan.phased_changeVolume s volume cas isAsync fun ns id =>
      Program.Phased.change ⟨ns, id, read, hread, rfl⟩ fun _ => Or.inl ⟨rfl, _, rfl⟩
  | setDescription volume description cas =>
    cases h
    refine Planned.plain rfl fun _ => ?_
    rw [lookups_namespaced rfl]
    exact Plan.phased_changeVolume s volume cas false fun ns id =>
      Program.Phased.change ⟨ns, id, rfl⟩ fun _ => Or.inl ⟨rfl, _, rfl⟩
  | deleteVolume volume cas isAsync =>
    cases h
    refine Planned.plain rfl fun _ => ?_
    rw [lookups_namespaced rfl]
    refine Plan.phased_changeVolume s volume cas isAsync fun ns id =>
      Program.Phased.change ⟨ns, id, rfl⟩ fun answer => Or.inl ⟨rfl, ?_⟩
    cases answer <;> exact ⟨_, rfl⟩
  | deleteNamespace ns cas =>
    cases h
    exact Planned.plain rfl fun _ => Plan.phased_deleteNamespace fun id => ⟨id, rfl⟩
  | attach volume node cas isAsync =>
    cases h
    refine Planned.plain rfl fun _ => ?_
    have hrefs := s.wanted_append [(.volume, volume)] [(.node, node)]
    rw [List.singleton_append] at hrefs
    rw [lookups_namespaced rfl, references, hrefs]
    exact Plan.phased_attach fun ns id nodeId => ⟨ns, id, nodeId, rfl⟩
  | detach volume cas isAsync =>
    cases h
    refine Planned.plain rfl fun _ => ?_
    rw [lookups_namespaced rfl]
    exact Plan.phased_detach fun ns id => ⟨ns, id, rfl⟩
  | cordon node cas =>
    cases h
    exact Planned.plain rfl fun _ => Plan.phased_setCordoned fun id => ⟨id, rfl⟩
  | uncordon node cas =>
    cases h
    exact Planned.plain rfl fun _ => Plan.phased_setCordoned fun id => ⟨id, rfl⟩

/-! ### Runs of commands -/

/-- Runs a command: reads it, and runs what was read. -/
def run {σ : Type} [Cluster.Callable σ] (s : Settings) (c : Command) (ctx : Nat) (w : World σ) :
    Outcome σ Unit :=
  match c.plan s with
  | .error error => (.error (.command error), w)
  | .ok plan => (plan.invocation s).run ctx w

section

variable {σ : Type} [Cluster.Callable σ] {c : Command} {plan : Plan} (ctx : Nat) (w : World σ)

/-- A run of a command that is not read has done nothing. -/
theorem run_of_plan_error {e : CommandError} (hplan : c.plan s = .error e) :
    c.run s ctx w = (.error (.command e), w) := by rw [run, hplan]

/-- A run of a command that does not pass its check has done nothing. -/
theorem run_of_check_error (hplan : c.plan s = .ok plan) {e : CommandError}
    (hcheck : plan.check = .error e) :
    c.run s ctx w = (.error (.command e.asInvalidArguments), w) := by
  simp only [run, hplan, Invocation.run, Invocation.validate, Plan.invocation, hcheck]
  rfl

/-- A run of a command that was read and passes its check goes through the stages of its plan. -/
theorem run_eq_chain (hplan : c.plan s = .ok plan) (hcheck : plan.check = .ok ()) :
    c.run s ctx w =
      chain (plan.stages.map (Stage.middleware s)) (plan.handler s) ctx plan.args w := by
  simp only [run, hplan, Invocation.run, Invocation.validate, Plan.invocation, hcheck]
  rfl

end

/-- A run of a command ends before its stages with the world as it was, or goes through them with a good
plan. -/
theorem run_course (s : Settings) (c : Command) (ctx : Nat) (w : World Cluster) :
    (∃ e, c.run s ctx w = (.error (.command e), w)) ∨
      ∃ plan targets, c.plan s = .ok plan ∧ plan.check = .ok () ∧
        (∀ listing ∈ c.described?, plan.args = listing.names ∧
          ∀ selectors, Plan.selectorsOf listing = .ok selectors → targets = some selectors) ∧
        Stage.Course s c.isNamespaced targets (plan.handler s) plan.args w (c.run s ctx w) := by
  cases hplan : c.plan s with
  | error e => exact .inl ⟨e, run_of_plan_error ctx w hplan⟩
  | ok plan =>
    obtain ⟨targets, hstages, htargets⟩ := (planned_of_plan hplan).stages
    cases hcheck : plan.check with
    | error e => exact .inl ⟨e.asInvalidArguments, run_of_check_error ctx w hplan hcheck⟩
    | ok _ =>
      refine .inr ⟨plan, targets, rfl, hcheck, htargets, ?_⟩
      rw [run_eq_chain ctx w hplan hcheck, hstages]
      exact Stage.standard_course ..

/-- Settings of a user whom a cluster knows. -/
def knownUser : Settings :=
  ⟨{ Options.empty with username := some "admin", password := some "secret" }, .empty,
    ⟨.empty, none⟩⟩

/-- A world whose cluster has one volume. -/
def oneVolumeWorld : World Cluster :=
  let named := ((Inventory.empty "admin" "secret").addNamespace .epoch "default").2
  let stored := (named.addVolume .epoch ⟨"ns-1"⟩ "data" 1024 .empty).2
  ⟨.epoch, .start, { Cluster.empty "admin" "secret" with inventory := stored }, .withLimit none, []⟩

end Command

end BlockStorage
