import BlockStorage.Proofs.Command.Handler
import BlockStorage.Proofs.Inventory.Acceptance
import BlockStorage.Proofs.Run.Evaluation

/-!
Asking for acceptance changes how a change is acknowledged, and nothing else.

A call leaves the same cluster with and without a wait, but for the wait on its record. A command does the
same up to its change under either flag; after it only the command that waits may make one more call, to
show what came of the change, and that call reads.
-/

namespace BlockStorage

/-! ### Calls -/

namespace Cluster

/-- Two clusters are told apart by the longest waits on their records at most. -/
structure AlikeButWaits (cluster other : Cluster) : Prop where
  inventory : cluster.inventory = other.inventory
  calls : cluster.calls = other.calls
  failures : cluster.failures = other.failures
  requests : cluster.requests.map (RequestParams.withAsyncMax none) =
    other.requests.map (RequestParams.withAsyncMax none)

theorem record_alike (cluster : Cluster) (c : Call) (wait wait' : Option Duration) :
    (cluster.record (c.withAsyncMax wait)).AlikeButWaits (cluster.record (c.withAsyncMax wait')) := by
  refine ⟨rfl, ?_, rfl, ?_⟩
  · simp [record]
  · cases c <;> simp [record, Call.params?, Call.withAsyncMax, RequestParams.withAsyncMax]

/-- A call under a context is answered alike for any two waits, and leaves clusters alike. -/
theorem callUnder_alike (cluster : Cluster) (now : Timestamp) (contexts : Contexts) (ctx : Nat)
    (c : Call) (wait wait' : Option Duration) :
    ResultsRelated (Inventory.AnswersAlike wait wait' c)
        (cluster.callUnder now contexts ctx (c.withAsyncMax wait)).1
        (cluster.callUnder now contexts ctx (c.withAsyncMax wait')).1 ∧
      (cluster.callUnder now contexts ctx (c.withAsyncMax wait)).2.AlikeButWaits
        (cluster.callUnder now contexts ctx (c.withAsyncMax wait')).2 := by
  have hrecord := cluster.record_alike c wait wait'
  rw [callUnder, callUnder]
  cases contexts.mayStart ctx with
  | error e => exact ⟨.failed _, rfl, rfl, rfl, rfl⟩
  | ok _ =>
    have hfailure : (cluster.record (c.withAsyncMax wait)).failure? (c.withAsyncMax wait).method =
        cluster.failure? c.method := by
      rw [Call.withAsyncMax_method]
      rfl
    have hfailure' : (cluster.record (c.withAsyncMax wait')).failure? (c.withAsyncMax wait').method =
        cluster.failure? c.method := by
      rw [Call.withAsyncMax_method]
      rfl
    simp only [perform, hfailure, hfailure']
    cases cluster.failure? c.method with
    | some e => exact ⟨.failed _, hrecord⟩
    | none =>
      obtain ⟨hanswer, hinventory⟩ := cluster.inventory.perform_withAsyncMax now c wait wait'
      exact ⟨hanswer, hinventory, hrecord.calls, hrecord.failures, hrecord.requests⟩

end Cluster

/-- Twins stay twins when one change is asked for with any two waits. -/
theorem World.Twin.call_withAsyncMax {u v : World Cluster} (h : u.Twin v) (ctx : Nat) (c : Call)
    (wait wait' : Option Duration) :
    (u.call ctx (c.withAsyncMax wait)).2.Twin (v.call ctx (c.withAsyncMax wait')).2 := by
  obtain ⟨-, halike⟩ := v.cluster.callUnder_alike v.now v.contexts ctx c wait wait'
  exact (h.call ctx _).2.trans ⟨rfl, rfl, halike.inventory, halike.failures⟩

theorem RequestParams.ofFlags_eq (s : Settings) (cas : Option String) (isAsync : Bool) :
    ofFlags s cas isAsync = (empty.withCas cas).withAsyncMax
      (if isAsync then some (s.effectiveTimeout Stage.defaultFallback) else none) := by
  cases isAsync <;> cases cas <;> rfl

/-! ### Programs -/

namespace Program

variable {α β γ : Type}

/-- Two programs leave twins behind where they run in twins. -/
def Beside (p : Program α) (p' : Program β) : Prop :=
  ∀ ctx (u v : World Cluster), u.Twin v → (p.run ctx u).2.Twin (p'.run ctx v).2

/-- The program changes nothing at the cluster. -/
def Watches (p : Program α) : Prop := ∀ ctx (w : World Cluster), (p.run ctx w).2.Twin w

theorem watches_pure (a : α) : Watches (pure a : Program α) := fun _ w => World.Twin.refl w

/-- A program that makes a call and then only watches leaves what the call leaves. -/
theorem run_ask_watches {c : Call} {f : c.Answer → Program α} (h : ∀ a, Watches (f a)) (ctx : Nat)
    (w : World Cluster) : ((ask c >>= f).run ctx w).2.Twin (w.call ctx c).2 := by
  change (Program.run ctx (.call c fun a => f a) w).2.Twin _
  rw [run]
  generalize w.call ctx c = answered
  obtain ⟨e | a, v⟩ := answered
  · exact World.Twin.refl v
  · exact h a ctx v

theorem Watches.ask {c : Call} {f : c.Answer → Program α} (hreads : c.method.isMutating = false)
    (h : ∀ a, Watches (f a)) : Watches (ask c >>= f) :=
  fun ctx w => (run_ask_watches h ctx w).trans (w.twin_reads ctx hreads)

theorem Beside.bind (p : Program γ) {f : γ → Program α} {f' : γ → Program β}
    (h : ∀ a, Beside (f a) (f' a)) : Beside (p >>= f) (p >>= f') := by
  intro ctx u v htwin
  change ((p.andThen f).run ctx u).2.Twin ((p.andThen f').run ctx v).2
  induction p generalizing u v with
  | done result =>
    cases result with
    | error e => exact htwin
    | ok a => exact h a ctx u v htwin
  | note event next ih =>
    exact ih (u.log [event]) (v.log [event])
      ⟨htwin.now, htwin.contexts, htwin.inventory, htwin.failures⟩
  | call c next ih =>
    obtain ⟨hanswer, hafter⟩ := htwin.call ctx c
    rw [andThen, andThen, run, run]
    generalize u.call ctx c = x at *
    generalize v.call ctx c = y at *
    obtain ⟨answer, u'⟩ := x
    obtain ⟨answer', v'⟩ := y
    obtain rfl : answer = answer' := hanswer
    cases answer with
    | error f => exact hafter
    | ok a => exact ih a u' v' hafter

theorem run_params (s : Settings) (cas : Option String) (isAsync : Bool)
    (f : RequestParams → Program α) (ctx : Nat) (w : World Cluster) :
    ∃ told, (RequestParams.program s cas isAsync >>= f).run ctx w =
      (f (.ofFlags s cas isAsync)).run ctx (w.log told) := by
  rw [RequestParams.program]
  generalize RequestParams.casEvents cas ++ RequestParams.asyncEvents s isAsync = events
  induction events generalizing w with
  | nil => exact ⟨[], by rw [World.log, List.append_nil]; rfl⟩
  | cons event events ih =>
    obtain ⟨told, hrun⟩ := ih (w.log [event])
    refine ⟨event :: told, hrun.trans ?_⟩
    rw [World.log, World.log, World.log, List.append_assoc, List.singleton_append]

/-- Two programs that make one change, each with the wait that its flag asks for, and then only watch. -/
theorem Beside.change {s : Settings} {cas : Option String} {isAsync isAsync' : Bool}
    {change : RequestParams → Call} {f : (p : RequestParams) → (change p).Answer → Program α}
    (hchange : ∀ p wait, change (p.withAsyncMax wait) = (change p).withAsyncMax wait)
    (h : ∀ p a, Watches (f p a)) :
    Beside (RequestParams.program s cas isAsync >>= fun p => ask (change p) >>= f p)
      (RequestParams.program s cas isAsync' >>= fun p => ask (change p) >>= f p) := by
  intro ctx u v htwin
  obtain ⟨told, hrun⟩ := run_params s cas isAsync (fun p => ask (change p) >>= f p) ctx u
  obtain ⟨told', hrun'⟩ := run_params s cas isAsync' (fun p => ask (change p) >>= f p) ctx v
  have hlogged : (u.log told).Twin (v.log told') :=
    ⟨htwin.now, htwin.contexts, htwin.inventory, htwin.failures⟩
  have hcalls : ((u.log told).call ctx (change (.ofFlags s cas isAsync))).2.Twin
      ((v.log told').call ctx (change (.ofFlags s cas isAsync'))).2 := by
    rw [RequestParams.ofFlags_eq, RequestParams.ofFlags_eq, hchange, hchange]
    exact hlogged.call_withAsyncMax ctx _ _ _
  rw [hrun, hrun']
  exact ((run_ask_watches (h _) ctx _).trans hcalls).trans (run_ask_watches (h _) ctx _).symm

theorem Beside.changeVolume {s : Settings} {reference : String} {cas : Option String}
    {isAsync isAsync' : Bool} {change : NamespaceId → VolumeId → RequestParams → Call}
    {f : (ns : NamespaceId) → (id : VolumeId) → (p : RequestParams) → (change ns id p).Answer →
      Program Output.View}
    (hchange : ∀ ns id p wait, change ns id (p.withAsyncMax wait) = (change ns id p).withAsyncMax wait)
    (h : ∀ ns id p a, Watches (f ns id p a)) :
    Beside
      (Plan.changeVolume s reference cas isAsync fun ns id p => Program.ask (change ns id p) >>= f ns id p)
      (Plan.changeVolume s reference cas isAsync' fun ns id p =>
        Program.ask (change ns id p) >>= f ns id p) :=
  Beside.bind _ fun ns => Beside.bind _ fun id => Beside.change (hchange ns id) (h ns id)

end Program

/-! ### Commands -/

/-- A handler leaves what its program leaves. -/
theorem Plan.handler_twin_run (s : Settings) (plan : Plan) (ctx : Nat) (args : List String)
    (w : World Cluster) : (plan.handler s ctx args w).2.Twin (plan.body.run ctx w).2 := by
  rw [handler]
  generalize plan.body.run ctx w = outcome
  obtain ⟨e | view, v⟩ := outcome
  · exact World.Twin.refl v
  · obtain ⟨hcluster, hnow, hcontexts⟩ := v.display_cluster s view
    exact ⟨hnow, hcontexts, congrArg Cluster.inventory hcluster, congrArg Cluster.failures hcluster⟩

/-- Outcomes are kept by stages as far as they leave twins. -/
theorem Outcome.twin_kept : Outcome.Kept fun o o' => o.2.Twin o'.2 where
  refl o := World.Twin.refl o.2
  cancelled child h := Stage.leaving_world h child
  explained h :=
    ((Stage.withExplanation_world _ _ _ _).trans h).trans (Stage.withExplanation_world _ _ _ _).symm

namespace Command

/-- The command with the flag that asks for acceptance only, or without it, if it takes the flag. -/
def withAsync (isAsync : Bool) : Command → Command
  | .createVolume name draft _ => .createVolume name draft isAsync
  | .resizeVolume volume size cas _ => .resizeVolume volume size cas isAsync
  | .setReplicas volume replicas cas _ => .setReplicas volume replicas cas isAsync
  | .updateExports volume exports cas _ => .updateExports volume exports cas isAsync
  | .deleteVolume volume cas _ => .deleteVolume volume cas isAsync
  | .attach volume node cas _ => .attach volume node cas isAsync
  | .detach volume cas _ => .detach volume cas isAsync
  | c => c

/-- Two plans differ in what is shown at most: they leave twins, and all around them is the same. -/
structure PlansBeside (plan plan' : Plan) : Prop where
  args : plan.args = plan'.args
  stages : plan.stages = plan'.stages
  check : plan.check = plan'.check
  body : plan.body.Beside plan'.body

theorem run_beside {s : Settings} {c c' : Command}
    (h : (∃ e, c.plan s = .error e ∧ c'.plan s = .error e) ∨
      ∃ plan plan', c.plan s = .ok plan ∧ c'.plan s = .ok plan' ∧ PlansBeside plan plan')
    (ctx : Nat) (w : World Cluster) : (c.run s ctx w).2.Twin (c'.run s ctx w).2 := by
  rcases h with ⟨e, he, he'⟩ | ⟨plan, plan', hplan, hplan', hargs, hstages, hcheck, hbody⟩
  · simp only [run, he, he']
    exact World.Twin.refl w
  have hhandlers : ∀ ctx args (w : World Cluster),
      (plan.handler s ctx args w).2.Twin (plan'.handler s ctx args w).2 := by
    intro ctx args w
    exact ((plan.handler_twin_run s ctx args w).trans (hbody ctx w w (.refl w))).trans
      (plan'.handler_twin_run s ctx args w).symm
  simp only [run, hplan, hplan', Invocation.run, Invocation.validate, Plan.invocation, hargs, hstages,
    hcheck]
  cases plan'.check with
  | error e => exact World.Twin.refl w
  | ok _ => exact Stage.kept_chain Outcome.twin_kept hhandlers s plan'.stages ctx plan'.args w

open Program (watches_pure)

/-- A command leaves twins with and without the flag. -/
theorem run_withAsync (s : Settings) (c : Command) (ctx : Nat) (w : World Cluster)
    (isAsync isAsync' : Bool) :
    ((c.withAsync isAsync).run s ctx w).2.Twin ((c.withAsync isAsync').run s ctx w).2 := by
  cases c with
  | createVolume name draft _ =>
    refine run_beside ?_ ctx w
    cases hspec : Plan.volumeSpecOf name draft with
    | error e =>
      refine .inl ⟨e, ?_, ?_⟩ <;>
        · simp only [withAsync, plan, hspec]
          rfl
    | ok spec =>
      have hplan : ∀ flag, (createVolume name draft flag).plan s =
          .ok ⟨"create volume", [name], Plan.namespacedStages, .ok (), Plan.createVolume s spec flag⟩ := by
        intro flag
        simp only [plan, hspec]
        rfl
      refine .inr ⟨_, _, hplan isAsync, hplan isAsync', rfl, rfl, rfl, ?_⟩
      exact .bind _ fun ns => .change (fun _ _ => rfl) fun _ _ => watches_pure _
  | resizeVolume volume size cas _ =>
    refine run_beside (.inr ⟨_, _, rfl, rfl, ?_⟩) ctx w
    refine ⟨rfl, rfl, rfl, ?_⟩
    exact .bind _ fun sizeBytes => .changeVolume (fun _ _ _ _ => rfl) fun _ _ _ _ => watches_pure _
  | setReplicas volume replicas cas _ =>
    refine run_beside (.inr ⟨_, _, rfl, rfl, ?_⟩) ctx w
    refine ⟨rfl, rfl, rfl, ?_⟩
    exact .bind _ fun count => .changeVolume (fun _ _ _ _ => rfl) fun _ _ _ _ => watches_pure _
  | updateExports volume exports cas _ =>
    refine run_beside ?_ ctx w
    cases hread : Plan.exportsOf exports with
    | error e =>
      refine .inl ⟨e, ?_, ?_⟩ <;>
        · simp only [withAsync, plan, hread]
          rfl
    | ok read =>
      have hplan : ∀ flag, (updateExports volume exports cas flag).plan s =
          .ok ⟨"update volume nfs", [volume], Plan.namespacedStages, .ok (),
            Plan.updateExports s volume read cas flag⟩ := by
        intro flag
        simp only [plan, hread]
        rfl
      refine .inr ⟨_, _, hplan isAsync, hplan isAsync', rfl, rfl, rfl, ?_⟩
      exact .changeVolume (fun _ _ _ _ => rfl) fun _ _ _ _ => watches_pure _
  | deleteVolume volume cas _ =>
    refine run_beside (.inr ⟨_, _, rfl, rfl, ?_⟩) ctx w
    refine ⟨rfl, rfl, rfl, ?_⟩
    refine .changeVolume (fun _ _ _ _ => rfl) fun _ _ _ answer => ?_
    cases answer <;> exact watches_pure _
  | attach volume node cas _ =>
    refine run_beside (.inr ⟨_, _, rfl, rfl, ?_⟩) ctx w
    refine ⟨rfl, rfl, rfl, ?_⟩
    exact .bind _ fun ns => .bind _ fun id => .bind _ fun nodeId =>
      .change (fun _ _ => rfl) fun _ _ => watches_pure _
  | detach volume cas _ =>
    refine run_beside (.inr ⟨_, _, rfl, rfl, ?_⟩) ctx w
    refine ⟨rfl, rfl, rfl, ?_⟩
    refine .changeVolume (fun _ _ _ _ => rfl) fun ns id _ answer => ?_
    cases answer with
    | completed => exact .ask rfl fun _ => watches_pure _
    | accepted => exact watches_pure _
  | _ => exact World.Twin.refl _

/-- Asking for acceptance changes only how a change is acknowledged. A call that is asked for with two
different waits fails in both cases with the same error or is acknowledged alike, and leaves the same
cluster but for the wait on the record; a command with the flag leaves everything stored, drawn and told as
it does without the flag. -/
theorem acceptance_acknowledges_only :
    (∀ (cluster : Cluster) (now : Timestamp) (contexts : Contexts) (ctx : Nat) (call : Call)
        (wait wait' : Option Duration),
      ResultsRelated (Inventory.AnswersAlike wait wait' call)
          (cluster.callUnder now contexts ctx (call.withAsyncMax wait)).1
          (cluster.callUnder now contexts ctx (call.withAsyncMax wait')).1 ∧
        (cluster.callUnder now contexts ctx (call.withAsyncMax wait)).2.AlikeButWaits
          (cluster.callUnder now contexts ctx (call.withAsyncMax wait')).2) ∧
    ∀ (s : Settings) (c : Command) (ctx : Nat) (w : World Cluster),
      ((c.withAsync true).run s ctx w).2.cluster.inventory =
          ((c.withAsync false).run s ctx w).2.cluster.inventory ∧
        ((c.withAsync true).run s ctx w).2.cluster.failures =
          ((c.withAsync false).run s ctx w).2.cluster.failures := by
  refine ⟨Cluster.callUnder_alike, ?_⟩
  intro s c ctx w
  have htwin := run_withAsync s c ctx w true false
  exact ⟨htwin.inventory, htwin.failures⟩

end Command

end BlockStorage
