import BlockStorage.Proofs.Command.Handler
import BlockStorage.Proofs.Run.Evaluation

/-!
Comparing runs of commands.

A handler shows what its program makes of the inventory. So two runs come to the same if their programs
do, whatever stands around them: the stages turn both away, or let both run in one world.
-/

namespace BlockStorage

/-! ### Showing -/

namespace World

/-- How a run ends that shows what came of a program, and what is written then. -/
def shown (w : World Cluster) (s : Settings) : Except Failure Output.View → Except Failure Unit × Sink
  | .ok view => ((w.display s view).1, (w.display s view).2.sink)
  | .error failure => (.error failure, w.sink)

theorem display_congr {u v : World Cluster} (hnow : u.now = v.now) (hsink : u.sink = v.sink)
    (s : Settings) (view : Output.View) :
    (u.display s view).1 = (v.display s view).1 ∧
      (u.display s view).2.sink = (v.display s view).2.sink := by
  simp only [display, hnow, hsink]
  split
  · exact ⟨rfl, hsink⟩
  · exact ⟨rfl, rfl⟩

theorem shown_congr {u v : World Cluster} (hnow : u.now = v.now) (hsink : u.sink = v.sink)
    (s : Settings) (r : Except Failure Output.View) : u.shown s r = v.shown s r := by
  cases r with
  | error failure => exact congrArg (Prod.mk _) hsink
  | ok view => exact Prod.ext (display_congr hnow hsink s view).1 (display_congr hnow hsink s view).2

/-- Showing fails as the program did, or because there is no format or no room for the output. -/
theorem shown_error {w : World Cluster} {s : Settings} {r : Except Failure Output.View} {f : Failure}
    (h : (w.shown s r).1 = .error f) :
    r = .error f ∨ ∃ e, f = .command e ∧ (e.kind = .config ∨ e.kind = .display) := by
  cases r with
  | error failure => exact .inl (congrArg Except.error (Except.error.inj h))
  | ok view =>
    rcases display_error h with ⟨e, _, rfl, _⟩ | ⟨e, rfl, hkind⟩
    · exact .inr ⟨_, rfl, .inl rfl⟩
    · exact .inr ⟨e, rfl, .inr hkind⟩

end World

/-- A handler shows what its program makes of the inventory. -/
theorem Plan.handler_eval (s : Settings) (plan : Plan) (args : List String) {child : Nat}
    {u : World Cluster} (hlive : u.contexts.mayStart child = .ok ()) (hquiet : u.IsQuiet) :
    ((plan.handler s child args u).1, (plan.handler s child args u).2.sink) =
        u.shown s (plan.body.eval u.now u.cluster.inventory).1 ∧
      (plan.handler s child args u).2.cluster.inventory =
        (plan.body.eval u.now u.cluster.inventory).2 ∧
      (plan.handler s child args u).2.IsQuiet ∧ (plan.handler s child args u).2.now = u.now ∧
      (plan.handler s child args u).2.contexts = u.contexts := by
  obtain ⟨hresult, hinventory, hquiet', hnow, hcontexts, hsink⟩ := plan.body.run_eval u hlive hquiet
  rw [Plan.handler]
  generalize plan.body.run child u = ran at *
  generalize plan.body.eval u.now u.cluster.inventory = made at *
  obtain ⟨result, v⟩ := ran
  obtain ⟨result', after⟩ := made
  obtain rfl : result = result' := hresult
  cases result with
  | error failure => exact ⟨congrArg (Prod.mk _) hsink, hinventory, hquiet', hnow, hcontexts⟩
  | ok view =>
    obtain ⟨hcluster, hnow', hcontexts'⟩ := v.display_cluster s view
    obtain ⟨hshown, hwritten⟩ := World.display_congr hnow hsink s view
    refine ⟨Prod.ext hshown hwritten, ?_, ?_, hnow'.trans hnow, hcontexts'.trans hcontexts⟩
    · exact (congrArg Cluster.inventory hcluster).trans hinventory
    · exact (congrArg Cluster.failures hcluster).trans hquiet'

/-- Handlers leave twins if their programs leave the same inventory. -/
theorem Plan.handler_world {s s' : Settings} {plan plan' : Plan} {args args' : List String}
    {child : Nat} {u : World Cluster} (hlive : u.contexts.mayStart child = .ok ()) (hquiet : u.IsQuiet)
    (hafter : (plan.body.eval u.now u.cluster.inventory).2 =
      (plan'.body.eval u.now u.cluster.inventory).2) :
    (plan.handler s child args u).2.Twin (plan'.handler s' child args' u).2 := by
  obtain ⟨-, hinventory, hquiet₁, hnow, hcontexts⟩ := plan.handler_eval s args hlive hquiet
  obtain ⟨-, hinventory', hquiet₂, hnow', hcontexts'⟩ := plan'.handler_eval s' args' hlive hquiet
  exact ⟨hnow.trans hnow'.symm, hcontexts.trans hcontexts'.symm,
    hinventory.trans (hafter.trans hinventory'.symm), Eq.trans hquiet₁ (Eq.symm hquiet₂)⟩

/-- Handlers are twins if their programs leave the same inventory and showing ends in the same way. -/
theorem Plan.handler_twin {s s' : Settings} {plan plan' : Plan} {args args' : List String} {child : Nat}
    {u : World Cluster} (hlive : u.contexts.mayStart child = .ok ()) (hquiet : u.IsQuiet)
    (hafter : (plan.body.eval u.now u.cluster.inventory).2 =
      (plan'.body.eval u.now u.cluster.inventory).2)
    (hshown : (u.shown s (plan.body.eval u.now u.cluster.inventory).1).1 =
      (u.shown s' (plan'.body.eval u.now u.cluster.inventory).1).1) :
    Outcome.Twin (plan.handler s child args u) (plan'.handler s' child args' u) := by
  refine ⟨?_, Plan.handler_world hlive hquiet hafter⟩
  have hresult := congrArg Prod.fst (plan.handler_eval s args hlive hquiet).1
  have hresult' := congrArg Prod.fst (plan'.handler_eval s' args' hlive hquiet).1
  exact hresult.trans (hshown.trans hresult'.symm)

/-! ### Stages -/

/-- Handlers that are twins wherever the stages let them run are twins in their stages; and where they
write the same, the same is written. -/
theorem Stage.standard_twin {s : Settings} {isNamespaced : Bool} {targets targets' : Option SelectorSet}
    {args args' : List String} {next next' : Handler Cluster} {ctx : Nat} {w : World Cluster}
    (hquiet : w.IsQuiet) (htargets : Targeted targets args) (htargets' : Targeted targets' args')
    (h : ∀ child u, u.contexts.mayStart child = .ok () → Leads w u →
      Outcome.Twin (next child args u) (next' child args' u)) :
    Outcome.Twin (chain ((standard isNamespaced targets).map (middleware s)) next ctx args w)
        (chain ((standard isNamespaced targets').map (middleware s)) next' ctx args' w) ∧
      ((∀ child u, u.contexts.mayStart child = .ok () → Leads w u →
          (next child args u).2.sink = (next' child args' u).2.sink) →
        (chain ((standard isNamespaced targets).map (middleware s)) next ctx args w).2.sink =
          (chain ((standard isNamespaced targets').map (middleware s)) next' ctx args' w).2.sink) := by
  rcases standard_ways s isNamespaced ctx hquiet with
    ⟨f, v, _, hchain⟩ | ⟨child, u, hlive, hleads, hchain⟩
  · rw [hchain targets next args htargets, hchain targets' next' args' htargets']
    exact ⟨⟨rfl, World.Twin.refl v⟩, fun _ => rfl⟩
  · rw [hchain targets next args htargets, hchain targets' next' args' htargets']
    refine ⟨leaving_twin (withExplanation_twin (h child u hlive hleads)) child, fun hsink => ?_⟩
    exact (withExplanation_sink next child args u).trans
      ((hsink child u hlive hleads).trans (withExplanation_sink next' child args' u).symm)

/-- Handlers that leave twins wherever the stages let them run leave twins in their stages. -/
theorem Stage.standard_world {s : Settings} {isNamespaced : Bool} {targets targets' : Option SelectorSet}
    {args args' : List String} {next next' : Handler Cluster} {ctx : Nat} {w : World Cluster}
    (hquiet : w.IsQuiet) (htargets : Targeted targets args) (htargets' : Targeted targets' args')
    (h : ∀ child u, u.contexts.mayStart child = .ok () → Leads w u →
      (next child args u).2.Twin (next' child args' u).2) :
    (chain ((standard isNamespaced targets).map (middleware s)) next ctx args w).2.Twin
      (chain ((standard isNamespaced targets').map (middleware s)) next' ctx args' w).2 := by
  rcases standard_ways s isNamespaced ctx hquiet with
    ⟨f, v, _, hchain⟩ | ⟨child, u, hlive, hleads, hchain⟩
  · rw [hchain targets next args htargets, hchain targets' next' args' htargets']
    exact World.Twin.refl v
  · rw [hchain targets next args htargets, hchain targets' next' args' htargets']
    have hexplained := (withExplanation_world next child args u).trans
      ((h child u hlive hleads).trans (withExplanation_world next' child args' u).symm)
    exact leaving_world hexplained child

/-- Two runs end in the same way with the same output. -/
def Outcome.Alike (o o' : Outcome Cluster Unit) : Prop := o.1 = o'.1 ∧ o.2.sink = o'.2.sink

/-- Runs are alike if their programs come to the same when it is shown. -/
theorem Stage.alike_of_eval {s : Settings} {isNamespaced : Bool}
    {targets targets' : Option SelectorSet} {plan plan' : Plan} {args args' : List String} {ctx : Nat}
    {w : World Cluster} (hquiet : w.IsQuiet) (htargets : Targeted targets args)
    (htargets' : Targeted targets' args') {r r' : Except Failure Output.View} {after : Inventory}
    (heval : plan.body.eval w.now w.cluster.inventory = (r, after))
    (heval' : plan'.body.eval w.now w.cluster.inventory = (r', after))
    (hshown : ∀ u : World Cluster, u.shown s r = u.shown s r') :
    Outcome.Alike
      (chain ((standard isNamespaced targets).map (middleware s)) (plan.handler s) ctx args w)
      (chain ((standard isNamespaced targets').map (middleware s)) (plan'.handler s) ctx args' w) := by
  have htwin : ∀ child u, u.contexts.mayStart child = .ok () → Leads w u →
      Outcome.Twin (plan.handler s child args u) (plan'.handler s child args' u) := by
    intro child u hlive hleads
    refine Plan.handler_twin hlive hleads.quiet ?_ ?_
    · rw [hleads.now, hleads.inventory, heval, heval']
    · rw [hleads.now, hleads.inventory, heval, heval', hshown]
  obtain ⟨hoverall, hsink⟩ := standard_twin hquiet htargets htargets' htwin
  refine ⟨hoverall.result, hsink fun child u hlive hleads => ?_⟩
  have h := (plan.handler_eval s args hlive hleads.quiet).1
  have h' := (plan'.handler_eval s args' hlive hleads.quiet).1
  rw [hleads.now, hleads.inventory, heval, hshown] at h
  rw [hleads.now, hleads.inventory, heval'] at h'
  exact congrArg Prod.snd (h.trans h'.symm)

/-- Whether the stages let a run reach its handler: one that does nothing succeeds in them. -/
def Stage.Admits (s : Settings) (isNamespaced : Bool) (ctx : Nat) (w : World Cluster) : Prop :=
  (chain ((standard isNamespaced none).map (middleware s)) (fun _ _ w => (.ok (), w)) ctx [] w).1 =
    .ok ()

/-- A run shows what came of a program, if the stages let it reach its handler; and otherwise it fails for
a reason that is no missing resource. -/
structure Stage.Shows (s : Settings) (isNamespaced : Bool) (ctx : Nat) (w : World Cluster)
    (r : Except Failure Output.View) (o : Outcome Cluster Unit) : Prop where
  admitted : Admits s isNamespaced ctx w → (o.1, o.2.sink) = w.shown s r
  turnedAway : ¬ Admits s isNamespaced ctx w → ∃ f, Failure.IsFound f ∧ o.1 = .error f

theorem Stage.shows_of_eval {s : Settings} {isNamespaced : Bool} {targets : Option SelectorSet}
    {plan : Plan} {args : List String} {ctx : Nat} {w : World Cluster} (hquiet : w.IsQuiet)
    (htargets : Targeted targets args) {r : Except Failure Output.View} {after : Inventory}
    (heval : plan.body.eval w.now w.cluster.inventory = (r, after))
    (hr : ∀ reason, r ≠ .error (.command (.client (.licenceCapability reason)))) :
    Shows s isNamespaced ctx w r
      (chain ((standard isNamespaced targets).map (middleware s)) (plan.handler s) ctx args w) := by
  rcases standard_ways s isNamespaced ctx hquiet with
    ⟨f, v, hf, hchain⟩ | ⟨child, u, hlive, hleads, hchain⟩
  · refine ⟨fun hadmits => ?_, fun _ => ⟨f, hf, ?_⟩⟩
    · rw [Admits, hchain none _ [] (targeted_none _)] at hadmits
      cases hadmits
    · rw [hchain targets _ args htargets]
  · refine ⟨fun _ => ?_, fun hnot => absurd ?_ hnot⟩
    · obtain ⟨hshown, -⟩ := plan.handler_eval s args hlive hleads.quiet
      rw [hleads.now, hleads.inventory, heval,
        World.shown_congr hleads.now hleads.sink s r] at hshown
      have hlicence : ¬ Failure.IsLicence (plan.handler s child args u).1 := by
        rintro ⟨reason, hreason⟩
        have hresult : (w.shown s r).1 = .error (.command (.client (.licenceCapability reason))) := by
          rw [← hshown]
          exact hreason
        rcases World.shown_error hresult with herror | ⟨e, he, hkind | hkind⟩
        · exact hr reason herror
        · cases he
          cases hkind
        · cases he
          cases hkind
      rw [hchain targets _ args htargets, withExplanation_of_not hlicence]
      exact hshown
    · rw [Admits, hchain none _ [] (targeted_none _), withExplanation_of_not (by rintro ⟨_, h⟩; cases h)]
      rfl

/-- A run of a command that was read is one of its handler in its stages. -/
theorem Command.run_of_plan {s : Settings} {c : Command} (plan : Plan) {isNamespaced : Bool}
    {targets : Option SelectorSet} (hplan : c.plan s = .ok plan) (hcheck : plan.check = .ok ())
    (hstages : plan.stages = Stage.standard isNamespaced targets) (ctx : Nat) (w : World Cluster) :
    c.run s ctx w =
      chain ((Stage.standard isNamespaced targets).map (Stage.middleware s)) (plan.handler s) ctx
        plan.args w := by
  rw [run_eq_chain ctx w hplan hcheck, hstages]

end BlockStorage
