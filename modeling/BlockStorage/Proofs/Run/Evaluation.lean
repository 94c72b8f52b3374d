import BlockStorage.Proofs.Run.Stages
import BlockStorage.Command.Plan

/-!
What programs make of an inventory.

Where calls may start and no failure was told, what a program comes to is a function of the inventory
alone. So two runs are compared by what their programs make of it. The stages around a handler let the
run through to it or not, whatever the handler is, and go on in the same way after handlers that leave
the same behind.
-/

namespace BlockStorage

namespace Program

/-- What a program makes of an inventory: how it ends, and the inventory afterwards. -/
def eval {α : Type} (now : Timestamp) : Program α → Inventory → Except Failure α × Inventory
  | .done result, inv => (result.mapError .command, inv)
  | .note _ next, inv => next.eval now inv
  | .call c next, inv =>
    match inv.perform now c with
    | (.ok answer, inv) => (next answer).eval now inv
    | (.error failure, inv) => (.error (.ofCall failure), inv)

variable {α β : Type} {now : Timestamp} {inv after : Inventory}

theorem eval_ask (c : Call) :
    (ask c).eval now inv = ((inv.perform now c).1.mapError .ofCall, (inv.perform now c).2) := by
  rw [ask, eval]
  rcases inv.perform now c with ⟨answer | failure, after⟩ <;> rfl

theorem eval_tellAll (events : List Log.Event) :
    (tellAll events).eval now inv = (.ok (), inv) := by
  induction events with
  | nil => rfl
  | cons event events ih => exact ih

/-- A program that goes on with another one. -/
theorem eval_bind (p : Program α) (f : α → Program β) :
    (p >>= f).eval now inv =
      match p.eval now inv with
      | (.ok a, after) => (f a).eval now after
      | (.error e, after) => (.error e, after) := by
  change (p.andThen f).eval now inv = _
  induction p generalizing inv with
  | done result => cases result <;> rfl
  | note event next ih => exact ih
  | call c next ih =>
    rw [andThen, eval, eval]
    rcases inv.perform now c with ⟨failure | answer, after⟩
    · rfl
    · exact ih answer

/-- What goes on with two programs in turn goes on with what both come to. -/
theorem eval_bind_bind {γ : Type} (p : Program α) (f : α → Program β) (g : β → Program γ) :
    (p >>= fun a => f a >>= g).eval now inv =
      match (p >>= f).eval now inv with
      | (.ok b, after) => (g b).eval now after
      | (.error e, after) => (.error e, after) := by
  rw [eval_bind, eval_bind p f]
  rcases p.eval now inv with ⟨e | a, after⟩
  · rfl
  · exact eval_bind (f a) g

end Program

/-! ### Worlds -/

namespace World

/-- No method was told to fail. -/
def IsQuiet (w : World Cluster) : Prop := w.cluster.failures = []

/-- Two worlds are told apart by their logs, their output and their records of calls at most. -/
structure Twin (u v : World Cluster) : Prop where
  now : u.now = v.now
  contexts : u.contexts = v.contexts
  inventory : u.cluster.inventory = v.cluster.inventory
  failures : u.cluster.failures = v.cluster.failures

theorem Twin.refl (w : World Cluster) : w.Twin w := ⟨rfl, rfl, rfl, rfl⟩

theorem Twin.symm {u v : World Cluster} (h : u.Twin v) : v.Twin u :=
  ⟨h.now.symm, h.contexts.symm, h.inventory.symm, h.failures.symm⟩

theorem Twin.trans {u v w : World Cluster} (h : u.Twin v) (h' : v.Twin w) : u.Twin w :=
  ⟨h.now.trans h'.now, h.contexts.trans h'.contexts, h.inventory.trans h'.inventory,
    h.failures.trans h'.failures⟩

/-- A call is answered in the same way by twins, and leaves twins. -/
theorem Twin.call {u v : World Cluster} (h : u.Twin v) (ctx : Nat) (c : Call) :
    (u.call ctx c).1 = (v.call ctx c).1 ∧ (u.call ctx c).2.Twin (v.call ctx c).2 := by
  obtain ⟨hnow, hcontexts, hinventory, hfailures⟩ := h
  cases hctx : v.contexts.mayStart ctx with
  | error e =>
    rw [v.call_dead hctx, u.call_dead (hcontexts ▸ hctx)]
    exact ⟨rfl, hnow, hcontexts, hinventory, hfailures⟩
  | ok _ =>
    rw [v.call_live hctx, u.call_live (hcontexts ▸ hctx)]
    have hfailure : (u.cluster.record c).failure? c.method = (v.cluster.record c).failure? c.method := by
      simp only [Cluster.failure?, Cluster.record, hfailures]
    have hperform : (u.cluster.record c).inventory.perform u.now c =
        (v.cluster.record c).inventory.perform v.now c := by
      simp only [Cluster.record, hinventory, hnow]
    simp only [Cluster.perform, hfailure, hperform]
    split
    · exact ⟨rfl, hnow, hcontexts, hinventory, hfailures⟩
    · exact ⟨rfl, hnow, hcontexts, rfl, hfailures⟩

/-- A call that only reads leaves everything as it is. -/
theorem twin_reads (w : World Cluster) (ctx : Nat) {c : Call} (h : c.method.isMutating = false) :
    (w.call ctx c).2.Twin w := by
  cases hctx : w.contexts.mayStart ctx with
  | error e =>
    rw [w.call_dead hctx]
    exact Twin.refl w
  | ok _ =>
    rw [w.call_live hctx, Cluster.perform_reads _ _ h]
    exact ⟨rfl, rfl, rfl, rfl⟩

/-- A call where no failure was told. -/
theorem call_quiet {w : World Cluster} {ctx : Nat} (hlive : w.contexts.mayStart ctx = .ok ())
    (hquiet : w.IsQuiet) (c : Call) :
    (w.call ctx c).1 = (w.cluster.inventory.perform w.now c).1 ∧
      (w.call ctx c).2.cluster.inventory = (w.cluster.inventory.perform w.now c).2 ∧
      (w.call ctx c).2.IsQuiet ∧ (w.call ctx c).2.now = w.now ∧
      (w.call ctx c).2.contexts = w.contexts ∧ (w.call ctx c).2.sink = w.sink := by
  have hfailure : (w.cluster.record c).failure? c.method = none := by
    simp only [Cluster.failure?, Cluster.record, show w.cluster.failures = [] from hquiet]
    rfl
  rw [w.call_live hlive]
  simp only [Cluster.perform, hfailure]
  exact ⟨rfl, rfl, hquiet, trivial, trivial, trivial⟩

end World

/-- A program runs as it is evaluated, and changes nothing else but the log. -/
theorem Program.run_eval {α : Type} {ctx : Nat} (p : Program α) (w : World Cluster)
    (hlive : w.contexts.mayStart ctx = .ok ()) (hquiet : w.IsQuiet) :
    (p.run ctx w).1 = (p.eval w.now w.cluster.inventory).1 ∧
      (p.run ctx w).2.cluster.inventory = (p.eval w.now w.cluster.inventory).2 ∧
      (p.run ctx w).2.IsQuiet ∧ (p.run ctx w).2.now = w.now ∧
      (p.run ctx w).2.contexts = w.contexts ∧ (p.run ctx w).2.sink = w.sink := by
  induction p generalizing w with
  | done result => exact ⟨rfl, rfl, hquiet, rfl, rfl, rfl⟩
  | note event next ih => exact ih (w.log [event]) hlive hquiet
  | call c next ih =>
    obtain ⟨hanswer, hinventory, hquiet', hnow, hcontexts, hsink⟩ := World.call_quiet hlive hquiet c
    rw [Program.run, Program.eval]
    generalize w.call ctx c = answered at *
    generalize w.cluster.inventory.perform w.now c = performed at *
    obtain ⟨answer, v⟩ := answered
    obtain ⟨answer', after⟩ := performed
    obtain rfl : answer = answer' := hanswer
    obtain rfl : v.cluster.inventory = after := hinventory
    cases answer with
    | error f => exact ⟨rfl, rfl, hquiet', hnow, hcontexts, hsink⟩
    | ok a =>
      have hnext := ih a v (by rw [hcontexts]; exact hlive) hquiet'
      rw [hnow, hcontexts, hsink] at hnext
      exact hnext

/-! ### Stages -/

/-- Two outcomes are the same, but for logs, output and records of calls. -/
structure Outcome.Twin (o o' : Outcome Cluster Unit) : Prop where
  result : o.1 = o'.1
  world : o.2.Twin o'.2

/-- The failure is not that of a look-up that finds nothing. -/
def Failure.IsFound (f : Failure) : Prop :=
  ∀ kind reference, f ≠ .command (.client (.notFound kind reference))

namespace Stage

/-- An explanation writes nothing. -/
theorem withExplanation_sink (next : Handler Cluster) (ctx : Nat) (args : List String)
    (w : World Cluster) : (withExplanation next ctx args w).2.sink = (next ctx args w).2.sink := by
  rw [withExplanation]
  split
  · rename_i reason v heq
    have hsink : (v.call ctx .getLicence).2.sink = v.sink := rfl
    rw [heq]
    generalize v.call ctx .getLicence = answered at hsink ⊢
    rcases answered with ⟨(e | _) | licence, u⟩ <;> exact hsink
  · rfl

/-- An explanation leaves what its handler leaves. -/
theorem withExplanation_world (next : Handler Cluster) (ctx : Nat) (args : List String)
    (w : World Cluster) : (withExplanation next ctx args w).2.Twin (next ctx args w).2 := by
  rw [withExplanation]
  split
  · rename_i reason v heq
    have hcall := v.twin_reads ctx (c := .getLicence) rfl
    rw [heq]
    generalize v.call ctx .getLicence = answered at hcall ⊢
    obtain ⟨hnow, hcontexts, hinventory, hfailures⟩ := hcall
    rcases answered with ⟨(e | _) | licence, u⟩ <;> exact ⟨hnow, hcontexts, hinventory, hfailures⟩
  · exact World.Twin.refl _

/-- Twins are explained as twins. -/
theorem withExplanation_twin {next next' : Handler Cluster} {ctx : Nat} {args args' : List String}
    {u : World Cluster} (h : Outcome.Twin (next ctx args u) (next' ctx args' u)) :
    Outcome.Twin (withExplanation next ctx args u) (withExplanation next' ctx args' u) := by
  by_cases hlicence : Failure.IsLicence (next ctx args u).1
  · obtain ⟨reason, hreason⟩ := hlicence
    obtain ⟨hresult, hworld⟩ := h
    rw [hreason] at hresult
    obtain ⟨hanswer, hafter⟩ := hworld.call ctx .getLicence
    rw [withExplanation, withExplanation]
    generalize next ctx args u = o at *
    generalize next' ctx args' u = o' at *
    obtain ⟨r, v⟩ := o
    obtain ⟨r', v'⟩ := o'
    obtain rfl : r = _ := hreason
    obtain rfl : _ = r' := hresult
    simp only
    generalize v.call ctx .getLicence = x at *
    generalize v'.call ctx .getLicence = y at *
    obtain ⟨answer, x⟩ := x
    obtain ⟨answer', y⟩ := y
    obtain rfl : answer = answer' := hanswer
    rcases answer with (e | _) | licence <;>
      exact ⟨rfl, hafter.now, hafter.contexts, hafter.inventory, hafter.failures⟩
  · have hlicence' : ¬ Failure.IsLicence (next' ctx args' u).1 := by
      rw [← h.result]
      exact hlicence
    rw [withExplanation_of_not hlicence, withExplanation_of_not hlicence']
    exact h

/-- The outcome of a handler when the context that it had is cancelled. -/
def leaving (child : Nat) (o : Outcome Cluster Unit) : Outcome Cluster Unit :=
  (o.1, { o.2 with contexts := o.2.contexts.cancel child })

theorem leaving_world {o o' : Outcome Cluster Unit} (h : o.2.Twin o'.2) (child : Nat) :
    (leaving child o).2.Twin (leaving child o').2 :=
  ⟨h.now, congrArg (Contexts.cancel · child) h.contexts, h.inventory, h.failures⟩

theorem leaving_twin {o o' : Outcome Cluster Unit} (h : o.Twin o') (child : Nat) :
    (leaving child o).Twin (leaving child o') :=
  ⟨h.result, leaving_world h.world child⟩

/-- Arguments and selectors are more than a listing of everything. -/
def Targeted (targets : Option SelectorSet) (args : List String) : Prop :=
  ∀ selectors ∈ targets, ¬ (args.isEmpty && selectors.isEmpty)

theorem targeted_none (args : List String) : Targeted none args := fun _ h => by cases h

/-- A handler may be entered from a world in another one: they store the same, with no failure told and
nothing written in between. -/
structure Leads (w u : World Cluster) : Prop where
  now : u.now = w.now
  sink : u.sink = w.sink
  inventory : u.cluster.inventory = w.cluster.inventory
  quiet : u.IsQuiet

theorem underDeadline_eq (timeout : Duration) (next : Handler Cluster) (ctx : Nat)
    (args : List String) (w : World Cluster) :
    underDeadline timeout next ctx args w =
      if Contexts.admits timeout w.contexts.now then
        leaving (w.contexts.derive ctx timeout).2 (next (w.contexts.derive ctx timeout).2 args
          { w with contexts := (w.contexts.derive ctx timeout).1 })
      else (.error .brokenOff, w) := rfl

/-- What a deadline, two preconditions and a session make of a handler. -/
theorem standard_eq (s : Settings) (isNamespaced : Bool) (targets : Option SelectorSet)
    (next : Handler Cluster) (ctx : Nat) (args : List String) (w : World Cluster) :
    chain ((standard isNamespaced targets).map (middleware s)) next ctx args w =
      underDeadline (s.effectiveTimeout defaultFallback)
        (chain ((if isNamespaced then [namespaceRequired] else []).map (middleware s))
          (chain ((targets.toList.map targetOrSelectors).map (middleware s))
            (withSession s (withExplanation next))))
        ctx args (w.log (deadlineEvents s defaultFallback)) := by
  simp only [standard, List.map_append, chain_append]
  rfl

theorem chain_namespaceRequired (s : Settings) (isNamespaced : Bool) (next : Handler Cluster)
    (ctx : Nat) (args : List String) (w : World Cluster) :
    chain ((if isNamespaced then [namespaceRequired] else []).map (middleware s)) next ctx args w =
      if isNamespaced && (s.useIds && s.namespace.isEmpty) then
        (.error (.command namespaceMissing), w)
      else next ctx args w := by
  cases isNamespaced <;> rfl

theorem chain_targetOrSelectors {targets : Option SelectorSet} {args : List String}
    (h : Targeted targets args) (s : Settings) (next : Handler Cluster) (ctx : Nat)
    (w : World Cluster) :
    chain ((targets.toList.map targetOrSelectors).map (middleware s)) next ctx args w =
      next ctx args w := by
  cases targets with
  | none => rfl
  | some selectors => exact if_neg (h selectors rfl)

theorem chain_targetOrSelectors_barred {targets : Option SelectorSet} {args : List String}
    (h : ¬ Targeted targets args) (s : Settings) (next : Handler Cluster) (ctx : Nat)
    (w : World Cluster) :
    chain ((targets.toList.map targetOrSelectors).map (middleware s)) next ctx args w =
      (.error (.command targetMissing), w) := by
  cases targets with
  | none => exact absurd (targeted_none args) h
  | some selectors =>
    refine if_pos (by_contra fun hsome => h fun other heq => ?_)
    cases heq
    exact hsome

/-- What a deadline, a precondition and a session make of a handler whose targets are let through. -/
theorem standard_targeted {targets : Option SelectorSet} {args : List String} (h : Targeted targets args)
    {s : Settings} {isNamespaced : Bool} {next : Handler Cluster} {ctx : Nat} {w : World Cluster} :
    chain ((standard isNamespaced targets).map (middleware s)) next ctx args w =
      let child := (w.contexts.derive ctx (s.effectiveTimeout defaultFallback)).2
      let v : World Cluster := { w.log (deadlineEvents s defaultFallback) with
        contexts := (w.contexts.derive ctx (s.effectiveTimeout defaultFallback)).1 }
      if Contexts.admits (s.effectiveTimeout defaultFallback) w.contexts.now then
        leaving child (if isNamespaced && (s.useIds && s.namespace.isEmpty) then
          (.error (.command namespaceMissing), v)
        else withSession s (withExplanation next) child args v)
      else (.error .brokenOff, w.log (deadlineEvents s defaultFallback)) := by
  rw [standard_eq, underDeadline_eq, chain_namespaceRequired, chain_targetOrSelectors h]
  rfl

/-- A session that is refused is refused for no missing resource. -/
theorem isFound_of_opening {w : World Cluster} {ctx : Nat} {credentials : Credentials}
    {failure : CallFailure} (hquiet : w.IsQuiet)
    (h : (w.call ctx credentials.opening).1 = .error failure) :
    Failure.IsFound (.ofCall failure) := by
  intro kind reference heq
  cases hctx : w.contexts.mayStart ctx with
  | error e =>
    rw [w.call_dead hctx] at h
    cases h
    cases heq
    rw [Contexts.mayStart] at hctx
    split at hctx
    · cases hctx
    · split at hctx <;> cases hctx
  | ok _ =>
    rw [(World.call_quiet hctx hquiet _).1] at h
    simp only [Inventory.perform, Inventory.ofClient, Inventory.authenticate] at h
    split at h
    · cases h
    · cases h
      cases heq

/-- In a session that is opened everything is done in the same world, in which that call is on record. -/
theorem withSession_opened {s : Settings} {ctx : Nat} {w : World Cluster} {credentials : Credentials}
    {session : Session} (hquiet : w.IsQuiet) (hcredentials : s.credentials = .ok credentials)
    (hanswer : (w.call ctx credentials.opening).1 = .ok session) :
    ∃ u, u.contexts.mayStart ctx = .ok () ∧ Leads w u ∧
      u.cluster.calls = w.cluster.calls ++ [.authenticate] ∧ ∀ (next : Handler Cluster) args,
        withSession s next ctx args w = next ctx args u := by
  have hlive : w.contexts.mayStart ctx = .ok () := by
    cases hctx : w.contexts.mayStart ctx with
    | ok _ => rfl
    | error e =>
      rw [w.call_dead hctx] at hanswer
      cases hanswer
  obtain ⟨_, hinventory, hquiet', hnow, hcontexts, hsink⟩ :=
    World.call_quiet hlive hquiet credentials.opening
  rw [Inventory.perform_reads _ _ rfl] at hinventory
  have hcalls : (w.call ctx credentials.opening).2.cluster.calls = w.cluster.calls ++ [.authenticate] := by
    rw [w.call_live hlive]
    exact Cluster.perform_calls ..
  refine ⟨(w.call ctx credentials.opening).2.log [authenticatedEvent session],
    (congrArg (Contexts.mayStart · ctx) hcontexts).trans hlive,
    ⟨hnow, hsink, hinventory, hquiet'⟩, hcalls, fun next args => ?_⟩
  simp only [withSession, hcredentials]
  generalize w.call ctx credentials.opening = answered at hanswer ⊢
  obtain ⟨answer, v⟩ := answered
  obtain rfl : answer = _ := hanswer
  rfl

/-- A session is refused whatever is to be done in it, or everything is done in the same world. -/
theorem withSession_ways (s : Settings) (ctx : Nat) {w : World Cluster} (hquiet : w.IsQuiet) :
    (∃ f v, Failure.IsFound f ∧ ∀ (next : Handler Cluster) args,
      withSession s next ctx args w = (.error f, v)) ∨
    ∃ u, u.contexts.mayStart ctx = .ok () ∧ Leads w u ∧ ∀ (next : Handler Cluster) args,
      withSession s next ctx args w = next ctx args u := by
  cases hcredentials : s.credentials with
  | error e =>
    refine .inl ⟨.command (.config e), w, fun _ _ h => (by cases h), fun next args => ?_⟩
    simp only [withSession, hcredentials]
  | ok credentials =>
    cases hanswer : (w.call ctx credentials.opening).1 with
    | error failure =>
      refine .inl ⟨.ofCall failure, (w.call ctx credentials.opening).2,
        isFound_of_opening hquiet hanswer, fun next args => ?_⟩
      simp only [withSession, hcredentials]
      generalize w.call ctx credentials.opening = answered at hanswer ⊢
      obtain ⟨answer, v⟩ := answered
      obtain rfl : answer = _ := hanswer
      rfl
    | ok session =>
      obtain ⟨u, hlive, hleads, -, hopened⟩ := withSession_opened hquiet hcredentials hanswer
      exact .inr ⟨u, hlive, hleads, hopened⟩

/-- The stages either turn every handler away in the same way, for a reason that is no missing resource,
or let every handler run, under the same context and in the same world. -/
theorem standard_ways (s : Settings) (isNamespaced : Bool) (ctx : Nat) {w : World Cluster}
    (hquiet : w.IsQuiet) :
    (∃ f v, Failure.IsFound f ∧ ∀ targets (next : Handler Cluster) args, Targeted targets args →
      chain ((standard isNamespaced targets).map (middleware s)) next ctx args w = (.error f, v)) ∨
    ∃ child u, u.contexts.mayStart child = .ok () ∧ Leads w u ∧
      ∀ targets (next : Handler Cluster) args, Targeted targets args →
        chain ((standard isNamespaced targets).map (middleware s)) next ctx args w =
          leaving child (withExplanation next child args u) := by
  generalize hchild : (w.contexts.derive ctx (s.effectiveTimeout defaultFallback)).2 = child
  generalize hentered : (({ w.log (deadlineEvents s defaultFallback) with
    contexts := (w.contexts.derive ctx (s.effectiveTimeout defaultFallback)).1 }) : World Cluster) = v
  have hleads : Leads w v := by
    rw [← hentered]
    exact ⟨rfl, rfl, rfl, hquiet⟩
  have hchain : ∀ targets (next : Handler Cluster) args, Targeted targets args →
      chain ((standard isNamespaced targets).map (middleware s)) next ctx args w =
        if Contexts.admits (s.effectiveTimeout defaultFallback) w.contexts.now then
          leaving child (if isNamespaced && (s.useIds && s.namespace.isEmpty) then
            (.error (.command namespaceMissing), v)
          else withSession s (withExplanation next) child args v)
        else (.error .brokenOff, w.log (deadlineEvents s defaultFallback)) := by
    intro targets next args htargeted
    rw [standard_targeted htargeted, ← hchild, ← hentered]
  split at hchain
  case isFalse => exact .inl ⟨_, _, fun _ _ h => (by cases h), hchain⟩
  split at hchain
  case isTrue => exact .inl ⟨_, _, fun _ _ h => (by cases h), hchain⟩
  rcases withSession_ways s child hleads.quiet with ⟨f, v', hf, hsession⟩ | ⟨u, hlive, hu, hsession⟩
  · refine .inl ⟨f, (leaving child (.error f, v')).2, hf, fun targets next args htargeted => ?_⟩
    rw [hchain targets next args htargeted, hsession]
    rfl
  · refine .inr ⟨child, u, hlive, ?_, fun targets next args htargeted => ?_⟩
    · exact ⟨hu.now.trans hleads.now, hu.sink.trans hleads.sink,
        hu.inventory.trans hleads.inventory, hu.quiet⟩
    · rw [hchain targets next args htargeted, hsession]

/-- A listing of everything is refused whatever was to be done with it. -/
theorem standard_barred {targets : Option SelectorSet} {args args' : List String}
    (h : ¬ Targeted targets args) (h' : ¬ Targeted targets args') (s : Settings)
    (isNamespaced : Bool) (next next' : Handler Cluster) (ctx : Nat) (w : World Cluster) :
    chain ((standard isNamespaced targets).map (middleware s)) next ctx args w =
      chain ((standard isNamespaced targets).map (middleware s)) next' ctx args' w := by
  rw [standard_eq, standard_eq, underDeadline_eq, underDeadline_eq, chain_namespaceRequired,
    chain_namespaceRequired, chain_targetOrSelectors_barred h, chain_targetOrSelectors_barred h']

end Stage

end BlockStorage
