import BlockStorage.Proofs.Run.Deadline

/-!
Runs that are observed: beside a cluster a record is kept of the calls that reach it, each with the contexts of
the time and the one that the call is bound to.

Observing a run changes nothing about it. So what the record says of an observed run holds of the run itself,
at whatever cluster. All calls of a command are bound to the one context that its deadline stage derives, and a
property of contexts that calls keep holds at each of them.
-/

namespace BlockStorage

/-- An occasion on which a call is made. -/
structure Occasion where
  contexts : Contexts
  ctx : Nat
  call : Call

/-- A cluster with a record of the calls that reach it. -/
structure Cluster.Observed (σ : Type) where
  cluster : σ
  occasions : List Occasion

instance {σ : Type} [Cluster.Callable σ] : Cluster.Callable (Cluster.Observed σ) where
  answer now contexts ctx observed c :=
    let answered := Cluster.Callable.answer now contexts ctx observed.cluster c
    ⟨answered.answer, ⟨answered.cluster, observed.occasions ++ [⟨contexts, ctx, c⟩]⟩, answered.contexts,
      answered.events⟩

open Cluster (Observed)

variable {σ : Type}

namespace World

/-- The world without the record. -/
def plain (w : World (Observed σ)) : World σ := ⟨w.now, w.contexts, w.cluster.cluster, w.sink, w.events⟩

/-- The world with an empty record. -/
def observed (w : World σ) : World (Observed σ) := ⟨w.now, w.contexts, ⟨w.cluster, []⟩, w.sink, w.events⟩

/-- What is on the record. -/
def occasions (w : World (Observed σ)) : List Occasion := w.cluster.occasions

end World

/-- What comes of an observed run, without the record. -/
def Outcome.plain {α : Type} (o : Outcome (Observed σ) α) : Outcome σ α := (o.1, o.2.plain)

/-! ### Observing changes nothing -/

/-- Two handlers do the same, one of them observed. -/
def Handler.Agrees (next : Handler (Observed σ)) (next' : Handler σ) : Prop :=
  ∀ ctx args w, next' ctx args w.plain = Outcome.plain (next ctx args w)

theorem Stage.agrees_underDeadline {next : Handler (Observed σ)} {next' : Handler σ} (h : next.Agrees next')
    (timeout : Duration) : Handler.Agrees (underDeadline timeout next) (underDeadline timeout next') := by
  intro ctx args w
  by_cases hadmits : Contexts.admits timeout w.contexts.now = true
  · rw [underDeadline_of_admits hadmits, underDeadline_of_admits (w := w.plain) hadmits]
    have hinner := h w.contexts.contexts.length args (w.timed ctx timeout)
    exact congrArg (fun o => (o.1, o.2.cancel w.contexts.contexts.length)) hinner
  · rw [underDeadline_of_not_admits hadmits, underDeadline_of_not_admits (w := w.plain) hadmits]
    rfl

variable [Cluster.Callable σ]

theorem World.carries_plain : World.Carries (World.plain : World (Observed σ) → World σ) :=
  ⟨fun _ _ => rfl, fun _ _ _ => rfl⟩

namespace Stage

variable {s : Settings} {next : Handler (Observed σ)} {next' : Handler σ}

theorem agrees_withSession (h : next.Agrees next') :
    Handler.Agrees (withSession s next) (withSession s next') := by
  intro ctx args w
  rw [withSession, withSession]
  cases s.credentials with
  | error error => rfl
  | ok credentials =>
    simp only [World.carries_plain.call]
    rcases w.call ctx (.authenticate credentials.username credentials.password) with ⟨f | session, v⟩
    · rfl
    · exact h ctx args (v.log [authenticatedEvent session])

theorem agrees_withExplanation (h : next.Agrees next') :
    Handler.Agrees (withExplanation next) (withExplanation next') := by
  intro ctx args w
  have hinner := h ctx args w
  by_cases hlicence : Failure.IsLicence (next ctx args w).1
  · obtain ⟨reason, hreason⟩ := hlicence
    rw [withExplanation, withExplanation, hinner]
    rcases hnext : next ctx args w with ⟨r, v⟩
    rw [hnext] at hreason
    subst hreason
    simp only [Outcome.plain, World.carries_plain.call]
    rcases v.call ctx .getLicence with ⟨(e | _) | licence, u⟩ <;> rfl
  · have hlicence' : ¬Failure.IsLicence (next' ctx args w.plain).1 := by rwa [hinner]
    rw [withExplanation_of_not hlicence, withExplanation_of_not hlicence', hinner]

theorem agrees_chain (h : next.Agrees next') (stages : List Stage) :
    Handler.Agrees (chain (stages.map (middleware s)) next) (chain (stages.map (middleware s)) next') := by
  have hrespects : Respects s fun (next : Handler (Observed σ)) (next' : Handler σ) => next.Agrees next' := by
    constructor
    case barred =>
      intro bars error _ next next' h ctx args w
      rw [barring, barring]
      split
      · rfl
      · exact h ctx args w
    case session => exact agrees_withSession
    case explained => exact agrees_withExplanation
  refine hrespects.chain (fun fallback _ next next' h ctx args w => ?_) h
  exact agrees_underDeadline h _ ctx args (w.log (deadlineEvents s fallback))

end Stage

theorem Plan.agrees_handler (s : Settings) (plan : Plan) :
    Handler.Agrees (plan.handler s : Handler (Observed σ)) (plan.handler s) := by
  intro ctx args w
  rw [handler, handler, Program.run_map World.carries_plain]
  rcases plan.body.run ctx w with ⟨f | view, v⟩
  · rfl
  · simp only [Outcome.plain, World.display]
    cases s.outputFormat <;> rfl

/-- Observing a run of a command changes nothing about it. -/
theorem Command.run_plain (s : Settings) (c : Command) (ctx : Nat) (w : World (Observed σ)) :
    c.run s ctx w.plain = Outcome.plain (c.run s ctx w) := by
  cases hplan : c.plan s with
  | error e =>
    rw [run_of_plan_error ctx _ hplan, run_of_plan_error ctx _ hplan]
    rfl
  | ok plan =>
    cases hcheck : plan.check with
    | error e =>
      rw [run_of_check_error ctx _ hplan hcheck, run_of_check_error ctx _ hplan hcheck]
      rfl
    | ok _ =>
      rw [run_eq_chain ctx _ hplan hcheck, run_eq_chain ctx _ hplan hcheck]
      exact Stage.agrees_chain (plan.agrees_handler s) plan.stages ctx plan.args w

/-- What comes of an observed run is what comes of the run, beside the record. -/
theorem Command.plain_run_observed (s : Settings) (c : Command) (ctx : Nat) (w : World σ) :
    Outcome.plain (c.run s ctx w.observed) = c.run s ctx w :=
  (c.run_plain s ctx w.observed).symm

/-! ### What is on the record -/

/-- Calls keep a property of contexts. -/
def Cluster.Keeps (σ : Type) [Cluster.Callable σ] (holds : Contexts → Prop) : Prop :=
  ∀ now cs ctx (cluster : σ) c, holds cs → holds (Cluster.Callable.answer now cs ctx cluster c).contexts

/-- Whatever a program is answered, it makes only such calls. -/
def Program.Asks {α : Type} (calls : Call → Prop) : Program α → Prop
  | .done _ => True
  | .note _ next => next.Asks calls
  | .call c next => calls c ∧ ∀ a, (next a).Asks calls

namespace Program

variable {α β : Type} {calls : Call → Prop} {p : Program α}

/-- A program all of whose exchanges are of such calls only makes such calls. -/
theorem asks_of_takes (h : ∀ xs r, p.Takes xs r → ∀ x ∈ xs, calls x.call) : p.Asks calls := by
  induction p with
  | done result => trivial
  | note event next ih => exact ih fun xs r htakes => h xs r (.note htakes)
  | call c next ih =>
    refine ⟨h _ _ (.failed .brokenOff) _ List.mem_cons_self, fun a => ih a fun xs r htakes x hx => ?_⟩
    exact h _ _ (.answered htakes) x (List.mem_cons_of_mem _ hx)

/-- All exchanges of a program that only makes such calls are of such calls. -/
theorem Takes.calls_of_asks {xs : List Exchange} {r : Except Failure α} (h : p.Takes xs r) (hp : p.Asks calls) :
    ∀ x ∈ xs, calls x.call := by
  induction h with
  | done result => simp
  | note _ ih => exact ih hp
  | answered _ ih => exact List.forall_mem_cons.mpr ⟨hp.1, ih (hp.2 _)⟩
  | failed f => exact List.forall_mem_singleton.mpr hp.1

theorem Asks.bind {f : α → Program β} (hp : p.Asks calls) (hf : ∀ a, (f a).Asks calls) :
    (p >>= f).Asks calls := by
  change (p.andThen f).Asks calls
  induction p with
  | done result =>
    cases result with
    | error error => trivial
    | ok a => exact hf a
  | note event next ih => exact ih hp
  | call c next ih => exact ⟨hp.1, fun a => ih a (hp.2 a)⟩

theorem asks_ask {c : Call} (hc : calls c) : (ask c).Asks calls := ⟨hc, fun _ => trivial⟩

theorem asks_tellAll (events : List Log.Event) : (tellAll events).Asks calls := by
  induction events with
  | nil => trivial
  | cons event events ih => exact ih

theorem asks_params (s : Settings) (cas : Option String) (isAsync : Bool) :
    (RequestParams.program s cas isAsync).Asks calls :=
  (asks_tellAll _).bind fun _ => trivial

end Program

/-- From one world to the other only such calls were made, all of them under a context, and the contexts kept
a property all the time. -/
structure World.MakesOnly (holds : Contexts → Prop) (calls : Call → Prop) (ctx : Nat)
    (w v : World (Observed σ)) : Prop where
  kept : holds v.contexts
  made : ∃ os, v.occasions = w.occasions ++ os ∧ ∀ o ∈ os, o.ctx = ctx ∧ calls o.call ∧ holds o.contexts

/-- Wherever the contexts have a property, a handler makes only such calls and keeps the property. -/
def Handler.MakesOnly (holds : Contexts → Prop) (calls : Call → Prop) (next : Handler (Observed σ)) : Prop :=
  ∀ (ctx : Nat) (args : List String) (w : World (Observed σ)), holds w.contexts →
    w.MakesOnly holds calls ctx (next ctx args w).2

variable {holds : Contexts → Prop} {calls : Call → Prop} {ctx : Nat}

namespace World

variable {u v w : World (Observed σ)}

omit [Cluster.Callable σ] in
theorem MakesOnly.of_same (h : holds w.contexts) (hcontexts : v.contexts = w.contexts)
    (hoccasions : v.occasions = w.occasions) : w.MakesOnly holds calls ctx v :=
  ⟨hcontexts ▸ h, [], by rw [hoccasions, List.append_nil], by simp⟩

omit [Cluster.Callable σ] in
theorem MakesOnly.log (h : w.MakesOnly holds calls ctx v) (events : List Log.Event) :
    w.MakesOnly holds calls ctx (v.log events) :=
  ⟨h.kept, h.made⟩

omit [Cluster.Callable σ] in
theorem MakesOnly.trans (h : u.MakesOnly holds calls ctx v) (h' : v.MakesOnly holds calls ctx w) :
    u.MakesOnly holds calls ctx w := by
  obtain ⟨os, hos, hmade⟩ := h.made
  obtain ⟨os', hos', hmade'⟩ := h'.made
  refine ⟨h'.kept, os ++ os', by rw [hos', hos, List.append_assoc], fun o ho => ?_⟩
  exact (List.mem_append.mp ho).elim (hmade o) (hmade' o)

theorem makes_call (ctx : Nat) (hkeeps : Cluster.Keeps σ holds) (h : holds w.contexts) {c : Call}
    (hc : calls c) : w.MakesOnly holds calls ctx (w.call ctx c).2 := by
  refine ⟨hkeeps _ _ _ _ c h, [⟨w.contexts, ctx, c⟩], rfl, fun o ho => ?_⟩
  rw [List.mem_singleton.mp ho]
  exact ⟨rfl, hc, h⟩

end World

theorem Program.run_makes (ctx : Nat) (hkeeps : Cluster.Keeps σ holds) {α : Type} {p : Program α}
    (hp : p.Asks calls) {w : World (Observed σ)} (h : holds w.contexts) :
    w.MakesOnly holds calls ctx (p.run ctx w).2 := by
  induction p generalizing w with
  | done result => exact .of_same h rfl rfl
  | note event next ih =>
    have hlogged : w.MakesOnly holds calls ctx (w.log [event]) := .of_same h rfl rfl
    exact hlogged.trans (ih hp hlogged.kept)
  | call c next ih =>
    have hcall := World.makes_call ctx hkeeps h hp.1
    rw [run]
    rcases hanswer : w.call ctx c with ⟨f | a, v⟩ <;> rw [hanswer] at hcall
    · exact hcall
    · exact hcall.trans (ih a (hp.2 a) hcall.kept)

namespace Stage

variable {s : Settings} {next : Handler (Observed σ)}

theorem makes_withSession (hkeeps : Cluster.Keeps σ holds) (h : next.MakesOnly holds calls)
    (hopening : ∀ credentials, s.credentials = .ok credentials → calls credentials.opening) :
    Handler.MakesOnly holds calls (withSession s next) := by
  intro ctx args w hw
  rw [withSession]
  cases hcredentials : s.credentials with
  | error error => exact .of_same hw rfl rfl
  | ok credentials =>
    have hcall := World.makes_call ctx hkeeps hw (hopening credentials hcredentials)
    simp only
    rcases hanswer : w.call ctx (.authenticate credentials.username credentials.password) with
      ⟨f | session, v⟩ <;> rw [hanswer] at hcall
    · exact hcall
    · exact (hcall.log [authenticatedEvent session]).trans (h ctx args _ hcall.kept)

theorem makes_withExplanation (hkeeps : Cluster.Keeps σ holds) (h : next.MakesOnly holds calls)
    (hlicence : calls .getLicence) : Handler.MakesOnly holds calls (withExplanation next) := by
  intro ctx args w hw
  have hnext := h ctx args w hw
  rw [withExplanation]
  split
  next reason v heq =>
    rw [heq] at hnext
    have hboth := hnext.trans (World.makes_call ctx hkeeps hnext.kept hlicence)
    rcases hanswer : v.call ctx .getLicence with ⟨(e | _) | licence, u⟩ <;> rw [hanswer] at hboth
    · exact hboth.log [licenceMissingEvent e]
    · exact hboth
    · exact hboth.log [licenceEvent licence]
  next => exact hnext

/-- Stages around a handler add the calls for the session and for the licence. -/
theorem makes_chain (hkeeps : Cluster.Keeps σ holds) (h : next.MakesOnly holds calls)
    (hopening : ∀ credentials, s.credentials = .ok credentials → calls credentials.opening)
    (hlicence : calls .getLicence) {stages : List Stage}
    (hstages : ∀ fallback, Stage.deadline fallback ∉ stages) :
    Handler.MakesOnly holds calls (chain (stages.map (middleware s)) next) := by
  have hrespects : Respects s fun (next _ : Handler (Observed σ)) => next.MakesOnly holds calls := by
    constructor
    case barred =>
      intro bars error _ next _ h ctx args w hw
      rw [barring]
      split
      · exact .of_same hw rfl rfl
      · exact h ctx args w hw
    case session => exact fun h => makes_withSession hkeeps h hopening
    case explained => exact fun h => makes_withExplanation hkeeps h hlicence
  exact hrespects.chain_one (fun fallback hmem => absurd hmem (hstages fallback)) h

end Stage

theorem Plan.makes_handler (hkeeps : Cluster.Keeps σ holds) (s : Settings) {plan : Plan}
    (h : plan.body.Asks calls) : Handler.MakesOnly holds calls (plan.handler s : Handler (Observed σ)) := by
  intro ctx args w hw
  have hbody := Program.run_makes ctx hkeeps h hw
  rw [handler]
  rcases hrun : plan.body.run ctx w with ⟨f | view, v⟩ <;> rw [hrun] at hbody
  · exact hbody
  · refine hbody.trans (.of_same hbody.kept ?_ ?_) <;>
    · simp only [World.display]
      cases s.outputFormat <;> rfl

namespace Command

/-- The occasions on which a run of a command makes its calls, in order. -/
def occasions (s : Settings) (c : Command) (ctx : Nat) (w : World σ) : List Occasion :=
  (c.run s ctx w.observed).2.occasions

/-- The stages of a command are its deadline and others without one. -/
theorem stages_eq_deadline_cons {plan : Plan} {s : Settings} {c : Command} (h : c.plan s = .ok plan) :
    ∃ stages, plan.stages = .deadline Stage.defaultFallback :: stages ∧
      ∀ fallback, Stage.deadline fallback ∉ stages := by
  obtain ⟨targets, hstages, -⟩ := (planned_of_plan h).stages
  refine ⟨_, hstages.trans rfl, fun fallback => ?_⟩
  cases c.isNamespaced <;> cases targets <;> simp

/-- A run of a command makes only calls of its program and those of the stages, and all of them under the
context that its deadline stage derives. What holds of the contexts when that is derived, and is kept by calls,
holds at each of them. -/
theorem occasions_of_run {s : Settings} {c : Command} (hkeeps : Cluster.Keeps σ holds)
    (hbody : ∀ plan, c.plan s = .ok plan → plan.check = .ok () → plan.body.Asks calls)
    (hopening : ∀ credentials, s.credentials = .ok credentials → calls credentials.opening)
    (hlicence : calls .getLicence) {ctx : Nat} {w : World σ}
    (hstart : holds (w.contexts.derive ctx (s.effectiveTimeout Stage.defaultFallback)).1)
    {o : Occasion} (ho : o ∈ c.occasions s ctx w) :
    o.ctx = w.contexts.contexts.length ∧ calls o.call ∧ holds o.contexts := by
  rw [occasions] at ho
  cases hplan : c.plan s with
  | error e =>
    rw [run_of_plan_error ctx _ hplan] at ho
    cases ho
  | ok plan =>
    cases hcheck : plan.check with
    | error e =>
      rw [run_of_check_error ctx _ hplan hcheck] at ho
      cases ho
    | ok _ =>
      obtain ⟨stages, hstages, hnone⟩ := stages_eq_deadline_cons hplan
      rw [run_eq_chain ctx _ hplan hcheck, hstages, List.map_cons, chain_cons] at ho
      by_cases hadmits : Contexts.admits (s.effectiveTimeout Stage.defaultFallback) w.contexts.now = true
      · rw [Stage.deadline_of_admits (w := w.observed) hadmits] at ho
        have hmakes := Stage.makes_chain hkeeps (plan.makes_handler hkeeps s (hbody plan hplan hcheck))
          hopening hlicence hnone w.contexts.contexts.length plan.args
          ((w.observed.log (Stage.deadlineEvents s Stage.defaultFallback)).timed ctx _) hstart
        obtain ⟨os, hos, hmade⟩ := hmakes.made
        exact hmade o ((congrArg (o ∈ ·) hos).mp ho)
      · rw [Stage.deadline_of_not_admits (w := w.observed) hadmits] at ho
        cases ho

end Command

end BlockStorage
