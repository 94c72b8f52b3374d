import BlockStorage.Proofs.Run.Stages

/-!
Stages that nest.

A wrapper is a stage with something to do before the next one and after it. On the way in it calls the next one
or refuses to; on the way out it sees the result and passes it on. A run through wrappers is told in steps, with
those that called their next one on a stack: it goes in as far as the handler or the first wrapper that refuses,
and out through the stack. The steps leave no choice, and a chain of wrappers does what they do. All standard
stages are wrappers, but for the explanation of the licence, which gives another error than it sees.
-/

namespace BlockStorage

/-- What a handler is run with. -/
structure Visit where
  ctx : Nat
  args : List String

/-- What is done when the next one is back with a result. When the run broke off, this is no more than what is
cleaned up on the way out. -/
abbrev Exit (σ : Type) := Except Failure Unit → World σ → World σ

/-- A stage with something to do before the next one and after it. What it does first tells what the next one is
called with and what is left to do then, or that the next one is not called. -/
structure Wrapper (σ : Type) where
  enter : Visit → World σ → Except Failure (Visit × Exit σ) × World σ

variable {σ : Type}

namespace Wrapper

/-- The middleware of a wrapper. -/
def middleware (stage : Wrapper σ) : Middleware σ := fun next ctx args w =>
  match stage.enter ⟨ctx, args⟩ w with
  | (.error failure, w) => (.error failure, w)
  | (.ok (inner, exit), w) =>
    let (result, w) := next inner.ctx inner.args w
    (result, exit result w)

variable {stage : Wrapper σ} {visit inner : Visit} {exit : Exit σ} {failure : Failure} {w v : World σ}

theorem middleware_of_error (h : stage.enter visit w = (.error failure, v)) (next : Handler σ) :
    stage.middleware next visit.ctx visit.args w = (.error failure, v) := by
  simp only [middleware, h]

theorem middleware_of_ok (h : stage.enter visit w = (.ok (inner, exit), v)) (next : Handler σ) :
    stage.middleware next visit.ctx visit.args w =
      ((next inner.ctx inner.args v).1,
        exit (next inner.ctx inner.args v).1 (next inner.ctx inner.args v).2) := by
  simp only [middleware, h]

/-! ### Step by step -/

/-- What is done at one time of a run through wrappers. -/
inductive Moment (σ : Type) where
  /-- A wrapper did what it does first, and called the next one. -/
  | entered (stage : Wrapper σ)
  /-- A wrapper did what it does first, and did not call the next one. -/
  | refused (stage : Wrapper σ) (failure : Failure)
  | handled (result : Except Failure Unit)
  /-- A wrapper did what it does when the next one is back, and saw this result. -/
  | left (stage : Wrapper σ) (result : Except Failure Unit)

/-- Where a run through wrappers is: on the way in, with the wrappers ahead, or on the way out with a result.
The wrappers that called their next one wait for it, the last of them first. -/
inductive Point (σ : Type) where
  | inwards (waiting : List (Wrapper σ × Exit σ)) (ahead : List (Wrapper σ)) (visit : Visit) (w : World σ)
  | outwards (waiting : List (Wrapper σ × Exit σ)) (result : Except Failure Unit) (w : World σ)

/-- One step of a run through wrappers around a handler. -/
inductive Step (handler : Handler σ) : Point σ → Moment σ → Point σ → Prop
  | enter {waiting : List (Wrapper σ × Exit σ)} {stage : Wrapper σ} {ahead : List (Wrapper σ)}
      {visit inner : Visit} {exit : Exit σ} {w v : World σ}
      (h : stage.enter visit w = (.ok (inner, exit), v)) :
      Step handler (.inwards waiting (stage :: ahead) visit w) (.entered stage)
        (.inwards ((stage, exit) :: waiting) ahead inner v)
  | refuse {waiting : List (Wrapper σ × Exit σ)} {stage : Wrapper σ} {ahead : List (Wrapper σ)}
      {visit : Visit} {failure : Failure} {w v : World σ}
      (h : stage.enter visit w = (.error failure, v)) :
      Step handler (.inwards waiting (stage :: ahead) visit w) (.refused stage failure)
        (.outwards waiting (.error failure) v)
  | handle {waiting : List (Wrapper σ × Exit σ)} {visit : Visit} {result : Except Failure Unit}
      {w v : World σ} (h : handler visit.ctx visit.args w = (result, v)) :
      Step handler (.inwards waiting [] visit w) (.handled result) (.outwards waiting result v)
  | leave {waiting : List (Wrapper σ × Exit σ)} {stage : Wrapper σ} {exit : Exit σ}
      {result : Except Failure Unit} {w : World σ} :
      Step handler (.outwards ((stage, exit) :: waiting) result w) (.left stage result)
        (.outwards waiting result (exit result w))

/-- Steps one after another. -/
inductive Steps (handler : Handler σ) : Point σ → List (Moment σ) → Point σ → Prop
  | nil {p : Point σ} : Steps handler p [] p
  | cons {p q r : Point σ} {moment : Moment σ} {moments : List (Moment σ)} (head : Step handler p moment q)
      (tail : Steps handler q moments r) : Steps handler p (moment :: moments) r

variable {handler : Handler σ} {p q r : Point σ} {moment moment' : Moment σ}
  {moments moments' : List (Moment σ)}

theorem Step.unique (h : Step handler p moment q) (h' : Step handler p moment' r) :
    moment' = moment ∧ r = q := by
  cases h with
  | enter h =>
    cases h' with
    | enter h' =>
      cases h.symm.trans h'
      exact ⟨rfl, rfl⟩
    | refuse h' => cases h.symm.trans h'
  | refuse h =>
    cases h' with
    | enter h' => cases h.symm.trans h'
    | refuse h' =>
      cases h.symm.trans h'
      exact ⟨rfl, rfl⟩
  | handle h =>
    cases h' with
    | handle h' =>
      cases h.symm.trans h'
      exact ⟨rfl, rfl⟩
  | leave =>
    cases h'
    exact ⟨rfl, rfl⟩

theorem Steps.append (h : Steps handler p moments q) (h' : Steps handler q moments' r) :
    Steps handler p (moments ++ moments') r := by
  induction h with
  | nil => exact h'
  | cons head _ ih => exact .cons head (ih h')

/-- A run has one course to its end. -/
theorem Steps.unique {result result' : Except Failure Unit} {v v' : World σ}
    (h : Steps handler p moments (.outwards [] result v))
    (h' : Steps handler p moments' (.outwards [] result' v')) :
    moments' = moments ∧ (result', v') = (result, v) := by
  generalize hq : Point.outwards [] result v = q at h
  induction h generalizing moments' with
  | nil =>
    -- nobody waits at the end, so that no step is left
    subst hq
    cases h' with
    | nil => exact ⟨rfl, rfl⟩
    | cons head _ => cases head
  | cons head _ ih =>
    cases h' with
    | nil => cases head
    | cons head' tail' =>
      obtain ⟨rfl, rfl⟩ := head.unique head'
      obtain ⟨rfl, hend⟩ := ih tail' hq
      exact ⟨rfl, hend⟩

/-! ### There and back -/

/-- Where a run turns back, after these wrappers called their next one: at the handler behind all of them, or at
the next wrapper, which refuses. That is where its result is raised. -/
inductive TurnsAt (stages : List (Wrapper σ)) :
    List (Wrapper σ) → Moment σ → Except Failure Unit → Prop
  | handler (result : Except Failure Unit) : TurnsAt stages stages (.handled result) result
  | refusal {called inner : List (Wrapper σ)} {stage : Wrapper σ} (failure : Failure)
      (h : stages = called ++ stage :: inner) :
      TurnsAt stages called (.refused stage failure) (.error failure)

theorem TurnsAt.cons {stages called : List (Wrapper σ)} {turn : Moment σ} {result : Except Failure Unit}
    (h : TurnsAt stages called turn result) (stage : Wrapper σ) :
    TurnsAt (stage :: stages) (stage :: called) turn result := by
  cases h with
  | handler => exact .handler result
  | refusal failure h => exact .refusal failure (congrArg (List.cons stage) h)

/-- In through these wrappers, to where the run turns back, and out through the same ones the other way round,
all of which see the result. -/
def thereAndBack (called : List (Wrapper σ)) (turn : Moment σ) (result : Except Failure Unit) :
    List (Moment σ) :=
  called.map .entered ++ turn :: called.reverse.map (.left · result)

theorem thereAndBack_cons (stage : Wrapper σ) (called : List (Wrapper σ)) (turn : Moment σ)
    (result : Except Failure Unit) :
    thereAndBack (stage :: called) turn result =
      .entered stage :: (thereAndBack called turn result ++ [.left stage result]) := by
  simp [thereAndBack]

/-- A chain of wrappers goes there and back, whoever waits for it. -/
theorem exists_steps (handler : Handler σ) (stages : List (Wrapper σ)) (waiting : List (Wrapper σ × Exit σ))
    (visit : Visit) (w : World σ) :
    let outer := chain (stages.map middleware) handler visit.ctx visit.args w
    ∃ called turn, TurnsAt stages called turn outer.1 ∧
      Steps handler (.inwards waiting stages visit w) (thereAndBack called turn outer.1)
        (.outwards waiting outer.1 outer.2) := by
  induction stages generalizing waiting visit w with
  | nil => exact ⟨[], .handled _, .handler _, .cons (.handle rfl) .nil⟩
  | cons stage stages ih =>
    intro outer
    rcases hstage : stage.enter visit w with ⟨failure | ⟨inner, exit⟩, v⟩
    case error =>
      have houter : outer = (.error failure, v) := middleware_of_error hstage _
      rw [houter]
      exact ⟨[], .refused stage failure, .refusal failure rfl, .cons (.refuse hstage) .nil⟩
    case ok =>
      obtain ⟨called, turn, hturn, hsteps⟩ := ih ((stage, exit) :: waiting) inner v
      have houter : outer = _ := middleware_of_ok hstage (chain (stages.map middleware) handler)
      rw [houter]
      refine ⟨stage :: called, turn, hturn.cons stage, ?_⟩
      rw [thereAndBack_cons]
      exact .cons (.enter hstage) (hsteps.append (.cons .leave .nil))

end Wrapper

open Wrapper in
/-- Chains nest. A chain of two lists of middlewares is the one around the other, and an empty chain is nothing.
A chain of wrappers has one course: they are entered in their order, up to the handler or to the first that
refuses, and nothing behind that is done. Then those that called their next one are left, the last one first, and
no others. Each sees the result that was raised where the run turned back, and so does the caller. -/
theorem chain_nests :
    (∀ handler : Handler σ, chain [] handler = handler) ∧
    (∀ (a b : List (Middleware σ)) (handler : Handler σ), chain (a ++ b) handler = chain a (chain b handler)) ∧
    ∀ (stages : List (Wrapper σ)) (handler : Handler σ) (visit : Visit) (w : World σ),
      let outer := chain (stages.map middleware) handler visit.ctx visit.args w
      ∃ called turn, TurnsAt stages called turn outer.1 ∧
        ∀ moments result v, Steps handler (.inwards [] stages visit w) moments (.outwards [] result v) ↔
          moments = thereAndBack called turn outer.1 ∧ (result, v) = outer := by
  refine ⟨chain_nil, chain_append, fun stages handler visit w => ?_⟩
  intro outer
  obtain ⟨called, turn, hturn, hsteps⟩ := exists_steps handler stages [] visit w
  refine ⟨called, turn, hturn, fun moments result v => ⟨fun h => hsteps.unique h, ?_⟩⟩
  rintro ⟨rfl, hend⟩
  obtain ⟨rfl, rfl⟩ := Prod.mk.inj hend
  exact hsteps

/-! ### The standard stages -/

namespace Stage

variable [Cluster.Callable σ]

/-- A deadline as a wrapper: its context is cancelled when the next one is back. -/
def deadlineWrapper (s : Settings) (fallback : Duration) : Wrapper σ where
  enter := fun visit w =>
    let timeout := s.effectiveTimeout fallback
    let w := w.log (deadlineEvents s fallback)
    if Contexts.admits timeout w.contexts.now then
      let (contexts, child) := w.contexts.derive visit.ctx timeout
      (.ok (⟨child, visit.args⟩, fun _ w => { w with contexts := w.contexts.cancel child }),
        { w with contexts := contexts })
    else (.error .brokenOff, w)

/-- A precondition as a wrapper. -/
def barringWrapper (bars : List String → Bool) (error : CommandError) : Wrapper σ where
  enter := fun visit w =>
    if bars visit.args then (.error (.command error), w) else (.ok (visit, fun _ w => w), w)

/-- The opening of a session as a wrapper. -/
def sessionWrapper (s : Settings) : Wrapper σ where
  enter := fun visit w =>
    match s.credentials with
    | .error error => (.error (.command (.config error)), w)
    | .ok credentials =>
      match w.call visit.ctx (.authenticate credentials.username credentials.password) with
      | (.error failure, w) => (.error (.ofCall failure), w)
      | (.ok session, w) => (.ok (visit, fun _ w => w), w.log [authenticatedEvent session])

/-- The wrapper of a stage that passes results on. -/
def wrapper? (s : Settings) : Stage → Option (Wrapper σ)
  | .deadline fallback => some (deadlineWrapper s fallback)
  | .namespaceRequired => some (barringWrapper (fun _ => s.useIds && s.namespace.isEmpty) namespaceMissing)
  | .targetOrSelectors selectors =>
    some (barringWrapper (fun args => args.isEmpty && selectors.isEmpty) targetMissing)
  | .authenticate => some (sessionWrapper s)
  | .explainLicence => none

omit [Cluster.Callable σ] in
theorem middleware_barringWrapper (bars : List String → Bool) (error : CommandError) :
    (barringWrapper bars error : Wrapper σ).middleware = barring bars error := by
  funext next ctx args w
  simp only [Wrapper.middleware, barringWrapper, barring]
  by_cases hbars : bars args = true
  · simp [hbars]
  · simp [hbars]

theorem middleware_of_wrapper? {s : Settings} {stage : Stage} {wrapper : Wrapper σ}
    (h : wrapper? s stage = some wrapper) :
    middleware s stage = wrapper.middleware := by
  cases stage with
  | deadline fallback =>
    obtain rfl := Option.some.inj h
    funext next ctx args w
    simp only [middleware, underDeadline, Wrapper.middleware, deadlineWrapper]
    split <;> rfl
  | namespaceRequired =>
    obtain rfl := Option.some.inj h
    exact (middleware_barringWrapper _ _).symm
  | targetOrSelectors selectors =>
    obtain rfl := Option.some.inj h
    exact (middleware_barringWrapper _ _).symm
  | authenticate =>
    obtain rfl := Option.some.inj h
    funext next ctx args w
    simp only [middleware, withSession, Wrapper.middleware, sessionWrapper]
    cases hcredentials : s.credentials with
    | error error => rfl
    | ok credentials =>
      rcases hanswer : w.call ctx (.authenticate credentials.username credentials.password) with
        ⟨failure | session, v⟩
      · simp only [hanswer]
      · simp only [hanswer]
  | explainLicence => cases h

theorem exists_wrapper?_of_ne (s : Settings) {stage : Stage} (h : stage ≠ .explainLicence) :
    ∃ wrapper : Wrapper σ, wrapper? s stage = some wrapper := by
  cases stage with
  | explainLicence => exact absurd rfl h
  | _ => exact ⟨_, rfl⟩

/-- Stages that pass results on are a chain of wrappers. -/
theorem chain_wrappers (s : Settings) {stages : List Stage} (h : .explainLicence ∉ stages)
    (handler : Handler σ) :
    chain (stages.map (middleware s)) handler =
      chain ((stages.filterMap (wrapper? s)).map Wrapper.middleware) handler := by
  induction stages with
  | nil => rfl
  | cons stage stages ih =>
    obtain ⟨hstage, hstages⟩ := not_or.1 (mt List.mem_cons.2 h)
    obtain ⟨wrapper, hwrapper⟩ : ∃ wrapper : Wrapper σ, wrapper? s stage = some wrapper :=
      exists_wrapper?_of_ne s (Ne.symm hstage)
    rw [List.filterMap_cons_some hwrapper, List.map_cons, List.map_cons, chain_cons, chain_cons, ih hstages,
      middleware_of_wrapper? hwrapper]

/-- Only the last of the standard stages explains the licence. -/
theorem standard_eq_append (isNamespaced : Bool) (targets : Option SelectorSet) :
    ∃ outer, standard isNamespaced targets = outer ++ [.explainLicence] ∧ .explainLicence ∉ outer := by
  refine ⟨(standard isNamespaced targets).dropLast, ?_, ?_⟩
  · cases isNamespaced <;> cases targets <;> rfl
  · cases isNamespaced <;> cases targets <;> simp [standard]

/-- The standard stages are wrappers around a handler whose licence errors are explained. -/
theorem chain_standard (s : Settings) (isNamespaced : Bool) (targets : Option SelectorSet)
    (handler : Handler σ) :
    chain ((standard isNamespaced targets).map (middleware s)) handler =
      chain (((standard isNamespaced targets).filterMap (wrapper? s)).map Wrapper.middleware)
        (withExplanation handler) := by
  obtain ⟨outer, hstages, houter⟩ := standard_eq_append isNamespaced targets
  have hnone : (wrapper? s .explainLicence : Option (Wrapper σ)) = none := rfl
  rw [hstages, List.map_append, chain_append, chain_wrappers s houter, List.filterMap_append,
    List.filterMap_cons_none hnone, List.filterMap_nil, List.append_nil]
  rfl

end Stage

end BlockStorage
