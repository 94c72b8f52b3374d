import BlockStorage.Proofs.Inventory.Operations
import BlockStorage.Run.World

/-!
Exchanges: the calls of a program with their answers.

What a program takes is read off its tree, for whatever answers it may get. What a cluster answers is
read off the cluster. A program that runs at a cluster under a context in which calls may start takes
what the cluster answers, so a fact about all that a program can take is one about all its runs.
-/

namespace BlockStorage

/-- A call with its answer. -/
structure Exchange where
  call : Call
  answer : Except CallFailure call.Answer

/-- Whether the call succeeded. -/
def Exchange.isOk (x : Exchange) : Bool := x.answer.isOk

/-- A map of worlds is no matter to calls and logs: they are the same in the world that it gives. -/
structure World.Carries {σ τ : Type} [Cluster.Callable σ] [Cluster.Callable τ] (f : World σ → World τ) :
    Prop where
  log : ∀ w events, (f w).log events = f (w.log events)
  call : ∀ w ctx c, (f w).call ctx c = ((w.call ctx c).1, f (w.call ctx c).2)

/-- A program runs in a world that such a map gives as it does in the world itself. -/
theorem Program.run_map {σ τ α : Type} [Cluster.Callable σ] [Cluster.Callable τ] {f : World σ → World τ}
    (hf : World.Carries f) (p : Program α) (ctx : Nat) (w : World σ) :
    p.run ctx (f w) = ((p.run ctx w).1, f (p.run ctx w).2) := by
  induction p generalizing w with
  | done result => rfl
  | note event next ih =>
    rw [run, run, hf.log]
    exact ih (w.log [event])
  | call c next ih =>
    rw [run, run, hf.call]
    rcases w.call ctx c with ⟨failure | a, v⟩
    · rfl
    · exact ih a v

namespace Program

/-- A program makes these calls and gets these answers, and ends so. -/
inductive Takes {α : Type} : Program α → List Exchange → Except Failure α → Prop where
  | done (result : Except CommandError α) : Takes (.done result) [] (result.mapError .command)
  | note {event : Log.Event} {next : Program α} {xs : List Exchange} {r : Except Failure α}
      (h : Takes next xs r) : Takes (.note event next) xs r
  | answered {c : Call} {next : c.Answer → Program α} {a : c.Answer} {xs : List Exchange}
      {r : Except Failure α} (h : Takes (next a) xs r) : Takes (.call c next) (⟨c, .ok a⟩ :: xs) r
  | failed {c : Call} {next : c.Answer → Program α} (f : CallFailure) :
      Takes (.call c next) [⟨c, .error f⟩] (.error (.ofCall f))

variable {α β : Type} {p : Program α} {f : α → Program β} {xs : List Exchange}

/-- What a program takes that goes on with another one: the first part alone, if that fails, or what
both parts take. -/
theorem Takes.bind {r : Except Failure β} (h : (p >>= f).Takes xs r) :
    (∃ e, r = .error e ∧ p.Takes xs (.error e)) ∨
      ∃ a ys zs, xs = ys ++ zs ∧ p.Takes ys (.ok a) ∧ (f a).Takes zs r := by
  change (p.andThen f).Takes xs r at h
  induction p generalizing xs with
  | done result =>
    cases result with
    | error e =>
      rw [andThen] at h
      cases h
      exact Or.inl ⟨_, rfl, .done _⟩
    | ok a => exact Or.inr ⟨a, [], xs, rfl, .done _, h⟩
  | note event next ih =>
    rw [andThen] at h
    cases h with
    | note h =>
      rcases ih h with ⟨e, he, hp⟩ | ⟨a, ys, zs, hxs, hp, hf⟩
      · exact Or.inl ⟨e, he, .note hp⟩
      · exact Or.inr ⟨a, ys, zs, hxs, .note hp, hf⟩
  | call c next ih =>
    rw [andThen] at h
    cases h with
    | @answered _ _ b xs _ h =>
      rcases ih b h with ⟨e, he, hp⟩ | ⟨a, ys, zs, rfl, hp, hf⟩
      · exact Or.inl ⟨e, he, .answered hp⟩
      · exact Or.inr ⟨a, _ :: ys, zs, rfl, .answered hp, hf⟩
    | failed f => exact Or.inl ⟨_, rfl, .failed f⟩

/-- All calls of a program succeed, or all but the last one, whose failure ends the program. -/
theorem Takes.ending {r : Except Failure α} (h : p.Takes xs r) :
    (∀ x ∈ xs, x.isOk) ∨
      ∃ ys c f, xs = ys ++ [⟨c, .error f⟩] ∧ (∀ x ∈ ys, x.isOk) ∧ r = .error (.ofCall f) := by
  induction h with
  | done result => exact Or.inl (by simp)
  | note _ ih => exact ih
  | @answered c next a xs r _ ih =>
    rcases ih with hok | ⟨ys, c', f, rfl, hok, hr⟩
    · refine Or.inl ?_
      intro x hx
      rcases List.mem_cons.mp hx with rfl | hx
      · rfl
      · exact hok x hx
    · refine Or.inr ⟨⟨c, .ok a⟩ :: ys, c', f, rfl, ?_, hr⟩
      intro x hx
      rcases List.mem_cons.mp hx with rfl | hx
      · rfl
      · exact hok x hx
  | failed f => exact Or.inr ⟨[], _, f, rfl, by simp, rfl⟩

theorem Takes.isOk_of_ok {a : α} (h : p.Takes xs (.ok a)) : ∀ x ∈ xs, x.isOk := by
  rcases h.ending with hok | ⟨_, _, _, _, _, hr⟩
  · exact hok
  · cases hr

/-- A program whose calls do not all succeed ends with the failure of a call. -/
theorem Takes.ofCall_of_failed {r : Except Failure α} (h : p.Takes xs r)
    (hfailed : ¬ ∀ x ∈ xs, x.isOk) : ∃ f, r = .error (.ofCall f) := by
  rcases h.ending with hok | ⟨_, _, f, _, _, hr⟩
  · exact absurd hok hfailed
  · exact ⟨f, hr⟩

end Program

namespace Cluster

/-- A cluster answers calls one after the other, from one state to another. -/
inductive Answers (now : Timestamp) : Cluster → List Exchange → Cluster → Prop where
  | nil (cluster : Cluster) : Answers now cluster [] cluster
  | cons {cluster after : Cluster} {c : Call} {xs : List Exchange}
      (h : Answers now (cluster.perform now c).2 xs after) :
      Answers now cluster (⟨c, (cluster.perform now c).1⟩ :: xs) after

variable {now : Timestamp} {cluster middle after : Cluster} {xs ys : List Exchange}

theorem Answers.single (now : Timestamp) (cluster : Cluster) (c : Call) :
    Answers now cluster [⟨c, (cluster.perform now c).1⟩] (cluster.perform now c).2 :=
  .cons (.nil _)

theorem Answers.append (h : Answers now cluster xs middle) (h' : Answers now middle ys after) :
    Answers now cluster (xs ++ ys) after := by
  induction h with
  | nil => exact h'
  | cons _ ih => exact .cons (ih h')

theorem perform_calls (cluster : Cluster) (now : Timestamp) (c : Call) :
    (cluster.perform now c).2.calls = cluster.calls ++ [c.method] := by
  rw [perform]
  split <;> rfl

/-- A call that only reads leaves a cluster as it was, but for the record of calls. -/
theorem perform_reads (cluster : Cluster) (now : Timestamp) {c : Call}
    (h : c.method.isMutating = false) :
    (cluster.perform now c).2 = { cluster with calls := cluster.calls ++ [c.method] } := by
  have hparams : c.params? = none := by cases c <;> first | rfl | cases h
  have hrecord : cluster.record c = { cluster with calls := cluster.calls ++ [c.method] } := by
    rw [record, hparams, Option.toList_none, List.append_nil]
  have hinventory := cluster.inventory.perform_reads now h
  rw [perform, hrecord]
  split
  · rfl
  · simp only [hinventory]

/-- The calls that a cluster answers are on its record afterwards, in their order. -/
theorem Answers.calls (h : Answers now cluster xs after) :
    after.calls = cluster.calls ++ xs.map fun x => x.call.method := by
  induction h with
  | nil => rw [List.map_nil, List.append_nil]
  | cons _ ih => rw [ih, perform_calls, List.append_assoc, List.singleton_append, List.map_cons]

theorem Answers.of_reads (h : Answers now cluster xs after)
    (hreads : ∀ x ∈ xs, x.call.method.isMutating = false) :
    after = { cluster with calls := after.calls } := by
  induction h with
  | nil => rfl
  | @cons cluster after c xs _ ih =>
    have hrest := ih fun x hx => hreads x (List.mem_cons_of_mem _ hx)
    rw [perform_reads cluster now (hreads _ List.mem_cons_self)] at hrest
    exact hrest

/-- Every answer is that of some state on the way. -/
theorem Answers.answer_of_mem (h : Answers now cluster xs after) {x : Exchange} (hx : x ∈ xs) :
    ∃ state : Cluster, x.answer = (state.perform now x.call).1 := by
  induction h with
  | nil => cases hx
  | @cons cluster after c xs _ ih =>
    rcases List.mem_cons.mp hx with rfl | hx
    · exact ⟨cluster, rfl⟩
    · exact ih hx

end Cluster

/-! ### Runs -/

section

variable {ctx : Nat}

/-- A call in a world with a cluster in memory: it is carried out if it may start. -/
theorem World.call_live (w : World Cluster) (h : w.contexts.mayStart ctx = .ok ()) (c : Call) :
    w.call ctx c =
      ((w.cluster.perform w.now c).1, { w with cluster := (w.cluster.perform w.now c).2 }) := by
  simp only [World.call, Cluster.Callable.answer, Cluster.callUnder, h, List.append_nil]

theorem World.call_dead (w : World Cluster) {e : ClientError}
    (h : w.contexts.mayStart ctx = .error e) (c : Call) :
    w.call ctx c = (.error (.client e), w) := by
  simp only [World.call, Cluster.Callable.answer, Cluster.callUnder, h, List.append_nil]

/-- A program that runs where calls may start takes what the cluster answers, and changes nothing else
but the log. -/
theorem Program.run_takes {α : Type} (p : Program α) (w : World Cluster)
    (h : w.contexts.mayStart ctx = .ok ()) :
    ∃ xs, p.Takes xs (p.run ctx w).1 ∧
      Cluster.Answers w.now w.cluster xs (p.run ctx w).2.cluster ∧
      (p.run ctx w).2.now = w.now ∧ (p.run ctx w).2.contexts = w.contexts ∧
      (p.run ctx w).2.sink = w.sink := by
  induction p generalizing w with
  | done result => exact ⟨[], .done result, .nil _, rfl, rfl, rfl⟩
  | note event next ih =>
    obtain ⟨xs, htakes, hanswers, hrest⟩ := ih (w.log [event]) h
    exact ⟨xs, .note htakes, hanswers, hrest⟩
  | call c next ih =>
    rw [Program.run, w.call_live h c]
    have hsingle := Cluster.Answers.single w.now w.cluster c
    cases hanswer : (w.cluster.perform w.now c).1 with
    | ok a =>
      obtain ⟨xs, htakes, hanswers, hrest⟩ :=
        ih a { w with cluster := (w.cluster.perform w.now c).2 } h
      rw [hanswer] at hsingle
      exact ⟨⟨c, .ok a⟩ :: xs, .answered htakes, hsingle.append hanswers, hrest⟩
    | error f =>
      rw [hanswer] at hsingle
      exact ⟨[⟨c, .error f⟩], .failed f, hsingle, rfl, rfl, rfl⟩

end

end BlockStorage
