import BlockStorage.Proofs.Rest.Transmission
import BlockStorage.Proofs.Run.Observation

/-!
The longest wait of a change that may be done later, beside the deadline of the context that it is asked for
under.

The wait is the timeout of the run, whatever time is left. The deadline is that of the context which was derived
with this timeout, so there is never more time left than the wait. There is as much only while no time has
passed, and if the context of the run does not end earlier.
-/

namespace BlockStorage

namespace Occasion

/-- The longest wait that a call asks for. -/
def wait? (o : Occasion) : Option Duration := o.call.params?.bind RequestParams.asyncMax

/-- The time left before the deadline of the context that a call is bound to. -/
def remaining? (o : Occasion) : Option Duration := (o.contexts.get o.ctx).remaining o.contexts.now

/-- The wait that a call asks for is over by the deadline of its context. -/
def WaitFits (o : Occasion) : Prop := ∀ wait ∈ o.wait?, ∀ left ∈ o.remaining?, wait.nanos ≤ left.nanos

instance (o : Occasion) : Decidable o.WaitFits :=
  inferInstanceAs (Decidable (∀ wait ∈ o.wait?, ∀ left ∈ o.remaining?, wait.nanos ≤ left.nanos))

end Occasion

/-! ### The time that is left -/

section

variable (may : Option Nat) {start now timeout : Nat}

/-- A context that is derived with a timeout never has more time. -/
theorem Context.earlier_sub_le (hnow : start ≤ now) : earlier may (start + timeout) - now ≤ timeout := by
  cases may with
  | none =>
    rw [earlier]
    omega
  | some d =>
    rw [earlier]
    omega

/-- It has as much as long as no time has passed, if the context that it was derived from had as much. -/
theorem Context.le_earlier_sub_iff (hnow : start ≤ now) (htimeout : 0 < timeout) :
    timeout ≤ earlier may (start + timeout) - now ↔ now = start ∧ ∀ d ∈ may, start + timeout ≤ d := by
  cases may with
  | none =>
    rw [earlier]
    simp only [Option.not_mem_none, false_implies, implies_true, and_true]
    omega
  | some d =>
    rw [earlier]
    simp only [Option.mem_some_iff, forall_eq']
    omega

end

/-- Calls let time pass at most, and leave the deadlines as they are. -/
def Cluster.KeepsDeadlines (σ : Type) [Cluster.Callable σ] : Prop :=
  ∀ now cs ctx (cluster : σ) c,
    let after := (Cluster.Callable.answer now cs ctx cluster c).contexts
    cs.now ≤ after.now ∧ ∀ id, (after.get id).deadline = (cs.get id).deadline

theorem Cluster.keepsDeadlines : Cluster.KeepsDeadlines Cluster := fun _ _ _ _ _ => ⟨le_rfl, fun _ => rfl⟩

theorem Rest.Client.keepsDeadlines (ν : Type) [Rest.Network ν] : Cluster.KeepsDeadlines (Rest.Client ν) :=
  fun _ _ _ _ _ => ⟨Nat.le_max_left _ _, fun _ => rfl⟩

namespace Command

variable {s : Settings} {c : Command} {plan : Plan} {k : Call}

/-- The program of a command makes only calls that the command may make. -/
theorem asks_of_plan (hplan : c.plan s = .ok plan) (hcheck : plan.check = .ok ()) :
    plan.body.Asks (c.MayCall s) := by
  refine Program.asks_of_takes fun xs r htakes x hx => ?_
  obtain ⟨⟨ph, rfl, hfits⟩, -⟩ := (planned_of_plan hplan).phased hcheck xs r htakes
  exact mayCall_of_fits hfits hx

/-- A call that changes something is the change of the command. -/
theorem MayCall.changes (h : c.MayCall s k) (hk : k.method.isMutating = true) : c.Changes s k := by
  obtain hreading | ⟨credentials, -, rfl⟩ | hchanges := h
  · simp [Call.isReading, hk] at hreading
  · cases hk
  · exact hchanges

theorem Changes.asyncMax (h : c.Changes s k) (hasync : c.isAsync = true) :
    k.params?.bind RequestParams.asyncMax = some (s.effectiveTimeout Stage.defaultFallback) := by
  rcases h.params with ⟨name, labels, rfl, -, hnot⟩ | hparams
  · rw [hasync] at hnot
    cases hnot
  · rw [hparams, Option.bind_some, RequestParams.asyncMax_ofFlags, hasync, if_pos rfl]

/-- The wait of a change is the timeout of the run. What is left before the deadline of the context that the
change is bound to is the time to the end of that timeout, or to an earlier deadline of the context of the run.
So it is never more than the wait, and as much only if no time has passed since the context was derived and the
context of the run leaves the whole timeout. -/
theorem wait_against_deadline {σ : Type} [Cluster.Callable σ] (hσ : Cluster.KeepsDeadlines σ) (s : Settings)
    (c : Command) (hasync : c.isAsync = true) (ctx : Nat) (w : World σ) :
    let timeout := s.effectiveTimeout Stage.defaultFallback
    ∀ o ∈ c.occasions s ctx w, o.call.method.isMutating = true →
      o.wait? = some timeout ∧
      ∃ left, o.remaining? = some left ∧
        left.nanos = Context.earlier (w.contexts.get ctx).deadline (w.contexts.now + timeout.nanos) -
          o.contexts.now ∧
        left.nanos ≤ timeout.nanos ∧
        (timeout.nanos ≤ left.nanos ↔ o.contexts.now = w.contexts.now ∧
          ∀ d ∈ (w.contexts.get ctx).deadline, w.contexts.now + timeout.nanos ≤ d) := by
  intro timeout o ho hmutating
  let child := w.contexts.contexts.length
  let limit := Context.earlier (w.contexts.get ctx).deadline (w.contexts.now + timeout.nanos)
  -- calls keep the deadline of the child, and do not turn the clock back
  let holds (cs : Contexts) : Prop := w.contexts.now ≤ cs.now ∧ (cs.get child).deadline = some limit
  have hkeeps : Cluster.Keeps σ holds := by
    rintro now cs id cluster k ⟨hnow, hdeadline⟩
    obtain ⟨hlater, hsame⟩ := hσ now cs id cluster k
    exact ⟨hnow.trans hlater, (hsame child).trans hdeadline⟩
  have hstart : holds (w.contexts.derive ctx timeout).1 := by
    have hget := w.contexts.get_derive ctx timeout
    rw [Contexts.derive_snd] at hget
    exact ⟨(w.contexts.derive_now ctx timeout).ge, congrArg Context.deadline hget⟩
  obtain ⟨hctx, hcalls, hnow, hdeadline⟩ :=
    occasions_of_run hkeeps (fun plan hplan hcheck => asks_of_plan hplan hcheck)
      (fun credentials hcredentials => .inr (.inl ⟨credentials, hcredentials, rfl⟩)) (.inl rfl) hstart ho
  have hleft : o.remaining? = some ⟨limit - o.contexts.now⟩ := by
    rw [Occasion.remaining?, Context.remaining, hctx, hdeadline, Option.map_some]
  have hpos : 0 < timeout.nanos := Nat.pos_of_ne_zero fun hzero =>
    s.effectiveTimeout_ne_zero (congrArg Duration.mk hzero)
  exact ⟨(hcalls.changes hmutating).asyncMax hasync, _, hleft, rfl, Context.earlier_sub_le _ hnow,
    Context.le_earlier_sub_iff _ hnow hpos⟩

/-- A change that starts at once, without a deadline but its own, may wait as long as there is time. -/
theorem wait_against_deadline_at_once :
    ∃ o ∈ (resizeVolume "data" "2048" none true).occasions knownUser 0 oneVolumeWorld,
      o.call.method.isMutating = true ∧ o.wait? = some (.ofSecs 15) ∧ o.WaitFits := by
  obtain ⟨o, ho, hmutating, hnow⟩ : ∃ o ∈ (resizeVolume "data" "2048" none true).occasions knownUser 0
      oneVolumeWorld, o.call.method.isMutating = true ∧ o.contexts.now = 0 := by decide +kernel
  obtain ⟨hwait, left, hleft, -, -, hiff⟩ := wait_against_deadline Cluster.keepsDeadlines knownUser
    (.resizeVolume "data" "2048" none true) rfl 0 oneVolumeWorld o ho hmutating
  refine ⟨o, ho, hmutating, hwait, fun wait hw l hl => ?_⟩
  obtain rfl := Option.mem_unique hwait hw
  obtain rfl := Option.mem_unique hleft hl
  exact hiff.mpr ⟨hnow, nofun⟩

/-- A client whose endpoint takes a second for each reply. -/
def slowClient : Rest.Client Rest.Client.OneReply :=
  ⟨["http://node-1:5705"], Rest.Client.defaultUserAgent, none,
    ⟨⟨202, some "Bearer token", .text "\x7b\"userId\":\"user-1\",\"username\":\"admin\"\x7d",
      .ofSecs 1, .zero⟩⟩⟩

/-- The wait outlasts the deadline of a context of the run that has five seconds to go, and also that of a run
that has spent a second on its session already. -/
theorem wait_beyond_deadline :
    (¬∀ (s : Settings) (c : Command) (ctx : Nat) (w : World Cluster), c.isAsync = true →
      ∀ o ∈ c.occasions s ctx w, o.WaitFits) ∧
    ¬∀ (s : Settings) (c : Command) (w : World (Rest.Client Rest.Client.OneReply)), c.isAsync = true →
      w.contexts = .start → ∀ o ∈ c.occasions s 0 w, o.WaitFits := by
  constructor
  · intro h
    have hfits := h knownUser (.resizeVolume "data" "2048" none true) 1
      { oneVolumeWorld with contexts := Rest.Client.fiveSeconds } rfl
    revert hfits
    decide +kernel
  · intro h
    have hfits := h settingsWithIds (.detach "vol-2" none true)
      ⟨.epoch, .start, slowClient, .withLimit none, []⟩ rfl rfl
    revert hfits
    decide +kernel

end Command

end BlockStorage
