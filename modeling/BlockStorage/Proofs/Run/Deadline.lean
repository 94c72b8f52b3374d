import BlockStorage.Proofs.Command.Handler
import BlockStorage.Proofs.Duration.Literal
import BlockStorage.Proofs.Rest.Deadline
import BlockStorage.Proofs.Settings.Layers

/-!
The deadline of a run: how much time a handler gets, and the context that it gets for that.

The time is the timeout that is set, or else a fallback, and never no time at all. A timeout that ends beyond
all points in time breaks the run off before the handler starts. With any other one the handler runs under a
child of the context of the run, which is cancelled when the handler is done, with all that was derived from
it, whatever the handler did.
-/

namespace BlockStorage

/-! ### The timeout -/

namespace Duration

/-- The number of a literal. -/
def number? (literal : String) : Option UInt64 :=
  Text.wordOfText? ((Text.trim literal.toList).takeWhile Text.isDigit)

/-- The unit of a literal. -/
def unitOf (literal : String) : List Char :=
  Text.trim ((Text.trim literal.toList).dropWhile Text.isDigit)

/-- The nanoseconds of a number of units, without a limit. -/
def nanosOf (n : Nat) : List Char → Nat
  | ['m', 's'] => n * 1000000
  | ['m'] => n * 60 * 1000000000
  | ['h'] => n * 3600 * 1000000000
  | _ => n * 1000000000

/-- Products stop at the largest word, and so many seconds are beyond the end of the clock at any time. -/
theorem admits_saturatingMul_iff (a b now : Nat) :
    Contexts.admits (ofSecs (saturatingMul a b)) now = true ↔
      Contexts.admits ⟨a * b * 1000000000⟩ now = true := by
  simp only [Contexts.admits_iff, Contexts.ending, Contexts.clockEnd, ofSecs, saturatingMul]
  omega

/-- A timeout can be applied exactly if its units can be, however many they are. -/
theorem admits_ofUnit?_iff {n : Nat} {unit : List Char} {d : Duration} (h : ofUnit? n unit = some d) (now : Nat) :
    Contexts.admits d now = true ↔ Contexts.admits ⟨nanosOf n unit⟩ now = true := by
  unfold ofUnit? at h
  split at h <;> cases h
  · rfl
  · rfl
  · rfl
  · exact admits_saturatingMul_iff n 60 now
  · exact admits_saturatingMul_iff n 3600 now

/-- A literal says a timeout that can be applied exactly if its number of units can be. -/
theorem exists_number_of_parse? {literal : String} {d : Duration} (h : parse? literal = some d) :
    ∃ n ∈ number? literal, ∀ now,
      Contexts.admits d now = true ↔ Contexts.admits ⟨nanosOf n.toNat (unitOf literal)⟩ now = true := by
  obtain ⟨n, hn, hunit⟩ := Option.bind_eq_some_iff.mp h
  exact ⟨n, hn, admits_ofUnit?_iff hunit⟩

end Duration

namespace Settings

/-- The timeout that is set: what its literal says, unless that is no time at all. -/
def timeout? (s : Settings) : Option Duration :=
  ((s.options.timeout.or s.file.timeout).bind Duration.parse?).filter (· ≠ .zero)

theorem commandTimeout_eq (s : Settings) :
    s.commandTimeout = match s.options.timeout.or s.file.timeout with
      | none => .ok defaultTimeout
      | some literal => timeoutOf literal := by
  rw [commandTimeout]
  cases s.options.timeout.or s.file.timeout with
  | none => rfl
  | some literal =>
    simp only [timeoutOf]
    cases Duration.parse? literal <;> rfl

theorem parse?_of_commandTimeout {s : Settings} {d : Duration} {literal : String}
    (h : s.commandTimeout = .ok d) (hliteral : literal ∈ s.options.timeout.or s.file.timeout) :
    Duration.parse? literal = some d := by
  rw [commandTimeout_eq, Option.mem_def.mp hliteral] at h
  simp only [timeoutOf] at h
  split at h
  · split at h
    · cases h
    · obtain rfl := Except.ok.inj h
      assumption
  · cases h

/-- A run has the time that is set, and 15 seconds if none is. -/
theorem effectiveTimeout_eq (s : Settings) :
    s.effectiveTimeout Stage.defaultFallback = s.timeout?.getD (.ofSecs 15) := by
  rw [effectiveTimeout, commandTimeout_eq, timeout?]
  cases s.options.timeout.or s.file.timeout with
  | none => rfl
  | some literal =>
    simp only [timeoutOf, Option.bind_some]
    cases Duration.parse? literal with
    | none => rfl
    | some d =>
      by_cases hd : d = .zero
      · simp [hd, Stage.defaultFallback, Option.filter]
      · simp [hd, Option.filter]

theorem ne_zero_of_mem_timeout? {s : Settings} {d : Duration} (h : d ∈ s.timeout?) : d ≠ .zero := by
  simpa using (Option.mem_filter_iff.mp h).2

/-- A run has some time. -/
theorem effectiveTimeout_ne_zero (s : Settings) : s.effectiveTimeout Stage.defaultFallback ≠ .zero := by
  rw [effectiveTimeout_eq]
  cases h : s.timeout? with
  | none => decide
  | some d => exact ne_zero_of_mem_timeout? h

end Settings

/-! ### The context -/

namespace World

variable {σ : Type}

/-- The world in which a handler with a timeout starts. -/
def timed (w : World σ) (ctx : Nat) (timeout : Duration) : World σ :=
  { w with contexts := (w.contexts.derive ctx timeout).1 }

/-- The world after a context was cancelled. -/
def cancel (w : World σ) (id : Nat) : World σ := { w with contexts := w.contexts.cancel id }

end World

namespace Stage

variable {σ : Type} {timeout : Duration}

theorem underDeadline_of_admits {w : World σ} (h : Contexts.admits timeout w.contexts.now = true)
    (next : Handler σ) (ctx : Nat) (args : List String) :
    let child := w.contexts.contexts.length
    let inner := next child args (w.timed ctx timeout)
    underDeadline timeout next ctx args w = (inner.1, inner.2.cancel child) := by
  simp only [underDeadline, h, if_true, Contexts.derive_snd]
  rfl

theorem underDeadline_of_not_admits {w : World σ} (h : ¬ Contexts.admits timeout w.contexts.now = true)
    (next : Handler σ) (ctx : Nat) (args : List String) :
    underDeadline timeout next ctx args w = (.error .brokenOff, w) := by
  rw [underDeadline, if_neg h]

section

variable [Cluster.Callable σ] {s : Settings} {fallback : Duration} {w : World σ}

/-- A run with a timeout has a child of its context for its handler, which is cancelled afterwards. -/
theorem deadline_of_admits (h : Contexts.admits (s.effectiveTimeout fallback) w.contexts.now = true)
    (next : Handler σ) (ctx : Nat) (args : List String) :
    let child := w.contexts.contexts.length
    let inner := next child args ((w.log (deadlineEvents s fallback)).timed ctx (s.effectiveTimeout fallback))
    middleware s (.deadline fallback) next ctx args w = (inner.1, inner.2.cancel child) :=
  underDeadline_of_admits (w := w.log (deadlineEvents s fallback)) h next ctx args

/-- A run with a timeout that cannot be applied breaks off. -/
theorem deadline_of_not_admits (h : ¬ Contexts.admits (s.effectiveTimeout fallback) w.contexts.now = true)
    (next : Handler σ) (ctx : Nat) (args : List String) :
    middleware s (.deadline fallback) next ctx args w =
      (.error .brokenOff, w.log (deadlineEvents s fallback)) :=
  underDeadline_of_not_admits (w := w.log (deadlineEvents s fallback)) h next ctx args

end

/-- An accepted timeout is applied where the clock of the system can still read its end: the handler runs under its
child of the context of the run, and that is cancelled afterwards. Where the end is beyond the clock, the run breaks
off before the handler, whatever deadlines there are already. The clock can read the end of what a literal says
exactly if it can read the end of its number of units, for a product that stops at the largest word ends beyond the
clock at any time. Milliseconds are applied as long as the clock has 2^64 of them left, and without a literal the
timeout is 15 seconds. -/
theorem deadline_applied_or_broken_off [Cluster.Callable σ] (s : Settings) (d : Duration)
    (h : s.commandTimeout = .ok d) :
    (∀ (fallback : Duration) (next : Handler σ) (ctx : Nat) (args : List String) (w : World σ),
      let child := w.contexts.contexts.length
      let logged := w.log (deadlineEvents s fallback)
      let inner := next child args (logged.timed ctx d)
      let outer := middleware s (.deadline fallback) next ctx args w
      let ending := Contexts.ending d w.contexts.now
      (ending < Contexts.clockEnd → outer = (inner.1, inner.2.cancel child)) ∧
        (Contexts.clockEnd ≤ ending → outer = (.error .brokenOff, logged))) ∧
    (s.options.timeout.or s.file.timeout = none → d = .ofSecs 15) ∧
    ∀ literal ∈ s.options.timeout.or s.file.timeout, ∃ n ∈ Duration.number? literal,
      let units : Duration := ⟨Duration.nanosOf n.toNat (Duration.unitOf literal)⟩
      (∀ now, Contexts.ending d now < Contexts.clockEnd ↔ Contexts.ending units now < Contexts.clockEnd) ∧
      (Duration.unitOf literal = ['m', 's'] → ∀ now, Contexts.ending (.ofMillis (2 ^ 64)) now ≤ Contexts.clockEnd →
        Contexts.ending d now < Contexts.clockEnd) := by
  have heffective (fallback : Duration) : s.effectiveTimeout fallback = d := by
    rw [Settings.effectiveTimeout, h]
  refine ⟨fun fallback next ctx args w => ⟨fun hlt => ?_, fun hle => ?_⟩, fun hnone => ?_,
    fun literal hliteral => ?_⟩
  · rw [← heffective fallback] at hlt ⊢
    exact deadline_of_admits (Contexts.admits_iff.mpr hlt) next ctx args
  · rw [← heffective fallback, ← Nat.not_lt, ← Contexts.admits_iff] at hle
    exact deadline_of_not_admits hle next ctx args
  · rw [Settings.commandTimeout_eq, hnone] at h
    exact (Except.ok.inj h).symm
  · obtain ⟨n, hn, hiff⟩ :=
      Duration.exists_number_of_parse? (Settings.parse?_of_commandTimeout h hliteral)
    have hends (now : Nat) : Contexts.ending d now < Contexts.clockEnd ↔
        Contexts.ending ⟨Duration.nanosOf n.toNat (Duration.unitOf literal)⟩ now < Contexts.clockEnd := by
      rw [← Contexts.admits_iff, ← Contexts.admits_iff]
      exact hiff now
    refine ⟨n, hn, hends, fun hunit now hleft => (hends now).mpr ?_⟩
    have hword : n.toNat < 2 ^ 64 := n.toNat_lt
    simp only [Contexts.ending, Duration.ofMillis] at hleft
    simp only [hunit, Duration.nanosOf, Contexts.ending]
    omega

/-- Settings with a literal for the timeout. -/
def patient (literal : String) : Settings :=
  { Command.knownUser with options := { Command.knownUser.options with timeout := some literal } }

/-- The world with one volume at a time on the clock of contexts. -/
def atTime (t : Nat) : World Cluster :=
  { Command.oneVolumeWorld with contexts := Contexts.start.advanceTo t }

/-- Two hours can be applied. The longest timeout that can be applied at the start of the clock cannot a day later.
So many hours that their seconds stop at the largest word are accepted as well, but break the run off. -/
theorem deadline_applied_or_broken_off_hours :
    let outcome (literal : String) (t : Nat) := middleware (patient literal) (.deadline defaultFallback)
      (fun _ _ w => (.ok (), w)) 0 [] (atTime t)
    (patient "2h").commandTimeout = .ok (.ofSecs 7200) ∧ (outcome "2h" 0).1 = .ok () ∧
      (patient "9223372036854775806").commandTimeout = .ok (.ofSecs 9223372036854775806) ∧
      (outcome "9223372036854775806" 0).1 = .ok () ∧
      (outcome "9223372036854775806" 86400000000000).1 = .error .brokenOff ∧
      (patient "5124095576030432h").commandTimeout = .ok (.ofSecs 18446744073709551615) ∧
      (outcome "5124095576030432h" 0).1 = .error .brokenOff := by
  intro outcome
  have hshort : (patient "2h").commandTimeout = .ok (.ofSecs 7200) := by decide +kernel
  have hlast : (patient "9223372036854775806").commandTimeout = .ok (.ofSecs 9223372036854775806) := by
    decide +kernel
  have hlong : (patient "5124095576030432h").commandTimeout = .ok (.ofSecs 18446744073709551615) := by
    decide +kernel
  obtain ⟨happlied, -⟩ := deadline_applied_or_broken_off (σ := Cluster) _ _ hshort
  obtain ⟨hlater, -⟩ := deadline_applied_or_broken_off (σ := Cluster) _ _ hlast
  obtain ⟨hbroken, -⟩ := deadline_applied_or_broken_off (σ := Cluster) _ _ hlong
  refine ⟨hshort, ?_, hlast, ?_, ?_, hlong, ?_⟩
  · exact congrArg Prod.fst ((happlied defaultFallback _ 0 [] (atTime 0)).1 (by decide))
  · exact congrArg Prod.fst ((hlater defaultFallback _ 0 [] (atTime 0)).1 (by decide))
  · exact congrArg Prod.fst ((hlater defaultFallback _ 0 [] (atTime 86400000000000)).2 (by decide))
  · exact congrArg Prod.fst ((hbroken defaultFallback _ 0 [] (atTime 0)).2 (by decide))

/-- There are timeouts that are accepted but break the run off, so that not every handler runs whose timeout is
accepted; and that even where the run was to end sooner, by the deadline of its context. -/
theorem accepted_timeout_breaks_off :
    (¬∀ (s : Settings) (d : Duration), s.commandTimeout = .ok d →
      ∀ (next : Handler Cluster) (ctx : Nat) (args : List String) (w : World Cluster), ∃ child v,
        (middleware s (.deadline defaultFallback) next ctx args w).1 = (next child args v).1) ∧
    (Command.run (patient "18446744073709551615") (.getNodes ⟨[], []⟩) 1
      { Command.oneVolumeWorld with contexts := Rest.Client.fiveSeconds }).1 = .error .brokenOff := by
  refine ⟨fun h => ?_, by decide +kernel⟩
  obtain ⟨child, v, hrun⟩ := h (patient "18446744073709551615") (.ofSecs 18446744073709551615)
    (by decide +kernel) (fun _ _ w => (.ok (), w)) 0 [] Command.oneVolumeWorld
  have hbroken : (middleware (patient "18446744073709551615") (.deadline defaultFallback)
      (fun _ _ w => (.ok (), w)) 0 [] Command.oneVolumeWorld).1 = .error .brokenOff := by decide +kernel
  cases hbroken.symm.trans hrun

/-- The deadline stage bounds its handler and lets go of it. With a timeout that can be applied, the handler
runs once, under a child of the context of the run. The deadline of the child is the earlier one of that of the
run and the end of the timeout, which is the one that is set or 15 seconds, and never no time. The result is
that of the handler, whatever it is. If the handler did things to the contexts, all that stands below the child
is cancelled at the end, and everything else is as the handler left it, first of all the context of the run. -/
theorem deadline_bounds_and_releases [Cluster.Callable σ] (s : Settings) (history : List Contexts.Event)
    (t : Nat) (ctx : Nat) (w : World σ)
    (hw : (Contexts.start.afterAll history).advanceTo t = w.contexts)
    (hctx : ctx < w.contexts.contexts.length)
    (hadmits : Contexts.admits (s.effectiveTimeout defaultFallback) w.contexts.now = true) :
    let timeout := s.effectiveTimeout defaultFallback
    let child := w.contexts.contexts.length
    let v := (w.log (deadlineEvents s defaultFallback)).timed ctx timeout
    (timeout = s.timeout?.getD (.ofSecs 15) ∧ timeout ≠ .zero) ∧
    v.contexts.get child =
      ⟨some (Context.earlier (w.contexts.get ctx).deadline (w.contexts.now + timeout.nanos)),
        (w.contexts.get ctx).cancelled, []⟩ ∧
    ∀ (next : Handler σ) (args : List String),
      let inner := next child args v
      let outer := middleware s (.deadline defaultFallback) next ctx args w
      outer = (inner.1, inner.2.cancel child) ∧
      ∀ (meanwhile : List Contexts.Event) (t' : Nat),
        (v.contexts.afterAll meanwhile).advanceTo t' = inner.2.contexts →
        let forest := Contexts.origins (history ++ ⟨w.contexts.now, .derive ctx timeout⟩ :: meanwhile)
        Contexts.IsParent forest ctx child ∧
        (∀ k, Contexts.Above forest child k → (outer.2.contexts.get k).cancelled = true) ∧
        (∀ k, ¬Contexts.Above forest child k → outer.2.contexts.get k = inner.2.contexts.get k) ∧
        ¬Contexts.Above forest child ctx := by
  intro timeout child v
  refine ⟨⟨s.effectiveTimeout_eq, s.effectiveTimeout_ne_zero⟩, ?_, fun next args => ?_⟩
  · have hget := w.contexts.get_derive ctx timeout
    rwa [Contexts.derive_snd] at hget
  intro inner outer
  have houter : outer = (inner.1, inner.2.cancel child) :=
    deadline_of_admits hadmits next ctx args
  refine ⟨houter, fun meanwhile t' hmeanwhile => ?_⟩
  intro forest
  -- what the handler left is what a longer history leaves
  let derived : Contexts.Event := ⟨w.contexts.now, .derive ctx timeout⟩
  have hv : v.contexts = Contexts.start.afterAll (history ++ [derived]) :=
    Contexts.derive_of_history hw ctx timeout
  have hhistory : history ++ derived :: meanwhile = (history ++ [derived]) ++ meanwhile := by
    rw [List.append_assoc, List.singleton_append]
  have hleft : (Contexts.start.afterAll (history ++ derived :: meanwhile)).advanceTo t' =
      inner.2.contexts := by
    rw [hhistory, Contexts.afterAll_append, ← hv, hmeanwhile]
  have hlength : child = (Contexts.start.afterAll history).contexts.length :=
    congrArg (fun cs => cs.contexts.length) hw.symm
  have hparent : Contexts.IsParent forest ctx child := by
    rw [hlength]
    exact Contexts.isParent_of_derive (hlength ▸ hctx) _ timeout meanwhile
  have htracks : Contexts.Tracks forest [] inner.2.contexts.contexts :=
    hleft ▸ Contexts.Tracks.of_history _
  have hchild : child < inner.2.contexts.contexts.length := htracks.length ▸ hparent.lt_length
  have hcancel := Contexts.get_cancel_of_history hleft hchild
  rw [houter]
  exact ⟨hparent, fun k => (hcancel k).1, fun k => (hcancel k).2,
    fun habove => absurd (htracks.le_of_above habove) (Nat.not_le.mpr hctx)⟩

/-- A handler that derives a context, leaves it behind and fails. -/
def derelict : Handler Cluster := fun ctx _ w => (.error .brokenOff, w.timed ctx (.ofSecs 1))

/-- A world in which a context has less than a second to go. -/
def hurriedWorld : World Cluster :=
  { Command.oneVolumeWorld with
    contexts := (Contexts.start.afterAll Contexts.twoTimeouts).advanceTo 200000000 }

/-- The child of a context with less than a second to go has no more time, and what the handler left behind is
cancelled with the child, but not the context of the run. -/
theorem deadline_bounds_and_releases_hurried :
    let outer := middleware Command.knownUser (.deadline defaultFallback) derelict 2 [] hurriedWorld
    ((hurriedWorld.timed 2 (.ofSecs 15)).contexts.get 3).deadline = some 1000000000 ∧
      outer.1 = .error .brokenOff ∧ (outer.2.contexts.get 3).cancelled = true ∧
      (outer.2.contexts.get 4).cancelled = true ∧
      outer.2.contexts.get 2 = ((hurriedWorld.timed 2 (.ofSecs 15)).contexts.get 2) := by
  intro outer
  obtain ⟨-, hchild, hrun⟩ := deadline_bounds_and_releases Command.knownUser Contexts.twoTimeouts 200000000 2
    hurriedWorld rfl (by decide) (by decide)
  obtain ⟨houter, hreleases⟩ := hrun derelict []
  obtain ⟨-, hbelow, hothers, hparent⟩ := hreleases [⟨0, .derive 3 (.ofSecs 1)⟩] 0 (by decide)
  refine ⟨congrArg Context.deadline hchild, congrArg Prod.fst houter, hbelow 3 .refl,
    hbelow 4 (.single ⟨_, rfl, rfl⟩), ?_⟩
  exact (hothers 2 hparent).trans (by decide)

end Stage

end BlockStorage
