import BlockStorage.Proofs.Output.Sink
import BlockStorage.Proofs.Run.Deadline

/-!
Output comes last.

A run does not look at its output before it writes, and what it writes is decided by then. So there is one
ending of a run for all sinks: a failure, or pieces that are still to be written, with the cluster, the contexts
and the log as they are left. A run whose output does not fit has done what it was to do, and fails as output
does.
-/

namespace BlockStorage

open Output

variable {σ : Type}

/-- The world with another sink. -/
def World.withSink (w : World σ) (sink : Sink) : World σ := { w with sink := sink }

/-- How a run ends at a writer that has failed, or has pieces left to write. -/
def Writer.finish (W : Writer) (st : W.State) : Except Failure (List String) → Except Failure Unit × W.State
  | .error failure => (.error failure, st)
  | .ok pieces => ((W.writeAll st pieces).1.mapError .command, (W.writeAll st pieces).2)

/-- How a run ends at a sink, with everything else as in a world. -/
def World.finish (w : World σ) (shown : Except Failure (List String)) (sink : Sink) : Outcome σ Unit :=
  ((Writer.sink.finish sink shown).1, w.withSink (Writer.sink.finish sink shown).2)

/-- Whatever the sink is, a handler comes to the same before it writes. -/
def Handler.WritesLast (next : Handler σ) : Prop :=
  ∀ (ctx : Nat) (args : List String) (w : World σ), ∃ (shown : Except Failure (List String)) (after : World σ),
    ∀ sink, next ctx args (w.withSink sink) = after.finish shown sink

namespace World

theorem finish_error (w : World σ) (f : Failure) (sink : Sink) :
    w.finish (.error f) sink = (.error f, w.withSink sink) := rfl

theorem finish_ok (w : World σ) (pieces : List String) (sink : Sink) :
    w.finish (.ok pieces) sink =
      ((sink.writeAll pieces).1.mapError .command, w.withSink (sink.writeAll pieces).2) := by
  have hsink : Writer.sink.finish sink (.ok pieces) =
      ((sink.writeAll pieces).1.mapError .command, (sink.writeAll pieces).2) := by
    rw [← Writer.writeAll_sink]
    rfl
  rw [finish, hsink]

/-- Pieces that are written are no matter of the licence. -/
theorem isLicence_finish_iff (w : World σ) (shown : Except Failure (List String)) (sink : Sink) :
    Failure.IsLicence (w.finish shown sink).1 ↔
      ∃ reason, shown = .error (.command (.client (.licenceCapability reason))) := by
  cases shown with
  | error f => simp [finish_error, Failure.IsLicence]
  | ok pieces =>
    rw [finish_ok, Failure.IsLicence]
    cases hwritten : (sink.writeAll pieces).1 with
    | ok _ => simp [Except.mapError]
    | error e =>
      have hkind := Sink.kind_of_writeAll hwritten
      simp only [Except.mapError, reduceCtorEq, exists_false, iff_false, not_exists]
      rintro reason h
      cases h
      cases hkind

end World

/-! ### Stages -/

section

variable [Cluster.Callable σ]

theorem World.carries_withSink (sink : Sink) : World.Carries fun w : World σ => w.withSink sink :=
  ⟨fun _ _ => rfl, fun _ _ _ => rfl⟩

namespace Stage

variable {s : Settings} {next : Handler σ}

theorem writesLast_withSession (h : next.WritesLast) : Handler.WritesLast (withSession s next) := by
  intro ctx args w
  simp only [withSession, (World.carries_withSink _).call]
  cases s.credentials with
  | error error => exact ⟨.error (.command (.config error)), w, fun _ => rfl⟩
  | ok credentials =>
    dsimp only
    rcases w.call ctx (.authenticate credentials.username credentials.password) with ⟨f | session, v⟩
    · exact ⟨.error (.ofCall f), v, fun _ => rfl⟩
    · exact h ctx args (v.log [authenticatedEvent session])

theorem writesLast_withExplanation (h : next.WritesLast) : Handler.WritesLast (withExplanation next) := by
  intro ctx args w
  obtain ⟨shown, after, hnext⟩ := h ctx args w
  by_cases hlicence : ∃ reason, shown = .error (.command (.client (.licenceCapability reason)))
  · obtain ⟨reason, rfl⟩ := hlicence
    simp only [withExplanation, hnext, World.finish_error, (World.carries_withSink _).call]
    rcases after.call ctx .getLicence with ⟨(error | _) | licence, v⟩
    · exact ⟨.error (.command (.client (.licenceCapability reason))), v.log [licenceMissingEvent error],
        fun _ => rfl⟩
    · exact ⟨.error .brokenOff, v, fun _ => rfl⟩
    · exact ⟨.error (.command (explained reason licence)), v.log [licenceEvent licence], fun _ => rfl⟩
  · refine ⟨shown, after, fun sink => ?_⟩
    rw [withExplanation_of_not, hnext]
    rwa [hnext, World.isLicence_finish_iff]

theorem writesLast_deadline (fallback : Duration) (h : next.WritesLast) :
    Handler.WritesLast (middleware s (.deadline fallback) next) := by
  intro ctx args w
  by_cases hadmits : Contexts.admits (s.effectiveTimeout fallback) w.contexts.now = true
  · obtain ⟨shown, after, hnext⟩ := h w.contexts.contexts.length args
      ((w.log (deadlineEvents s fallback)).timed ctx (s.effectiveTimeout fallback))
    refine ⟨shown, after.cancel w.contexts.contexts.length, fun sink => ?_⟩
    rw [deadline_of_admits (w := w.withSink sink) hadmits]
    exact congrArg (fun o : Outcome σ Unit => (o.1, o.2.cancel w.contexts.contexts.length)) (hnext sink)
  · refine ⟨.error .brokenOff, w.log (deadlineEvents s fallback), fun sink => ?_⟩
    rw [deadline_of_not_admits (w := w.withSink sink) hadmits, World.finish_error]
    rfl

theorem writesLast_chain (h : next.WritesLast) (stages : List Stage) :
    Handler.WritesLast (chain (stages.map (middleware s)) next) := by
  have hrespects : Respects s fun (next _ : Handler σ) => next.WritesLast := by
    constructor
    case barred =>
      intro bars error _ next _ h ctx args w
      simp only [barring]
      split
      · exact ⟨.error (.command error), w, fun _ => rfl⟩
      · exact h ctx args w
    case session => exact writesLast_withSession
    case explained => exact writesLast_withExplanation
  exact hrespects.chain_one (fun fallback _ _ => writesLast_deadline fallback) h

end Stage

theorem Plan.writesLast_handler (s : Settings) (plan : Plan) :
    Handler.WritesLast (plan.handler s : Handler σ) := by
  intro ctx args w
  simp only [handler, Program.run_map (World.carries_withSink _)]
  rcases plan.body.run ctx w with ⟨f | view, v⟩
  · exact ⟨.error f, v, fun _ => rfl⟩
  · simp only [World.display]
    cases s.outputFormat with
    | error error => exact ⟨.error (.command (.config error)), v, fun _ => rfl⟩
    | ok format => exact ⟨.ok (view.pieces format v.now), v, fun sink => (v.finish_ok _ sink).symm⟩

/-- What a run comes to before it writes, for whatever sink. -/
theorem Command.run_writesLast (s : Settings) (c : Command) (ctx : Nat) (w : World σ) :
    ∃ (shown : Except Failure (List String)) (after : World σ),
      ∀ sink, c.run s ctx (w.withSink sink) = after.finish shown sink := by
  cases hplan : c.plan s with
  | error e => exact ⟨.error (.command e), w, fun sink => run_of_plan_error ctx _ hplan⟩
  | ok plan =>
    cases hcheck : plan.check with
    | error e =>
      exact ⟨.error (.command e.asInvalidArguments), w, fun sink => run_of_check_error ctx _ hplan hcheck⟩
    | ok _ =>
      simp only [run_eq_chain ctx _ hplan hcheck]
      exact Stage.writesLast_chain (plan.writesLast_handler s) plan.stages ctx plan.args w

end

/-! ### Runs whose output does not fit -/

/-- At a sink without a limit everything is written. -/
theorem World.finish_unlimited (w : World σ) (pieces : List String) :
    w.finish (.ok pieces) (.withLimit none) = (.ok (), w.withSink ⟨none, String.join pieces⟩) := by
  rw [finish_ok, Sink.writeAll_of_room_eq_none rfl]
  simp [Sink.withLimit, Except.mapError]

namespace Command

/-- Output that is cut off is never told as a success. Whatever a view is shown as, what a writer takes of it is a
start of the whole, and writing succeeds exactly if there is room for the whole and fails as output does
otherwise. The same holds of every run that succeeds where there is no limit: its output is decided before
it is written, to a sink or to another writer, and what it leaves of the cluster is the same for all sinks. -/
theorem truncated_output_fails :
    (∀ (format : OutputFormat) (now : Timestamp) (view : View) (W : Writer) (st : W.State),
      W.Tells st ((Sink.withLimit none).writeAll (view.pieces format now)).2.written
        (W.writeAll st (view.pieces format now))) ∧
    ∀ (σ : Type) [Cluster.Callable σ] (s : Settings) (c : Command) (ctx : Nat) (w : World σ),
      (∀ sink sink', (c.run s ctx (w.withSink sink)).2.cluster = (c.run s ctx (w.withSink sink')).2.cluster) ∧
      ((c.run s ctx (w.withSink (.withLimit none))).1 = .ok () →
        (∀ sink, ∃ told, (c.run s ctx (w.withSink sink)).1 = told.mapError .command ∧
          Writer.sink.Tells sink (c.run s ctx (w.withSink (.withLimit none))).2.sink.written
            (told, (c.run s ctx (w.withSink sink)).2.sink)) ∧
        ∃ (shown : Except Failure (List String)) (after : World σ),
          (∀ sink, c.run s ctx (w.withSink sink) = after.finish shown sink) ∧
          ∀ (W : Writer) (st : W.State), ∃ told st', W.finish st shown = (told.mapError .command, st') ∧
            W.Tells st (c.run s ctx (w.withSink (.withLimit none))).2.sink.written (told, st')) := by
  refine ⟨fun format now view W st => ?_, fun σ _ s c ctx w => ?_⟩
  · rw [Sink.writeAll_of_room_eq_none rfl]
    simpa [Sink.withLimit] using W.tells st (view.pieces format now)
  · obtain ⟨shown, after, hrun⟩ := c.run_writesLast s ctx w
    refine ⟨fun sink sink' => ?_, fun hok => ?_⟩
    · rw [hrun, hrun]
      rfl
    · cases shown with
      | error f =>
        rw [hrun] at hok
        cases hok
      | ok pieces =>
        have hwhole : (c.run s ctx (w.withSink (.withLimit none))).2.sink.written = String.join pieces := by
          rw [hrun, World.finish_unlimited]
          rfl
        rw [hwhole]
        refine ⟨fun sink => ?_, .ok pieces, after, hrun, fun W st => ⟨_, _, rfl, W.tells st pieces⟩⟩
        rw [hrun]
        exact ⟨_, rfl, Writer.sink.tells sink pieces⟩

/-- The one volume is listed where there is room for ten bytes: a sink refuses the list and the run fails, and a
writer that takes the ten bytes fails behind them. -/
theorem truncated_output_fails_volumes :
    (run knownUser (.getVolumes ⟨[], []⟩) 0 (oneVolumeWorld.withSink (.withLimit none))).1 = .ok () ∧
      (∃ e, (run knownUser (.getVolumes ⟨[], []⟩) 0 (oneVolumeWorld.withSink (.withLimit (some 10)))).1 =
        .error (.command e) ∧ e.kind = .display) ∧
      ∃ (shown : Except Failure (List String)) (e : CommandError) (st' : Writer.filling.State),
        Writer.filling.finish (10, []) shown = (.error (.command e), st') ∧ e.kind = .display := by
  have hok : (run knownUser (.getVolumes ⟨[], []⟩) 0 (oneVolumeWorld.withSink (.withLimit none))).1 =
      .ok () := by decide +kernel
  have hlong : 10 < (run knownUser (.getVolumes ⟨[], []⟩) 0
      (oneVolumeWorld.withSink (.withLimit none))).2.sink.written.utf8ByteSize := by decide +kernel
  have hfails {W : Writer} {st st' : W.State} {told : Except CommandError Unit} (hroom : W.room st = some 10)
      (h : W.Tells st (run knownUser (.getVolumes ⟨[], []⟩) 0
        (oneVolumeWorld.withSink (.withLimit none))).2.sink.written (told, st')) :
      ∃ e, told = .error e ∧ e.kind = .display := by
    cases told with
    | ok _ =>
      have hfits := h.ok_iff.1 rfl
      rw [hroom, Option.all_some, decide_eq_true_eq] at hfits
      omega
    | error e => exact ⟨e, rfl, h.kind e rfl⟩
  obtain ⟨hsinks, shown, -, -, hwriters⟩ := (truncated_output_fails.2 Cluster knownUser (.getVolumes ⟨[], []⟩) 0
    oneVolumeWorld).2 hok
  refine ⟨hok, ?_, shown, ?_⟩
  · obtain ⟨told, hrun, htells⟩ := hsinks (.withLimit (some 10))
    obtain ⟨e, rfl, hkind⟩ := hfails rfl htells
    exact ⟨e, hrun, hkind⟩
  · obtain ⟨told, st', hfinish, htells⟩ := hwriters Writer.filling (10, [])
    obtain ⟨e, rfl, hkind⟩ := hfails rfl htells
    exact ⟨e, st', hfinish, hkind⟩

end Command

end BlockStorage
