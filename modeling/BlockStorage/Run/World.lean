import BlockStorage.Cluster.Callable
import BlockStorage.Output.Display
import BlockStorage.Run.Program
import BlockStorage.Settings.Basic
import BlockStorage.Time.Timestamp

/-!
What a run sees and changes, and how programs run.

A world has a wall clock, contexts with a clock of their own, a cluster to call, a sink for the output
and a log. Programs change the cluster only through their calls, and the output only by showing a view
at the end.
-/

namespace BlockStorage

/-- What a run sees and changes. -/
structure World (σ : Type) where
  now : Timestamp
  contexts : Contexts
  cluster : σ
  sink : Sink
  events : List Log.Event

/-- How a run fails: with an error of the command, or because it breaks off, when its deadline is no
point in time or one of its calls breaks off. -/
inductive Failure where
  | command (error : CommandError)
  | brokenOff
deriving DecidableEq, Repr

/-- The failure of a call as one of the run that made it. -/
def Failure.ofCall : CallFailure → Failure
  | .client error => .command (.client error)
  | .brokenOff => .brokenOff

/-- What comes of running something in a world. -/
abbrev Outcome (σ : Type) (α : Type) := Except Failure α × World σ

namespace World

/-- The world with something more in its log. -/
def log {σ : Type} (w : World σ) (events : List Log.Event) : World σ :=
  { w with events := w.events ++ events }

/-- Makes a call under a context. -/
def call {σ : Type} [Cluster.Callable σ] (w : World σ) (ctx : Nat) (c : Call) :
    Except CallFailure c.Answer × World σ :=
  let answered := Cluster.Callable.answer w.now w.contexts ctx w.cluster c
  (answered.answer,
    { w with
      contexts := answered.contexts
      cluster := answered.cluster
      events := w.events ++ answered.events })

/-- Shows a view in the format of the settings. -/
def display {σ : Type} (w : World σ) (settings : Settings) (view : Output.View) : Outcome σ Unit :=
  match settings.outputFormat with
  | .error error => (.error (.command (.config error)), w)
  | .ok format =>
    let (result, sink) := w.sink.writeAll (view.pieces format w.now)
    (result.mapError .command, { w with sink := sink })

end World

/-- Runs a program under a context. -/
def Program.run {σ α : Type} [Cluster.Callable σ] (ctx : Nat) : Program α → World σ → Outcome σ α
  | .done result, w => (result.mapError .command, w)
  | .note event next, w => next.run ctx (w.log [event])
  | .call c next, w =>
    match w.call ctx c with
    | (.ok answer, w) => (next answer).run ctx w
    | (.error failure, w) => (.error (.ofCall failure), w)

end BlockStorage
