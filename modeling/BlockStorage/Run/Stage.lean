import BlockStorage.Resource.Licence
import BlockStorage.Run.World
import BlockStorage.Selector

/-!
The stages around a command.

A handler runs under a context and with arguments. A middleware makes a handler of a handler, and a
chain of middlewares has its first one outermost. The stages are the middlewares that commands run in:
a deadline, two preconditions, authentication, and an explanation of what the licence forbids.
-/

namespace BlockStorage

/-- Something that runs under a context and with arguments. -/
abbrev Handler (σ : Type) := Nat → List String → World σ → Outcome σ Unit

/-- Something that happens around a handler. -/
abbrev Middleware (σ : Type) := Handler σ → Handler σ

/-- Middlewares around each other, the first one outermost. -/
def chain {σ : Type} (middlewares : List (Middleware σ)) : Middleware σ := fun handler =>
  middlewares.foldr (fun middleware inner => middleware inner) handler

theorem chain_nil {σ : Type} (handler : Handler σ) : chain [] handler = handler := rfl

theorem chain_cons {σ : Type} (m : Middleware σ) (ms : List (Middleware σ)) (handler : Handler σ) :
    chain (m :: ms) handler = m (chain ms handler) := rfl

/-- What stands around a command. -/
inductive Stage where
  /-- Bounds the run by the command timeout, or by a fallback if that cannot be read. -/
  | deadline (fallback : Duration)
  /-- Refuses identifiers without an identifier of the namespace. -/
  | namespaceRequired
  /-- Refuses a listing of everything. -/
  | targetOrSelectors (selectors : SelectorSet)
  /-- Opens a session with the credentials of the settings. -/
  | authenticate
  /-- Tells the state of the licence when it forbids the operation. -/
  | explainLicence
deriving DecidableEq, Repr

namespace Stage

/-- The time that a command has when its timeout cannot be read. -/
def defaultFallback : Duration := .ofSecs 15

/-- What the log is told when the command timeout cannot be read. -/
def fallbackEvents (settings : Settings) (fallback : Duration) : List Log.Event :=
  match settings.commandTimeout with
  | .ok _ => []
  | .error error =>
    [⟨.warn, "stor_cli::middleware::deadline", "using fallback command timeout",
      [("error", .shown error.message), ("fallback", .shown fallback.logText)]⟩]

/-- What the log is told about a deadline. -/
def deadlineEvents (settings : Settings) (fallback : Duration) : List Log.Event :=
  fallbackEvents settings fallback ++
    [⟨.debug, "stor_cli::middleware::deadline", "command deadline",
      [("timeout", .shown (settings.effectiveTimeout fallback).logText)]⟩]

/-- Runs a handler under a context of its own, which is cancelled when the handler is done. The end of the timeout
has to be a point in time, even where the context would end sooner. -/
def underDeadline {σ : Type} (timeout : Duration) : Middleware σ := fun next ctx args w =>
  if Contexts.admits timeout w.contexts.now then
    let (contexts, child) := w.contexts.derive ctx timeout
    let (result, w) := next child args { w with contexts := contexts }
    (result, { w with contexts := w.contexts.cancel child })
  else (.error .brokenOff, w)

/-- The error of identifiers without an identifier of the namespace. -/
def namespaceMissing : CommandError :=
  .precondition
    "a namespace identifier must be given with --namespace when --use-ids is set"

/-- The error of a listing of everything. -/
def targetMissing : CommandError :=
  .precondition "must specify at least one resource or a label selector"

/-- The event of an opened session. -/
def authenticatedEvent (session : Session) : Log.Event :=
  ⟨.debug, "stor_cli::middleware::auth", "authenticated", [("user", .shown session.username)]⟩

/-- Opens a session and goes on. -/
def withSession {σ : Type} [Cluster.Callable σ] (settings : Settings) : Middleware σ :=
  fun next ctx args w =>
    match settings.credentials with
    | .error error => (.error (.command (.config error)), w)
    | .ok credentials =>
      match w.call ctx (.authenticate credentials.username credentials.password) with
      | (.error failure, w) => (.error (.ofCall failure), w)
      | (.ok session, w) => next ctx args (w.log [authenticatedEvent session])

/-- The event of a licence that forbids an operation. -/
def licenceEvent (licence : Licence) : Log.Event :=
  ⟨.debug, "stor_cli::middleware::licence", "licence capability exceeded",
    [("kind", .shown licence.kind)]⟩

/-- The event of a licence that could not be fetched. -/
def licenceMissingEvent (error : ClientError) : Log.Event :=
  ⟨.warn, "stor_cli::middleware::licence", "failed to fetch licence for error details",
    [("error", .shown error.message)]⟩

/-- The error of an operation that a licence forbids. -/
def explained (reason : String) (licence : Licence) : CommandError :=
  .licenceLimit reason licence.description licence.hint

/-- Explains the error of a handler if the licence is what forbids the operation. -/
def withExplanation {σ : Type} [Cluster.Callable σ] : Middleware σ := fun next ctx args w =>
  match next ctx args w with
  | (.error (.command (.client (.licenceCapability reason))), w) =>
    match w.call ctx .getLicence with
    | (.ok licence, w) =>
      (.error (.command (explained reason licence)), w.log [licenceEvent licence])
    | (.error (.client error), w) =>
      (.error (.command (.client (.licenceCapability reason))), w.log [licenceMissingEvent error])
    | (.error .brokenOff, w) => (.error .brokenOff, w)
  | outcome => outcome

/-- What a stage does around a handler. -/
def middleware {σ : Type} [Cluster.Callable σ] (settings : Settings) : Stage → Middleware σ
  | .deadline fallback => fun next ctx args w =>
    underDeadline (settings.effectiveTimeout fallback) next ctx args
      (w.log (deadlineEvents settings fallback))
  | .namespaceRequired => fun next ctx args w =>
    if settings.useIds && settings.namespace.isEmpty then (.error (.command namespaceMissing), w)
    else next ctx args w
  | .targetOrSelectors selectors => fun next ctx args w =>
    if args.isEmpty && selectors.isEmpty then (.error (.command targetMissing), w)
    else next ctx args w
  | .authenticate => withSession settings
  | .explainLicence => withExplanation

/-- The stages of a command, outermost first. -/
def standard (isNamespaced : Bool) (targets : Option SelectorSet) : List Stage :=
  [.deadline defaultFallback] ++ (if isNamespaced then [.namespaceRequired] else []) ++
    targets.toList.map .targetOrSelectors ++ [.authenticate, .explainLicence]

end Stage

end BlockStorage
