import BlockStorage.Command.Basic
import BlockStorage.Run.Stage

/-!
Invocations: a handler with its name, its arguments, a check of the arguments and the middlewares
around it.

The check comes first, and whatever it fails with is an error of the arguments. Nothing else runs
then.
-/

namespace BlockStorage

open Text

/-- A handler with all that surrounds it. -/
structure Invocation (σ : Type) where
  name : String
  check : List String → Except CommandError Unit
  middlewares : List (Middleware σ)
  handler : Handler σ
  args : List String

namespace Invocation

/-- The check that there are as many arguments as told. -/
def exactly (count : Nat) (args : List String) : Except CommandError Unit :=
  if args.length = count then .ok ()
  else
    .error (.invalidArguments
      ("expected " ++ toString count ++ " argument(s), got " ++ toString args.length))

/-- Checks the arguments. -/
def validate {σ : Type} (inv : Invocation σ) : Except CommandError Unit :=
  (inv.check inv.args).mapError CommandError.asInvalidArguments

/-- Runs the handler in its middlewares, if the arguments are good. -/
def run {σ : Type} (inv : Invocation σ) (ctx : Nat) (w : World σ) : Outcome σ Unit :=
  match inv.validate with
  | .error error => (.error (.command error), w)
  | .ok () => chain inv.middlewares inv.handler ctx inv.args w

/-- The invocation as logs show it. -/
def logText {σ : Type} (inv : Invocation σ) : String :=
  Command.logRecord "Invocation"
    [("descriptor",
        Command.logRecord "CommandDescriptor"
          [("name", quoted inv.name), ("middleware", toString inv.middlewares.length)]),
      ("args", Command.logTexts inv.args)]

end Invocation

end BlockStorage
