import BlockStorage.Api
import BlockStorage.Error.Command
import BlockStorage.Log.Event

/-!
Programs: what a command does at the cluster, told without saying which cluster.

A program is a tree. It ends with a result, tells the log something, or makes a call and goes on with
the answer. A call that fails ends the program with its error. So the calls that a program can make,
and their order, can be read off the tree.
-/

namespace BlockStorage

/-- What is done at a cluster until there is a result. -/
inductive Program (α : Type) where
  | done (result : Except CommandError α)
  | note (event : Log.Event) (next : Program α)
  | call (call : Call) (next : call.Answer → Program α)

namespace Program

/-- The program that goes on with what another one ended with. -/
def andThen {α β : Type} (p : Program α) (f : α → Program β) : Program β :=
  match p with
  | .done (.ok value) => f value
  | .done (.error error) => .done (.error error)
  | .note event next => .note event (next.andThen f)
  | .call c next => .call c fun answer => (next answer).andThen f

instance : Monad Program where
  pure value := .done (.ok value)
  bind := andThen

/-- The program that fails at once. -/
def fail {α : Type} (error : CommandError) : Program α := .done (.error error)

/-- The program that makes one call. -/
def ask (c : Call) : Program c.Answer := .call c fun answer => .done (.ok answer)

/-- The program that tells the log something. -/
def tell (event : Log.Event) : Program Unit := .note event (.done (.ok ()))

/-- The program that tells the log several things in order. -/
def tellAll : List Log.Event → Program Unit
  | [] => .done (.ok ())
  | event :: events => .note event (tellAll events)

/-- The program that ends with a result. -/
def ofExcept {α : Type} (result : Except CommandError α) : Program α := .done result

end Program

end BlockStorage
