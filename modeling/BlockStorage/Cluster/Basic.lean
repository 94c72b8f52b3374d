import BlockStorage.Cluster.Inventory
import BlockStorage.Context

/-!
A cluster in memory that keeps a record of its calls and can be told to fail.

A call is recorded when its context lets it start; then it fails if its method was told to, and
otherwise it is carried out on the inventory.
-/

namespace BlockStorage

/-- A cluster: what it stores, the methods called so far, the parameters of the changes asked for so
far, and the failures that methods were told. -/
structure Cluster where
  inventory : Inventory
  calls : List Method
  requests : List RequestParams
  failures : List (Method × ClientError)

namespace Cluster

/-- An empty cluster that accepts the given credentials. -/
def empty (username password : String) : Cluster := ⟨.empty username password, [], [], []⟩

/-- Makes every later call of a method fail. -/
def fail (cluster : Cluster) (method : Method) (error : ClientError) : Cluster :=
  { cluster with failures := (method, error) :: cluster.failures }

/-- Takes the failure of a method back. -/
def clearFailure (cluster : Cluster) (method : Method) : Cluster :=
  { cluster with failures := cluster.failures.filter fun f => f.1 ≠ method }

/-- The failure that a method was told last. -/
def failure? (cluster : Cluster) (method : Method) : Option ClientError :=
  (cluster.failures.find? fun f => f.1 = method).map Prod.snd

/-- How often a method was called. -/
def callCount (cluster : Cluster) (method : Method) : Nat := cluster.calls.count method

/-- The parameters of the last change asked for. -/
def lastParams? (cluster : Cluster) : Option RequestParams := cluster.requests.getLast?

/-- The cluster with a call on record. -/
def record (cluster : Cluster) (call : Call) : Cluster :=
  { cluster with
    calls := cluster.calls ++ [call.method]
    requests := cluster.requests ++ call.params?.toList }

/-- Carries out a call that has started. -/
def perform (now : Timestamp) (cluster : Cluster) (call : Call) :
    Except CallFailure call.Answer × Cluster :=
  let cluster := cluster.record call
  match cluster.failure? call.method with
  | some error => (.error (.client error), cluster)
  | none =>
    let (answer, inventory) := cluster.inventory.perform now call
    (answer, { cluster with inventory := inventory })

/-- Carries out a call under a context; it takes no time. -/
def callUnder (now : Timestamp) (contexts : Contexts) (ctx : Nat) (cluster : Cluster)
    (call : Call) : Except CallFailure call.Answer × Cluster :=
  match contexts.mayStart ctx with
  | .error error => (.error (.client error), cluster)
  | .ok () => cluster.perform now call

end Cluster

end BlockStorage
