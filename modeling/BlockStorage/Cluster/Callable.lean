import BlockStorage.Cluster.Basic
import BlockStorage.Log.Event

/-!
Clusters as callers see them: something that answers calls under contexts.

A call gives an answer, and leaves a cluster, contexts whose clock may have moved, and events for the
log. The cluster in memory takes no time and tells the log nothing.
-/

namespace BlockStorage

/-- What came of a call: the answer, the cluster and the contexts afterwards, and what the log is
told. -/
structure Answered (σ : Type) (c : Call) where
  answer : Except CallFailure c.Answer
  cluster : σ
  contexts : Contexts
  events : List Log.Event

/-- Clusters that can be called under a context. -/
class Cluster.Callable (σ : Type) where
  answer : Timestamp → Contexts → Nat → σ → (c : Call) → Answered σ c

instance : Cluster.Callable Cluster where
  answer now contexts ctx cluster c :=
    let (answer, cluster) := cluster.callUnder now contexts ctx c
    ⟨answer, cluster, contexts, []⟩

end BlockStorage
