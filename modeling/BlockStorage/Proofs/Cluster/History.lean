import BlockStorage.Cluster.Basic
import BlockStorage.Proofs.Inventory.Operations

/-!
Histories of a cluster in memory: what its state can come to.

A history is a list of events, in the order in which they took effect: the cluster is set up further, is
told to fail or not to fail, or is called by a client under some context. The calls of many clients are
one list of events in some order. Every state that a history reaches has a sound inventory.
-/

namespace BlockStorage

/-- What can happen to a cluster in memory. A call comes with the contexts at that time and the number
of the one that it is under. -/
inductive Cluster.Operation where
  | addNamespace (name : String)
  | addVolume (ns : NamespaceId) (name : String) (sizeBytes : UInt64) (labels : Labels)
  | addNode (name : String) (labels : Labels)
  | addUser (username : String) (isAdmin : Bool)
  | addPolicyGroup (name : String)
  | setLicence (kind : String) (capacityBytes : UInt64)
  | fail (method : Method) (error : ClientError)
  | clearFailure (method : Method)
  | call (contexts : Contexts) (ctx : Nat) (call : Call)

/-- An operation at a time. -/
structure Cluster.Event where
  now : Timestamp
  operation : Cluster.Operation

namespace Cluster

/-- The cluster after an event. -/
def after (cluster : Cluster) (event : Event) : Cluster :=
  match event.operation with
  | .addNamespace name =>
    { cluster with inventory := (cluster.inventory.addNamespace event.now name).2 }
  | .addVolume ns name sizeBytes labels =>
    { cluster with inventory := (cluster.inventory.addVolume event.now ns name sizeBytes labels).2 }
  | .addNode name labels =>
    { cluster with inventory := (cluster.inventory.addNode event.now name labels).2 }
  | .addUser username isAdmin =>
    { cluster with inventory := (cluster.inventory.addUser event.now username isAdmin).2 }
  | .addPolicyGroup name =>
    { cluster with inventory := (cluster.inventory.addPolicyGroup event.now name).2 }
  | .setLicence kind capacityBytes =>
    { cluster with inventory := (cluster.inventory.setLicence event.now kind capacityBytes).2 }
  | .fail method error => cluster.fail method error
  | .clearFailure method => cluster.clearFailure method
  | .call contexts ctx call => (cluster.callUnder event.now contexts ctx call).2

/-- The cluster after a history. -/
def run (cluster : Cluster) (events : List Event) : Cluster := events.foldl after cluster

/-- The cluster is one that comes of an empty cluster by some history. -/
def Reachable (cluster : Cluster) : Prop :=
  ∃ username password events, cluster = (empty username password).run events

@[simp] theorem run_nil (cluster : Cluster) : cluster.run [] = cluster := rfl

@[simp] theorem run_cons (cluster : Cluster) (event : Event) (events : List Event) :
    cluster.run (event :: events) = (cluster.after event).run events := rfl

theorem run_append (cluster : Cluster) (events later : List Event) :
    cluster.run (events ++ later) = (cluster.run events).run later := List.foldl_append

/-! ### Calls -/

section

variable {cluster : Cluster} {now : Timestamp} {contexts : Contexts} {ctx : Nat} {call : Call}

/-- A call either fails before it reaches what is stored or is carried out there. -/
theorem callUnder_cases (cluster : Cluster) (now : Timestamp) (contexts : Contexts) (ctx : Nat)
    (call : Call) :
    (∃ e, (cluster.callUnder now contexts ctx call).1 = .error (.client e) ∧
      (cluster.callUnder now contexts ctx call).2.inventory = cluster.inventory) ∨
    ((cluster.callUnder now contexts ctx call).1 = (cluster.inventory.perform now call).1 ∧
      (cluster.callUnder now contexts ctx call).2.inventory =
        (cluster.inventory.perform now call).2) := by
  rw [callUnder]
  cases contexts.mayStart ctx with
  | error e => exact Or.inl ⟨e, rfl, rfl⟩
  | ok _ =>
    simp only [perform]
    split
    · rename_i e _
      exact Or.inl ⟨e, rfl, rfl⟩
    · exact Or.inr ⟨rfl, rfl⟩

/-- A call that succeeds was carried out on what is stored. -/
theorem callUnder_ok {a : call.Answer}
    (h : (cluster.callUnder now contexts ctx call).1 = .ok a) :
    (cluster.inventory.perform now call).1 = .ok a ∧
      (cluster.callUnder now contexts ctx call).2.inventory =
        (cluster.inventory.perform now call).2 := by
  rcases cluster.callUnder_cases now contexts ctx call with ⟨e, he, _⟩ | ⟨hanswer, hafter⟩
  · rw [he] at h
    cases h
  · exact ⟨hanswer ▸ h, hafter⟩

/-- A call that may start and that no failure was told for is carried out on what is stored. -/
theorem callUnder_live (hctx : contexts.mayStart ctx = .ok ())
    (hfail : cluster.failure? call.method = none) :
    (cluster.callUnder now contexts ctx call).1 = (cluster.inventory.perform now call).1 ∧
      (cluster.callUnder now contexts ctx call).2.inventory =
        (cluster.inventory.perform now call).2 := by
  have hfail' : (cluster.record call).failure? call.method = none := hfail
  simp only [callUnder, hctx, perform, hfail']
  exact ⟨rfl, rfl⟩

/-- A call succeeds if it may start, was not told to fail, and succeeds on what is stored; then it is on
record, and the rest of the cluster is as it was. -/
theorem callUnder_eq_ok_iff {a : call.Answer} {after : Cluster} :
    cluster.callUnder now contexts ctx call = (.ok a, after) ↔
      contexts.mayStart ctx = .ok () ∧ cluster.failure? call.method = none ∧
        ∃ inv, cluster.inventory.perform now call = (.ok a, inv) ∧
          after = { cluster.record call with inventory := inv } := by
  have hrecord : (cluster.record call).failure? call.method = cluster.failure? call.method := rfl
  constructor
  · intro h
    rw [callUnder] at h
    split at h
    · cases h
    · rename_i hctx
      simp only [perform, hrecord] at h
      split at h
      · cases h
      · rename_i hfail
        obtain ⟨hanswer, hafter⟩ := Prod.mk.inj h
        exact ⟨hctx, hfail, _, Prod.ext hanswer rfl, hafter.symm⟩
  · rintro ⟨hctx, hfail, inv, hperform, rfl⟩
    have hperform' : (cluster.record call).inventory.perform now call = (.ok a, inv) := hperform
    simp only [callUnder, hctx, perform, hrecord, hfail, hperform']

end

/-! ### Every state is sound -/

/-- Every event is a legal write of a sound inventory. -/
theorem after_advances {cluster : Cluster} (h : cluster.inventory.Sound) (event : Event) :
    ∃ w, cluster.inventory.Advances w (cluster.after event).inventory := by
  obtain ⟨now, operation⟩ := event
  cases operation with
  | addNamespace name => exact ⟨_, cluster.inventory.addNamespace_advances now name⟩
  | addVolume ns name sizeBytes labels =>
    exact ⟨_, cluster.inventory.addVolume_advances now ns name sizeBytes labels⟩
  | addNode name labels => exact ⟨_, cluster.inventory.addNode_advances now name labels⟩
  | addUser username isAdmin => exact ⟨_, cluster.inventory.addUser_advances now username isAdmin⟩
  | addPolicyGroup name => exact ⟨_, cluster.inventory.addPolicyGroup_advances now name⟩
  | setLicence kind capacityBytes =>
    exact ⟨_, cluster.inventory.setLicence_advances now kind capacityBytes⟩
  | fail method error => exact ⟨.nothing, Inventory.Spares.refl _⟩
  | clearFailure method => exact ⟨.nothing, Inventory.Spares.refl _⟩
  | call contexts ctx call =>
    rcases cluster.callUnder_cases now contexts ctx call with ⟨e, _, hafter⟩ | ⟨_, hafter⟩
    · refine ⟨.nothing, ?_⟩
      rw [after, hafter]
      exact Inventory.Spares.refl _
    · obtain ⟨w, hw⟩ := Inventory.perform_advances h now call
      refine ⟨w, ?_⟩
      rw [after, hafter]
      exact hw

/-- Every state of a history that starts sound is sound. -/
theorem sound_run {cluster : Cluster} (h : cluster.inventory.Sound) (events : List Event) :
    (cluster.run events).inventory.Sound := by
  induction events generalizing cluster with
  | nil => exact h
  | cons event events ih =>
    obtain ⟨w, hw⟩ := after_advances h event
    rw [run_cons]
    exact ih (h.advance hw)

theorem Reachable.sound {cluster : Cluster} (h : cluster.Reachable) : cluster.inventory.Sound := by
  obtain ⟨username, password, events, rfl⟩ := h
  exact sound_run (Inventory.sound_empty username password) events

end Cluster

end BlockStorage
