import BlockStorage.Proofs.Cluster.History
import BlockStorage.Proofs.Inventory.Placement

/-!
Where the volumes of a cluster are, in every state that it can come to.

A cluster can be set up and called in any order, and its calls may fail or be told to fail. Whatever comes of
it, each volume says the same in its two fields about being attached, and all nodes that it names are stored.
-/

namespace BlockStorage

namespace Cluster

variable {cluster : Cluster}

/-- An event leaves all volumes placed. -/
theorem placed_after (hsound : cluster.inventory.Sound) (h : cluster.inventory.Placed) (event : Event) :
    (cluster.after event).inventory.Placed := by
  obtain ⟨now, operation⟩ := event
  cases operation with
  | addNamespace name | addUser username isAdmin | addPolicyGroup name | setLicence kind capacityBytes
  | fail method error | clearFailure method => exact h
  | addVolume ns name sizeBytes labels => exact h.concat (.of_new rfl rfl rfl) rfl (List.Subset.refl _)
  | addNode name labels =>
    refine h.of_subset (List.Subset.refl _) ?_
    intro id hid
    obtain ⟨n, hn, rfl⟩ := List.mem_map.mp hid
    exact List.mem_map_of_mem (List.mem_append_left _ hn)
  | call contexts ctx call =>
    rcases cluster.callUnder_cases now contexts ctx call with ⟨_, _, hafter⟩ | ⟨_, hafter⟩
    · rw [after, hafter]
      exact h
    · rw [after, hafter]
      exact h.perform hsound now call

theorem placed_run (hsound : cluster.inventory.Sound) (h : cluster.inventory.Placed)
    (events : List Event) : (cluster.run events).inventory.Placed := by
  induction events generalizing cluster with
  | nil => exact h
  | cons event events ih =>
    obtain ⟨w, hw⟩ := after_advances hsound event
    rw [run_cons]
    exact ih (hsound.advance hw) (placed_after hsound h event)

theorem Reachable.placed (h : cluster.Reachable) : cluster.inventory.Placed := by
  obtain ⟨username, password, events, rfl⟩ := h
  exact placed_run (Inventory.sound_empty username password) (.empty username password) events

/-- Where volumes are in every state of a cluster. Each is attached on a node that is stored or on none, as
its attachment says; its replicas are numbered from zero under different identifiers, and each has no node or
a stored one for itself, where no stored node has the empty identifier that stands for none. When a volume
was just given replicas, it has as many as were asked for, and as many of them have a node as there are
nodes for them. -/
theorem volumes_placed (hreach : cluster.Reachable) :
    (∀ v ∈ cluster.inventory.volumes, v.Placed (cluster.inventory.nodes.map (·.id))) ∧
    (∀ n ∈ cluster.inventory.nodes, n.id ≠ .empty) ∧
    ∀ now contexts ctx ns id count params answer after,
      cluster.callUnder now contexts ctx (.setReplicas ns id count params) = (.ok answer, after) →
      ∃ v, after.inventory.volumeIn ns id = .ok v ∧ v.replicas.length = count.toNat ∧
        (v.replicas.countP fun d => d.nodeId ∈ after.inventory.nodes.map (·.id)) =
          min count.toNat after.inventory.nodes.length ∧
        v.Placed (after.inventory.nodes.map (·.id)) := by
  have hsound := hreach.sound
  refine ⟨hreach.placed, ?_, ?_⟩
  · intro n hn hid
    exact hsound.empty_notMem_nodeIds (hid ▸ List.mem_map_of_mem hn)
  · intro now contexts ctx ns id count params answer after h
    obtain ⟨-, -, inv, hperform, rfl⟩ := callUnder_eq_ok_iff.mp h
    obtain ⟨v, hfound, hlength, hcount⟩ := Inventory.setReplicas_placed hsound hperform
    have hplaced : inv.Placed := by
      simpa [hperform] using hreach.placed.perform hsound now (.setReplicas ns id count params)
    exact ⟨v, hfound, hlength, hcount, hplaced v (Inventory.volumeIn_eq_ok hfound).1⟩

/-- A namespace with a volume, and two nodes. -/
def twoNodes : Cluster :=
  (empty "admin" "secret").run
    [⟨.epoch, .addNamespace "default"⟩, ⟨.epoch, .addVolume ⟨"ns-1"⟩ "data" 1024 .empty⟩,
      ⟨.epoch, .addNode "left" .empty⟩, ⟨.epoch, .addNode "right" .empty⟩]

/-- Three replicas are asked for where there are two nodes. -/
def threeReplicas : Call := .setReplicas ⟨"ns-1"⟩ ⟨"vol-3"⟩ 3 .empty

/-- Two of three replicas have a node. -/
theorem volumes_placed_two_nodes :
    twoNodes.Reachable ∧
    ∃ answer after, twoNodes.callUnder .epoch .start 0 threeReplicas = (.ok answer, after) ∧
      ∃ v, after.inventory.volumeIn ⟨"ns-1"⟩ ⟨"vol-3"⟩ = .ok v ∧ v.replicas.length = 3 ∧
        (v.replicas.countP fun d => d.nodeId ∈ after.inventory.nodes.map (·.id)) = 2 ∧
        v.Placed (after.inventory.nodes.map (·.id)) := by
  have hreach : twoNodes.Reachable := ⟨_, _, _, rfl⟩
  obtain ⟨-, -, hreplicas⟩ := volumes_placed hreach
  have hcall : twoNodes.callUnder .epoch .start 0 threeReplicas = (.ok _, _) := rfl
  exact ⟨hreach, _, _, hcall, hreplicas _ _ _ _ _ _ _ _ _ hcall⟩

end Cluster

end BlockStorage
