import BlockStorage.Proofs.Cluster.Atomicity
import BlockStorage.Proofs.Inventory.Capacity

/-!
The capacity that a cluster is licensed for.

The sizes of all volumes are added without bound here, and in words of 64 bits where the licence is
asked. The two agree as long as the licence is for fewer bytes than the largest word: then a cluster
within its licence stays there whatever is called, and no call breaks off. A licence for the largest word
is never exceeded in words, so the cluster can outgrow it, and the next call that asks for more bytes
breaks off.
-/

namespace BlockStorage.Cluster

open Inventory (unlimited)

/-- Whether an event is a call. -/
def Event.IsCall (event : Event) : Prop := ∃ contexts ctx call, event.operation = .call contexts ctx call

/-- A cluster has a licence and stores no more bytes than that is for. -/
structure Within (licence : Licence) (cluster : Cluster) : Prop where
  licensed : cluster.inventory.licence = some licence
  room : cluster.inventory.storedBytes ≤ licence.clusterCapacityBytes.toNat

section

variable {cluster : Cluster} {now : Timestamp} {contexts : Contexts} {ctx : Nat} {call : Call}
  {licence : Licence}

/-- A call breaks off only if it asks for more bytes and those that are stored are too many for a word. -/
theorem callUnder_brokenOff (h : (cluster.callUnder now contexts ctx call).1 = .error .brokenOff) :
    call.grows = true ∧ UInt64.size ≤ cluster.inventory.storedBytes := by
  rcases cluster.callUnder_cases now contexts ctx call with ⟨e, he, _⟩ | ⟨hanswer, _⟩
  · rw [he] at h
    cases h
  · obtain ⟨hgrows, extra, hcheck⟩ := Inventory.perform_brokenOff (hanswer ▸ h)
    exact ⟨hgrows, (Inventory.checkCapacity_brokenOff hcheck).2⟩

/-- A call that asks for more bytes and succeeds leaves the cluster within its licence. -/
theorem within_callUnder_of_grows (hlicence : cluster.inventory.licence = some licence)
    (hbounded : licence.clusterCapacityBytes ≠ unlimited) (hgrows : call.grows = true)
    {a : call.Answer} (h : (cluster.callUnder now contexts ctx call).1 = .ok a) :
    Within licence (cluster.callUnder now contexts ctx call).2 := by
  obtain ⟨hanswer, hafter⟩ := callUnder_ok h
  obtain ⟨extra, hcheck, hsum⟩ := Inventory.perform_grows hgrows hanswer
  refine ⟨?_, ?_⟩
  · rw [hafter, Inventory.perform_licence, hlicence]
  · rw [hafter, hsum]
    exact (Inventory.checkCapacity_ok hlicence hcheck).resolve_right hbounded

/-- A cluster within its licence is within it after any call. -/
theorem Within.callUnder (h : Within licence cluster)
    (hbounded : licence.clusterCapacityBytes ≠ unlimited) (now : Timestamp) (contexts : Contexts)
    (ctx : Nat) (call : Call) : Within licence (cluster.callUnder now contexts ctx call).2 := by
  cases hanswer : (cluster.callUnder now contexts ctx call).1 with
  | error e =>
    obtain ⟨_, hvolumes, _, _, _, hlicence⟩ := storesSame_of_error hanswer
    refine ⟨hlicence.trans h.licensed, ?_⟩
    rw [Inventory.storedBytes, hvolumes]
    exact h.room
  | ok a =>
    by_cases hgrows : call.grows = true
    · exact within_callUnder_of_grows h.licensed hbounded hgrows hanswer
    · have hlighter := cluster.inventory.perform_lighter now (Bool.not_eq_true _ ▸ hgrows)
      rw [← (callUnder_ok hanswer).2] at hlighter
      exact ⟨hlighter.licence.trans h.licensed, hlighter.bytes.trans h.room⟩

/-- A cluster within its licence is within it after any calls. -/
theorem Within.run (h : Within licence cluster) (hbounded : licence.clusterCapacityBytes ≠ unlimited)
    {events : List Event} (hcalls : ∀ event ∈ events, event.IsCall) :
    Within licence (cluster.run events) := by
  induction events generalizing cluster with
  | nil => exact h
  | cons event rest ih =>
    obtain ⟨⟨contexts, ctx, call, hcall⟩, hrest⟩ := List.forall_mem_cons.1 hcalls
    rw [run_cons]
    refine ih ?_ hrest
    rw [after, hcall]
    exact h.callUnder hbounded event.now contexts ctx call

/-- A cluster within its licence does not break any call off. -/
theorem Within.ne_brokenOff (h : Within licence cluster) :
    (cluster.callUnder now contexts ctx call).1 ≠ .error .brokenOff := by
  intro hbroken
  have hsize := (callUnder_brokenOff hbroken).2
  have hword := licence.clusterCapacityBytes.toNat_lt
  have hroom := h.room
  rw [UInt64.size] at hsize
  omega

end

/-- Licensed capacity, for every cluster with a licence. No call breaks off while the stored bytes can be
counted in a word. If the licence is for fewer bytes than the largest word, then a call that creates or
resizes a volume and succeeds leaves the cluster within its licence; and a cluster within its licence
stays within it under every sequence of calls, none of which breaks off. -/
theorem licensed_capacity {cluster : Cluster} {licence : Licence}
    (hlicence : cluster.inventory.licence = some licence) :
    (cluster.inventory.storedBytes < UInt64.size → ∀ now contexts ctx call,
      (cluster.callUnder now contexts ctx call).1 ≠ .error .brokenOff) ∧
    (licence.clusterCapacityBytes ≠ unlimited →
      (∀ now contexts ctx call a, call.grows = true →
        (cluster.callUnder now contexts ctx call).1 = .ok a →
        (cluster.callUnder now contexts ctx call).2.inventory.storedBytes ≤
          licence.clusterCapacityBytes.toNat) ∧
      (cluster.inventory.storedBytes ≤ licence.clusterCapacityBytes.toNat →
        ∀ events : List Event, (∀ event ∈ events, event.IsCall) →
          Within licence (cluster.run events) ∧
          ∀ now contexts ctx call,
            ((cluster.run events).callUnder now contexts ctx call).1 ≠ .error .brokenOff)) := by
  refine ⟨?_, fun hbounded => ⟨?_, ?_⟩⟩
  · intro hword now contexts ctx call hbroken
    exact Nat.not_le.2 hword (callUnder_brokenOff hbroken).2
  · intro now contexts ctx call a hgrows hok
    exact (within_callUnder_of_grows hlicence hbounded hgrows hok).room
  · intro hroom events hcalls
    have hwithin : Within licence (cluster.run events) := Within.run ⟨hlicence, hroom⟩ hbounded hcalls
    exact ⟨hwithin, fun _ _ _ _ => hwithin.ne_brokenOff⟩

/-- A cluster with one volume and a licence for as many bytes as that has. -/
def fullyUsed (bytes : UInt64) : Cluster :=
  (empty "admin" "secret").run
    [⟨.epoch, .addNamespace "default"⟩, ⟨.epoch, .addVolume ⟨"ns-1"⟩ "full" bytes .empty⟩,
      ⟨.epoch, .setLicence "basic" bytes⟩]

/-- The creation of a volume of one byte in that cluster. -/
def oneMore (name : String) : Call := .createVolume ⟨"ns-1"⟩ ⟨name, "", 1, "ext4", .empty⟩ .empty

/-- A licence for one byte less than the largest word: nothing more is created. -/
theorem licensed_capacity_full :
    ∃ licence, (fullyUsed 18446744073709551614).inventory.licence = some licence ∧
      Within licence ((fullyUsed 18446744073709551614).run
        [⟨.epoch, .call .start 0 (oneMore "more")⟩, ⟨.epoch, .call .start 0 (oneMore "again")⟩]) := by
  have hlicence : (fullyUsed 18446744073709551614).inventory.licence = some _ := rfl
  refine ⟨_, hlicence, ?_⟩
  refine (((licensed_capacity hlicence).2 (by decide)).2 (Nat.le_refl _) _ ?_).1
  exact List.forall_mem_cons.2 ⟨⟨_, _, _, rfl⟩, List.forall_mem_singleton.2 ⟨_, _, _, rfl⟩⟩

/-- A licence for the largest word: a full cluster takes one more byte all the same, and breaks the next
creation off. -/
theorem outgrows_unlimited :
    (fullyUsed unlimited).Reachable ∧
    (fullyUsed unlimited).inventory.storedBytes = unlimited.toNat ∧
    (∃ v, ((fullyUsed unlimited).callUnder .epoch .start 0 (oneMore "more")).1 = .ok (.completed v)) ∧
    ((fullyUsed unlimited).run [⟨.epoch, .call .start 0 (oneMore "more")⟩]).inventory.storedBytes =
      unlimited.toNat + 1 ∧
    (((fullyUsed unlimited).run [⟨.epoch, .call .start 0 (oneMore "more")⟩]).callUnder .epoch .start 0
      (oneMore "again")).1 = .error .brokenOff :=
  ⟨⟨_, _, _, rfl⟩, rfl, ⟨_, rfl⟩, rfl, rfl⟩

end BlockStorage.Cluster
