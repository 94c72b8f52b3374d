import BlockStorage.Proofs.Cluster.History
import BlockStorage.Proofs.Inventory.Effect
import BlockStorage.Proofs.Inventory.Names

/-!
What a client sees of a change that succeeded.

The change has its effect on the resource that it addresses and on nothing else; and the resource that it
tells is stored, so fetching it by its identifier gives the same one.
-/

namespace BlockStorage

/-- The call that fetches a resource by its identifier, with the resource as its answer. -/
def Record.fetch : Record → (f : Call) × f.Answer
  | .namespace ns => ⟨.getNamespace ns.id, ns⟩
  | .volume v => ⟨.getVolume v.namespaceId v.id, v⟩
  | .node n => ⟨.getNode n.id, n⟩
  | .user u => ⟨.getUser u.id, u⟩
  | .policyGroup g => ⟨.getPolicyGroup g.id, g⟩
  | .licence l => ⟨.getLicence, l⟩

/-- The resource that a change tells in its answer. -/
def Call.returned? : (c : Call) → c.Answer → Option Record
  | .createNamespace .., ns => some (.namespace ns)
  | .createVolume .., .completed v => some (.volume v)
  | .resizeVolume .., .completed v => some (.volume v)
  | .setReplicas .., .completed v => some (.volume v)
  | .setDescription .., v => some (.volume v)
  | .updateNfsExports .., .completed v => some (.volume v)
  | .attachVolume .., .completed v => some (.volume v)
  | .setNodeCordoned .., n => some (.node n)
  | _, _ => none

namespace Inventory

variable {inv after : Inventory} {now : Timestamp} {c : Call} {a : c.Answer}

/-- A submission that tells a value tells the one that came of it. -/
theorem submission_eq_completed {α : Type} {value told : α} {params : RequestParams}
    (h : submission value params = .completed told) : told = value := by
  rw [submission] at h
  split at h
  · cases h
  · exact (Submission.completed.inj h).symm

/-- An update tells no resource but the volume that it leaves. -/
theorem eq_of_reports {new : Volume} {r : Record} (hreported : c.Reports new a)
    (h : c.returned? a = some r) : r = .volume new := by
  cases c with
  | resizeVolume ns id sizeBytes params | setReplicas ns id count params
  | updateNfsExports ns id exports params | attachVolume ns id node params =>
    cases a with
    | accepted => cases h
    | completed told =>
      obtain rfl := submission_eq_completed hreported.symm
      exact (Option.some.inj h).symm
  | setDescription ns id text params =>
    obtain rfl := hreported
    exact (Option.some.inj h).symm
  | _ => first | exact hreported.elim | cases h

/-- A resource that a change tells is stored afterwards. -/
theorem Effect.mem_records {r : Record} (h : inv.Effect now after c a)
    (hr : c.returned? a = some r) : r ∈ after.records := by
  cases h with
  | namespaceCreated made rest =>
    obtain rfl := Option.some.inj hr
    rw [rest]
    simp
  | volumeCreated housed made rest =>
    rename_i ns spec params new
    cases htold : submission new params with
    | accepted =>
      rw [htold] at hr
      cases hr
    | completed told =>
      rw [htold] at hr
      obtain rfl := Option.some.inj hr
      rw [rest, submission_eq_completed htold]
      simp
  | volumeUpdated update addressed made kept exchanged rest reported =>
    obtain rfl := eq_of_reports reported hr
    exact volume_mem_records.mpr exchanged.mem.2
  | nodeCordoned addressed made exchanged rest =>
    obtain rfl := Option.some.inj hr
    exact node_mem_records.mpr exchanged.mem.2
  | _ => cases hr

/-- A stored resource is what fetching it answers with. -/
theorem perform_fetch (hsound : inv.Sound) (now : Timestamp) {r : Record} (hr : r ∈ inv.records) :
    inv.perform now r.fetch.1 = (.ok r.fetch.2, inv) := by
  cases r with
  | «namespace» ns =>
    exact congrArg (fun found => ofClient (found, inv))
      (findOr_of_key hsound.namespaces (namespace_mem_records.mp hr))
  | volume v =>
    exact congrArg (fun found => ofClient (found, inv))
      (hsound.volumeIn_of_mem (volume_mem_records.mp hr))
  | node n =>
    exact congrArg (fun found => ofClient (found, inv))
      (findOr_of_key hsound.nodes (node_mem_records.mp hr))
  | user u =>
    exact congrArg (fun found => ofClient (found, inv))
      (findOr_of_key hsound.users (user_mem_records.mp hr))
  | policyGroup g =>
    exact congrArg (fun found => ofClient (found, inv))
      (findOr_of_key hsound.policyGroups (policyGroup_mem_records.mp hr))
  | licence l =>
    simp only [Record.fetch, perform, licence_mem_records.mp hr]

end Inventory

namespace Cluster

/-- What a client relies on after a change that succeeds: it had its effect on the resource that it
addresses and on no other, nothing else of the cluster changed but that the call is on record, and a
resource that was told as the outcome is what fetching it by its identifier gives next. -/
theorem change_effect {cluster after : Cluster} (hreach : cluster.Reachable) {now : Timestamp}
    {contexts : Contexts} {ctx : Nat} {c : Call} {a : c.Answer} (hmutating : c.method.isMutating = true)
    (h : cluster.callUnder now contexts ctx c = (.ok a, after)) :
    cluster.inventory.Effect now after.inventory c a ∧
    after = { cluster.record c with inventory := after.inventory } ∧
    ∀ r, c.returned? a = some r → ∀ (now' : Timestamp) (contexts' : Contexts) (ctx' : Nat),
      contexts'.mayStart ctx' = .ok () → after.failure? r.fetch.1.method = none →
      after.callUnder now' contexts' ctx' r.fetch.1 = (.ok r.fetch.2, after.record r.fetch.1) := by
  obtain ⟨-, -, inv, hperform, rfl⟩ := callUnder_eq_ok_iff.mp h
  have heffect := Inventory.perform_effect hreach.sound hmutating hperform
  have hsound : inv.Sound := by simpa [hperform] using hreach.sound.perform now c
  refine ⟨heffect, rfl, ?_⟩
  intro r hr now' contexts' ctx' hctx hfail
  have hfetch := Inventory.perform_fetch hsound now' (heffect.mem_records hr)
  exact callUnder_eq_ok_iff.mpr ⟨hctx, hfail, inv, hfetch, rfl⟩

/-- A cluster with one namespace and nothing in it. -/
def oneNamespace : Cluster := (empty "admin" "secret").run [⟨.epoch, .addNamespace "default"⟩]

/-- The creation of a described volume there. -/
def describedVolume : Call :=
  .createVolume ⟨"ns-1"⟩ ⟨"data", "all there is", 1024, "", .empty⟩ .empty

/-- The volume that is told has its description already, as the one that is fetched next. -/
theorem change_effect_described :
    ∃ v after, oneNamespace.callUnder .epoch .start 0 describedVolume = (.ok (.completed v), after) ∧
      oneNamespace.inventory.Effect .epoch after.inventory describedVolume (.completed v) ∧
      (after.callUnder .epoch .start 0 (.getVolume ⟨"ns-1"⟩ ⟨"vol-3"⟩)).1 = .ok v := by
  have hreach : oneNamespace.Reachable := ⟨_, _, _, rfl⟩
  have h : oneNamespace.callUnder .epoch .start 0 describedVolume = (.ok (.completed _), _) := rfl
  obtain ⟨heffect, -, hfetch⟩ := change_effect hreach rfl h
  exact ⟨_, _, h, heffect, congrArg Prod.fst (hfetch _ rfl .epoch .start 0 rfl rfl)⟩

end Cluster

end BlockStorage
