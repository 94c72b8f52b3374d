import BlockStorage.Proofs.Cluster.History

/-!
Calls that fail are atomic.

Whatever makes a call fail, and however far it had come by then, everything that is stored is as it was;
only the counter of tokens may have gone on. One way to fail is to address a volume through a namespace
that is not its own, which finds nothing, since no other volume has its identifier.
-/

namespace BlockStorage

/-- The volume that a call addresses by its identifier, with the namespace that it does so through. -/
def Call.volume? : Call → Option (NamespaceId × VolumeId)
  | .getVolume ns id => some (ns, id)
  | .resizeVolume ns id _ _ => some (ns, id)
  | .setReplicas ns id _ _ => some (ns, id)
  | .setDescription ns id _ _ => some (ns, id)
  | .updateNfsExports ns id _ _ => some (ns, id)
  | .attachVolume ns id _ _ => some (ns, id)
  | .detachVolume ns id _ => some (ns, id)
  | .deleteVolume ns id _ => some (ns, id)
  | _ => none

namespace Inventory

variable {inv : Inventory} {ns : NamespaceId} {id : VolumeId}

theorem volumeIn_other_namespace (hsound : inv.Sound) {v : Volume} (hv : v ∈ inv.volumes)
    (hns : ns ≠ v.namespaceId) :
    inv.volumeIn ns v.id = .error (.notFound .volume v.id.text) := by
  cases hfind : inv.volumeIn ns v.id with
  | error e =>
    rw [volumeIn, findOr] at hfind
    split at hfind
    · cases hfind
    · exact hfind.symm
  | ok other =>
    obtain ⟨hmem, hother, hid⟩ := volumeIn_eq_ok hfind
    have heq : other = v := eq_of_key_eq hsound.volumes hmem hv hid
    exact absurd (heq ▸ hother.symm) hns

theorem updateVolume_absent {now : Timestamp} {params : RequestParams} {change : Volume → Volume}
    {e : ClientError} (h : inv.volumeIn ns id = .error e) :
    inv.updateVolume now ns id params change = (.error e, inv.draw) := by
  have hdraw : inv.draw.volumeIn ns id = .error e := h
  simp only [updateVolume, hdraw]

/-- A call that addresses a volume where there is none fails for this reason, unless it fails before
because the node to attach it to does not exist. -/
theorem perform_absent (now : Timestamp) {call : Call} {e : ClientError}
    (h : inv.volumeIn ns id = .error e) (hvolume : call.volume? = some (ns, id)) :
    (inv.perform now call).1 = .error (.client e) ∨
      ∃ node params, call = .attachVolume ns id node params ∧ inv.node? node = none ∧
        (inv.perform now call).1 = .error (.client (.notFound .node node.text)) := by
  cases call <;> cases hvolume
  case getVolume =>
    refine Or.inl ?_
    simp only [perform, ofClient, h]
    rfl
  case resizeVolume =>
    refine Or.inl ?_
    simp only [perform, resizeVolume, h]
  case deleteVolume =>
    refine Or.inl ?_
    simp only [perform, deleteVolume, h]
    rfl
  case attachVolume node params =>
    rcases inv.attachVolume_cases now ns id node params with ⟨hnode, heq⟩ | ⟨_, heq⟩
    · refine Or.inr ⟨node, params, rfl, ?_, ?_⟩
      · rw [node?, List.find?_eq_none]
        intro n hn hid
        exact hnode n hn (of_decide_eq_true hid)
      · simp only [perform, heq]
        rfl
    · refine Or.inl ?_
      simp only [perform, heq, updateVolume_absent h]
      rfl
  all_goals
    refine Or.inl ?_
    simp only [perform, setReplicas, detachVolume, updateVolume_absent h]
    rfl

end Inventory

namespace Cluster

/-- Two states of a cluster store the same, whatever was drawn or recorded in between. -/
def StoresSame (before after : Cluster) : Prop :=
  after.inventory.namespaces = before.inventory.namespaces ∧
    after.inventory.volumes = before.inventory.volumes ∧
    after.inventory.nodes = before.inventory.nodes ∧
    after.inventory.users = before.inventory.users ∧
    after.inventory.policyGroups = before.inventory.policyGroups ∧
    after.inventory.licence = before.inventory.licence

theorem storesSame_of_spares {before after : Cluster}
    (h : before.inventory.Spares after.inventory) : before.StoresSame after := by
  rw [StoresSame, h.eq]
  exact ⟨rfl, rfl, rfl, rfl, rfl, rfl⟩

theorem storesSame_of_error {cluster : Cluster} {now : Timestamp} {contexts : Contexts} {ctx : Nat}
    {call : Call} {e : CallFailure}
    (h : (cluster.callUnder now contexts ctx call).1 = .error e) :
    cluster.StoresSame (cluster.callUnder now contexts ctx call).2 := by
  apply storesSame_of_spares
  rcases cluster.callUnder_cases now contexts ctx call with ⟨e', _, hafter⟩ | ⟨hanswer, hafter⟩
  · rw [hafter]
    exact Inventory.Spares.refl _
  · rw [hafter]
    exact Inventory.perform_error (hanswer ▸ h)

/-- A call that fails leaves everything that is stored as it was. In particular a call that may start,
that no failure was told for, and that addresses a volume through a namespace other than its own does not
find the volume, or before it the node to attach it to, and leaves everything as it was. -/
theorem failed_call_atomic (cluster : Cluster) (hreach : cluster.Reachable) (now : Timestamp)
    (contexts : Contexts) (ctx : Nat) (call : Call) :
    (∀ e, (cluster.callUnder now contexts ctx call).1 = .error e →
      cluster.StoresSame (cluster.callUnder now contexts ctx call).2) ∧
    ∀ (ns : NamespaceId) (v : Volume), v ∈ cluster.inventory.volumes → ns ≠ v.namespaceId →
      call.volume? = some (ns, v.id) → contexts.mayStart ctx = .ok () →
      cluster.failure? call.method = none →
      ((cluster.callUnder now contexts ctx call).1 =
          .error (.client (.notFound .volume v.id.text)) ∨
        ∃ node params, call = .attachVolume ns v.id node params ∧
          cluster.inventory.node? node = none ∧
          (cluster.callUnder now contexts ctx call).1 =
            .error (.client (.notFound .node node.text))) ∧
      cluster.StoresSame (cluster.callUnder now contexts ctx call).2 := by
  refine ⟨fun e h => storesSame_of_error h, ?_⟩
  intro ns v hv hns hvolume hctx hfail
  obtain ⟨hanswer, _⟩ := callUnder_live hctx hfail
  have habsent := Inventory.volumeIn_other_namespace hreach.sound hv hns
  rcases Inventory.perform_absent now habsent hvolume with
    herror | ⟨node, params, hcall, hnode, herror⟩
  · have h := hanswer.trans herror
    exact ⟨Or.inl h, storesSame_of_error h⟩
  · have h := hanswer.trans herror
    exact ⟨Or.inr ⟨node, params, hcall, hnode, h⟩, storesSame_of_error h⟩

/-- A history that leaves two namespaces and a volume in the first of them. -/
def twoNamespaces : List Event :=
  [⟨.epoch, .addNamespace "default"⟩, ⟨.epoch, .addNamespace "other"⟩,
    ⟨.epoch, .addVolume ⟨"ns-1"⟩ "data" 1024 .empty⟩]

/-- A volume that is to be shrunk, and one that is detached through another namespace. -/
theorem failed_call_atomic_shrunk_and_elsewhere :
    ((empty "admin" "secret").run twoNamespaces).StoresSame
      (((empty "admin" "secret").run twoNamespaces).callUnder .epoch .start 0
        (.resizeVolume ⟨"ns-1"⟩ ⟨"vol-5"⟩ 512 .empty)).2 ∧
    ((empty "admin" "secret").run twoNamespaces).StoresSame
      (((empty "admin" "secret").run twoNamespaces).callUnder .epoch .start 0
        (.detachVolume ⟨"ns-3"⟩ ⟨"vol-5"⟩ .empty)).2 := by
  have hreach : ((empty "admin" "secret").run twoNamespaces).Reachable := ⟨_, _, _, rfl⟩
  refine ⟨(failed_call_atomic _ hreach .epoch .start 0 _).1 _ rfl, ?_⟩
  obtain ⟨v, hv, hid, hns⟩ : ∃ v ∈ ((empty "admin" "secret").run twoNamespaces).inventory.volumes,
      v.id = ⟨"vol-5"⟩ ∧ (⟨"ns-3"⟩ : NamespaceId) ≠ v.namespaceId := by decide
  exact ((failed_call_atomic _ hreach .epoch .start 0 _).2 ⟨"ns-3"⟩ v hv hns
    (by rw [hid]; rfl) rfl rfl).2

end Cluster

end BlockStorage
