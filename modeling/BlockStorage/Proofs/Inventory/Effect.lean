import BlockStorage.Proofs.Inventory.Update

/-!
What a change that succeeds does, as a caller can tell.

One listing has one item more at its end, one item less, or one item changed where it stood; every other
listing, every other item and the licence are as they were, and only the counter of tokens may have gone
on. The item is the one that the change addresses, and only the fields that the change is about are new.
-/

namespace BlockStorage

/-- One item of a listing was changed where it stood. -/
def Exchanged {α : Type} (old new : α) (before after : List α) : Prop :=
  ∃ front back, before = front ++ old :: back ∧ after = front ++ new :: back

/-- One item of a listing was dropped, and the others stand as they stood. -/
def Dropped {α : Type} (old : α) (before after : List α) : Prop :=
  ∃ front back, before = front ++ old :: back ∧ after = front ++ back

theorem Exchanged.mem {α : Type} {old new : α} {before after : List α}
    (h : Exchanged old new before after) : old ∈ before ∧ new ∈ after := by
  obtain ⟨front, back, rfl, rfl⟩ := h
  simp

theorem Exchanged.mem_before {α : Type} {old new a : α} {before after : List α}
    (h : Exchanged old new before after) (ha : a ∈ after) : a = new ∨ a ∈ before := by
  obtain ⟨front, back, rfl, rfl⟩ := h
  simp at ha ⊢
  tauto

/-- A change that a function does not see leaves what it makes of the listing. -/
theorem Exchanged.map_eq {α β : Type} {f : α → β} {old new : α} {before after : List α}
    (h : Exchanged old new before after) (hf : f new = f old) : after.map f = before.map f := by
  obtain ⟨front, back, rfl, rfl⟩ := h
  simp [hf]

theorem Dropped.mem_before {α : Type} {old a : α} {before after : List α}
    (h : Dropped old before after) (ha : a ∈ after) : a ∈ before := by
  obtain ⟨front, back, rfl, rfl⟩ := h
  simp at ha ⊢
  tauto

theorem Dropped.mem_after {α : Type} {old a : α} {before after : List α}
    (h : Dropped old before after) (ha : a ∈ before) : a = old ∨ a ∈ after := by
  obtain ⟨front, back, rfl, rfl⟩ := h
  simp at ha ⊢
  tauto

/-- The volume has the identity that another one had. -/
structure Volume.SameIdentity (new old : Volume) : Prop where
  id : new.id = old.id
  name : new.name = old.name
  namespaceId : new.namespaceId = old.namespaceId
  createdAt : new.createdAt = old.createdAt

namespace Inventory

/-- What a change that succeeds has made of an inventory, and what it answers. -/
inductive Effect (inv : Inventory) (now : Timestamp) (after : Inventory) : (c : Call) → c.Answer → Prop
  | namespaceCreated {name : String} {labels : Labels} {new : Namespace}
      (made : new =
        { new with name := name, labels := labels, createdAt := now, updatedAt := now })
      (rest : after =
        { inv with namespaces := inv.namespaces ++ [new], drawn := after.drawn }) :
      Effect inv now after (.createNamespace name labels) new
  | namespaceDeleted {id : NamespaceId} {params : RequestParams} {old : Namespace}
      (addressed : old.id = id)
      (dropped : Dropped old inv.namespaces after.namespaces)
      (rest : after = { inv with namespaces := after.namespaces }) :
      Effect inv now after (.deleteNamespace id params) ()
  | volumeCreated {ns : NamespaceId} {spec : VolumeSpec} {params : RequestParams} {new : Volume}
      (housed : ∃ n ∈ inv.namespaces, n.id = ns)
      (made : new =
        { new with
          namespaceId := ns, name := spec.name, description := spec.description,
          filesystem := if spec.filesystem.isEmpty then "ext4" else spec.filesystem,
          sizeBytes := spec.sizeBytes, labels := spec.labels, createdAt := now, updatedAt := now })
      (rest : after = { inv with volumes := inv.volumes ++ [new], drawn := after.drawn }) :
      Effect inv now after (.createVolume ns spec params) (submission new params)
  | volumeUpdated {c : Call} {a : c.Answer} {u : VolumeUpdate} {old new : Volume}
      (update : c.update? = some u)
      (addressed : old.namespaceId = u.ns ∧ old.id = u.id)
      (made : new =
        { c.revise inv.nodeIds old with version := inv.nextVersion, updatedAt := now })
      (kept : new.SameIdentity old)
      (exchanged : Exchanged old new inv.volumes after.volumes)
      (rest : after = { inv with volumes := after.volumes, drawn := after.drawn })
      (reported : c.Reports new a) : Effect inv now after c a
  | volumeDeleted {ns : NamespaceId} {id : VolumeId} {params : RequestParams} {old : Volume}
      (addressed : old.namespaceId = ns ∧ old.id = id)
      (dropped : Dropped old inv.volumes after.volumes)
      (rest : after = { inv with volumes := after.volumes }) :
      Effect inv now after (.deleteVolume ns id params) (submission () params)
  | nodeCordoned {id : NodeId} {cordoned : Bool} {params : RequestParams} {old new : Node}
      (addressed : old.id = id)
      (made : new =
        { old with cordoned := cordoned, version := inv.nextVersion, updatedAt := now })
      (exchanged : Exchanged old new inv.nodes after.nodes)
      (rest : after = { inv with nodes := after.nodes, drawn := after.drawn }) :
      Effect inv now after (.setNodeCordoned id cordoned params) new

variable {inv after : Inventory} {now : Timestamp} {c : Call} {a : c.Answer}

/-- An update that succeeds has its effect. -/
theorem effect_of_update (hsound : inv.Sound) {u : VolumeUpdate} (hc : c.update? = some u)
    (h : inv.perform now c = (.ok a, after)) : inv.Effect now after c a := by
  obtain ⟨old, hold, rfl, hreported⟩ := updated_of_perform hsound hc h
  obtain ⟨hmem, haddressed⟩ := volumeIn_eq_ok hold.found
  have hid : (inv.updatedVolume now c old).id = old.id := updatedVolume_id
  exact .volumeUpdated hc haddressed rfl
    ⟨hid, c.revise_name _ _, c.revise_namespaceId _ _, c.revise_createdAt _ _⟩
    (replaceIn_split hsound.volumes hmem hid) rfl hreported

/-- Every change that succeeds has its effect. -/
theorem perform_effect (hsound : inv.Sound) (hmutating : c.method.isMutating = true)
    (h : inv.perform now c = (.ok a, after)) : inv.Effect now after c a := by
  have hok : (inv.perform now c).1 = .ok a := congrArg Prod.fst h
  cases c with
  | createNamespace name labels =>
    have heq := createNamespace_added hsound (ofClient_eq_ok hok)
    rw [perform, heq] at h
    obtain ⟨hanswer, rfl⟩ := Prod.mk.inj h
    obtain rfl := Except.ok.inj hanswer
    exact .namespaceCreated rfl rfl
  | deleteNamespace id params =>
    obtain ⟨old, hmem, rfl, _, heq⟩ := deleteNamespace_removed hsound (ofClient_eq_ok hok)
    rw [perform, heq] at h
    obtain ⟨hanswer, rfl⟩ := Prod.mk.inj h
    exact .namespaceDeleted rfl (filter_key_split hsound.namespaces hmem) rfl
  | createVolume ns spec params =>
    have heq := createVolume_added hsound hok
    rcases inv.createVolume_cases now ns spec params with ⟨e, hfail⟩ | ⟨hhoused, -, -, -⟩
    · rw [perform, hfail] at h
      cases h
    rw [perform, heq] at h
    obtain ⟨hanswer, rfl⟩ := Prod.mk.inj h
    obtain rfl := Except.ok.inj hanswer
    exact .volumeCreated hhoused rfl rfl
  | deleteVolume ns id params =>
    rcases inv.deleteVolume_cases ns id params with ⟨e, hfail⟩ | ⟨old, hold, -, heq⟩
    · rw [perform, hfail] at h
      cases h
    obtain ⟨hmem, rfl, rfl⟩ := volumeIn_eq_ok hold
    rw [perform, heq] at h
    obtain ⟨hanswer, rfl⟩ := Prod.mk.inj h
    obtain rfl := Except.ok.inj hanswer
    exact .volumeDeleted ⟨rfl, rfl⟩ (filter_key_split hsound.volumes hmem) rfl
  | setNodeCordoned id cordoned params =>
    obtain ⟨old, hmem, rfl, _, heq⟩ := setNodeCordoned_replaced hsound (ofClient_eq_ok hok)
    rw [perform, heq] at h
    obtain ⟨hanswer, rfl⟩ := Prod.mk.inj h
    obtain rfl := Except.ok.inj hanswer
    exact .nodeCordoned rfl rfl (replaceIn_split hsound.nodes hmem rfl) rfl
  | resizeVolume | setReplicas | setDescription | updateNfsExports | attachVolume | detachVolume =>
    exact effect_of_update hsound rfl h
  | _ => cases hmutating

end Inventory

end BlockStorage
