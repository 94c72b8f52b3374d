import BlockStorage.Proofs.Inventory.Operations

/-!
Names are unique as long as nothing is set up under a name that is in use.

A call that creates something refuses a name that is in use, and no change touches a name; so only setting
a cluster up by hand can repeat one. Where names are unique, looking a resource up by its name finds the
one that its identifier finds.
-/

namespace BlockStorage

namespace Inventory

/-- The name of a volume together with the namespace that it is a name in. -/
def scopedName (v : Volume) : NamespaceId × String := (v.namespaceId, v.name)

/-- Names are unique: those of volumes within their namespace, all others within their kind. -/
structure NamesDiffer (inv : Inventory) : Prop where
  namespaces : (inv.namespaces.map Namespace.name).Nodup
  volumes : (inv.volumes.map scopedName).Nodup
  nodes : (inv.nodes.map Node.name).Nodup
  users : (inv.users.map User.username).Nodup
  policyGroups : (inv.policyGroups.map PolicyGroup.name).Nodup

theorem namesDiffer_empty (username password : String) : (empty username password).NamesDiffer :=
  ⟨List.nodup_nil, List.nodup_nil, List.nodup_nil, List.nodup_nil, List.nodup_nil⟩

/-! ### Lists of records -/

section

variable {α κ : Type} {key : α → κ} {items : List α} {p : α → Bool} {change : α → α}

/-- A change that keeps the key of the item that it is made to keeps all keys. -/
theorem map_changeFirst (h : ∀ a, items.find? p = some a → key (change a) = key a) :
    (changeFirst p change items).map key = items.map key := by
  induction items with
  | nil => rfl
  | cons a as ih =>
    rw [changeFirst]
    by_cases ha : p a = true
    · rw [if_pos ha, List.map_cons, List.map_cons, h a (List.find?_cons_of_pos ha)]
    · rw [if_neg ha, List.map_cons, List.map_cons, ih]
      intro b hb
      exact h b ((List.find?_cons_of_neg ha).trans hb)

theorem removeFirst_sublist (p : α → Bool) (items : List α) : (removeFirst p items).Sublist items := by
  induction items with
  | nil => exact List.Sublist.slnil
  | cons a as ih =>
    rw [removeFirst]
    split
    · exact List.sublist_cons_self a as
    · exact ih.cons_cons a

theorem findOr_of_find? {kind : ResourceKind} {reference : String} {item : α}
    (h : items.find? p = some item) : findOr kind reference p items = .ok item := by
  rw [findOr, h]

/-- The one item that meets a condition is found by it. -/
theorem findOr_of_unique {kind : ResourceKind} {reference : String} {item : α}
    (hmem : item ∈ items) (hp : p item = true) (hunique : ∀ a ∈ items, p a = true → a = item) :
    findOr kind reference p items = .ok item := by
  refine findOr_of_find? ?_
  cases hfind : items.find? p with
  | none => exact absurd hp (List.find?_eq_none.mp hfind item hmem)
  | some a => rw [hunique a (List.mem_of_find?_eq_some hfind) (List.find?_some hfind)]

/-- An item is found by a key that is unique. -/
theorem findOr_of_key [DecidableEq κ] {kind : ResourceKind} {reference : String} {item : α}
    (h : (items.map key).Nodup) (hmem : item ∈ items) :
    findOr kind reference (fun a => key a = key item) items = .ok item :=
  findOr_of_unique hmem (decide_eq_true rfl) fun _ ha hkey =>
    eq_of_key_eq h ha hmem (of_decide_eq_true hkey)

end

/-! ### Volumes within their namespace -/

/-- The volumes of a namespace. -/
def volumesOf (inv : Inventory) (ns : NamespaceId) : List Volume :=
  inv.volumes.filter fun v => v.namespaceId = ns

theorem NamesDiffer.volume_of_name {inv : Inventory} (h : inv.NamesDiffer) {v : Volume}
    (hv : v ∈ inv.volumes) :
    findOr .volume v.name (fun a => a.namespaceId = v.namespaceId && a.name = v.name) inv.volumes =
      .ok v := by
  refine findOr_of_unique hv (by simp) fun a ha hname => ?_
  have hscoped : scopedName a = scopedName v := by simpa [scopedName] using hname
  exact eq_of_key_eq h.volumes ha hv hscoped

theorem Sound.volumeIn_of_mem {inv : Inventory} (h : inv.Sound) {v : Volume} (hv : v ∈ inv.volumes) :
    inv.volumeIn v.namespaceId v.id = .ok v := by
  refine findOr_of_unique hv (by simp) fun a ha hid => ?_
  have hid : a.namespaceId = v.namespaceId ∧ a.id = v.id := by simpa using hid
  exact eq_of_key_eq h.volumes ha hv hid.2

/-! ### Operations -/

namespace NamesDiffer

variable {inv : Inventory} {now : Timestamp} {params : RequestParams}

theorem draw (h : inv.NamesDiffer) : inv.draw.NamesDiffer :=
  ⟨h.namespaces, h.volumes, h.nodes, h.users, h.policyGroups⟩

theorem addNamespace (h : inv.NamesDiffer) {name : String} (hnew : ∀ n ∈ inv.namespaces, n.name ≠ name) :
    (inv.addNamespace now name).2.NamesDiffer :=
  ⟨nodup_map_concat h.namespaces hnew, h.volumes, h.nodes, h.users, h.policyGroups⟩

theorem addVolume (h : inv.NamesDiffer) {ns : NamespaceId} {name : String} {sizeBytes : UInt64}
    {labels : Labels} (hnew : ∀ v ∈ inv.volumes, v.namespaceId = ns → v.name ≠ name) :
    (inv.addVolume now ns name sizeBytes labels).2.NamesDiffer := by
  refine ⟨h.namespaces, nodup_map_concat h.volumes ?_, h.nodes, h.users, h.policyGroups⟩
  intro v hv hname
  obtain ⟨hns, hname⟩ := Prod.mk.inj hname
  exact hnew v hv hns hname

theorem addNode (h : inv.NamesDiffer) {name : String} {labels : Labels}
    (hnew : ∀ n ∈ inv.nodes, n.name ≠ name) : (inv.addNode now name labels).2.NamesDiffer :=
  ⟨h.namespaces, h.volumes, nodup_map_concat h.nodes hnew, h.users, h.policyGroups⟩

theorem addUser (h : inv.NamesDiffer) {username : String} {isAdmin : Bool}
    (hnew : ∀ u ∈ inv.users, u.username ≠ username) :
    (inv.addUser now username isAdmin).2.NamesDiffer :=
  ⟨h.namespaces, h.volumes, h.nodes, nodup_map_concat h.users hnew, h.policyGroups⟩

theorem addPolicyGroup (h : inv.NamesDiffer) {name : String}
    (hnew : ∀ g ∈ inv.policyGroups, g.name ≠ name) : (inv.addPolicyGroup now name).2.NamesDiffer :=
  ⟨h.namespaces, h.volumes, h.nodes, h.users, nodup_map_concat h.policyGroups hnew⟩

theorem updateVolume (h : inv.NamesDiffer) {ns : NamespaceId} {id : VolumeId}
    {change : Volume → Volume} (hname : ∀ v, scopedName (change v) = scopedName v) :
    (inv.updateVolume now ns id params change).2.NamesDiffer := by
  rcases inv.updateVolume_cases now ns id params change with ⟨e, heq⟩ | ⟨old, hold, _, heq⟩
  · rw [heq]
    exact h.draw
  rw [heq]
  refine ⟨h.namespaces, ?_, h.nodes, h.users, h.policyGroups⟩
  have hsame : (changeFirst (fun v => v.namespaceId = ns && v.id = id)
      (fun _ => inv.revised now change old) inv.volumes).map scopedName =
        inv.volumes.map scopedName := by
    refine map_changeFirst fun v hfind => ?_
    obtain rfl : old = v := Except.ok.inj (hold.symm.trans (findOr_of_find? hfind))
    exact hname old
  exact hsame ▸ h.volumes

theorem resizeVolume (h : inv.NamesDiffer) {ns : NamespaceId} {id : VolumeId} {sizeBytes : UInt64} :
    (inv.resizeVolume now ns id sizeBytes params).2.NamesDiffer := by
  rcases inv.resizeVolume_cases now ns id sizeBytes params with ⟨e, heq⟩ | ⟨_, _, _, _, heq⟩
  · exact heq ▸ h
  · rw [heq]
    exact h.updateVolume fun _ => rfl

theorem attachVolume (h : inv.NamesDiffer) {ns : NamespaceId} {id : VolumeId} {node : NodeId} :
    (inv.attachVolume now ns id node params).2.NamesDiffer := by
  rcases inv.attachVolume_cases now ns id node params with ⟨_, heq⟩ | ⟨_, heq⟩
  · exact heq ▸ h
  · rw [heq]
    exact h.updateVolume fun _ => rfl

theorem deleteVolume (h : inv.NamesDiffer) {ns : NamespaceId} {id : VolumeId} :
    (inv.deleteVolume ns id params).2.NamesDiffer := by
  rcases inv.deleteVolume_cases ns id params with ⟨e, heq⟩ | ⟨_, _, _, heq⟩
  · exact heq ▸ h
  · rw [heq]
    exact ⟨h.namespaces, nodup_map_filter h.volumes, h.nodes, h.users, h.policyGroups⟩

theorem createVolume (h : inv.NamesDiffer) {ns : NamespaceId} {spec : VolumeSpec} :
    (inv.createVolume now ns spec params).2.NamesDiffer := by
  rcases inv.createVolume_cases now ns spec params with ⟨e, heq⟩ | ⟨_, hname, _, heq⟩
  · exact heq ▸ h
  · rw [heq]
    exact (h.addVolume hname).updateVolume fun _ => rfl

theorem createNamespace (h : inv.NamesDiffer) {name : String} {labels : Labels} :
    (inv.createNamespace now name labels).2.NamesDiffer := by
  rcases inv.createNamespace_cases now name labels with ⟨e, heq⟩ | ⟨hname, heq⟩
  · exact heq ▸ h
  · rw [heq]
    have hadd : (inv.addNamespace now name).2.NamesDiffer := h.addNamespace hname
    have hsame : (changeFirst (fun n => n.id = (inv.addNamespace now name).1.id)
        (fun n => { n with labels := labels }) (inv.addNamespace now name).2.namespaces).map
          Namespace.name = (inv.addNamespace now name).2.namespaces.map Namespace.name :=
      map_changeFirst fun _ _ => rfl
    exact ⟨hsame ▸ hadd.namespaces, hadd.volumes, hadd.nodes, hadd.users, hadd.policyGroups⟩

theorem deleteNamespace (h : inv.NamesDiffer) {id : NamespaceId} :
    (inv.deleteNamespace id params).2.NamesDiffer := by
  rcases inv.deleteNamespace_cases id params with ⟨e, heq⟩ | ⟨_, _, _, _, heq⟩
  · exact heq ▸ h
  · rw [heq]
    exact ⟨h.namespaces.sublist ((removeFirst_sublist _ _).map _), h.volumes, h.nodes, h.users,
      h.policyGroups⟩

theorem setNodeCordoned (hsound : inv.Sound) (h : inv.NamesDiffer) {id : NodeId} {cordoned : Bool} :
    (inv.setNodeCordoned now id cordoned params).2.NamesDiffer := by
  rcases inv.setNodeCordoned_cases now id cordoned params with ⟨e, heq⟩ | ⟨old, hmem, rfl, _, heq⟩
  · rw [heq]
    exact h.draw
  rw [heq]
  refine ⟨h.namespaces, h.volumes, ?_, h.users, h.policyGroups⟩
  have hsame : (changeFirst (fun n => n.id = old.id) (fun _ => inv.revisedNode now cordoned old)
      inv.nodes).map Node.name = inv.nodes.map Node.name := by
    refine map_changeFirst fun n hfind => ?_
    have hid : n.id = old.id := by simpa using List.find?_some hfind
    rw [eq_of_key_eq hsound.nodes (List.mem_of_find?_eq_some hfind) hmem hid]
    rfl
  exact hsame ▸ h.nodes

/-- No call repeats a name. -/
theorem perform (hsound : inv.Sound) (h : inv.NamesDiffer) (now : Timestamp) (call : Call) :
    (inv.perform now call).2.NamesDiffer := by
  cases call with
  | createNamespace name labels => exact h.createNamespace
  | deleteNamespace id params => exact h.deleteNamespace
  | createVolume ns spec params => exact h.createVolume
  | resizeVolume ns id sizeBytes params => exact h.resizeVolume
  | setReplicas ns id count params => exact h.updateVolume fun _ => rfl
  | setDescription ns id text params => exact h.updateVolume fun _ => rfl
  | updateNfsExports ns id exports params => exact h.updateVolume fun _ => rfl
  | attachVolume ns id node params => exact h.attachVolume
  | detachVolume ns id params => exact h.updateVolume fun _ => rfl
  | deleteVolume ns id params => exact h.deleteVolume
  | setNodeCordoned id cordoned params => exact h.setNodeCordoned hsound
  | _ =>
    rw [inv.perform_reads now rfl]
    exact h

end NamesDiffer

end Inventory

end BlockStorage
