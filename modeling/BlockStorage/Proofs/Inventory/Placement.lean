import BlockStorage.Proofs.Inventory.Effect
import BlockStorage.Proofs.Inventory.Names

/-!
Where volumes are: the node that one is attached on, and the nodes of its replicas.

What a volume says of nodes is about nodes that are stored, and its fields agree with each other. Nodes are
never removed, so a volume that is left alone stays placed; an update places its volume anew, and replicas
come to be on different nodes because the identifiers of nodes are unique.
-/

namespace BlockStorage

/-- The identifier of a replica of a volume, by its number. -/
def replicaId (volume : VolumeId) (i : Nat) : String := volume.text ++ "-r" ++ toString i

/-- A volume is placed on these nodes: it is attached on one exactly if its attachment says so, its replicas
are numbered from zero under identifiers of their own, and each is on no node or on one that no other
replica of the volume is on. -/
structure Volume.Placed (nodes : List NodeId) (v : Volume) : Prop where
  host : v.attachedOn.isSome = true ↔ v.attachmentType = .host
  detached : v.attachedOn = none ↔ v.attachmentType = .detached
  attached : ∀ node, v.attachedOn = some node → node ∈ nodes
  numbered : v.replicas.map (·.id) = (List.range v.replicas.length).map (replicaId v.id)
  distinct : (v.replicas.map (·.id)).Nodup
  placed : ∀ d ∈ v.replicas, d.nodeId = .empty ∨ d.nodeId ∈ nodes
  apart : v.replicas.Pairwise fun d e => d.nodeId = e.nodeId → d.nodeId = .empty

/-! ### Replicas that are placed -/

theorem replicaId_injective (volume : VolumeId) : Function.Injective (replicaId volume) := by
  intro i j h
  have htext : toString i = toString j := by simpa [replicaId] using h
  rw [Nat.toString_eq_repr, Nat.toString_eq_repr] at htext
  exact Nat.repr_injective htext

theorem nodup_replicaIds (volume : VolumeId) (count : Nat) :
    ((List.range count).map (replicaId volume)).Nodup :=
  List.nodup_range.map (replicaId_injective volume)

namespace Inventory

section

variable {volume : VolumeId} {nodes : List NodeId} {count i j : Nat}

@[simp] theorem length_placeReplicas : (placeReplicas volume nodes count).length = count := by
  simp [placeReplicas]

theorem ids_placeReplicas :
    (placeReplicas volume nodes count).map (·.id) = (List.range count).map (replicaId volume) := by
  simp [placeReplicas, replicaId, Function.comp_def]

/-- The node of a replica is the one of its number, or none if there are not so many. -/
theorem getD_eq_empty_or_mem (nodes : List NodeId) (i : Nat) :
    nodes.getD i .empty = .empty ∨ nodes.getD i .empty ∈ nodes := by
  rcases Nat.lt_or_ge i nodes.length with hi | hi
  · rw [List.getD_eq_getElem nodes .empty hi]
    exact .inr (List.getElem_mem hi)
  · exact .inl (List.getD_eq_default nodes .empty hi)

theorem placed_placeReplicas :
    ∀ d ∈ placeReplicas volume nodes count, d.nodeId = .empty ∨ d.nodeId ∈ nodes := by
  intro d hd
  obtain ⟨i, _, rfl⟩ := List.mem_map.mp hd
  exact getD_eq_empty_or_mem nodes i

/-- Two numbers have one node only if there is none for either. -/
theorem getD_apart (hnodes : nodes.Nodup) (hij : i < j)
    (h : nodes.getD i .empty = nodes.getD j .empty) : nodes.getD i .empty = .empty := by
  rcases Nat.lt_or_ge j nodes.length with hj | hj
  · have hi : i < nodes.length := hij.trans hj
    rw [List.getD_eq_getElem nodes .empty hi, List.getD_eq_getElem nodes .empty hj] at h
    exact absurd (hnodes.getElem_inj_iff.mp h) (Nat.ne_of_lt hij)
  · rw [h]
    exact List.getD_eq_default nodes .empty hj

theorem apart_placeReplicas (hnodes : nodes.Nodup) :
    (placeReplicas volume nodes count).Pairwise
      fun d e => d.nodeId = e.nodeId → d.nodeId = .empty := by
  rw [placeReplicas, List.pairwise_map]
  exact List.pairwise_lt_range.imp fun hij => getD_apart hnodes hij

/-- A number has a node exactly if there are more nodes than that. -/
theorem getD_mem_iff (hnodes : .empty ∉ nodes) : nodes.getD i .empty ∈ nodes ↔ i < nodes.length := by
  constructor
  · intro h
    by_contra hi
    rw [List.getD_eq_default nodes .empty (Nat.not_lt.mp hi)] at h
    exact hnodes h
  · intro hi
    rw [List.getD_eq_getElem nodes .empty hi]
    exact List.getElem_mem hi

/-- As many replicas have a node as there are nodes for them. -/
theorem countP_placeReplicas (hnodes : .empty ∉ nodes) :
    (placeReplicas volume nodes count).countP (fun d => d.nodeId ∈ nodes) =
      min count nodes.length := by
  induction count with
  | zero => simp [placeReplicas]
  | succ count ih =>
    rw [placeReplicas] at ih ⊢
    rw [List.range_succ, List.map_append, List.countP_append, ih]
    by_cases hcount : count < nodes.length
    · have hmem := (getD_mem_iff hnodes).mpr hcount
      simp only [List.map_cons, List.map_nil, List.countP_singleton, hmem, decide_true, if_true]
      omega
    · have hmem : nodes.getD count .empty ∉ nodes := fun h => hcount ((getD_mem_iff hnodes).mp h)
      simp only [List.map_cons, List.map_nil, List.countP_singleton, hmem, decide_false,
        Bool.false_eq_true, if_false]
      omega

end

end Inventory

/-! ### One volume -/

namespace Volume.Placed

variable {nodes more : List NodeId} {v : Volume}

/-- A volume that was never attached and has no replicas is placed wherever it is. -/
theorem of_new (hattached : v.attachedOn = none) (htype : v.attachmentType = .detached)
    (hreplicas : v.replicas = []) : v.Placed nodes where
  host := by simp [hattached, htype]
  detached := by simp [hattached, htype]
  attached := by simp [hattached]
  numbered := by simp [hreplicas]
  distinct := by simp [hreplicas]
  placed := by simp [hreplicas]
  apart := by simp [hreplicas]

/-- More nodes do not move a volume. -/
theorem mono (h : v.Placed nodes) (hmore : nodes ⊆ more) : v.Placed more :=
  { h with
    attached := fun node hnode => hmore (h.attached node hnode)
    placed := fun d hd => (h.placed d hd).imp_right fun hnode => hmore hnode }

/-- An update leaves its volume placed. -/
theorem revise {inv : Inventory} {c : Call} (hnodes : inv.nodeIds.Nodup) (h : v.Placed inv.nodeIds)
    (hpermitted : inv.Permits v c) : (c.revise inv.nodeIds v).Placed inv.nodeIds := by
  cases c with
  | setReplicas ns id count params =>
    have hids : (Inventory.placeReplicas v.id inv.nodeIds count.toNat).map (·.id) =
        (List.range count.toNat).map (replicaId v.id) := Inventory.ids_placeReplicas
    refine { h with
      numbered := ?_
      distinct := ?_
      placed := Inventory.placed_placeReplicas
      apart := Inventory.apart_placeReplicas hnodes }
    · simpa [Call.revise] using hids
    · exact hids ▸ nodup_replicaIds v.id count.toNat
  | attachVolume ns id node params =>
    have hnode : node ∈ inv.nodeIds := List.mem_map.mpr hpermitted
    refine { h with host := ?_, detached := ?_, attached := ?_ }
    · simp [Call.revise]
    · simp [Call.revise]
    · intro other hother
      obtain rfl := Option.some.inj hother
      exact hnode
  | detachVolume ns id params =>
    refine { h with host := ?_, detached := ?_, attached := ?_ } <;> simp [Call.revise]
  | _ => exact { h with }

end Volume.Placed

/-! ### All volumes -/

namespace Inventory

/-- Every volume is placed on nodes that are stored. -/
def Placed (inv : Inventory) : Prop := ∀ v ∈ inv.volumes, v.Placed inv.nodeIds

variable {inv after : Inventory} {now : Timestamp} {c : Call} {a : c.Answer}

theorem Placed.empty (username password : String) : (Inventory.empty username password).Placed := by
  intro v hv
  cases hv

/-- A node that is stored has an identifier. -/
theorem Sound.empty_notMem_nodeIds (h : inv.Sound) : .empty ∉ inv.nodeIds := by
  intro hmem
  obtain ⟨n, hn, hid⟩ := List.mem_map.mp hmem
  exact (h.keys _ (node_mem_records.mpr hn)).ne_empty (congrArg Ident.text hid)

/-- Volumes stay placed where none is new and no node is gone. -/
theorem Placed.of_subset (h : inv.Placed) (hvolumes : after.volumes ⊆ inv.volumes)
    (hnodes : inv.nodeIds ⊆ after.nodeIds) : after.Placed :=
  fun v hv => (h v (hvolumes hv)).mono hnodes

/-- Volumes stay placed where a new one is and no node is gone. -/
theorem Placed.concat {new : Volume} (h : inv.Placed) (hnew : new.Placed after.nodeIds)
    (hvolumes : after.volumes = inv.volumes ++ [new]) (hnodes : inv.nodeIds ⊆ after.nodeIds) :
    after.Placed := by
  intro v hv
  rw [hvolumes] at hv
  rcases List.mem_append.mp hv with hv | hv
  · exact (h v hv).mono hnodes
  · obtain rfl := List.mem_singleton.mp hv
    exact hnew

theorem Placed.spares (h : inv.Placed) (hspares : inv.Spares after) : after.Placed := by
  rw [hspares.eq]
  exact h

/-- An update that is admitted leaves all volumes placed. -/
theorem Placed.updated (hsound : inv.Sound) (h : inv.Placed) {u : VolumeUpdate} {old : Volume}
    (hold : inv.Admits c u old) : (inv.updated now c old).Placed := by
  obtain ⟨hmem, _⟩ := volumeIn_eq_ok hold.found
  have hrevised := (h old hmem).revise hsound.nodes hold.permitted
  intro v hv
  obtain ⟨w, hw, rfl⟩ := List.mem_map.mp hv
  split
  · exact { hrevised with }
  · exact h w hw

/-- The volume that is created next is placed. -/
theorem placed_createdVolume (inv : Inventory) (now : Timestamp) (ns : NamespaceId) (spec : VolumeSpec)
    (nodes : List NodeId) : (inv.createdVolume now ns spec).Placed nodes :=
  .of_new rfl rfl rfl

/-- A change that succeeds leaves all volumes placed. -/
theorem Placed.change (hsound : inv.Sound) (h : inv.Placed) (hmutating : c.method.isMutating = true)
    (hperform : inv.perform now c = (.ok a, after)) : after.Placed := by
  cases perform_effect hsound hmutating hperform with
  | namespaceCreated made rest | namespaceDeleted addressed dropped rest =>
    rw [rest]
    exact h
  | @volumeCreated ns spec params new housed made rest =>
    have hadded := createVolume_added hsound (congrArg Prod.fst hperform)
    obtain ⟨-, rfl⟩ := Prod.mk.inj (hperform.symm.trans hadded)
    exact h.concat (inv.placed_createdVolume now ns spec _) rfl (List.Subset.refl _)
  | volumeUpdated update addressed made kept exchanged rest reported =>
    obtain ⟨old, hold, rfl, -⟩ := updated_of_perform hsound update hperform
    exact h.updated hsound hold
  | volumeDeleted addressed dropped rest =>
    rw [rest]
    exact h.of_subset (fun v hv => dropped.mem_before hv) (List.Subset.refl _)
  | nodeCordoned addressed made exchanged rest =>
    have hids : after.nodeIds = inv.nodeIds := exchanged.map_eq (made ▸ rfl)
    rw [rest] at hids ⊢
    exact h.of_subset (List.Subset.refl _) (hids ▸ List.Subset.refl _)

/-- Every call leaves all volumes placed. -/
theorem Placed.perform (hsound : inv.Sound) (h : inv.Placed) (now : Timestamp) (c : Call) :
    (inv.perform now c).2.Placed := by
  cases hanswer : (inv.perform now c).1 with
  | error e => exact h.spares (perform_error hanswer)
  | ok a =>
    by_cases hmutating : c.method.isMutating = true
    · exact h.change hsound hmutating (Prod.ext hanswer rfl)
    · rw [inv.perform_reads now (Bool.not_eq_true _ ▸ hmutating)]
      exact h

/-- The volume that an update leaves is found where the old one was. -/
theorem volumeIn_updated_self (hsound : inv.Sound) (now : Timestamp) {u : VolumeUpdate} {old : Volume}
    (hc : c.update? = some u) (hold : inv.Admits c u old) :
    (inv.updated now c old).volumeIn u.ns u.id = .ok (inv.updatedVolume now c old) := by
  obtain ⟨hmem, hns, hid⟩ := volumeIn_eq_ok hold.found
  have hin : inv.updatedVolume now c old ∈ (inv.updated now c old).volumes := by
    have hsame : (inv.updatedVolume now c old).id = old.id := updatedVolume_id
    obtain ⟨_, _, _, hvolumes⟩ := replaceIn_split hsound.volumes hmem hsame
    change _ ∈ replaceIn Volume.id _ inv.volumes
    rw [hvolumes]
    exact List.mem_append_right _ List.mem_cons_self
  have hfound := (hsound.updated now hc hold).volumeIn_of_mem hin
  have hnew_ns : (inv.updatedVolume now c old).namespaceId = u.ns := (c.revise_namespaceId _ _).trans hns
  rwa [hnew_ns, updatedVolume_id, hid] at hfound

/-- Giving a volume replicas succeeds only with as many as were asked for, on as many nodes as there
are. -/
theorem setReplicas_placed (hsound : inv.Sound) {ns : NamespaceId} {id : VolumeId} {count : UInt32}
    {params : RequestParams} {a : Submission Volume}
    (h : inv.perform now (.setReplicas ns id count params) = (.ok a, after)) :
    ∃ v, after.volumeIn ns id = .ok v ∧ v.replicas.length = count.toNat ∧
      (v.replicas.countP fun d => d.nodeId ∈ after.nodeIds) = min count.toNat after.nodes.length := by
  obtain ⟨old, hold, rfl, -⟩ := updated_of_perform hsound rfl h
  refine ⟨_, volumeIn_updated_self hsound now rfl hold, length_placeReplicas, ?_⟩
  have hcount : (placeReplicas old.id inv.nodeIds count.toNat).countP (fun d => d.nodeId ∈ inv.nodeIds) =
      min count.toNat inv.nodeIds.length := countP_placeReplicas hsound.empty_notMem_nodeIds
  rwa [nodeIds, List.length_map] at hcount

end Inventory

end BlockStorage
