import BlockStorage.Proofs.Cluster.Capacity
import BlockStorage.Proofs.Cluster.Uniqueness
import BlockStorage.Proofs.Inventory.Effect

/-!
Which volumes have their namespace stored.

A volume is created in a namespace that is stored, and stays in it. But a namespace can be deleted while
volumes are in it, and they stay: they count as before, and no listing of a stored namespace shows them.
There is no other way for a volume to lose its namespace, and the namespace does not come back.
-/

namespace BlockStorage

namespace Inventory

/-- A namespace with the identifier is stored. -/
def HasNamespace (inv : Inventory) (ns : NamespaceId) : Prop := ∃ n ∈ inv.namespaces, n.id = ns

/-- A volume with the identifier is stored as one of the namespace, whether that is stored or not. -/
def HasVolume (inv : Inventory) (ns : NamespaceId) (id : VolumeId) : Prop :=
  ∃ v ∈ inv.volumes, v.namespaceId = ns ∧ v.id = id

/-- The listings of the stored namespaces show every volume once and nothing else, and so all bytes. -/
structure Accounted (inv : Inventory) : Prop where
  once : ∀ v ∈ inv.volumes, ∃! ns, ns ∈ inv.namespaces ∧ v ∈ inv.volumesOf ns.id
  all : (inv.namespaces.flatMap fun ns => inv.volumesOf ns.id).Perm inv.volumes
  bytes : (inv.namespaces.map fun ns => bytesOf (inv.volumesOf ns.id)).sum = inv.storedBytes

variable {inv after : Inventory} {now : Timestamp} {c : Call} {a : c.Answer} {ns : NamespaceId}
  {id : VolumeId} {v : Volume}

theorem mem_volumesOf : v ∈ inv.volumesOf ns ↔ v ∈ inv.volumes ∧ v.namespaceId = ns := by
  simp [volumesOf]

/-! ### Listings -/

theorem bytesOf_flatMap {α : Type} (f : α → List Volume) (items : List α) :
    bytesOf (items.flatMap f) = (items.map fun a => bytesOf (f a)).sum := by
  induction items with
  | nil => rfl
  | cons a as ih => rw [List.flatMap_cons, bytesOf_append, ih, List.map_cons, List.sum_cons]

/-- A volume is shown in the listing of its namespace and in no other. -/
theorem Sound.listed_once (h : inv.Sound) (hv : v ∈ inv.volumes)
    (hns : inv.HasNamespace v.namespaceId) :
    ∃! ns, ns ∈ inv.namespaces ∧ v ∈ inv.volumesOf ns.id := by
  obtain ⟨n, hn, hid⟩ := hns
  refine ⟨n, ⟨hn, mem_volumesOf.mpr ⟨hv, hid.symm⟩⟩, ?_⟩
  rintro other ⟨hother, hlisted⟩
  have hother_id := (mem_volumesOf.mp hlisted).2
  exact eq_of_key_eq h.namespaces hother hn (hother_id.symm.trans hid.symm)

/-- If every volume has its namespace, then the listings account for all of them. -/
theorem Sound.accounted (h : inv.Sound) (hall : ∀ v ∈ inv.volumes, inv.HasNamespace v.namespaceId) :
    inv.Accounted := by
  have hlistings : (inv.namespaces.flatMap fun ns => inv.volumesOf ns.id).Nodup := by
    rw [List.nodup_flatMap]
    refine ⟨fun ns _ => (h.volumes.of_map Volume.id).filter _, ?_⟩
    -- a volume of two listings would be of two namespaces
    refine (List.pairwise_map.mp h.namespaces).imp ?_
    intro n other hne v hv hother
    exact hne ((mem_volumesOf.mp hv).2.symm.trans (mem_volumesOf.mp hother).2)
  have hperm : (inv.namespaces.flatMap fun ns => inv.volumesOf ns.id).Perm inv.volumes := by
    rw [List.perm_ext_iff_of_nodup hlistings (h.volumes.of_map Volume.id)]
    intro v
    rw [List.mem_flatMap]
    constructor
    · rintro ⟨ns, _, hv⟩
      exact (mem_volumesOf.mp hv).1
    · intro hv
      obtain ⟨n, hn, hid⟩ := hall v hv
      exact ⟨n, hn, mem_volumesOf.mpr ⟨hv, hid.symm⟩⟩
  refine ⟨fun v hv => h.listed_once hv (hall v hv), hperm, ?_⟩
  rw [← bytesOf_flatMap]
  exact (hperm.map _).sum_eq

/-! ### What a change does to both -/

/-- A volume was there before a change, or the change put it into a namespace that is stored. -/
theorem Effect.volume_before (h : inv.Effect now after c a) (hv : after.HasVolume ns id) :
    inv.HasVolume ns id ∨ after.HasNamespace ns := by
  obtain ⟨v, hv, rfl, rfl⟩ := hv
  cases h with
  | namespaceCreated made rest | namespaceDeleted addressed dropped rest
  | nodeCordoned addressed made exchanged rest =>
    rw [rest] at hv
    exact .inl ⟨v, hv, rfl, rfl⟩
  | volumeCreated housed made rest =>
    rw [rest] at hv ⊢
    rcases List.mem_append.mp hv with hv | hv
    · exact .inl ⟨v, hv, rfl, rfl⟩
    · obtain rfl := List.mem_singleton.mp hv
      rw [made]
      exact .inr housed
  | volumeUpdated update addressed made kept exchanged rest reported =>
    rcases exchanged.mem_before hv with rfl | hv
    · exact .inl ⟨_, exchanged.mem.1, kept.namespaceId.symm, kept.id.symm⟩
    · exact .inl ⟨v, hv, rfl, rfl⟩
  | volumeDeleted addressed dropped rest =>
    exact .inl ⟨v, dropped.mem_before hv, rfl, rfl⟩

/-- A namespace stays unless it is the one that is deleted. -/
theorem Effect.namespace_after (h : inv.Effect now after c a) (hns : inv.HasNamespace ns) :
    after.HasNamespace ns ∨ ∃ params, c = .deleteNamespace ns params := by
  obtain ⟨n, hn, rfl⟩ := hns
  cases h with
  | namespaceCreated made rest =>
    rw [rest]
    exact .inl ⟨n, List.mem_append_left _ hn, rfl⟩
  | namespaceDeleted addressed dropped rest =>
    rcases dropped.mem_after hn with rfl | hn
    · exact .inr ⟨_, congrArg (Call.deleteNamespace · _) addressed.symm⟩
    · exact .inl ⟨n, hn, rfl⟩
  | volumeCreated housed made rest | volumeUpdated update addressed made kept exchanged rest reported
  | volumeDeleted addressed dropped rest | nodeCordoned addressed made exchanged rest =>
    rw [rest]
    exact .inl ⟨n, hn, rfl⟩

end Inventory

namespace Cluster

/-- The event deletes a namespace with success. -/
def Event.Deletes (event : Event) (cluster : Cluster) (ns : NamespaceId) : Prop :=
  ∃ contexts ctx params, event.operation = .call contexts ctx (.deleteNamespace ns params) ∧
    (cluster.callUnder event.now contexts ctx (.deleteNamespace ns params)).1 = .ok ()

/-- In the course of a history a namespace was deleted while a volume was in it. -/
def Evicts (cluster : Cluster) (events : List Event) (ns : NamespaceId) (id : VolumeId) : Prop :=
  ∃ before event later, events = before ++ event :: later ∧
    event.Deletes (cluster.run before) ns ∧ (cluster.run before).inventory.HasVolume ns id

variable {cluster : Cluster} {event : Event} {events : List Event} {ns : NamespaceId} {id : VolumeId}

theorem Evicts.concat (h : cluster.Evicts events ns id) (event : Event) :
    cluster.Evicts (events ++ [event]) ns id := by
  obtain ⟨before, deletion, later, rfl, hevicts⟩ := h
  exact ⟨before, deletion, later ++ [event], by simp, hevicts⟩

/-! ### One call -/

/-- A call leaves volumes and namespaces as they are, or has the effect of a change that succeeds. -/
theorem callUnder_effect (hsound : cluster.inventory.Sound) (now : Timestamp) (contexts : Contexts)
    (ctx : Nat) (call : Call) :
    cluster.StoresSame (cluster.callUnder now contexts ctx call).2 ∨
      ∃ a, (cluster.callUnder now contexts ctx call).1 = .ok a ∧
        cluster.inventory.Effect now (cluster.callUnder now contexts ctx call).2.inventory call a := by
  cases hanswer : (cluster.callUnder now contexts ctx call).1 with
  | error e => exact .inl (storesSame_of_error hanswer)
  | ok a =>
    obtain ⟨hperform, hafter⟩ := callUnder_ok hanswer
    by_cases hmutating : call.method.isMutating = true
    · refine .inr ⟨a, rfl, Inventory.perform_effect hsound hmutating ?_⟩
      exact Prod.ext hperform hafter.symm
    · refine .inl (storesSame_of_spares ?_)
      rw [hafter, Inventory.perform_reads _ now (Bool.not_eq_true _ ▸ hmutating)]
      exact Inventory.Spares.refl _

/-- After a call a volume has its namespace, or it was there without it, or the call has deleted it. -/
theorem hasNamespace_after (hsound : cluster.inventory.Sound) (hcall : event.IsCall)
    (h : (cluster.after event).inventory.HasVolume ns id) :
    (cluster.after event).inventory.HasNamespace ns ∨
      cluster.inventory.HasVolume ns id ∧
        (¬ cluster.inventory.HasNamespace ns ∨ event.Deletes cluster ns) := by
  obtain ⟨contexts, ctx, call, hcall⟩ := hcall
  rw [after, hcall] at h ⊢
  rcases callUnder_effect hsound event.now contexts ctx call with hsame | ⟨a, hok, heffect⟩
  · -- nothing has changed, so the volume is where it was
    rw [Inventory.HasVolume, hsame.2.1] at h
    rw [Inventory.HasNamespace, hsame.1]
    by_cases hns : cluster.inventory.HasNamespace ns
    · exact .inl hns
    · exact .inr ⟨h, .inl hns⟩
  · rcases heffect.volume_before h with hbefore | hnew
    · by_cases hns : cluster.inventory.HasNamespace ns
      · rcases heffect.namespace_after hns with hkept | ⟨params, rfl⟩
        · exact .inl hkept
        · exact .inr ⟨hbefore, .inr ⟨contexts, ctx, params, hcall, hok⟩⟩
      · exact .inr ⟨hbefore, .inl hns⟩
    · exact .inl hnew

/-- A namespace that an event deletes was stored before it, and is not stored after it. -/
theorem Event.Deletes.hasNamespace (hsound : cluster.inventory.Sound) (h : event.Deletes cluster ns) :
    cluster.inventory.HasNamespace ns ∧ ¬ (cluster.after event).inventory.HasNamespace ns := by
  obtain ⟨contexts, ctx, params, hcall, hok⟩ := h
  obtain ⟨hperform, hafter⟩ := callUnder_ok hok
  obtain ⟨old, hmem, hid, _, heq⟩ :=
    Inventory.deleteNamespace_removed hsound (Inventory.ofClient_eq_ok hperform)
  refine ⟨⟨old, hmem, hid⟩, ?_⟩
  rw [after, hcall]
  dsimp only
  rw [hafter, Inventory.perform, heq]
  rintro ⟨n, hn, hid⟩
  have hne : n.id ≠ ns := by simpa using (List.mem_filter.mp hn).2
  exact hne hid

/-! ### Histories -/

/-- A volume has its namespace after any calls, unless the namespace was deleted with the volume in it. -/
theorem hasNamespace_run (hsound : cluster.inventory.Sound)
    (hstart : cluster.inventory.HasVolume ns id → cluster.inventory.HasNamespace ns)
    (hcalls : ∀ event ∈ events, event.IsCall) (h : (cluster.run events).inventory.HasVolume ns id) :
    (cluster.run events).inventory.HasNamespace ns ∨ cluster.Evicts events ns id := by
  induction events using List.reverseRecOn with
  | nil => exact .inl (hstart h)
  | append_singleton events event ih =>
    obtain ⟨hcalls, hcall⟩ := List.forall_mem_append.mp hcalls
    rw [run_append] at h ⊢
    rcases hasNamespace_after (sound_run hsound events) (hcall event List.mem_cons_self) h with
      hns | ⟨hbefore, hlost | hdeletes⟩
    · exact .inl hns
    · exact .inr (((ih hcalls hbefore).resolve_left hlost).concat event)
    · exact .inr ⟨events, event, [], rfl, hdeletes, hbefore⟩

/-- The identifier of a namespace that was deleted is not given out again. -/
theorem not_hasNamespace_run (hsound : cluster.inventory.Sound) {later : List Event}
    (hkey : (RecordKey.namespace ns).NumberedIn 0 cluster.inventory.drawn)
    (h : ¬ cluster.inventory.HasNamespace ns) : ¬ (cluster.run later).inventory.HasNamespace ns := by
  rintro ⟨n, hn, rfl⟩
  have hlater : n.id.text ∈ (cluster.run later).inventory.identifiers :=
    Inventory.mem_identifiers.mpr ⟨.namespace n, Inventory.namespace_mem_records.mpr hn, rfl⟩
  obtain ⟨r, hr, ht⟩ := Inventory.mem_identifiers.mp (identifier_of_old_run hsound hkey rfl hlater)
  have hsame : r.key = .namespace n.id := RecordKey.eq_of_text (hsound.keys r hr) hkey ht rfl
  cases r with
  | «namespace» old =>
    exact h ⟨old, Inventory.namespace_mem_records.mp hr, RecordKey.namespace.inj hsame⟩
  | _ => cases hsame

/-- A namespace that was deleted with a volume in it is not stored at the end. -/
theorem Evicts.not_hasNamespace (hsound : cluster.inventory.Sound) (h : cluster.Evicts events ns id) :
    ¬ (cluster.run events).inventory.HasNamespace ns := by
  obtain ⟨before, event, later, rfl, hdeletes, _⟩ := h
  have hbefore := sound_run hsound before
  obtain ⟨⟨n, hn, rfl⟩, hgone⟩ := hdeletes.hasNamespace hbefore
  obtain ⟨w, hw⟩ := after_advances hbefore event
  have hkey := hbefore.keys _ (Inventory.namespace_mem_records.mpr hn)
  rw [run_append, run_cons]
  exact not_hasNamespace_run (hbefore.advance hw) (hkey.mono le_rfl hw.le) hgone

/-- Every volume can be deleted through its namespace, whether that is stored or not, and then counts no
more. -/
theorem deleteVolume_frees (hsound : cluster.inventory.Sound) {v : Volume}
    (hv : v ∈ cluster.inventory.volumes) (now : Timestamp) {contexts : Contexts} {ctx : Nat}
    (hctx : contexts.mayStart ctx = .ok ()) (hfail : cluster.failure? .deleteVolume = none) :
    ∃ after, cluster.callUnder now contexts ctx (.deleteVolume v.namespaceId v.id .empty) =
        (.ok (.completed ()), after) ∧
      after.inventory.storedBytes + v.sizeBytes.toNat = cluster.inventory.storedBytes := by
  have hfound := hsound.volumeIn_of_mem hv
  have hperform : cluster.inventory.perform now (.deleteVolume v.namespaceId v.id .empty) =
      (.ok (.completed ()), cluster.inventory.remove (.volume v.id)) := by
    simp only [Inventory.perform, Inventory.deleteVolume, hfound]
    rfl
  refine ⟨_, callUnder_eq_ok_iff.mpr ⟨hctx, hfail, _, hperform, rfl⟩, ?_⟩
  obtain ⟨front, back, hbefore, hafter⟩ := Inventory.filter_key_split hsound.volumes hv
  change Inventory.bytesOf (cluster.inventory.volumes.filter fun a => a.id ≠ v.id) + _ =
    Inventory.bytesOf cluster.inventory.volumes
  rw [hafter, hbefore, Inventory.bytesOf_append, Inventory.bytesOf_append, Inventory.bytesOf_cons]
  omega

/-- Which volumes have a namespace after any calls to an empty cluster: all but those whose namespace was
deleted with them in it. Those have lost it for good, and no listing of a stored namespace shows them; each
of the others is shown in one, where a listing is what asking for the volumes of a namespace gives. So if
no namespace was deleted with volumes in it, then the listings show every volume once and account for all
bytes. Every volume can be deleted under the identifier of its namespace. -/
theorem volumes_housed {username password : String} {events : List Event}
    (hcalls : ∀ event ∈ events, event.IsCall) {cluster : Cluster}
    (hcluster : cluster = (empty username password).run events) :
    (∀ now contexts ctx ns, contexts.mayStart ctx = .ok () → cluster.failure? .listVolumes = none →
      (cluster.callUnder now contexts ctx (.listVolumes ns)).1 =
        .ok (cluster.inventory.volumesOf ns)) ∧
    (∀ v ∈ cluster.inventory.volumes,
      ((empty username password).Evicts events v.namespaceId v.id →
        ¬ cluster.inventory.HasNamespace v.namespaceId ∧
          ∀ ns ∈ cluster.inventory.namespaces, v ∉ cluster.inventory.volumesOf ns.id) ∧
      (¬ (empty username password).Evicts events v.namespaceId v.id →
        cluster.inventory.HasNamespace v.namespaceId ∧
          ∃! ns, ns ∈ cluster.inventory.namespaces ∧ v ∈ cluster.inventory.volumesOf ns.id)) ∧
    ((∀ ns id, ¬ (empty username password).Evicts events ns id) → cluster.inventory.Accounted) ∧
    ∀ v ∈ cluster.inventory.volumes, ∀ now contexts ctx, contexts.mayStart ctx = .ok () →
      cluster.failure? .deleteVolume = none →
      ∃ after, cluster.callUnder now contexts ctx (.deleteVolume v.namespaceId v.id .empty) =
          (.ok (.completed ()), after) ∧
        after.inventory.storedBytes + v.sizeBytes.toNat = cluster.inventory.storedBytes := by
  subst hcluster
  have hempty : (empty username password).inventory.Sound := Inventory.sound_empty username password
  have hsound := sound_run hempty events
  have hhoused : ∀ v ∈ ((empty username password).run events).inventory.volumes,
      ¬ (empty username password).Evicts events v.namespaceId v.id →
        ((empty username password).run events).inventory.HasNamespace v.namespaceId := by
    intro v hv hkept
    refine (hasNamespace_run hempty ?_ hcalls ⟨v, hv, rfl, rfl⟩).resolve_right hkept
    rintro ⟨v, hv, _⟩
    cases hv
  refine ⟨?_, fun v hv => ⟨?_, ?_⟩, ?_, ?_⟩
  · intro now contexts ctx ns hctx hfail
    exact (callUnder_live hctx hfail).1
  · intro hevicts
    have hgone := hevicts.not_hasNamespace hempty
    exact ⟨hgone, fun n hn hlisted => hgone ⟨n, hn, (Inventory.mem_volumesOf.mp hlisted).2.symm⟩⟩
  · intro hkept
    exact ⟨hhoused v hv hkept, hsound.listed_once hv (hhoused v hv hkept)⟩
  · intro hnone
    exact hsound.accounted fun v hv => hhoused v hv (hnone _ _)
  · intro v hv now contexts ctx hctx hfail
    exact deleteVolume_frees hsound hv now hctx hfail

/-- A namespace and a volume in it are created. -/
def volumeCreated : List Event :=
  [⟨.epoch, .call .start 0 (.createNamespace "default" .empty)⟩,
    ⟨.epoch, .call .start 0 (.createVolume ⟨"ns-1"⟩ ⟨"data", "", 1024, "", .empty⟩ .empty)⟩]

/-- The namespace is deleted. -/
def namespaceDeleted : Event := ⟨.epoch, .call .start 0 (.deleteNamespace ⟨"ns-1"⟩ .empty)⟩

theorem calls_namespaceDeleted : ∀ event ∈ volumeCreated ++ [namespaceDeleted], event.IsCall := by
  intro event hevent
  simp only [volumeCreated, namespaceDeleted, List.cons_append, List.nil_append, List.mem_cons,
    List.not_mem_nil, or_false] at hevent
  rcases hevent with rfl | rfl | rfl <;> exact ⟨_, _, _, rfl⟩

/-- The cluster after the three calls. -/
def leftBehind : Cluster := (empty "admin" "secret").run (volumeCreated ++ [namespaceDeleted])

/-- The deletion leaves the volume without its namespace, and it can still be deleted. -/
theorem volumes_housed_deleted :
    ¬ leftBehind.inventory.HasNamespace ⟨"ns-1"⟩ ∧
      ∃ after, leftBehind.callUnder .epoch .start 0 (.deleteVolume ⟨"ns-1"⟩ ⟨"vol-3"⟩ .empty) =
          (.ok (.completed ()), after) ∧
        after.inventory.storedBytes + 1024 = leftBehind.inventory.storedBytes := by
  have hleft : leftBehind = (empty "admin" "secret").run (volumeCreated ++ [namespaceDeleted]) := rfl
  obtain ⟨-, hhoused, -, hdeletable⟩ := volumes_housed calls_namespaceDeleted hleft
  have hv : _ ∈ leftBehind.inventory.volumes := List.mem_cons_self
  refine ⟨((hhoused _ hv).1 ?_).1, hdeletable _ hv .epoch .start 0 rfl rfl⟩
  exact ⟨volumeCreated, namespaceDeleted, [], rfl, ⟨_, _, _, rfl, rfl⟩, _, List.mem_cons_self, rfl, rfl⟩

/-- It is not so that every volume has its namespace after any calls of an empty cluster. -/
theorem volume_left_behind :
    ¬ ∀ events : List Event, (∀ event ∈ events, event.IsCall) →
      ∀ v ∈ ((empty "admin" "secret").run events).inventory.volumes,
        ((empty "admin" "secret").run events).inventory.HasNamespace v.namespaceId := by
  intro h
  have hv : _ ∈ leftBehind.inventory.volumes := List.mem_cons_self
  obtain ⟨n, hn, _⟩ := h _ calls_namespaceDeleted _ hv
  cases hn

end Cluster

end BlockStorage
