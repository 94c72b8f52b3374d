import BlockStorage.Proofs.Cluster.CompareAndSwap
import BlockStorage.Proofs.Inventory.Names
import BlockStorage.Proofs.Inventory.Uniqueness

/-!
Identifiers, versions and names in the histories of a cluster.

No two resources that are stored share an identifier or a version. An identifier that is gone stays gone,
and a version means one revision of one resource for good. Names are unique too, unless a cluster is set
up by hand under a name that is in use, so that a resource is found by its name as by its identifier.
-/

namespace BlockStorage

namespace Cluster

/-- If the event sets something up by hand, then under a name that is not in use. -/
def Event.NamesAnew (inv : Inventory) (event : Event) : Prop :=
  match event.operation with
  | .addNamespace name => ∀ ns ∈ inv.namespaces, ns.name ≠ name
  | .addVolume ns name _ _ => ∀ v ∈ inv.volumes, v.namespaceId = ns → v.name ≠ name
  | .addNode name _ => ∀ n ∈ inv.nodes, n.name ≠ name
  | .addUser username _ => ∀ u ∈ inv.users, u.username ≠ username
  | .addPolicyGroup name => ∀ g ∈ inv.policyGroups, g.name ≠ name
  | _ => True

/-- A history sets things up by hand only under names that are not in use at that time. -/
def NamesAnew : Cluster → List Event → Prop
  | _, [] => True
  | cluster, event :: events =>
    event.NamesAnew cluster.inventory ∧ NamesAnew (cluster.after event) events

/-- Every stored resource is the answer to the call that looks it up by its name and to the call that
fetches it by its identifier. -/
structure FindsStored (cluster : Cluster) (now : Timestamp) (contexts : Contexts) (ctx : Nat) :
    Prop where
  namespaces : ∀ ns ∈ cluster.inventory.namespaces,
    (cluster.callUnder now contexts ctx (.getNamespaceByName ns.name)).1 = .ok ns ∧
      (cluster.callUnder now contexts ctx (.getNamespace ns.id)).1 = .ok ns
  volumes : ∀ v ∈ cluster.inventory.volumes,
    (cluster.callUnder now contexts ctx (.getVolumeByName v.namespaceId v.name)).1 = .ok v ∧
      (cluster.callUnder now contexts ctx (.getVolume v.namespaceId v.id)).1 = .ok v
  nodes : ∀ n ∈ cluster.inventory.nodes,
    (cluster.callUnder now contexts ctx (.getNodeByName n.name)).1 = .ok n ∧
      (cluster.callUnder now contexts ctx (.getNode n.id)).1 = .ok n
  users : ∀ u ∈ cluster.inventory.users,
    (cluster.callUnder now contexts ctx (.getUserByName u.username)).1 = .ok u ∧
      (cluster.callUnder now contexts ctx (.getUser u.id)).1 = .ok u
  policyGroups : ∀ g ∈ cluster.inventory.policyGroups,
    (cluster.callUnder now contexts ctx (.getPolicyGroupByName g.name)).1 = .ok g ∧
      (cluster.callUnder now contexts ctx (.getPolicyGroup g.id)).1 = .ok g

variable {cluster : Cluster}

/-! ### Identifiers and versions -/

theorem drawn_le_run (hsound : cluster.inventory.Sound) (events : List Event) :
    cluster.inventory.drawn ≤ (cluster.run events).inventory.drawn := by
  induction events generalizing cluster with
  | nil => exact le_rfl
  | cons event events ih =>
    obtain ⟨w, hw⟩ := after_advances hsound event
    rw [run_cons]
    exact hw.le.trans (ih (hsound.advance hw))

theorem versionsDiffer_run (hsound : cluster.inventory.Sound)
    (hdiffer : cluster.inventory.VersionsDiffer) (events : List Event) :
    (cluster.run events).inventory.VersionsDiffer := by
  induction events generalizing cluster with
  | nil => exact hdiffer
  | cons event events ih =>
    obtain ⟨w, hw⟩ := after_advances hsound event
    rw [run_cons]
    exact ih (hsound.advance hw) (hsound.versionsDiffer_advance hdiffer hw)

theorem Reachable.versionsDiffer (h : cluster.Reachable) : cluster.inventory.VersionsDiffer := by
  obtain ⟨username, password, events, rfl⟩ := h
  refine versionsDiffer_run (Inventory.sound_empty username password) ?_ events
  intro r hr
  simp [Inventory.records, Inventory.empty, empty] at hr

/-- An identifier that was drawn by now, and that is in use later, is in use now. -/
theorem identifier_of_old_run (hsound : cluster.inventory.Sound) {events : List Event}
    {text : String} {key : RecordKey} (hkey : key.NumberedIn 0 cluster.inventory.drawn)
    (ht : key.text? = some text) (hlater : text ∈ (cluster.run events).inventory.identifiers) :
    text ∈ cluster.inventory.identifiers := by
  induction events generalizing cluster with
  | nil => exact hlater
  | cons event events ih =>
    obtain ⟨w, hw⟩ := after_advances hsound event
    have hnext := ih (hsound.advance hw) (hkey.mono le_rfl hw.le) hlater
    exact Inventory.Sound.identifier_of_old hw hkey ht hnext

/-- An identifier that is in use in two states is in use in every state between them. -/
theorem identifier_between (hsound : cluster.inventory.Sound) {between later : List Event}
    {text : String} (h : text ∈ cluster.inventory.identifiers)
    (hlater : text ∈ ((cluster.run between).run later).inventory.identifiers) :
    text ∈ (cluster.run between).inventory.identifiers := by
  obtain ⟨r, hr, ht⟩ := Inventory.mem_identifiers.mp h
  have hkey := (hsound.keys r hr).mono le_rfl (drawn_le_run hsound between)
  exact identifier_of_old_run (sound_run hsound between) hkey ht hlater

/-- Two records of two states under one version are the same one, which has been there in between. -/
theorem record_between (hsound : cluster.inventory.Sound)
    (hdiffer : cluster.inventory.VersionsDiffer) {between later : List Event} {r r' : Record}
    (hr : r ∈ cluster.inventory.records)
    (hr' : r' ∈ ((cluster.run between).run later).inventory.records)
    (hversion : r'.version = r.version) :
    r' = r ∧ r ∈ (cluster.run between).inventory.records := by
  have hdrawn : Numbered "v" 0 cluster.inventory.drawn r'.version.text :=
    hversion ▸ hsound.versions r hr
  have hmid : r' ∈ (cluster.run between).inventory.records :=
    mem_of_old_version_run (sound_run hsound between) hr'
      (hdrawn.mono le_rfl (drawn_le_run hsound between))
  have hnow : r' ∈ cluster.inventory.records := mem_of_old_version_run hsound hmid hdrawn
  obtain rfl := hdiffer r' hnow r hr hversion
  exact ⟨rfl, hmid⟩

/-! ### Names -/

/-- An event that names anew repeats no name. -/
theorem namesDiffer_after (hsound : cluster.inventory.Sound) (h : cluster.inventory.NamesDiffer)
    {event : Event} (hanew : event.NamesAnew cluster.inventory) :
    (cluster.after event).inventory.NamesDiffer := by
  obtain ⟨now, operation⟩ := event
  cases operation with
  | addNamespace name => exact h.addNamespace hanew
  | addVolume ns name sizeBytes labels => exact h.addVolume hanew
  | addNode name labels => exact h.addNode hanew
  | addUser username isAdmin => exact h.addUser hanew
  | addPolicyGroup name => exact h.addPolicyGroup hanew
  | setLicence kind capacityBytes =>
    exact ⟨h.namespaces, h.volumes, h.nodes, h.users, h.policyGroups⟩
  | fail method error => exact h
  | clearFailure method => exact h
  | call contexts ctx call =>
    rcases cluster.callUnder_cases now contexts ctx call with ⟨e, _, hafter⟩ | ⟨_, hafter⟩
    · rw [after, hafter]
      exact h
    · rw [after, hafter]
      exact h.perform hsound now call

theorem namesDiffer_run (hsound : cluster.inventory.Sound) (h : cluster.inventory.NamesDiffer)
    {events : List Event} (hanew : cluster.NamesAnew events) :
    (cluster.run events).inventory.NamesDiffer := by
  induction events generalizing cluster with
  | nil => exact h
  | cons event events ih =>
    obtain ⟨w, hw⟩ := after_advances hsound event
    obtain ⟨hevent, hevents⟩ := hanew
    rw [run_cons]
    exact ih (hsound.advance hw) (namesDiffer_after hsound h hevent) hevents

/-- Where identifiers and names are unique, a call that may start finds what is stored either way. -/
theorem findsStored (hsound : cluster.inventory.Sound) (hnames : cluster.inventory.NamesDiffer)
    (now : Timestamp) {contexts : Contexts} {ctx : Nat} (hctx : contexts.mayStart ctx = .ok ())
    (hquiet : ∀ method, cluster.failure? method = none) :
    cluster.FindsStored now contexts ctx := by
  -- a call that may start answers with what it finds in the listing of its kind
  have hfound {call : Call} {found : Except ClientError call.Answer} {a : call.Answer}
      (hcall : cluster.inventory.perform now call = Inventory.ofClient (found, cluster.inventory))
      (ha : found = .ok a) : (cluster.callUnder now contexts ctx call).1 = .ok a := by
    rw [(callUnder_live hctx (hquiet call.method)).1, hcall, ha]
    rfl
  constructor
  · intro ns hns
    exact ⟨hfound rfl (Inventory.findOr_of_key hnames.namespaces hns),
      hfound rfl (Inventory.findOr_of_key hsound.namespaces hns)⟩
  · intro v hv
    exact ⟨hfound rfl (hnames.volume_of_name hv), hfound rfl (hsound.volumeIn_of_mem hv)⟩
  · intro n hn
    exact ⟨hfound rfl (Inventory.findOr_of_key hnames.nodes hn),
      hfound rfl (Inventory.findOr_of_key hsound.nodes hn)⟩
  · intro u hu
    exact ⟨hfound rfl (Inventory.findOr_of_key hnames.users hu),
      hfound rfl (Inventory.findOr_of_key hsound.users hu)⟩
  · intro g hg
    exact ⟨hfound rfl (Inventory.findOr_of_key hnames.policyGroups hg),
      hfound rfl (Inventory.findOr_of_key hsound.policyGroups hg)⟩

/-- Nothing that names a resource or its revision is shared or given out again. In every state of a cluster
no two resources have one identifier or one version; an identifier that is in use and then is not is not
in use ever after; and whatever carries a version later is the very record that carried it, which has been
there in between. If the cluster was set up only under names that were not in use, then names are unique as
well, and looking a stored resource up by its name and fetching it by its identifier give that resource. -/
theorem identities_unique (cluster : Cluster) (hreach : cluster.Reachable)
    (between later : List Event) :
    cluster.inventory.identifiers.Nodup ∧ cluster.inventory.versions.Nodup ∧
    (∀ id ∈ cluster.inventory.identifiers, id ∉ (cluster.run between).inventory.identifiers →
      id ∉ ((cluster.run between).run later).inventory.identifiers) ∧
    (∀ r ∈ cluster.inventory.records,
      ∀ r' ∈ ((cluster.run between).run later).inventory.records, r'.version = r.version →
        r' = r ∧ r ∈ (cluster.run between).inventory.records) ∧
    ∀ (username password : String) (past : List Event),
      cluster = (empty username password).run past → (empty username password).NamesAnew past →
      cluster.inventory.NamesDiffer ∧
        ∀ (now : Timestamp) (contexts : Contexts) (ctx : Nat), contexts.mayStart ctx = .ok () →
          (∀ method, cluster.failure? method = none) → cluster.FindsStored now contexts ctx := by
  have hsound := hreach.sound
  have hdiffer := hreach.versionsDiffer
  refine ⟨hsound.nodup_identifiers, hsound.nodup_versions hdiffer, ?_, ?_, ?_⟩
  · intro id hid hgone hlater
    exact hgone (identifier_between hsound hid hlater)
  · intro r hr r' hr' hversion
    exact record_between hsound hdiffer hr hr' hversion
  · rintro username password past rfl hanew
    have hnames : ((empty username password).run past).inventory.NamesDiffer :=
      namesDiffer_run (Inventory.sound_empty username password)
        (Inventory.namesDiffer_empty username password) hanew
    exact ⟨hnames, fun now contexts ctx hctx hquiet => findsStored hsound hnames now hctx hquiet⟩

/-- The only volume is removed. -/
def volumeRemoved : List Event :=
  [⟨.epoch, .call .start 0 (.deleteVolume ⟨"ns-1"⟩ ⟨"vol-3"⟩ .empty)⟩]

/-- A volume is created under the name of the one that was there. -/
def volumeAgain : List Event :=
  [⟨.epoch, .call .start 0 (.createVolume ⟨"ns-1"⟩ ⟨"data", "", 1024, "", .empty⟩ .empty)⟩]

/-- A volume that takes the place of a removed one gets another identifier, and before that the removed one
was found by its name and by its identifier. -/
theorem identities_unique_removed_volume :
    "vol-3" ∉ ((((empty "admin" "secret").run oneVolume).run volumeRemoved).run
      volumeAgain).inventory.identifiers ∧
    ((empty "admin" "secret").run oneVolume).FindsStored .epoch .start 0 := by
  have hanew : (empty "admin" "secret").NamesAnew oneVolume := by
    refine ⟨?_, ?_, trivial⟩
    · intro ns hns
      cases hns
    · intro v hv
      cases hv
  obtain ⟨_, _, hgone, _, hnames⟩ := identities_unique ((empty "admin" "secret").run oneVolume)
    ⟨"admin", "secret", oneVolume, rfl⟩ volumeRemoved volumeAgain
  exact ⟨hgone "vol-3" (by decide) (by decide),
    (hnames "admin" "secret" oneVolume rfl hanew).2 .epoch .start 0 rfl fun _ => rfl⟩

/-- The volume that takes its place is there. -/
example : ((((empty "admin" "secret").run oneVolume).run volumeRemoved).run
    volumeAgain).inventory.identifiers = ["ns-1", "vol-5"] := by decide

end Cluster

end BlockStorage
