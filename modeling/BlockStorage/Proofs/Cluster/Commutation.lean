import BlockStorage.Proofs.Cluster.History
import BlockStorage.Proofs.Inventory.Capacity
import BlockStorage.Proofs.Inventory.Update

/-!
Updates of different volumes commute.

An update reads its own volume, the nodes, and the sum of all sizes; it writes its own volume, and the
sum goes up by what it adds. So of two updates of different volumes each finds what it found in the other
order. Only the sum tells them apart: a volume that had room after the other one had grown has room before
it, and the sum after both is the same. Both orders draw two versions, which the volumes get the other way
round.
-/

namespace BlockStorage

/-- The bytes that an update adds to its volume. -/
def Call.extra (old : Volume) : Call → UInt64
  | .resizeVolume _ _ sizeBytes _ => sizeBytes - old.sizeBytes
  | _ => 0

namespace Inventory

/-- A volume without its version, if it is one of some. -/
def unversionedIn (ids : List VolumeId) (v : Volume) : Volume :=
  if v.id ∈ ids then { v with version := .empty } else v

/-- The inventory without the versions of some volumes. -/
def unversioned (ids : List VolumeId) (inv : Inventory) : Inventory :=
  { inv with volumes := inv.volumes.map (unversionedIn ids) }

/-! ### Lists of records -/

section

variable {α β κ : Type} [DecidableEq κ] {key : α → κ} {item item' : α}

/-- Items of different keys are put in their places in either order. -/
theorem replaceIn_comm (hkey : key item ≠ key item') (items : List α) :
    replaceIn key item (replaceIn key item' items) =
      replaceIn key item' (replaceIn key item items) := by
  rw [replaceIn, replaceIn, replaceIn, replaceIn, List.map_map, List.map_map]
  refine List.map_congr_left fun a _ => ?_
  change (if key (if key a = key item' then item' else a) = key item then item
      else if key a = key item' then item' else a) =
    if key (if key a = key item then item else a) = key item' then item'
      else if key a = key item then item else a
  by_cases ha : key a = key item
  · have ha' : key a ≠ key item' := ha.trans_ne hkey
    rw [if_neg ha', if_pos ha, if_neg hkey]
  · rw [if_neg ha]
    by_cases ha' : key a = key item'
    · rw [if_pos ha', if_neg hkey.symm]
    · rw [if_neg ha', if_neg ha]

/-- Items that a function takes for the same are the same in the place of an item. -/
theorem map_replaceIn_congr {f : α → β} (hkey : key item = key item') (hf : f item = f item')
    (items : List α) : (replaceIn key item items).map f = (replaceIn key item' items).map f := by
  rw [replaceIn, replaceIn, List.map_map, List.map_map]
  refine List.map_congr_left fun a _ => ?_
  change f (if key a = key item then item else a) = f (if key a = key item' then item' else a)
  rw [hkey]
  split
  · exact hf
  · rfl

end

variable {inv after : Inventory} {now : Timestamp} {c c' : Call} {u u' : VolumeUpdate}
  {old old' : Volume}

/-! ### What an update reads -/

/-- An update leaves other volumes where they are found. -/
theorem volumeIn_updated (now : Timestamp) (c : Call) (hne : u.id ≠ old.id) :
    (inv.updated now c old).volumeIn u.ns u.id = inv.volumeIn u.ns u.id := by
  have hfind : (inv.updated now c old).volumes.find?
      (fun v => v.namespaceId = u.ns && v.id = u.id) =
        inv.volumes.find? fun v => v.namespaceId = u.ns && v.id = u.id := by
    refine find?_replaceIn fun a ha => ?_
    have hid : a.id = old.id := ha.trans updatedVolume_id
    simp [hid, hne.symm]
  rw [volumeIn, volumeIn, findOr, findOr, hfind]

/-! ### What an update adds -/

theorem revise_sizeBytes (nodes : List NodeId) (hpermitted : inv.Permits old c) :
    (c.revise nodes old).sizeBytes.toNat = old.sizeBytes.toNat + (c.extra old).toNat := by
  cases c with
  | resizeVolume ns id sizeBytes params =>
    have hle : old.sizeBytes.toNat ≤ sizeBytes.toNat := UInt64.le_iff_toNat_le.mp hpermitted.1
    change sizeBytes.toNat = old.sizeBytes.toNat + (sizeBytes - old.sizeBytes).toNat
    rw [UInt64.toNat_sub_of_le _ _ hpermitted.1]
    omega
  | _ => exact (Nat.add_zero _).symm

/-- An update adds its bytes to the sum. -/
theorem storedBytes_updated (hsound : inv.Sound) (now : Timestamp) (h : inv.Admits c u old) :
    (inv.updated now c old).storedBytes = inv.storedBytes + (c.extra old).toNat := by
  obtain ⟨hmem, -, -⟩ := volumeIn_eq_ok h.found
  have hid : (inv.updatedVolume now c old).id = old.id := updatedVolume_id
  obtain ⟨front, back, hbefore, hafter⟩ := replaceIn_split hsound.volumes hmem hid
  have hsize : (inv.updatedVolume now c old).sizeBytes.toNat =
      old.sizeBytes.toNat + (c.extra old).toNat := revise_sizeBytes inv.nodeIds h.permitted
  have hvolumes : (inv.updated now c old).volumes = front ++ inv.updatedVolume now c old :: back := hafter
  rw [storedBytes, storedBytes, hvolumes, hbefore]
  simp only [bytesOf_append, bytesOf_cons, hsize]
  omega

/-- What an update asks the licence for, it is granted. -/
theorem Permits.room (h : inv.Permits old c) :
    c.extra old = 0 ∨ inv.checkCapacity (c.extra old) = .ok () := by
  cases c with
  | resizeVolume ns id sizeBytes params => exact .inr h.2
  | _ => exact .inl rfl

/-- An update is permitted elsewhere too, where the same nodes are and the licence has room. -/
theorem Permits.elsewhere (h : inv.Permits old c) (hnodes : after.nodes = inv.nodes)
    (hroom : inv.checkCapacity (c.extra old) = .ok () → after.checkCapacity (c.extra old) = .ok ()) :
    after.Permits old c := by
  cases c with
  | resizeVolume ns id sizeBytes params => exact ⟨h.1, hroom h.2⟩
  | attachVolume ns id node params =>
    rw [Permits, hnodes]
    exact h
  | _ => trivial

/-- Where less is stored there is room for what there was room for. -/
theorem checkCapacity_of_le {extra : UInt64} (hlicence : after.licence = inv.licence)
    (hle : inv.storedBytes ≤ after.storedBytes) (h : after.checkCapacity extra = .ok ()) :
    inv.checkCapacity extra = .ok () := by
  rw [checkCapacity_eq_ok_iff] at h ⊢
  intro licence hinv
  obtain ⟨hword, hroom⟩ := h licence (hlicence.trans hinv)
  rw [saturatingSum] at hroom ⊢
  exact ⟨by omega, by omega⟩

/-- There is room for two additions in the other order, if both together are a word. -/
theorem checkCapacity_swap {third : Inventory} {extra extra' : UInt64}
    (hlicence : after.licence = inv.licence) (hlicence' : third.licence = inv.licence)
    (hbytes : after.storedBytes = inv.storedBytes + extra.toNat)
    (hbytes' : third.storedBytes = inv.storedBytes + extra'.toNat)
    (hsum : after.storedBytes + extra'.toNat < UInt64.size)
    (h : inv.checkCapacity extra = .ok ())
    (h' : extra' = 0 ∨ after.checkCapacity extra' = .ok ()) : third.checkCapacity extra = .ok () := by
  rw [checkCapacity_eq_ok_iff] at h ⊢
  intro licence hthird
  obtain ⟨hword, hroom⟩ := h licence (hlicence'.symm.trans hthird)
  rw [saturatingSum] at hroom ⊢
  rcases h' with rfl | h'
  · have hzero : (0 : UInt64).toNat = 0 := rfl
    exact ⟨by omega, by omega⟩
  · rw [checkCapacity_eq_ok_iff] at h'
    obtain ⟨hword', hroom'⟩ := h' licence (hlicence.trans (hlicence'.symm.trans hthird))
    rw [saturatingSum] at hroom'
    exact ⟨by omega, by omega⟩

/-! ### Two updates -/

/-- Of two updates of different volumes that are admitted one after the other, the second one is admitted
first, and the first one after it. -/
theorem admits_swap (hsound : inv.Sound) (hids : u.id ≠ u'.id) (h : inv.Admits c u old)
    (h' : (inv.updated now c old).Admits c' u' old')
    (hsum : (inv.updated now c old).storedBytes + (c'.extra old').toNat < UInt64.size) :
    inv.Admits c' u' old' ∧ (inv.updated now c' old').Admits c u old := by
  obtain ⟨-, -, hid⟩ := volumeIn_eq_ok h.found
  have hfound : inv.volumeIn u'.ns u'.id = .ok old' := by
    rw [← volumeIn_updated now c (hid.trans_ne hids).symm]
    exact h'.found
  obtain ⟨-, -, hid'⟩ := volumeIn_eq_ok hfound
  have hbytes := storedBytes_updated hsound now h
  have hfirst : inv.Admits c' u' old' := by
    refine ⟨hfound, h'.current, h'.permitted.elsewhere rfl ?_⟩
    exact checkCapacity_of_le rfl (by omega)
  have hbytes' := storedBytes_updated hsound now hfirst
  refine ⟨hfirst, ?_, h.current, h.permitted.elsewhere rfl ?_⟩
  · rw [volumeIn_updated now c' (hid'.trans_ne hids.symm).symm]
    exact h.found
  · intro hroom
    have hlicence : (inv.updated now c old).licence = inv.licence := rfl
    exact checkCapacity_swap hlicence rfl hbytes hbytes' hsum hroom h'.permitted.room

/-- An update leaves the same volume wherever the same nodes are, but for its version. -/
theorem unversionedIn_updatedVolume {ids : List VolumeId} (hid : old.id ∈ ids)
    (hnodes : after.nodes = inv.nodes) :
    unversionedIn ids (after.updatedVolume now c old) =
      unversionedIn ids (inv.updatedVolume now c old) := by
  simp [unversionedIn, hid, updatedVolume, revised, nodeIds, hnodes]

/-- Two updates of different volumes come to the same in either order, but for the versions of the two. -/
theorem unversioned_swap (now : Timestamp) (c c' : Call) (hids : old.id ≠ old'.id) :
    ((inv.updated now c' old').updated now c old).unversioned [old.id, old'.id] =
      ((inv.updated now c old).updated now c' old').unversioned [old.id, old'.id] := by
  have hkey : (inv.updatedVolume now c old).id ≠ (inv.updatedVolume now c' old').id := by simpa
  have hfirst : unversionedIn [old.id, old'.id] ((inv.updated now c' old').updatedVolume now c old) =
      unversionedIn [old.id, old'.id] (inv.updatedVolume now c old) :=
    unversionedIn_updatedVolume (by simp) rfl
  have hsecond : unversionedIn [old.id, old'.id] ((inv.updated now c old).updatedVolume now c' old') =
      unversionedIn [old.id, old'.id] (inv.updatedVolume now c' old') :=
    unversionedIn_updatedVolume (by simp) rfl
  have hvolumes :
      ((inv.updated now c' old').updated now c old).volumes.map (unversionedIn [old.id, old'.id]) =
        ((inv.updated now c old).updated now c' old').volumes.map
          (unversionedIn [old.id, old'.id]) :=
    calc (replaceIn Volume.id ((inv.updated now c' old').updatedVolume now c old)
            (inv.updated now c' old').volumes).map (unversionedIn [old.id, old'.id])
      _ = (replaceIn Volume.id (inv.updatedVolume now c old)
            (replaceIn Volume.id (inv.updatedVolume now c' old') inv.volumes)).map
              (unversionedIn [old.id, old'.id]) :=
        map_replaceIn_congr (updatedVolume_id.trans updatedVolume_id.symm) hfirst _
      _ = (replaceIn Volume.id (inv.updatedVolume now c' old')
            (replaceIn Volume.id (inv.updatedVolume now c old) inv.volumes)).map
              (unversionedIn [old.id, old'.id]) := by
        rw [replaceIn_comm hkey]
      _ = (replaceIn Volume.id ((inv.updated now c old).updatedVolume now c' old')
            (inv.updated now c old).volumes).map (unversionedIn [old.id, old'.id]) :=
        map_replaceIn_congr (updatedVolume_id.trans updatedVolume_id.symm) hsecond.symm _
  exact congrArg (fun volumes => { inv with volumes := volumes, drawn := inv.drawn + 2 }) hvolumes

end Inventory

namespace Cluster

/-- Two clusters are the same but for the versions of some volumes, and were called alike in some order. -/
structure AgreeBut (ids : List VolumeId) (cluster other : Cluster) : Prop where
  inventory : cluster.inventory.unversioned ids = other.inventory.unversioned ids
  failures : cluster.failures = other.failures
  calls : cluster.calls.Perm other.calls
  requests : cluster.requests.Perm other.requests

/-- Two updates of different volumes commute: if they succeed one after the other, and the sizes then sum
up to a word, then they succeed the other way round too, and leave the same cluster but for the versions
of the two volumes. -/
theorem updates_commute {cluster cluster₁ cluster₂ : Cluster} (hreach : cluster.Reachable)
    {now : Timestamp} {contexts contexts' : Contexts} {ctx ctx' : Nat} {c c' : Call}
    {u u' : VolumeUpdate} {a : c.Answer} {a' : c'.Answer} (hc : c.update? = some u)
    (hc' : c'.update? = some u') (hids : u.id ≠ u'.id)
    (h : cluster.callUnder now contexts ctx c = (.ok a, cluster₁))
    (h' : cluster₁.callUnder now contexts' ctx' c' = (.ok a', cluster₂))
    (hsum : cluster₂.inventory.storedBytes < UInt64.size) :
    ∃ b' other₁ b other₂, cluster.callUnder now contexts' ctx' c' = (.ok b', other₁) ∧
      other₁.callUnder now contexts ctx c = (.ok b, other₂) ∧
      AgreeBut [u.id, u'.id] other₂ cluster₂ := by
  obtain ⟨hctx, hfail, inv₁, hperform, rfl⟩ := callUnder_eq_ok_iff.mp h
  obtain ⟨hctx', hfail', inv₂, hperform', rfl⟩ := callUnder_eq_ok_iff.mp h'
  have hsound := hreach.sound
  -- each call revises the volume that it found, and finds it in the other order too
  obtain ⟨old, hold, rfl, -⟩ := Inventory.updated_of_perform hsound hc hperform
  have hsound₁ := hsound.updated now hc hold
  obtain ⟨old', hold', rfl, -⟩ := Inventory.updated_of_perform hsound₁ hc' hperform'
  have hbytes := Inventory.storedBytes_updated hsound₁ now hold'
  obtain ⟨hfirst, hsecond⟩ := Inventory.admits_swap hsound hids hold hold' (hbytes ▸ hsum)
  obtain ⟨b', hother', -⟩ := Inventory.perform_of_admits hsound now hc' hfirst
  obtain ⟨b, hother, -⟩ :=
    Inventory.perform_of_admits (hsound.updated now hc' hfirst) now hc hsecond
  refine ⟨b', _, b, _, callUnder_eq_ok_iff.mpr ⟨hctx', hfail', _, hother', rfl⟩,
    callUnder_eq_ok_iff.mpr ⟨hctx, hfail, _, hother, rfl⟩, ?_, rfl, ?_, ?_⟩
  · obtain ⟨-, -, hid⟩ := Inventory.volumeIn_eq_ok hold.found
    obtain ⟨-, -, hid'⟩ := Inventory.volumeIn_eq_ok hfirst.found
    rw [← hid, ← hid'] at hids ⊢
    exact Inventory.unversioned_swap now c c' hids
  · change ((cluster.calls ++ [c'.method]) ++ [c.method]).Perm
      ((cluster.calls ++ [c.method]) ++ [c'.method])
    rw [List.append_assoc, List.append_assoc]
    exact List.perm_append_comm.append_left _
  · change ((cluster.requests ++ c'.params?.toList) ++ c.params?.toList).Perm
      ((cluster.requests ++ c.params?.toList) ++ c'.params?.toList)
    rw [List.append_assoc, List.append_assoc]
    exact List.perm_append_comm.append_left _

/-- A cluster with two volumes and a licence for twice as much as they take. -/
def halfUsed : Cluster :=
  (empty "admin" "secret").run
    [⟨.epoch, .addNamespace "default"⟩, ⟨.epoch, .addVolume ⟨"ns-1"⟩ "data" 1024 .empty⟩,
      ⟨.epoch, .addVolume ⟨"ns-1"⟩ "logs" 1024 .empty⟩, ⟨.epoch, .setLicence "basic" 4096⟩]

/-- The doubling of a volume in that cluster, under a version if one is asked for. -/
def doubled (id : VolumeId) (version? : Option Version) : Call :=
  .resizeVolume ⟨"ns-1"⟩ id 2048 ⟨version?, none⟩

/-- That cluster after both were doubled, the first one first. -/
def bothDoubled : Cluster :=
  ((halfUsed.callUnder .epoch .start 0 (doubled ⟨"vol-3"⟩ none)).2.callUnder .epoch .start 0
    (doubled ⟨"vol-5"⟩ (some ⟨"v-6"⟩))).2

/-- Two volumes that are doubled, the second one under its version, use the licence up in either order. -/
theorem updates_commute_doubled :
    ∃ b' other₁ b other₂,
      halfUsed.callUnder .epoch .start 0 (doubled ⟨"vol-5"⟩ (some ⟨"v-6"⟩)) = (.ok b', other₁) ∧
      other₁.callUnder .epoch .start 0 (doubled ⟨"vol-3"⟩ none) = (.ok b, other₂) ∧
      AgreeBut [⟨"vol-3"⟩, ⟨"vol-5"⟩] other₂ bothDoubled := by
  have hreach : halfUsed.Reachable := ⟨_, _, _, rfl⟩
  have hids : (⟨"vol-3"⟩ : VolumeId) ≠ ⟨"vol-5"⟩ := by decide
  have h : halfUsed.callUnder .epoch .start 0 (doubled ⟨"vol-3"⟩ none) = (.ok _, _) := rfl
  have h' : (halfUsed.callUnder .epoch .start 0 (doubled ⟨"vol-3"⟩ none)).2.callUnder .epoch .start 0
      (doubled ⟨"vol-5"⟩ (some ⟨"v-6"⟩)) = (.ok _, bothDoubled) := rfl
  have hsum : bothDoubled.inventory.storedBytes < UInt64.size := of_decide_eq_true rfl
  exact updates_commute hreach rfl rfl hids h h' hsum

end Cluster

end BlockStorage
