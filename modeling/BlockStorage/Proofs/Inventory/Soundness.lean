import BlockStorage.Proofs.Inventory.Record

/-!
Sound inventories: no two records of a kind have one identifier, and every identifier and version was
drawn from the counter.

An operation advances a sound inventory if it makes one write whose identifiers and versions are drawn
on the way. Such a step keeps soundness, and every record that it leaves is either an old one, unchanged,
or carries a version above the old counter; this is what makes a version name one revision for good.
-/

namespace BlockStorage

/-- What a write needs while the counter of an inventory goes up to `high`: a record that is added is
named and versioned anew, and one that takes the place of another is versioned anew. -/
def Write.Legal (inv : Inventory) (high : Nat) : Write → Prop
  | .nothing => True
  | .added record =>
    record.key.NumberedIn inv.drawn high ∧ Numbered "v" inv.drawn high record.version.text
  | .replaced record =>
    (∃ old ∈ inv.records, old.key = record.key) ∧
      Numbered "v" inv.drawn high record.version.text
  | .removed _ => True

/-- The write leaves no record with the key as it was. -/
def Write.Touches (key : RecordKey) : Write → Prop
  | .nothing => False
  | .added _ => False
  | .replaced record => record.key = key
  | .removed other => other = key

/-- The write leaves a record that was not there before. -/
def Write.Brings (r : Record) : Write → Prop
  | .nothing => False
  | .added record => r = record
  | .replaced record => r = record
  | .removed _ => False

theorem Write.Brings.unique {w : Write} {r r' : Record} (h : w.Brings r) (h' : w.Brings r') : r = r' := by
  cases w with
  | nothing => exact h.elim
  | added record => exact Eq.trans h (Eq.symm h')
  | replaced record => exact Eq.trans h (Eq.symm h')
  | removed key => exact h.elim

namespace Inventory

/-- One inventory follows from another by a legal write, with the tokens drawn in between. -/
structure Advances (inv : Inventory) (w : Write) (after : Inventory) : Prop where
  le : inv.drawn ≤ after.drawn
  legal : w.Legal inv after.drawn
  eq : after = { inv.write w with drawn := after.drawn }

/-- Identifiers are unique within their kind, and all tokens in use were drawn. -/
structure Sound (inv : Inventory) : Prop where
  namespaces : (inv.namespaces.map Namespace.id).Nodup
  volumes : (inv.volumes.map Volume.id).Nodup
  nodes : (inv.nodes.map Node.id).Nodup
  users : (inv.users.map User.id).Nodup
  policyGroups : (inv.policyGroups.map PolicyGroup.id).Nodup
  keys : ∀ r ∈ inv.records, r.key.NumberedIn 0 inv.drawn
  versions : ∀ r ∈ inv.records, Numbered "v" 0 inv.drawn r.version.text

/-- Identifiers are unique within their kind, and those of namespaces are not empty. -/
structure Identified (inv : Inventory) : Prop where
  namespaces : (inv.namespaces.map Namespace.id).Nodup
  named : ∀ ns ∈ inv.namespaces, ns.id.text ≠ ""
  volumes : (inv.volumes.map Volume.id).Nodup
  nodes : (inv.nodes.map Node.id).Nodup
  users : (inv.users.map User.id).Nodup
  policyGroups : (inv.policyGroups.map PolicyGroup.id).Nodup

theorem Sound.identified {inv : Inventory} (h : inv.Sound) : inv.Identified := by
  refine ⟨h.namespaces, fun ns hns => ?_, h.volumes, h.nodes, h.users, h.policyGroups⟩
  have hmem : Record.namespace ns ∈ inv.records := by
    simp only [records, List.append_assoc]
    exact List.mem_append_left _ (List.mem_map_of_mem hns)
  exact (h.keys _ hmem).ne_empty

/-! ### Unique identifiers -/

theorem nodup_map_concat {α κ : Type} {key : α → κ} {items : List α} {item : α}
    (h : (items.map key).Nodup) (hnew : ∀ a ∈ items, key a ≠ key item) :
    ((items ++ [item]).map key).Nodup := by
  rw [List.map_append, List.nodup_append]
  refine ⟨h, by simp, ?_⟩
  intro k hk k' hk'
  obtain ⟨a, ha, rfl⟩ := List.mem_map.mp hk
  obtain rfl : k' = key item := by simpa using hk'
  exact hnew a ha

theorem map_replaceIn {α κ : Type} [DecidableEq κ] (key : α → κ) (item : α) (items : List α) :
    (replaceIn key item items).map key = items.map key := by
  rw [replaceIn, List.map_map]
  apply List.map_congr_left
  intro a _
  simp only [Function.comp_apply]
  split
  · rename_i hkey
    exact hkey.symm
  · rfl

theorem nodup_map_filter {α κ : Type} {key : α → κ} {p : α → Bool} {items : List α}
    (h : (items.map key).Nodup) : ((items.filter p).map key).Nodup :=
  h.sublist ((List.filter_sublist ..).map key)

/-- Two items with one key are the same where keys are unique. -/
theorem eq_of_key_eq {α κ : Type} {key : α → κ} {items : List α} (h : (items.map key).Nodup)
    {a b : α} (ha : a ∈ items) (hb : b ∈ items) (hab : key a = key b) : a = b :=
  List.inj_on_of_nodup_map h ha hb hab

/-! ### Sound inventories -/

theorem sound_empty (username password : String) : (empty username password).Sound := by
  refine ⟨List.nodup_nil, List.nodup_nil, List.nodup_nil, List.nodup_nil, List.nodup_nil, ?_, ?_⟩
  all_goals
    intro r hr
    simp [records, empty] at hr

namespace Sound

variable {inv after : Inventory} {w : Write}

/-- A record is known by its key. -/
theorem record_unique (h : inv.Sound) {r r' : Record} (hr : r ∈ inv.records)
    (hr' : r' ∈ inv.records) (hkey : r.key = r'.key) : r = r' := by
  cases r <;> cases r' <;> simp only [Record.key, reduceCtorEq, RecordKey.namespace.injEq,
    RecordKey.volume.injEq, RecordKey.node.injEq, RecordKey.user.injEq,
    RecordKey.policyGroup.injEq] at hkey <;>
    simp only [namespace_mem_records, volume_mem_records, node_mem_records, user_mem_records,
      policyGroup_mem_records, licence_mem_records] at hr hr'
  · rw [eq_of_key_eq h.namespaces hr hr' hkey]
  · rw [eq_of_key_eq h.volumes hr hr' hkey]
  · rw [eq_of_key_eq h.nodes hr hr' hkey]
  · rw [eq_of_key_eq h.users hr hr' hkey]
  · rw [eq_of_key_eq h.policyGroups hr hr' hkey]
  · rw [Option.some.inj (hr.symm.trans hr')]

/-- Looking a stored record up by its key gives it back. -/
theorem record?_key (h : inv.Sound) {r : Record} (hr : r ∈ inv.records) :
    inv.record? r.key = some r := by
  rw [record?]
  cases hfind : inv.records.find? fun a => a.key = r.key with
  | none => simpa using List.find?_eq_none.mp hfind r hr
  | some a =>
    have hkey : a.key = r.key := by simpa using List.find?_some hfind
    rw [h.record_unique (List.mem_of_find?_eq_some hfind) hr hkey]

/-- A key that is numbered above the counter names no record. -/
theorem key_ne_of_new (h : inv.Sound) {record : Record} {high : Nat} (hlic : record.key ≠ .licence)
    (hnew : record.key.NumberedIn inv.drawn high) {r : Record} (hr : r ∈ inv.records) :
    r.key ≠ record.key := by
  intro hkey
  have hold := h.keys r hr
  rw [hkey] at hold
  cases hk : record.key <;> rw [hk] at hold hnew <;>
    first
    | exact Numbered.not_later hold hnew
    | exact hlic hk

/-- A record that a legal write leaves was there, or the write brought it. -/
theorem record_old_or_brought (ha : inv.Advances w after) {r : Record} (hr : r ∈ after.records) :
    r ∈ inv.records ∨ w.Brings r := by
  rw [ha.eq, records_counted] at hr
  cases w with
  | nothing => exact Or.inl hr
  | added record => exact (mem_records_add hr).symm
  | replaced record => exact (mem_records_replace hr).symm.imp And.left id
  | removed key => exact Or.inl (mem_records_remove hr).1

/-- What a legal write brings has a version above the old counter. -/
theorem new_version_of_brings (ha : inv.Advances w after) {r : Record} (hr : w.Brings r) :
    Numbered "v" inv.drawn after.drawn r.version.text := by
  have hlegal := ha.legal
  cases w with
  | nothing => exact hr.elim
  | added record => exact hr ▸ hlegal.2
  | replaced record => exact hr ▸ hlegal.2
  | removed key => exact hr.elim

/-- What a legal write brings under a key is named anew, or takes the place of a record with the key. -/
theorem key_of_brings (ha : inv.Advances w after) {r : Record} (hr : w.Brings r) :
    r.key.NumberedIn inv.drawn after.drawn ∨ ∃ old ∈ inv.records, old.key = r.key := by
  have hlegal := ha.legal
  cases w with
  | nothing => exact hr.elim
  | added record => exact Or.inl (hr ▸ hlegal.1)
  | replaced record => exact Or.inr (hr ▸ hlegal.1)
  | removed key => exact hr.elim

/-- Where a record comes from that a legal write leaves: it was there, or the write brought it with a
version above the old counter. -/
theorem record_old_or_new (ha : inv.Advances w after) {r : Record} (hr : r ∈ after.records) :
    r ∈ inv.records ∨ Numbered "v" inv.drawn after.drawn r.version.text :=
  (record_old_or_brought ha hr).imp id (new_version_of_brings ha)

/-- A record whose version is not above the old counter was there before the write. -/
theorem mem_of_old_version (ha : inv.Advances w after) {r : Record} (hr : r ∈ after.records)
    {low : Nat} (hold : Numbered "v" low inv.drawn r.version.text) : r ∈ inv.records := by
  rcases record_old_or_new ha hr with hmem | hnew
  · exact hmem
  · exact absurd hnew hold.not_later

/-- After a write that touches a key, a record with the key has a version above the old counter. -/
theorem new_version_of_touches (ha : inv.Advances w after) {r : Record} (hr : r ∈ after.records)
    (ht : w.Touches r.key) : Numbered "v" inv.drawn after.drawn r.version.text := by
  have hlegal := ha.legal
  rw [ha.eq, records_counted] at hr
  cases w with
  | nothing => exact ht.elim
  | added record => exact ht.elim
  | replaced record =>
    rcases mem_records_replace hr with rfl | ⟨_, hne⟩
    · exact hlegal.2
    · exact absurd ht.symm hne
  | removed key => exact absurd ht.symm (mem_records_remove hr).2

theorem keys_after (h : inv.Sound) (ha : inv.Advances w after) :
    ∀ r ∈ after.records, r.key.NumberedIn 0 after.drawn := by
  intro r hr
  have hold : ∀ r ∈ inv.records, r.key.NumberedIn 0 after.drawn := fun r hr =>
    (h.keys r hr).mono le_rfl ha.le
  rcases record_old_or_brought ha hr with hmem | hnew
  · exact hold r hmem
  · rcases key_of_brings ha hnew with hnumbered | ⟨old, hmem, hkey⟩
    · exact hnumbered.mono (Nat.zero_le _) le_rfl
    · exact hkey ▸ hold old hmem

theorem versions_after (h : inv.Sound) (ha : inv.Advances w after) :
    ∀ r ∈ after.records, Numbered "v" 0 after.drawn r.version.text := by
  intro r hr
  rcases record_old_or_new ha hr with hmem | hnew
  · exact (h.versions r hmem).mono le_rfl ha.le
  · exact hnew.mono (Nat.zero_le _) le_rfl

/-- Identifiers stay unique: a write changes one column of them, where it puts a new identifier behind
the others, leaves them as they are, or drops one. -/
theorem columns_after (h : inv.Sound) (ha : inv.Advances w after) :
    ((inv.write w).namespaces.map Namespace.id).Nodup ∧
      ((inv.write w).volumes.map Volume.id).Nodup ∧ ((inv.write w).nodes.map Node.id).Nodup ∧
      ((inv.write w).users.map User.id).Nodup ∧
      ((inv.write w).policyGroups.map PolicyGroup.id).Nodup := by
  obtain ⟨hns, hvol, hnode, huser, hpg, _, _⟩ := id h
  have hlegal := ha.legal
  cases w with
  | nothing => exact ⟨hns, hvol, hnode, huser, hpg⟩
  | added record =>
    have hnew := hlegal.1
    cases record with
    | «namespace» item =>
      refine ⟨nodup_map_concat hns ?_, hvol, hnode, huser, hpg⟩
      intro n hn hid
      exact h.key_ne_of_new (by simp [Record.key]) hnew (namespace_mem_records.mpr hn)
        (congrArg RecordKey.namespace hid)
    | volume item =>
      refine ⟨hns, nodup_map_concat hvol ?_, hnode, huser, hpg⟩
      intro v hv hid
      exact h.key_ne_of_new (by simp [Record.key]) hnew (volume_mem_records.mpr hv)
        (congrArg RecordKey.volume hid)
    | node item =>
      refine ⟨hns, hvol, nodup_map_concat hnode ?_, huser, hpg⟩
      intro n hn hid
      exact h.key_ne_of_new (by simp [Record.key]) hnew (node_mem_records.mpr hn)
        (congrArg RecordKey.node hid)
    | user item =>
      refine ⟨hns, hvol, hnode, nodup_map_concat huser ?_, hpg⟩
      intro u hu hid
      exact h.key_ne_of_new (by simp [Record.key]) hnew (user_mem_records.mpr hu)
        (congrArg RecordKey.user hid)
    | policyGroup item =>
      refine ⟨hns, hvol, hnode, huser, nodup_map_concat hpg ?_⟩
      intro g hg hid
      exact h.key_ne_of_new (by simp [Record.key]) hnew (policyGroup_mem_records.mpr hg)
        (congrArg RecordKey.policyGroup hid)
    | licence item => exact ⟨hns, hvol, hnode, huser, hpg⟩
  | replaced record =>
    cases record <;> simp only [write, replace, map_replaceIn] <;>
      exact ⟨hns, hvol, hnode, huser, hpg⟩
  | removed key =>
    cases key with
    | «namespace» id => exact ⟨nodup_map_filter hns, hvol, hnode, huser, hpg⟩
    | volume id => exact ⟨hns, nodup_map_filter hvol, hnode, huser, hpg⟩
    | node id => exact ⟨hns, hvol, nodup_map_filter hnode, huser, hpg⟩
    | user id => exact ⟨hns, hvol, hnode, nodup_map_filter huser, hpg⟩
    | policyGroup id => exact ⟨hns, hvol, hnode, huser, nodup_map_filter hpg⟩
    | licence => exact ⟨hns, hvol, hnode, huser, hpg⟩

/-- A legal write keeps an inventory sound. -/
theorem advance (h : inv.Sound) (ha : inv.Advances w after) : after.Sound := by
  have hkeys := h.keys_after ha
  have hversions := h.versions_after ha
  obtain ⟨hns, hvol, hnode, huser, hpg⟩ := h.columns_after ha
  rw [ha.eq] at hkeys hversions ⊢
  exact ⟨hns, hvol, hnode, huser, hpg, hkeys, hversions⟩

end Sound

end Inventory

end BlockStorage
