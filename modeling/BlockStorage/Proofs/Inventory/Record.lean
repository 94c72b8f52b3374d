import BlockStorage.Proofs.Inventory.Token

/-!
The records of an inventory, and the writes that operations make.

A record is a stored resource of any kind, and a key names it. A write adds a record behind those of its
kind, puts one in the place of the record with its key, or removes a record; what it leaves behind is
read off one membership lemma.
-/

namespace BlockStorage

/-- What names a stored resource. A cluster has at most one licence. -/
inductive RecordKey where
  | «namespace» (id : NamespaceId)
  | volume (id : VolumeId)
  | node (id : NodeId)
  | user (id : UserId)
  | policyGroup (id : PolicyGroupId)
  | licence
deriving DecidableEq

/-- A stored resource. -/
inductive Record where
  | «namespace» (item : Namespace)
  | volume (item : Volume)
  | node (item : Node)
  | user (item : User)
  | policyGroup (item : PolicyGroup)
  | licence (item : Licence)
deriving DecidableEq

namespace Record

/-- The name of the record. -/
def key : Record → RecordKey
  | .namespace item => .namespace item.id
  | .volume item => .volume item.id
  | .node item => .node item.id
  | .user item => .user item.id
  | .policyGroup item => .policyGroup item.id
  | .licence _ => .licence

/-- The token of the revision of the record. -/
def version : Record → Version
  | .namespace item => item.version
  | .volume item => item.version
  | .node item => item.version
  | .user item => item.version
  | .policyGroup item => item.version
  | .licence item => item.version

end Record

/-- The key was numbered in a stretch of the counter; that of the licence is no number. -/
def RecordKey.NumberedIn (low high : Nat) : RecordKey → Prop
  | .namespace id => Numbered "ns" low high id.text
  | .volume id => Numbered "vol" low high id.text
  | .node id => Numbered "node" low high id.text
  | .user id => Numbered "user" low high id.text
  | .policyGroup id => Numbered "pg" low high id.text
  | .licence => True

theorem RecordKey.NumberedIn.mono {key : RecordKey} {low low' high high' : Nat}
    (h : key.NumberedIn low high) (hlow : low' ≤ low) (hhigh : high ≤ high') :
    key.NumberedIn low' high' := by
  cases key <;> first | exact Numbered.mono h hlow hhigh | trivial

namespace Inventory

/-- All records, kind by kind. -/
def records (inv : Inventory) : List Record :=
  inv.namespaces.map .namespace ++ inv.volumes.map .volume ++ inv.nodes.map .node ++
    inv.users.map .user ++ inv.policyGroups.map .policyGroup ++ inv.licence.toList.map .licence

/-- The record with a key. -/
def record? (inv : Inventory) (key : RecordKey) : Option Record :=
  inv.records.find? fun r => r.key = key

section

variable {inv : Inventory}

@[simp] theorem namespace_mem_records {item : Namespace} :
    .namespace item ∈ inv.records ↔ item ∈ inv.namespaces := by simp [records]

@[simp] theorem volume_mem_records {item : Volume} :
    .volume item ∈ inv.records ↔ item ∈ inv.volumes := by simp [records]

@[simp] theorem node_mem_records {item : Node} :
    .node item ∈ inv.records ↔ item ∈ inv.nodes := by simp [records]

@[simp] theorem user_mem_records {item : User} :
    .user item ∈ inv.records ↔ item ∈ inv.users := by simp [records]

@[simp] theorem policyGroup_mem_records {item : PolicyGroup} :
    .policyGroup item ∈ inv.records ↔ item ∈ inv.policyGroups := by simp [records]

@[simp] theorem licence_mem_records {item : Licence} :
    .licence item ∈ inv.records ↔ inv.licence = some item := by simp [records]

end

@[simp] theorem records_counted (inv : Inventory) (n : Nat) :
    { inv with drawn := n }.records = inv.records := rfl

end Inventory

/-! ### Writes -/

/-- What an operation writes. -/
inductive Write where
  | nothing
  | added (record : Record)
  | replaced (record : Record)
  | removed (key : RecordKey)

namespace Inventory

/-- The list with an item in the place of every item of its key. -/
def replaceIn {α κ : Type} [DecidableEq κ] (key : α → κ) (item : α) (items : List α) : List α :=
  items.map fun a => if key a = key item then item else a

/-- The inventory after a record was added; there is one licence, so a new one takes its place. -/
def add (inv : Inventory) : Record → Inventory
  | .namespace item => { inv with namespaces := inv.namespaces ++ [item] }
  | .volume item => { inv with volumes := inv.volumes ++ [item] }
  | .node item => { inv with nodes := inv.nodes ++ [item] }
  | .user item => { inv with users := inv.users ++ [item] }
  | .policyGroup item => { inv with policyGroups := inv.policyGroups ++ [item] }
  | .licence item => { inv with licence := some item }

/-- The inventory with a record in the place of the one with its key. -/
def replace (inv : Inventory) : Record → Inventory
  | .namespace item => { inv with namespaces := replaceIn Namespace.id item inv.namespaces }
  | .volume item => { inv with volumes := replaceIn Volume.id item inv.volumes }
  | .node item => { inv with nodes := replaceIn Node.id item inv.nodes }
  | .user item => { inv with users := replaceIn User.id item inv.users }
  | .policyGroup item => { inv with policyGroups := replaceIn PolicyGroup.id item inv.policyGroups }
  | .licence item => { inv with licence := inv.licence.map fun _ => item }

/-- The inventory without the record with a key. -/
def remove (inv : Inventory) : RecordKey → Inventory
  | .namespace id => { inv with namespaces := inv.namespaces.filter fun n => n.id ≠ id }
  | .volume id => { inv with volumes := inv.volumes.filter fun v => v.id ≠ id }
  | .node id => { inv with nodes := inv.nodes.filter fun n => n.id ≠ id }
  | .user id => { inv with users := inv.users.filter fun u => u.id ≠ id }
  | .policyGroup id => { inv with policyGroups := inv.policyGroups.filter fun g => g.id ≠ id }
  | .licence => { inv with licence := none }

/-- The inventory after a write. -/
def write (inv : Inventory) : Write → Inventory
  | .nothing => inv
  | .added record => inv.add record
  | .replaced record => inv.replace record
  | .removed key => inv.remove key

theorem mem_replaceIn {α κ : Type} [DecidableEq κ] {key : α → κ} {item a : α} {items : List α}
    (h : a ∈ replaceIn key item items) : a = item ∨ (a ∈ items ∧ key a ≠ key item) := by
  obtain ⟨b, hb, hba⟩ := List.mem_map.mp h
  by_cases hkey : key b = key item
  · rw [if_pos hkey] at hba
    exact Or.inl hba.symm
  · rw [if_neg hkey] at hba
    exact Or.inr ⟨hba ▸ hb, hba ▸ hkey⟩

theorem mem_records_add {inv : Inventory} {r record : Record} (h : r ∈ (inv.add record).records) :
    r = record ∨ r ∈ inv.records := by
  cases record <;> cases r <;> simp_all [add, or_comm, eq_comm]

theorem mem_records_replace {inv : Inventory} {r record : Record}
    (h : r ∈ (inv.replace record).records) :
    r = record ∨ (r ∈ inv.records ∧ r.key ≠ record.key) := by
  cases record <;> cases r <;> simp only [replace, namespace_mem_records, volume_mem_records,
    node_mem_records, user_mem_records, policyGroup_mem_records, licence_mem_records] at h ⊢ <;>
    first
    | (rcases mem_replaceIn h with rfl | ⟨hr, hkey⟩
       · exact Or.inl rfl
       · exact Or.inr ⟨hr, by simpa [Record.key] using hkey⟩)
    | exact Or.inr ⟨h, by simp [Record.key]⟩
    | (obtain ⟨_, _, rfl⟩ := Option.map_eq_some_iff.mp h
       exact Or.inl rfl)

theorem mem_records_remove {inv : Inventory} {r : Record} {key : RecordKey}
    (h : r ∈ (inv.remove key).records) : r ∈ inv.records ∧ r.key ≠ key := by
  cases key <;> cases r <;> simp_all [remove, Record.key]

end Inventory

end BlockStorage
