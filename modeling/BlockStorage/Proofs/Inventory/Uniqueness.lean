import BlockStorage.Proofs.Inventory.Soundness

/-!
Identifiers and versions are unique among all records of a sound inventory.

An identifier begins with the mark of its kind, so that identifiers of two kinds differ like those of one.
A legal write brings at most one version, which is above the counter, so versions stay unique; and a record
that is left with an identifier from before has kept it.
-/

namespace BlockStorage

/-! ### Marks -/

namespace RecordKey

/-- The mark that identifiers of the kind begin with. -/
def mark : RecordKey → String
  | .namespace _ => "ns"
  | .volume _ => "vol"
  | .node _ => "node"
  | .user _ => "user"
  | .policyGroup _ => "pg"
  | .licence => ""

/-- The identifier as it reads; a licence has none. -/
def text? : RecordKey → Option String
  | .namespace id => some id.text
  | .volume id => some id.text
  | .node id => some id.text
  | .user id => some id.text
  | .policyGroup id => some id.text
  | .licence => none

theorem dash_not_mem_mark (key : RecordKey) : '-' ∉ key.mark.toList := by
  cases key <;> simp [mark]

end RecordKey

/-- A token reads its mark up to the first dash. -/
theorem Numbered.takeWhile_text {mark text : String} {low high : Nat}
    (h : Numbered mark low high text) (hmark : '-' ∉ mark.toList) :
    text.toList.takeWhile (· ≠ '-') = mark.toList := by
  obtain ⟨n, _, _, rfl⟩ := h
  have hall : ∀ c ∈ mark.toList, decide (c ≠ '-') = true := by
    intro c hc
    rw [decide_eq_true_eq]
    rintro rfl
    exact hmark hc
  rw [String.toList_append, String.toList_append, List.append_assoc, List.takeWhile_append_of_pos hall]
  simp

namespace RecordKey

variable {key key' : RecordKey} {text : String}

theorem numbered_text {low high : Nat} (h : key.NumberedIn low high) (ht : key.text? = some text) :
    Numbered key.mark low high text := by
  cases key <;> cases ht <;> exact h

theorem eq_of_mark_of_text (hmark : key.mark = key'.mark) (ht : key.text? = key'.text?) :
    key = key' := by
  rcases key with ⟨⟨_⟩⟩ | ⟨⟨_⟩⟩ | ⟨⟨_⟩⟩ | ⟨⟨_⟩⟩ | ⟨⟨_⟩⟩ | _ <;>
    rcases key' with ⟨⟨_⟩⟩ | ⟨⟨_⟩⟩ | ⟨⟨_⟩⟩ | ⟨⟨_⟩⟩ | ⟨⟨_⟩⟩ | _ <;>
    simp_all [mark, text?]

/-- An identifier names one thing of one kind. -/
theorem eq_of_text {low high low' high' : Nat} (h : key.NumberedIn low high)
    (h' : key'.NumberedIn low' high') (ht : key.text? = some text) (ht' : key'.text? = some text) :
    key = key' := by
  have hmark : key.mark.toList = key'.mark.toList := by
    rw [← (numbered_text h ht).takeWhile_text key.dash_not_mem_mark,
      ← (numbered_text h' ht').takeWhile_text key'.dash_not_mem_mark]
  exact eq_of_mark_of_text (String.toList_injective hmark) (ht.trans ht'.symm)

/-- A key that is numbered in one stretch of the counter is not numbered in a later one. -/
theorem NumberedIn.not_later {low mid high : Nat} (h : key.NumberedIn low mid)
    (hlicence : key ≠ .licence) : ¬ key.NumberedIn mid high := by
  cases key <;> first | exact Numbered.not_later h | exact absurd rfl hlicence

end RecordKey

namespace Inventory

/-- The identifiers in use, of all kinds. -/
def identifiers (inv : Inventory) : List String := inv.records.filterMap fun r => r.key.text?

/-- The versions in use, that of the licence included. -/
def versions (inv : Inventory) : List Version := inv.records.map Record.version

/-- A version names one revision of one resource. -/
def VersionsDiffer (inv : Inventory) : Prop :=
  ∀ r ∈ inv.records, ∀ r' ∈ inv.records, r.version = r'.version → r = r'

variable {inv after : Inventory} {w : Write}

theorem map_key_records (inv : Inventory) :
    inv.records.map Record.key =
      (inv.namespaces.map Namespace.id).map .namespace ++ (inv.volumes.map Volume.id).map .volume ++
        (inv.nodes.map Node.id).map .node ++ (inv.users.map User.id).map .user ++
        (inv.policyGroups.map PolicyGroup.id).map .policyGroup ++
        inv.licence.toList.map fun _ => .licence := by
  simp only [records, List.map_append, List.map_map]
  rfl

theorem mem_identifiers {text : String} :
    text ∈ inv.identifiers ↔ ∃ r ∈ inv.records, r.key.text? = some text := List.mem_filterMap

namespace Sound

theorem nodup_keys (h : inv.Sound) : (inv.records.map Record.key).Nodup := by
  have hns := h.namespaces.map (f := RecordKey.namespace) fun _ _ => RecordKey.namespace.inj
  have hvol := h.volumes.map (f := RecordKey.volume) fun _ _ => RecordKey.volume.inj
  have hnode := h.nodes.map (f := RecordKey.node) fun _ _ => RecordKey.node.inj
  have huser := h.users.map (f := RecordKey.user) fun _ _ => RecordKey.user.inj
  have hpg := h.policyGroups.map (f := RecordKey.policyGroup) fun _ _ => RecordKey.policyGroup.inj
  have hlic : (inv.licence.toList.map fun _ => RecordKey.licence).Nodup := by
    cases inv.licence <;> simp
  -- within a kind the identifiers differ, and keys of two kinds differ by their constructors
  simp only [map_key_records, List.nodup_append, hns, hvol, hnode, huser, hpg, hlic]
  simp [or_imp, forall_and]

theorem nodup_identifiers (h : inv.Sound) : inv.identifiers.Nodup := by
  have hkeys : inv.records.Pairwise fun a b => a.key ≠ b.key := List.pairwise_map.mp h.nodup_keys
  refine List.pairwise_filterMap.mpr (hkeys.imp_of_mem ?_)
  intro a b ha hb hab text hta text' htb htext
  exact hab (RecordKey.eq_of_text (h.keys a ha) (h.keys b hb) hta (htext ▸ htb))

theorem nodup_versions (h : inv.Sound) (hdiffer : inv.VersionsDiffer) : inv.versions.Nodup := by
  have hrecords : inv.records.Nodup := h.nodup_keys.of_map Record.key
  exact hrecords.map_on hdiffer

/-! ### Writes -/

/-- Versions stay unique: a write brings one record at most, and its version is new. -/
theorem versionsDiffer_advance (h : inv.Sound) (hdiffer : inv.VersionsDiffer)
    (ha : inv.Advances w after) : after.VersionsDiffer := by
  intro r hr r' hr' hversion
  rcases record_old_or_brought ha hr with hold | hnew <;>
    rcases record_old_or_brought ha hr' with hold' | hnew'
  · exact hdiffer r hold r' hold' hversion
  · have hlater := new_version_of_brings ha hnew'
    exact absurd (hversion ▸ hlater) (h.versions r hold).not_later
  · have hlater := new_version_of_brings ha hnew
    exact absurd (hversion ▸ hlater) (h.versions r' hold').not_later
  · exact hnew.unique hnew'

/-- An identifier that was drawn before a legal write, and that is in use after it, was in use before. -/
theorem identifier_of_old (ha : inv.Advances w after) {text : String} {key : RecordKey}
    (hkey : key.NumberedIn 0 inv.drawn) (ht : key.text? = some text)
    (hafter : text ∈ after.identifiers) : text ∈ inv.identifiers := by
  obtain ⟨r, hr, hrt⟩ := mem_identifiers.mp hafter
  rcases record_old_or_brought ha hr with hold | hnew
  · exact mem_identifiers.mpr ⟨r, hold, hrt⟩
  · rcases key_of_brings ha hnew with hnumbered | ⟨old, hold, hold_key⟩
    · have heq : key = r.key := RecordKey.eq_of_text hkey hnumbered ht hrt
      have hlicence : key ≠ .licence := by
        rintro rfl
        cases ht
      exact absurd (heq ▸ hnumbered) (hkey.not_later hlicence)
    · exact mem_identifiers.mpr ⟨old, hold, hold_key ▸ hrt⟩

end Sound

end Inventory

end BlockStorage
