import BlockStorage.Proofs.Inventory.Soundness

/-!
What each operation makes of an inventory.

An operation that fails draws tokens at most. One that succeeds makes one legal write, and if it was
directed at a stored resource, then it compared the version of that resource first and leaves none of
that name as it was. Each operation has a lemma that says all it can do and under which
checks, and one for either outcome; `perform` has one of each kind for all calls.
-/

namespace BlockStorage

/-- The stored resource that a change is directed at. -/
def Call.target? : Call → Option RecordKey
  | .deleteNamespace id _ => some (.namespace id)
  | .resizeVolume _ id _ _ => some (.volume id)
  | .setReplicas _ id _ _ => some (.volume id)
  | .setDescription _ id _ _ => some (.volume id)
  | .updateNfsExports _ id _ _ => some (.volume id)
  | .attachVolume _ id _ _ => some (.volume id)
  | .detachVolume _ id _ => some (.volume id)
  | .deleteVolume _ id _ => some (.volume id)
  | .setNodeCordoned id _ _ => some (.node id)
  | _ => none

namespace Inventory

/-- The inventory was left with nothing written, whatever was drawn. -/
abbrev Spares (inv after : Inventory) : Prop := inv.Advances .nothing after

/-- A change directed at a resource found it under its parameters and wrote over it. -/
structure Revises (inv : Inventory) (key : RecordKey) (params : RequestParams)
    (after : Inventory) : Prop where
  checked : ∃ old ∈ inv.records, old.key = key ∧ checkVersion old.version params = .ok ()
  written : ∃ w, inv.Advances w after ∧ w.Touches key

theorem Spares.refl (inv : Inventory) : inv.Spares inv := ⟨le_rfl, trivial, rfl⟩

theorem Spares.draw (inv : Inventory) : inv.Spares inv.draw := ⟨Nat.le_succ _, trivial, rfl⟩

/-! ### Lists of records -/

section

variable {α κ : Type} [DecidableEq κ] {key : α → κ} {item : α} {items : List α} {p : α → Bool}

theorem replaceIn_cons (a : α) (as : List α) :
    replaceIn key item (a :: as) =
      (if key a = key item then item else a) :: replaceIn key item as := rfl

theorem replaceIn_of_new (h : ∀ a ∈ items, key a ≠ key item) : replaceIn key item items = items := by
  have hsame : ∀ a ∈ items, (if key a = key item then item else a) = a :=
    fun a ha => if_neg (h a ha)
  rw [replaceIn, List.map_congr_left hsame, List.map_id']

/-- Where keys are unique, the new item stands exactly where the one of its key stood. -/
theorem replaceIn_split {old : α} (h : (items.map key).Nodup) (hold : old ∈ items)
    (hkey : key item = key old) :
    ∃ front back, items = front ++ old :: back ∧
      replaceIn key item items = front ++ item :: back := by
  obtain ⟨front, back, rfl⟩ := List.append_of_mem hold
  rw [List.map_append, List.map_cons, List.nodup_middle, List.nodup_cons, ← List.map_append] at h
  have hother : ∀ a ∈ front ++ back, key a ≠ key item := by
    intro a ha hsame
    exact h.1 (List.mem_map.mpr ⟨a, ha, hsame.trans hkey⟩)
  obtain ⟨hfront, hback⟩ := List.forall_mem_append.mp hother
  refine ⟨front, back, rfl, ?_⟩
  have happend : replaceIn key item (front ++ old :: back) =
      replaceIn key item front ++ replaceIn key item (old :: back) := List.map_append
  rw [happend, replaceIn_of_new hfront, replaceIn_cons, if_pos hkey.symm, replaceIn_of_new hback]

/-- Where keys are unique, dropping a key drops one item. -/
theorem filter_key_split {old : α} (h : (items.map key).Nodup) (hold : old ∈ items) :
    ∃ front back, items = front ++ old :: back ∧
      (items.filter fun a => key a ≠ key old) = front ++ back := by
  obtain ⟨front, back, rfl⟩ := List.append_of_mem hold
  rw [List.map_append, List.map_cons, List.nodup_middle, List.nodup_cons, ← List.map_append] at h
  refine ⟨front, back, rfl, ?_⟩
  have hother : ∀ a ∈ front ++ back, decide (key a ≠ key old) = true := by
    intro a ha
    rw [decide_eq_true_eq]
    intro hsame
    exact h.1 (List.mem_map.mpr ⟨a, ha, hsame⟩)
  obtain ⟨hfront, hback⟩ := List.forall_mem_append.mp hother
  rw [List.filter_append, List.filter_cons_of_neg (by simp), List.filter_eq_self.mpr hfront,
    List.filter_eq_self.mpr hback]

/-- A condition that no item of the new key meets finds what it found before. -/
theorem find?_replaceIn (hp : ∀ a, key a = key item → p a = false) :
    (replaceIn key item items).find? p = items.find? p := by
  induction items with
  | nil => rfl
  | cons a as ih =>
    rw [replaceIn_cons]
    by_cases ha : key a = key item
    · rw [if_pos ha, List.find?_cons_of_neg (by simp [hp item rfl]),
        List.find?_cons_of_neg (by simp [hp a ha]), ih]
    · rw [if_neg ha, List.find?_cons, List.find?_cons, ih]

/-- Where keys are unique, changing the first item found is putting the new one in its place. -/
theorem changeFirst_eq_replaceIn (h : (items.map key).Nodup)
    (hp : ∀ a ∈ items, p a = true → key a = key item) (hex : ∃ a ∈ items, p a = true) :
    changeFirst p (fun _ => item) items = replaceIn key item items := by
  induction items with
  | nil => rfl
  | cons a as ih =>
    obtain ⟨hnew, has⟩ := List.nodup_cons.mp (List.map_cons ▸ h)
    rw [changeFirst]
    by_cases ha : p a = true
    · -- the item is the first one, and no other has its key
      have hkey := hp a List.mem_cons_self ha
      have hrest : ∀ b ∈ as, key b ≠ key item := by
        intro b hb hbkey
        exact hnew (List.mem_map.mpr ⟨b, hb, hbkey.trans hkey.symm⟩)
      rw [if_pos ha, replaceIn_cons, if_pos hkey, replaceIn_of_new hrest]
    · -- the item is further behind, so the first one has another key
      obtain ⟨b, hb, hpb⟩ := hex
      have hb : b ∈ as := by
        rcases List.mem_cons.mp hb with rfl | hb
        · exact absurd hpb ha
        · exact hb
      have hkey : key a ≠ key item := by
        intro hkey
        have hbkey := hp b (List.mem_cons_of_mem a hb) hpb
        exact hnew (List.mem_map.mpr ⟨b, hb, hbkey.trans hkey.symm⟩)
      rw [if_neg ha, ih has (fun c hc => hp c (List.mem_cons_of_mem a hc)) ⟨b, hb, hpb⟩,
        replaceIn_cons, if_neg hkey]

/-- An item that is found only behind the others is changed there. -/
theorem changeFirst_concat {change : α → α} (h : ∀ a ∈ items, p a = false) (hp : p item = true) :
    changeFirst p change (items ++ [item]) = items ++ [change item] := by
  induction items with
  | nil => rw [List.nil_append, changeFirst, if_pos hp, List.nil_append]
  | cons a as ih =>
    have ha : ¬ p a = true := by
      rw [h a List.mem_cons_self]
      exact Bool.false_ne_true
    rw [List.cons_append, changeFirst, if_neg ha,
      ih fun b hb => h b (List.mem_cons_of_mem a hb), List.cons_append]

/-- Where keys are unique, removing the first item with a key is removing all of them. -/
theorem removeFirst_eq_filter {k : κ} (h : (items.map key).Nodup) :
    removeFirst (fun a => key a = k) items = items.filter fun a => key a ≠ k := by
  induction items with
  | nil => rfl
  | cons a as ih =>
    obtain ⟨hnew, has⟩ := List.nodup_cons.mp (List.map_cons ▸ h)
    rw [removeFirst]
    by_cases ha : key a = k
    · have hrest : ∀ b ∈ as, decide (key b ≠ k) = true := by
        intro b hb
        rw [decide_eq_true_eq]
        intro hbk
        exact hnew (List.mem_map.mpr ⟨b, hb, hbk.trans ha.symm⟩)
      simp only [ha, decide_true, if_true, ne_eq, not_true_eq_false, decide_false,
        Bool.false_eq_true, not_false_eq_true, List.filter_cons_of_neg]
      exact (List.filter_eq_self.mpr hrest).symm
    · simp only [ha, decide_false, Bool.false_eq_true, if_false, ne_eq, not_false_eq_true,
        decide_true, List.filter_cons_of_pos]
      rw [ih has]

end

/-! ### Results of operations -/

theorem findOr_eq_ok {α : Type} {kind : ResourceKind} {reference : String} {p : α → Bool}
    {items : List α} {a : α} (h : findOr kind reference p items = .ok a) :
    a ∈ items ∧ p a = true := by
  rw [findOr] at h
  split at h
  · rename_i item hfind
    obtain rfl := Except.ok.inj h
    exact ⟨List.mem_of_find?_eq_some hfind, List.find?_some hfind⟩
  · cases h

theorem volumeIn_eq_ok {inv : Inventory} {ns : NamespaceId} {id : VolumeId} {v : Volume}
    (h : inv.volumeIn ns id = .ok v) : v ∈ inv.volumes ∧ v.namespaceId = ns ∧ v.id = id := by
  obtain ⟨hmem, hp⟩ := findOr_eq_ok h
  exact ⟨hmem, by simpa using hp⟩

theorem ofClient_eq_ok {α : Type} {step : Except ClientError α × Inventory} {a : α}
    (h : (ofClient step).1 = .ok a) : step.1 = .ok a := by
  obtain ⟨answer, after⟩ := step
  cases answer with
  | error e => cases h
  | ok b =>
    obtain rfl := Except.ok.inj h
    rfl

theorem ofClient_eq_error {α : Type} {step : Except ClientError α × Inventory} {e : CallFailure}
    (h : (ofClient step).1 = .error e) : ∃ e', step.1 = .error e' := by
  obtain ⟨answer, after⟩ := step
  cases answer with
  | error e' => exact ⟨e', rfl⟩
  | ok b => cases h

theorem submitted_eq_ok {α : Type} {params : RequestParams} {answer : Volume → α}
    {step : Except ClientError Volume × Inventory} {s : Submission α}
    (h : (submitted params answer step).1 = .ok s) : ∃ v, step.1 = .ok v := by
  obtain ⟨result, after⟩ := step
  cases result with
  | error e => cases h
  | ok v => exact ⟨v, rfl⟩

theorem submitted_eq_error {α : Type} {params : RequestParams} {answer : Volume → α}
    {step : Except ClientError Volume × Inventory} {e : ClientError}
    (h : (submitted params answer step).1 = .error e) : step.1 = .error e := by
  obtain ⟨result, after⟩ := step
  cases result with
  | error e' =>
    obtain rfl := Except.error.inj h
    rfl
  | ok v => cases h

/-! ### Setting a cluster up -/

section

variable (now : Timestamp) (inv : Inventory)

theorem numbered_draw (mark : String) {high : Nat} (h : inv.drawn + 1 < high) :
    Numbered mark inv.drawn high (inv.draw.token mark) :=
  (inv.draw.numbered_token mark h).mono (Nat.le_succ _) le_rfl

theorem addNamespace_advances (name : String) :
    inv.Advances (.added (.namespace (inv.addNamespace now name).1)) (inv.addNamespace now name).2 :=
  ⟨Nat.le_add_right inv.drawn 2,
    ⟨inv.numbered_token "ns" (Nat.lt_add_of_pos_right Nat.two_pos),
      inv.numbered_draw "v" (Nat.lt_succ_self _)⟩, rfl⟩

theorem addVolume_advances (ns : NamespaceId) (name : String) (sizeBytes : UInt64)
    (labels : Labels) :
    inv.Advances (.added (.volume (inv.addVolume now ns name sizeBytes labels).1))
      (inv.addVolume now ns name sizeBytes labels).2 :=
  ⟨Nat.le_add_right inv.drawn 2,
    ⟨inv.numbered_token "vol" (Nat.lt_add_of_pos_right Nat.two_pos),
      inv.numbered_draw "v" (Nat.lt_succ_self _)⟩, rfl⟩

theorem addNode_advances (name : String) (labels : Labels) :
    inv.Advances (.added (.node (inv.addNode now name labels).1)) (inv.addNode now name labels).2 :=
  ⟨Nat.le_add_right inv.drawn 2,
    ⟨inv.numbered_token "node" (Nat.lt_add_of_pos_right Nat.two_pos),
      inv.numbered_draw "v" (Nat.lt_succ_self _)⟩, rfl⟩

theorem addUser_advances (username : String) (isAdmin : Bool) :
    inv.Advances (.added (.user (inv.addUser now username isAdmin).1))
      (inv.addUser now username isAdmin).2 :=
  ⟨Nat.le_add_right inv.drawn 2,
    ⟨inv.numbered_token "user" (Nat.lt_add_of_pos_right Nat.two_pos),
      inv.numbered_draw "v" (Nat.lt_succ_self _)⟩, rfl⟩

theorem addPolicyGroup_advances (name : String) :
    inv.Advances (.added (.policyGroup (inv.addPolicyGroup now name).1))
      (inv.addPolicyGroup now name).2 :=
  ⟨Nat.le_add_right inv.drawn 2,
    ⟨inv.numbered_token "pg" (Nat.lt_add_of_pos_right Nat.two_pos),
      inv.numbered_draw "v" (Nat.lt_succ_self _)⟩, rfl⟩

theorem setLicence_advances (kind : String) (capacityBytes : UInt64) :
    inv.Advances (.added (.licence (inv.setLicence now kind capacityBytes).1))
      (inv.setLicence now kind capacityBytes).2 :=
  ⟨Nat.le_add_right inv.drawn 1, ⟨trivial, inv.numbered_token "v" (Nat.lt_succ_self _)⟩, rfl⟩

end

/-! ### Changes of a volume -/

section

variable {inv : Inventory} {now : Timestamp} {ns : NamespaceId} {id : VolumeId}
  {params : RequestParams} {change : Volume → Volume}

/-- A volume after a change of it, under the version that is drawn next. -/
def revised (inv : Inventory) (now : Timestamp) (change : Volume → Volume) (old : Volume) : Volume :=
  { change old with version := inv.nextVersion, updatedAt := now }

theorem updateVolume_cases (inv : Inventory) (now : Timestamp) (ns : NamespaceId) (id : VolumeId)
    (params : RequestParams) (change : Volume → Volume) :
    (∃ e, inv.updateVolume now ns id params change = (.error e, inv.draw)) ∨
      ∃ old, inv.volumeIn ns id = .ok old ∧ checkVersion old.version params = .ok () ∧
        inv.updateVolume now ns id params change =
          (.ok (inv.revised now change old),
            { inv.draw with
              volumes := changeFirst (fun v => v.namespaceId = ns && v.id = id)
                (fun _ => inv.revised now change old) inv.volumes }) := by
  have hfind : inv.draw.volumeIn ns id = inv.volumeIn ns id := rfl
  rw [updateVolume, hfind]
  cases hold : inv.volumeIn ns id with
  | error e => exact Or.inl ⟨e, rfl⟩
  | ok old =>
    cases hcheck : checkVersion old.version params with
    | error e =>
      refine Or.inl ⟨e, ?_⟩
      simp only [hcheck]
    | ok _ =>
      refine Or.inr ⟨old, rfl, hcheck, ?_⟩
      simp only [hcheck]
      rfl

theorem updateVolume_error {e : ClientError}
    (h : (inv.updateVolume now ns id params change).1 = .error e) :
    inv.Spares (inv.updateVolume now ns id params change).2 := by
  rcases inv.updateVolume_cases now ns id params change with ⟨e', heq⟩ | ⟨old, _, _, heq⟩
  · rw [heq]
    exact Spares.draw inv
  · rw [heq] at h
    cases h

/-- A change of a volume that is there, under the version that is asked for, puts the changed volume in
its place. -/
theorem updateVolume_replaced (hsound : inv.Sound) (hid : ∀ v, (change v).id = v.id) {old : Volume}
    (hold : inv.volumeIn ns id = .ok old) (hcheck : checkVersion old.version params = .ok ()) :
    inv.updateVolume now ns id params change =
      (.ok (inv.revised now change old),
        (inv.replace (.volume (inv.revised now change old))).draw) := by
  have hfind : inv.draw.volumeIn ns id = .ok old := hold
  rw [updateVolume, hfind]
  simp only [hcheck]
  obtain ⟨hmem, hns, rfl⟩ := volumeIn_eq_ok hold
  have hlist : changeFirst (fun v => v.namespaceId = ns && v.id = old.id)
      (fun _ => inv.revised now change old) inv.volumes =
        replaceIn Volume.id (inv.revised now change old) inv.volumes := by
    refine changeFirst_eq_replaceIn hsound.volumes ?_ ⟨old, hmem, by simp [hns]⟩
    intro a _ ha
    have ha : a.namespaceId = ns ∧ a.id = old.id := by simpa using ha
    exact ha.2.trans (hid old).symm
  exact congrArg (fun volumes => (Except.ok (inv.revised now change old),
    { inv.draw with volumes := volumes })) hlist

theorem updateVolume_ok (hsound : inv.Sound) (hid : ∀ v, (change v).id = v.id) {v : Volume}
    (h : (inv.updateVolume now ns id params change).1 = .ok v) :
    inv.Revises (.volume id) params (inv.updateVolume now ns id params change).2 := by
  rcases inv.updateVolume_cases now ns id params change with ⟨e', heq⟩ | ⟨old, hold, hcheck, _⟩
  · rw [heq] at h
    cases h
  rw [updateVolume_replaced hsound hid hold hcheck]
  obtain ⟨hmem, _, rfl⟩ := volumeIn_eq_ok hold
  have hrecord : Record.volume old ∈ inv.records := volume_mem_records.mpr hmem
  have hkey : RecordKey.volume (inv.revised now change old).id = .volume old.id :=
    congrArg RecordKey.volume (hid old)
  refine ⟨⟨.volume old, hrecord, rfl, hcheck⟩, .replaced (.volume (inv.revised now change old)),
    ⟨Nat.le_succ _, ?_, rfl⟩, hkey⟩
  exact ⟨⟨.volume old, hrecord, hkey.symm⟩, inv.numbered_token "v" (Nat.lt_succ_self _)⟩

theorem resizeVolume_cases (inv : Inventory) (now : Timestamp) (ns : NamespaceId) (id : VolumeId)
    (sizeBytes : UInt64) (params : RequestParams) :
    (∃ e, inv.resizeVolume now ns id sizeBytes params = (.error e, inv)) ∨
      ∃ old, inv.volumeIn ns id = .ok old ∧ ¬ sizeBytes < old.sizeBytes ∧
        inv.checkCapacity (sizeBytes - old.sizeBytes) = .ok () ∧
        inv.resizeVolume now ns id sizeBytes params =
          ofClient (submitted params (fun v => v)
            (inv.updateVolume now ns id params fun v => { v with sizeBytes := sizeBytes })) := by
  rw [resizeVolume]
  cases hold : inv.volumeIn ns id with
  | error e => exact Or.inl ⟨_, rfl⟩
  | ok old =>
    by_cases hsize : sizeBytes < old.sizeBytes
    · exact Or.inl ⟨_, if_pos hsize⟩
    · simp only [if_neg hsize]
      cases hroom : inv.checkCapacity (sizeBytes - old.sizeBytes) with
      | error e => exact Or.inl ⟨e, rfl⟩
      | ok _ => exact Or.inr ⟨old, rfl, hsize, hroom, rfl⟩

theorem resizeVolume_error {sizeBytes : UInt64} {e : CallFailure}
    (h : (inv.resizeVolume now ns id sizeBytes params).1 = .error e) :
    inv.Spares (inv.resizeVolume now ns id sizeBytes params).2 := by
  rcases inv.resizeVolume_cases now ns id sizeBytes params with ⟨e', heq⟩ | ⟨old, _, _, _, heq⟩
  · rw [heq]
    exact Spares.refl inv
  · rw [heq] at h ⊢
    obtain ⟨e', h⟩ := ofClient_eq_error h
    exact updateVolume_error (submitted_eq_error h)

theorem resizeVolume_ok (hsound : inv.Sound) {sizeBytes : UInt64} {s : Submission Volume}
    (h : (inv.resizeVolume now ns id sizeBytes params).1 = .ok s) :
    inv.Revises (.volume id) params (inv.resizeVolume now ns id sizeBytes params).2 := by
  rcases inv.resizeVolume_cases now ns id sizeBytes params with ⟨e', heq⟩ | ⟨old, _, _, _, heq⟩
  · rw [heq] at h
    cases h
  · rw [heq] at h ⊢
    obtain ⟨v, h⟩ := submitted_eq_ok (ofClient_eq_ok h)
    exact updateVolume_ok hsound (fun _ => rfl) h

theorem attachVolume_cases (inv : Inventory) (now : Timestamp) (ns : NamespaceId) (id : VolumeId)
    (node : NodeId) (params : RequestParams) :
    ((∀ n ∈ inv.nodes, n.id ≠ node) ∧
        inv.attachVolume now ns id node params = (.error (.notFound .node node.text), inv)) ∨
      ((∃ n ∈ inv.nodes, n.id = node) ∧
        inv.attachVolume now ns id node params =
          submitted params (fun v => v)
            (inv.updateVolume now ns id params fun v =>
              { v with attachedOn := some node, attachmentType := .host })) := by
  by_cases hnode : inv.nodes.any fun n => n.id = node
  · exact Or.inr ⟨by simpa using hnode, if_pos hnode⟩
  · exact Or.inl ⟨by simpa using hnode, if_neg hnode⟩

theorem attachVolume_error {node : NodeId} {e : ClientError}
    (h : (inv.attachVolume now ns id node params).1 = .error e) :
    inv.Spares (inv.attachVolume now ns id node params).2 := by
  rcases inv.attachVolume_cases now ns id node params with ⟨_, heq⟩ | ⟨_, heq⟩
  · rw [heq]
    exact Spares.refl inv
  · rw [heq] at h ⊢
    exact updateVolume_error (submitted_eq_error h)

theorem attachVolume_ok (hsound : inv.Sound) {node : NodeId} {s : Submission Volume}
    (h : (inv.attachVolume now ns id node params).1 = .ok s) :
    inv.Revises (.volume id) params (inv.attachVolume now ns id node params).2 := by
  rcases inv.attachVolume_cases now ns id node params with ⟨_, heq⟩ | ⟨_, heq⟩
  · rw [heq] at h
    cases h
  · rw [heq] at h ⊢
    obtain ⟨v, h⟩ := submitted_eq_ok h
    exact updateVolume_ok hsound (fun _ => rfl) h

theorem deleteVolume_cases (inv : Inventory) (ns : NamespaceId) (id : VolumeId)
    (params : RequestParams) :
    (∃ e, inv.deleteVolume ns id params = (.error e, inv)) ∨
      ∃ old, inv.volumeIn ns id = .ok old ∧ checkVersion old.version params = .ok () ∧
        inv.deleteVolume ns id params =
          (.ok (submission () params), inv.remove (.volume id)) := by
  rw [deleteVolume]
  cases hold : inv.volumeIn ns id with
  | error e => exact Or.inl ⟨e, rfl⟩
  | ok old =>
    simp only
    cases hcheck : checkVersion old.version params with
    | error e => exact Or.inl ⟨e, rfl⟩
    | ok _ => exact Or.inr ⟨old, rfl, hcheck, rfl⟩

theorem deleteVolume_error {e : ClientError} (h : (inv.deleteVolume ns id params).1 = .error e) :
    inv.Spares (inv.deleteVolume ns id params).2 := by
  rcases inv.deleteVolume_cases ns id params with ⟨e', heq⟩ | ⟨old, _, _, heq⟩
  · rw [heq]
    exact Spares.refl inv
  · rw [heq] at h
    cases h

theorem deleteVolume_ok {s : Submission Unit} (h : (inv.deleteVolume ns id params).1 = .ok s) :
    inv.Revises (.volume id) params (inv.deleteVolume ns id params).2 := by
  rcases inv.deleteVolume_cases ns id params with ⟨e', heq⟩ | ⟨old, hold, hcheck, heq⟩
  · rw [heq] at h
    cases h
  · obtain ⟨hmem, _, rfl⟩ := volumeIn_eq_ok hold
    rw [heq]
    exact ⟨⟨.volume old, volume_mem_records.mpr hmem, rfl, hcheck⟩, .removed (.volume old.id),
      ⟨le_rfl, trivial, rfl⟩, rfl⟩

end

/-! ### Changes of namespaces and nodes -/

section

variable {inv : Inventory} {now : Timestamp} {params : RequestParams}

theorem deleteNamespace_cases (inv : Inventory) (id : NamespaceId) (params : RequestParams) :
    (∃ e, inv.deleteNamespace id params = (.error e, inv)) ∨
      ∃ old ∈ inv.namespaces, old.id = id ∧ checkVersion old.version params = .ok () ∧
        inv.deleteNamespace id params =
          (.ok (), { inv with namespaces := removeFirst (fun ns => ns.id = id) inv.namespaces }) := by
  rw [deleteNamespace]
  cases hold : findOr .namespace id.text (fun (ns : Namespace) => ns.id = id) inv.namespaces with
  | error e => exact Or.inl ⟨e, rfl⟩
  | ok old =>
    simp only
    cases hcheck : checkVersion old.version params with
    | error e => exact Or.inl ⟨e, rfl⟩
    | ok _ =>
      obtain ⟨hmem, hid⟩ := findOr_eq_ok hold
      exact Or.inr ⟨old, hmem, by simpa using hid, hcheck, rfl⟩

theorem deleteNamespace_error {id : NamespaceId} {e : ClientError}
    (h : (inv.deleteNamespace id params).1 = .error e) :
    inv.Spares (inv.deleteNamespace id params).2 := by
  rcases inv.deleteNamespace_cases id params with ⟨e', heq⟩ | ⟨old, _, _, _, heq⟩
  · rw [heq]
    exact Spares.refl inv
  · rw [heq] at h
    cases h

/-- A namespace that is removed was there under the version that is asked for. -/
theorem deleteNamespace_removed (hsound : inv.Sound) {id : NamespaceId} {u : Unit}
    (h : (inv.deleteNamespace id params).1 = .ok u) :
    ∃ old ∈ inv.namespaces, old.id = id ∧ checkVersion old.version params = .ok () ∧
      inv.deleteNamespace id params = (.ok (), inv.remove (.namespace id)) := by
  rcases inv.deleteNamespace_cases id params with ⟨e', heq⟩ | ⟨old, hmem, hid, hcheck, heq⟩
  · rw [heq] at h
    cases h
  · refine ⟨old, hmem, hid, hcheck, ?_⟩
    rw [heq, removeFirst_eq_filter hsound.namespaces]
    rfl

theorem deleteNamespace_ok (hsound : inv.Sound) {id : NamespaceId} {u : Unit}
    (h : (inv.deleteNamespace id params).1 = .ok u) :
    inv.Revises (.namespace id) params (inv.deleteNamespace id params).2 := by
  obtain ⟨old, hmem, rfl, hcheck, heq⟩ := deleteNamespace_removed hsound h
  rw [heq]
  exact ⟨⟨.namespace old, namespace_mem_records.mpr hmem, rfl, hcheck⟩,
    .removed (.namespace old.id), ⟨le_rfl, trivial, rfl⟩, rfl⟩

/-- A node after it was cordoned or not, under the version that is drawn next. -/
def revisedNode (inv : Inventory) (now : Timestamp) (cordoned : Bool) (old : Node) : Node :=
  { old with cordoned := cordoned, version := inv.nextVersion, updatedAt := now }

theorem setNodeCordoned_cases (inv : Inventory) (now : Timestamp) (id : NodeId) (cordoned : Bool)
    (params : RequestParams) :
    (∃ e, inv.setNodeCordoned now id cordoned params = (.error e, inv.draw)) ∨
      ∃ old ∈ inv.nodes, old.id = id ∧ checkVersion old.version params = .ok () ∧
        inv.setNodeCordoned now id cordoned params =
          (.ok (inv.revisedNode now cordoned old),
            { inv.draw with
              nodes := changeFirst (fun n => n.id = id) (fun _ => inv.revisedNode now cordoned old)
                inv.nodes }) := by
  rw [setNodeCordoned]
  cases hold : findOr .node id.text (fun (n : Node) => n.id = id) inv.draw.nodes with
  | error e => exact Or.inl ⟨e, rfl⟩
  | ok old =>
    simp only
    cases hcheck : checkVersion old.version params with
    | error e => exact Or.inl ⟨e, rfl⟩
    | ok _ =>
      obtain ⟨hmem, hid⟩ := findOr_eq_ok hold
      exact Or.inr ⟨old, hmem, by simpa using hid, hcheck, rfl⟩

theorem setNodeCordoned_error {id : NodeId} {cordoned : Bool} {e : ClientError}
    (h : (inv.setNodeCordoned now id cordoned params).1 = .error e) :
    inv.Spares (inv.setNodeCordoned now id cordoned params).2 := by
  rcases inv.setNodeCordoned_cases now id cordoned params with ⟨e', heq⟩ | ⟨old, _, _, _, heq⟩
  · rw [heq]
    exact Spares.draw inv
  · rw [heq] at h
    cases h

/-- A node that is cordoned or not was there under the version that is asked for, and the changed node
takes its place. -/
theorem setNodeCordoned_replaced (hsound : inv.Sound) {id : NodeId} {cordoned : Bool} {n : Node}
    (h : (inv.setNodeCordoned now id cordoned params).1 = .ok n) :
    ∃ old ∈ inv.nodes, old.id = id ∧ checkVersion old.version params = .ok () ∧
      inv.setNodeCordoned now id cordoned params =
        (.ok (inv.revisedNode now cordoned old),
          (inv.replace (.node (inv.revisedNode now cordoned old))).draw) := by
  rcases inv.setNodeCordoned_cases now id cordoned params with
    ⟨e', heq⟩ | ⟨old, hmem, rfl, hcheck, heq⟩
  · rw [heq] at h
    cases h
  refine ⟨old, hmem, rfl, hcheck, ?_⟩
  have hlist : changeFirst (fun n => n.id = old.id) (fun _ => inv.revisedNode now cordoned old)
      inv.nodes = replaceIn Node.id (inv.revisedNode now cordoned old) inv.nodes :=
    changeFirst_eq_replaceIn hsound.nodes (fun n _ hn => of_decide_eq_true hn)
      ⟨old, hmem, decide_eq_true rfl⟩
  rw [heq, hlist]
  rfl

theorem setNodeCordoned_ok (hsound : inv.Sound) {id : NodeId} {cordoned : Bool} {n : Node}
    (h : (inv.setNodeCordoned now id cordoned params).1 = .ok n) :
    inv.Revises (.node id) params (inv.setNodeCordoned now id cordoned params).2 := by
  obtain ⟨old, hmem, rfl, hcheck, heq⟩ := setNodeCordoned_replaced hsound h
  have hrecord : Record.node old ∈ inv.records := node_mem_records.mpr hmem
  rw [heq]
  refine ⟨⟨.node old, hrecord, rfl, hcheck⟩, .replaced (.node (inv.revisedNode now cordoned old)),
    ⟨Nat.le_succ _, ?_, rfl⟩, rfl⟩
  exact ⟨⟨.node old, hrecord, rfl⟩, inv.numbered_token "v" (Nat.lt_succ_self _)⟩

/-! ### Creation -/

theorem createNamespace_cases (inv : Inventory) (now : Timestamp) (name : String) (labels : Labels) :
    (∃ e, inv.createNamespace now name labels = (.error e, inv)) ∨
      ((∀ ns ∈ inv.namespaces, ns.name ≠ name) ∧
        inv.createNamespace now name labels =
          (.ok { (inv.addNamespace now name).1 with labels := labels },
            { (inv.addNamespace now name).2 with
              namespaces := changeFirst (fun n => n.id = (inv.addNamespace now name).1.id)
                (fun n => { n with labels := labels }) (inv.addNamespace now name).2.namespaces })) := by
  by_cases hname : inv.namespaces.any fun ns => ns.name = name
  · exact Or.inl ⟨_, if_pos hname⟩
  · exact Or.inr ⟨by simpa using hname, if_neg hname⟩

theorem createNamespace_error {name : String} {labels : Labels} {e : ClientError}
    (h : (inv.createNamespace now name labels).1 = .error e) :
    inv.Spares (inv.createNamespace now name labels).2 := by
  rcases inv.createNamespace_cases now name labels with ⟨e', heq⟩ | ⟨_, heq⟩
  · rw [heq]
    exact Spares.refl inv
  · rw [heq] at h
    cases h

/-- The namespace that is created next. -/
def createdNamespace (inv : Inventory) (now : Timestamp) (name : String) (labels : Labels) : Namespace :=
  { (inv.addNamespace now name).1 with labels := labels }

/-- A namespace that is created is put behind the others. -/
theorem createNamespace_added (hsound : inv.Sound) {name : String} {labels : Labels} {ns : Namespace}
    (h : (inv.createNamespace now name labels).1 = .ok ns) :
    inv.createNamespace now name labels =
      (.ok (inv.createdNamespace now name labels),
        (inv.add (.namespace (inv.createdNamespace now name labels))).draw.draw) := by
  rcases inv.createNamespace_cases now name labels with ⟨e', heq⟩ | ⟨_, heq⟩
  · rw [heq] at h
    cases h
  rw [heq]
  obtain ⟨_, hlegal, _⟩ := inv.addNamespace_advances now name
  -- no namespace of before has the new identifier, so the labels go to the new one
  have hnew : ∀ n ∈ inv.namespaces, decide (n.id = (inv.addNamespace now name).1.id) = false := by
    intro n hn
    rw [decide_eq_false_iff_not]
    intro hid
    exact hsound.key_ne_of_new (by simp [Record.key]) hlegal.1 (namespace_mem_records.mpr hn)
      (congrArg RecordKey.namespace hid)
  have hlist : changeFirst (fun n => n.id = (inv.addNamespace now name).1.id)
      (fun n => { n with labels := labels }) (inv.namespaces ++ [(inv.addNamespace now name).1]) =
        inv.namespaces ++ [inv.createdNamespace now name labels] :=
    changeFirst_concat hnew (decide_eq_true rfl)
  exact congrArg (fun namespaces => (Except.ok (inv.createdNamespace now name labels),
    { inv with namespaces := namespaces, drawn := inv.drawn + 2 })) hlist

theorem createNamespace_ok (hsound : inv.Sound) {name : String} {labels : Labels} {ns : Namespace}
    (h : (inv.createNamespace now name labels).1 = .ok ns) :
    inv.Advances (.added (.namespace ns)) (inv.createNamespace now name labels).2 := by
  have heq := createNamespace_added hsound h
  rw [heq] at h ⊢
  obtain rfl := Except.ok.inj h
  obtain ⟨hle, hlegal, _⟩ := inv.addNamespace_advances now name
  exact ⟨hle, hlegal, rfl⟩

/-- The change that gives a new volume its description cannot fail: the volume is there, and no version
is asked for. -/
theorem createVolume_second_step (inv : Inventory) (now : Timestamp) (ns : NamespaceId)
    (spec : VolumeSpec) :
    ∃ v, ((inv.addVolume now ns spec.name spec.sizeBytes spec.labels).2.updateVolume now ns
      (inv.addVolume now ns spec.name spec.sizeBytes spec.labels).1.id .empty
      (describeNew spec)).1 = .ok v := by
  generalize hstep : inv.addVolume now ns spec.name spec.sizeBytes spec.labels = step
  rcases step.2.updateVolume_cases now ns step.1.id .empty (describeNew spec) with
    ⟨e, heq⟩ | ⟨old, _, _, heq⟩
  · exfalso
    have hmem : step.1 ∈ step.2.volumes := by
      rw [← hstep]
      exact List.mem_append_right _ List.mem_cons_self
    have hns : step.1.namespaceId = ns := by
      rw [← hstep]
      rfl
    have hfound : ∃ v, step.2.volumes.find?
        (fun v => decide (v.namespaceId = ns) && decide (v.id = step.1.id)) = some v := by
      rw [← Option.isSome_iff_exists, List.find?_isSome]
      exact ⟨step.1, hmem, by simp [hns]⟩
    obtain ⟨v, hv⟩ := hfound
    simp [updateVolume, volumeIn, findOr, draw, hv, checkVersion, RequestParams.empty] at heq
  · exact ⟨_, by rw [heq]⟩

theorem createVolume_cases (inv : Inventory) (now : Timestamp) (ns : NamespaceId)
    (spec : VolumeSpec) (params : RequestParams) :
    (∃ e, inv.createVolume now ns spec params = (.error e, inv)) ∨
      ((∃ n ∈ inv.namespaces, n.id = ns) ∧
        (∀ v ∈ inv.volumes, v.namespaceId = ns → v.name ≠ spec.name) ∧
        inv.checkCapacity spec.sizeBytes = .ok () ∧
        inv.createVolume now ns spec params =
          ofClient (submitted params id
            ((inv.addVolume now ns spec.name spec.sizeBytes spec.labels).2.updateVolume now ns
              (inv.addVolume now ns spec.name spec.sizeBytes spec.labels).1.id .empty
              (describeNew spec)))) := by
  rw [createVolume]
  by_cases hns : inv.namespaces.any fun n => n.id = ns
  · rw [hns, Bool.not_true, if_neg Bool.false_ne_true]
    by_cases hname : inv.volumes.any fun v => v.namespaceId = ns && v.name = spec.name
    · exact Or.inl ⟨_, if_pos hname⟩
    · rw [if_neg hname]
      cases hroom : inv.checkCapacity spec.sizeBytes with
      | error e => exact Or.inl ⟨e, rfl⟩
      | ok _ => exact Or.inr ⟨by simpa using hns, by simpa using hname, rfl, rfl⟩
  · rw [Bool.eq_false_iff.mpr hns]
    exact Or.inl ⟨_, rfl⟩

theorem createVolume_error {ns : NamespaceId} {spec : VolumeSpec} {e : CallFailure}
    (h : (inv.createVolume now ns spec params).1 = .error e) :
    inv.Spares (inv.createVolume now ns spec params).2 := by
  rcases inv.createVolume_cases now ns spec params with ⟨e', heq⟩ | ⟨_, _, _, heq⟩
  · rw [heq]
    exact Spares.refl inv
  · rw [heq] at h
    obtain ⟨e', h⟩ := ofClient_eq_error h
    obtain ⟨v, hv⟩ := inv.createVolume_second_step now ns spec
    rw [submitted_eq_error h] at hv
    cases hv

/-- The volume that is created next. -/
def createdVolume (inv : Inventory) (now : Timestamp) (ns : NamespaceId) (spec : VolumeSpec) : Volume :=
  inv.draw.draw.revised now (describeNew spec)
    (inv.addVolume now ns spec.name spec.sizeBytes spec.labels).1

/-- A volume that is created is put behind the others. -/
theorem createVolume_added (hsound : inv.Sound) {ns : NamespaceId} {spec : VolumeSpec}
    {s : Submission Volume} (h : (inv.createVolume now ns spec params).1 = .ok s) :
    inv.createVolume now ns spec params =
      (.ok (submission (inv.createdVolume now ns spec) params),
        (inv.add (.volume (inv.createdVolume now ns spec))).draw.draw.draw) := by
  rcases inv.createVolume_cases now ns spec params with ⟨e', heq⟩ | ⟨_, _, _, heq⟩
  · rw [heq] at h
    cases h
  obtain ⟨_, hlegal, _⟩ := inv.addVolume_advances now ns spec.name spec.sizeBytes spec.labels
  rw [heq] at h ⊢
  obtain ⟨v, h⟩ := submitted_eq_ok (ofClient_eq_ok h)
  generalize hnew : (inv.addVolume now ns spec.name spec.sizeBytes spec.labels).1 = new at h hlegal ⊢
  generalize hstep : (inv.addVolume now ns spec.name spec.sizeBytes spec.labels).2 = step at h ⊢
  have hvolumes : step.volumes = inv.volumes ++ [new] := by
    rw [← hstep, ← hnew]
    rfl
  rcases step.updateVolume_cases now ns new.id .empty (describeNew spec) with
    ⟨e, hupdate⟩ | ⟨old, hold, _, hupdate⟩
  · rw [hupdate] at h
    cases h
  -- no volume of before has the new identifier, so the one that is changed is the new one
  have hother : ∀ a ∈ inv.volumes, a.id ≠ new.id := by
    intro a ha hid
    exact hsound.key_ne_of_new (by simp [Record.key]) hlegal.1 (volume_mem_records.mpr ha)
      (congrArg RecordKey.volume hid)
  obtain ⟨hmem, hns, hid⟩ := volumeIn_eq_ok hold
  have hold_eq : old = new := by
    rw [hvolumes, List.mem_append, List.mem_singleton] at hmem
    rcases hmem with hmem | rfl
    · exact absurd hid (hother old hmem)
    · rfl
  obtain rfl := hold_eq
  have hlist : changeFirst (fun v => v.namespaceId = ns && v.id = old.id)
      (fun _ => step.revised now (describeNew spec) old) (inv.volumes ++ [old]) =
        inv.volumes ++ [step.revised now (describeNew spec) old] :=
    changeFirst_concat (fun a ha => by simp [hother a ha]) (by simp [hns])
  rw [hupdate, hvolumes, hlist, ← hstep, ← hnew]
  rfl

theorem createVolume_ok (hsound : inv.Sound) {ns : NamespaceId} {spec : VolumeSpec}
    {s : Submission Volume} (h : (inv.createVolume now ns spec params).1 = .ok s) :
    inv.Advances (.added (.volume (inv.createdVolume now ns spec)))
      (inv.createVolume now ns spec params).2 := by
  rw [createVolume_added hsound h]
  obtain ⟨hle, hlegal, _⟩ := inv.addVolume_advances now ns spec.name spec.sizeBytes spec.labels
  refine ⟨hle.trans (Nat.le_succ _), ⟨hlegal.1.mono le_rfl (Nat.le_succ _), ?_⟩, rfl⟩
  exact (inv.draw.draw.numbered_token "v" (Nat.lt_succ_self _)).mono hle le_rfl

end

/-! ### All calls -/

section

variable {inv : Inventory} {now : Timestamp} {call : Call}

/-- A call that fails leaves everything that is stored as it was. -/
theorem perform_error {e : CallFailure} (h : (inv.perform now call).1 = .error e) :
    inv.Spares (inv.perform now call).2 := by
  cases call with
  | createNamespace name labels =>
    obtain ⟨e', h⟩ := ofClient_eq_error h
    exact createNamespace_error h
  | deleteNamespace id params =>
    obtain ⟨e', h⟩ := ofClient_eq_error h
    exact deleteNamespace_error h
  | createVolume ns spec params => exact createVolume_error h
  | resizeVolume ns id sizeBytes params => exact resizeVolume_error h
  | setReplicas ns id count params =>
    obtain ⟨e', h⟩ := ofClient_eq_error h
    exact updateVolume_error (submitted_eq_error h)
  | setDescription ns id text params =>
    obtain ⟨e', h⟩ := ofClient_eq_error h
    exact updateVolume_error h
  | updateNfsExports ns id exports params =>
    obtain ⟨e', h⟩ := ofClient_eq_error h
    exact updateVolume_error (submitted_eq_error h)
  | attachVolume ns id node params =>
    obtain ⟨e', h⟩ := ofClient_eq_error h
    exact attachVolume_error h
  | detachVolume ns id params =>
    obtain ⟨e', h⟩ := ofClient_eq_error h
    exact updateVolume_error (submitted_eq_error h)
  | deleteVolume ns id params =>
    obtain ⟨e', h⟩ := ofClient_eq_error h
    exact deleteVolume_error h
  | setNodeCordoned id cordoned params =>
    obtain ⟨e', h⟩ := ofClient_eq_error h
    exact setNodeCordoned_error h
  | getLicence =>
    rw [perform]
    split <;> exact Spares.refl inv
  | _ => exact Spares.refl inv

/-- A call that only reads leaves the inventory as it is, whatever it answers. -/
theorem perform_reads (inv : Inventory) (now : Timestamp) {call : Call}
    (h : call.method.isMutating = false) : (inv.perform now call).2 = inv := by
  cases call with
  | getLicence =>
    rw [perform]
    split <;> rfl
  | _ => first | rfl | cases h

/-- A change directed at a resource that succeeds has found it under its parameters and written over
it. -/
theorem perform_revises (hsound : inv.Sound) {key : RecordKey} {params : RequestParams}
    {a : call.Answer} (h : (inv.perform now call).1 = .ok a) (htarget : call.target? = some key)
    (hparams : call.params? = some params) : inv.Revises key params (inv.perform now call).2 := by
  cases call <;> cases htarget <;> cases hparams
  case deleteNamespace => exact deleteNamespace_ok hsound (ofClient_eq_ok h)
  case resizeVolume => exact resizeVolume_ok hsound h
  case setReplicas =>
    obtain ⟨v, h⟩ := submitted_eq_ok (ofClient_eq_ok h)
    exact updateVolume_ok hsound (fun _ => rfl) h
  case setDescription => exact updateVolume_ok hsound (fun _ => rfl) (ofClient_eq_ok h)
  case updateNfsExports =>
    obtain ⟨v, h⟩ := submitted_eq_ok (ofClient_eq_ok h)
    exact updateVolume_ok hsound (fun _ => rfl) h
  case attachVolume => exact attachVolume_ok hsound (ofClient_eq_ok h)
  case detachVolume =>
    obtain ⟨v, h⟩ := submitted_eq_ok (ofClient_eq_ok h)
    exact updateVolume_ok hsound (fun _ => rfl) h
  case deleteVolume => exact deleteVolume_ok (ofClient_eq_ok h)
  case setNodeCordoned => exact setNodeCordoned_ok hsound (ofClient_eq_ok h)

/-- Every call is a legal write of a sound inventory. -/
theorem perform_advances (hsound : inv.Sound) (now : Timestamp) (call : Call) :
    ∃ w, inv.Advances w (inv.perform now call).2 := by
  cases h : (inv.perform now call).1 with
  | error e => exact ⟨.nothing, perform_error h⟩
  | ok a =>
    cases htarget : call.target? with
    | some key =>
      have hparams : ∃ params, call.params? = some params := by
        cases call <;> first | exact ⟨_, rfl⟩ | cases htarget
      obtain ⟨params, hparams⟩ := hparams
      obtain ⟨w, hw, _⟩ := (perform_revises hsound h htarget hparams).written
      exact ⟨w, hw⟩
    | none =>
      -- what is left creates something or reads
      cases call with
      | createNamespace name labels => exact ⟨_, createNamespace_ok hsound (ofClient_eq_ok h)⟩
      | createVolume ns spec params => exact ⟨_, createVolume_ok hsound h⟩
      | _ =>
        first
        | exact ⟨.nothing, by rw [inv.perform_reads now rfl]; exact Spares.refl inv⟩
        | cases htarget

/-- Every call leaves a sound inventory. -/
theorem Sound.perform (hsound : inv.Sound) (now : Timestamp) (call : Call) :
    (inv.perform now call).2.Sound := by
  obtain ⟨w, hw⟩ := perform_advances hsound now call
  exact hsound.advance hw

end

end Inventory

end BlockStorage
