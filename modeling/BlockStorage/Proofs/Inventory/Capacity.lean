import BlockStorage.Proofs.Inventory.Operations
import Mathlib.Algebra.Order.BigOperators.Group.List

/-!
How much the volumes of an inventory take.

Their sizes add up to a number without bound. A call that creates or enlarges a volume first asks whether
the licence has room for what it adds, and adds exactly that; no other call makes the sum larger, and no
call changes the licence.
-/

namespace BlockStorage

/-- Whether a call asks for more bytes. -/
def Call.grows : Call → Bool
  | .createVolume .. | .resizeVolume .. => true
  | _ => false

namespace Inventory

/-- The bytes of some volumes together. -/
def bytesOf (volumes : List Volume) : Nat := (volumes.map fun v => v.sizeBytes.toNat).sum

/-- The bytes of all volumes together. -/
def storedBytes (inv : Inventory) : Nat := bytesOf inv.volumes

/-- An inventory with no more bytes and the same licence came of one. -/
structure Lighter (inv after : Inventory) : Prop where
  licence : after.licence = inv.licence
  bytes : after.storedBytes ≤ inv.storedBytes

theorem Lighter.refl (inv : Inventory) : inv.Lighter inv := ⟨rfl, Nat.le_refl _⟩

/-- The largest number of bytes that a licence can be for. -/
def unlimited : UInt64 := 18446744073709551615

/-! ### Sums -/

@[simp] theorem bytesOf_cons (v : Volume) (volumes : List Volume) :
    bytesOf (v :: volumes) = v.sizeBytes.toNat + bytesOf volumes := by
  simp [bytesOf]

@[simp] theorem bytesOf_append (volumes others : List Volume) :
    bytesOf (volumes ++ others) = bytesOf volumes + bytesOf others := by
  simp [bytesOf]

theorem bytesOf_filter_le (p : Volume → Bool) (volumes : List Volume) :
    bytesOf (volumes.filter p) ≤ bytesOf volumes :=
  ((List.filter_sublist).map _).sum_le_sum fun _ _ => Nat.zero_le _

/-- Another volume in the place of the first one found. -/
theorem bytesOf_changeFirst {p : Volume → Bool} {old item : Volume} {volumes : List Volume}
    (h : volumes.find? p = some old) :
    bytesOf (changeFirst p (fun _ => item) volumes) + old.sizeBytes.toNat =
      bytesOf volumes + item.sizeBytes.toNat := by
  induction volumes with
  | nil => cases h
  | cons v rest ih =>
    rw [changeFirst]
    by_cases hp : p v = true
    · rw [List.find?_cons_of_pos hp] at h
      obtain rfl := Option.some.inj h
      rw [if_pos hp, bytesOf_cons, bytesOf_cons]
      omega
    · rw [List.find?_cons_of_neg hp] at h
      rw [if_neg hp, bytesOf_cons, bytesOf_cons]
      have hrest := ih h
      omega

theorem provisioned_eq_storedBytes (inv : Inventory) : inv.provisioned = inv.storedBytes := by
  rw [storedBytes, bytesOf, List.sum_eq_foldl, List.foldl_map]
  rfl

/-! ### The check -/

section

variable {inv : Inventory} {licence : Licence} {extra : UInt64}

/-- The check succeeds if there is no licence, or if the sum so far is a word and the licence has room. -/
theorem checkCapacity_eq_ok_iff :
    inv.checkCapacity extra = .ok () ↔
      ∀ licence, inv.licence = some licence → inv.storedBytes < UInt64.size ∧
        saturatingSum inv.storedBytes extra.toNat ≤ licence.clusterCapacityBytes.toNat := by
  rw [checkCapacity, provisioned_eq_storedBytes]
  cases inv.licence with
  | none => simp
  | some licence =>
    simp only [Option.some.injEq, forall_eq']
    by_cases hword : UInt64.size ≤ inv.storedBytes
    · simp [hword]
    · by_cases hroom :
          licence.clusterCapacityBytes.toNat < saturatingSum inv.storedBytes extra.toNat
      · simp [hword, hroom]
      · simp [hword, hroom, Nat.not_le.mp hword, Nat.not_lt.mp hroom]

/-- A check that succeeds has found room, unless the licence is for as many bytes as a word can count. -/
theorem checkCapacity_ok (hlicence : inv.licence = some licence)
    (h : inv.checkCapacity extra = .ok ()) :
    inv.storedBytes + extra.toNat ≤ licence.clusterCapacityBytes.toNat ∨
      licence.clusterCapacityBytes = unlimited := by
  obtain ⟨-, hroom⟩ := checkCapacity_eq_ok_iff.mp h licence hlicence
  have hword := licence.clusterCapacityBytes.toNat_lt
  by_cases hunlimited : licence.clusterCapacityBytes.toNat = 18446744073709551615
  · exact .inr (UInt64.toNat_inj.1 hunlimited)
  · rw [saturatingSum] at hroom
    left
    omega

/-- Only a sum that is no word breaks the check off. -/
theorem checkCapacity_brokenOff (h : inv.checkCapacity extra = .error .brokenOff) :
    inv.licence.isSome ∧ UInt64.size ≤ inv.storedBytes := by
  rw [checkCapacity] at h
  split at h
  · cases h
  · rename_i licence hlicence
    split at h
    · rename_i hsum
      exact ⟨by rw [hlicence]; rfl, provisioned_eq_storedBytes inv ▸ hsum⟩
    · split at h <;> cases h

end

/-! ### Operations -/

section

variable {inv : Inventory} {now : Timestamp} {ns : NamespaceId} {id : VolumeId}
  {params : RequestParams} {change : Volume → Volume}

theorem findOr_find {α : Type} {kind : ResourceKind} {reference : String} {p : α → Bool}
    {items : List α} {a : α} (h : findOr kind reference p items = .ok a) :
    items.find? p = some a := by
  rw [findOr] at h
  split at h
  · rename_i item hfind
    rw [hfind, Except.ok.inj h]
  · cases h

theorem licence_updateVolume : (inv.updateVolume now ns id params change).2.licence = inv.licence := by
  rcases inv.updateVolume_cases now ns id params change with ⟨e, heq⟩ | ⟨old, _, _, heq⟩ <;>
    rw [heq] <;> rfl

/-- A volume that was changed counts with its new size. -/
theorem storedBytes_updateVolume_ok {v : Volume}
    (h : (inv.updateVolume now ns id params change).1 = .ok v) :
    ∃ old, inv.volumeIn ns id = .ok old ∧
      (inv.updateVolume now ns id params change).2.storedBytes + old.sizeBytes.toNat =
        inv.storedBytes + (change old).sizeBytes.toNat := by
  rcases inv.updateVolume_cases now ns id params change with ⟨e, heq⟩ | ⟨old, hold, _, heq⟩
  · rw [heq] at h
    cases h
  · rw [heq]
    exact ⟨old, hold, bytesOf_changeFirst (findOr_find hold)⟩

theorem storedBytes_of_spares {after : Inventory} (h : inv.Spares after) :
    after.storedBytes = inv.storedBytes := by
  rw [h.eq]
  rfl

/-- A change of anything but the size leaves the sum. -/
theorem storedBytes_updateVolume (hsize : ∀ v, (change v).sizeBytes = v.sizeBytes) :
    (inv.updateVolume now ns id params change).2.storedBytes = inv.storedBytes := by
  cases h : (inv.updateVolume now ns id params change).1 with
  | error e => exact storedBytes_of_spares (updateVolume_error h)
  | ok v =>
    obtain ⟨old, _, hsum⟩ := storedBytes_updateVolume_ok h
    rw [hsize] at hsum
    exact Nat.add_right_cancel hsum

theorem updateVolume_lighter (hsize : ∀ v, (change v).sizeBytes = v.sizeBytes) :
    inv.Lighter (inv.updateVolume now ns id params change).2 :=
  ⟨licence_updateVolume, Nat.le_of_eq (storedBytes_updateVolume hsize)⟩

theorem ofClient_ne_brokenOff {α : Type} (step : Except ClientError α × Inventory) :
    (ofClient step).1 ≠ .error .brokenOff := by
  obtain ⟨answer, after⟩ := step
  intro h
  cases answer <;> cases h

/-- A volume that is created was checked for, and counts with its size. -/
theorem createVolume_grows {spec : VolumeSpec} {s : Submission Volume}
    (h : (inv.createVolume now ns spec params).1 = .ok s) :
    inv.checkCapacity spec.sizeBytes = .ok () ∧
      (inv.createVolume now ns spec params).2.storedBytes =
        inv.storedBytes + spec.sizeBytes.toNat := by
  rcases inv.createVolume_cases now ns spec params with ⟨e, heq⟩ | ⟨_, _, hroom, heq⟩
  · rw [heq] at h
    cases h
  · refine ⟨hroom, ?_⟩
    rw [heq]
    have hadded : (inv.addVolume now ns spec.name spec.sizeBytes spec.labels).2.storedBytes =
        inv.storedBytes + spec.sizeBytes.toNat := bytesOf_append inv.volumes [_]
    rw [← hadded]
    exact storedBytes_updateVolume fun _ => by rfl

theorem createVolume_brokenOff {spec : VolumeSpec}
    (h : (inv.createVolume now ns spec params).1 = .error .brokenOff) :
    inv.checkCapacity spec.sizeBytes = .error .brokenOff := by
  rw [createVolume] at h
  split at h
  · cases h
  split at h
  · cases h
  split at h
  · rename_i e hcheck
    rw [hcheck, Except.error.inj h]
  · exact absurd h (ofClient_ne_brokenOff _)

theorem resizeVolume_brokenOff {sizeBytes : UInt64}
    (h : (inv.resizeVolume now ns id sizeBytes params).1 = .error .brokenOff) :
    ∃ extra, inv.checkCapacity extra = .error .brokenOff := by
  rw [resizeVolume] at h
  split at h
  · cases h
  split at h
  · cases h
  split at h
  · rename_i e hcheck
    exact ⟨_, by rw [hcheck, Except.error.inj h]⟩
  · exact absurd h (ofClient_ne_brokenOff _)

/-- A volume that is resized was checked for, and counts with its new size. -/
theorem resizeVolume_grows {sizeBytes : UInt64} {s : Submission Volume}
    (h : (inv.resizeVolume now ns id sizeBytes params).1 = .ok s) :
    ∃ extra, inv.checkCapacity extra = .ok () ∧
      (inv.resizeVolume now ns id sizeBytes params).2.storedBytes =
        inv.storedBytes + extra.toNat := by
  rcases inv.resizeVolume_cases now ns id sizeBytes params with ⟨e, heq⟩ | ⟨old, hold, hsize, hroom, heq⟩
  · rw [heq] at h
    cases h
  · rw [heq] at h ⊢
    obtain ⟨v, h⟩ := submitted_eq_ok (ofClient_eq_ok h)
    obtain ⟨old', hold', hsum⟩ := storedBytes_updateVolume_ok h
    obtain rfl := Except.ok.inj (hold.symm.trans hold')
    refine ⟨_, hroom, ?_⟩
    have hle : old.sizeBytes ≤ sizeBytes := UInt64.not_lt.1 hsize
    rw [UInt64.toNat_sub_of_le _ _ hle]
    have hle' : old.sizeBytes.toNat ≤ sizeBytes.toNat := UInt64.le_iff_toNat_le.1 hle
    exact (Nat.eq_sub_of_add_eq hsum).trans (Nat.add_sub_assoc hle' _)

end

/-! ### All calls -/

section

variable {inv : Inventory} {now : Timestamp} {call : Call}

/-- A call that asks for more bytes and succeeds was checked for them, and adds them. -/
theorem perform_grows (hgrows : call.grows = true) {a : call.Answer}
    (h : (inv.perform now call).1 = .ok a) :
    ∃ extra, inv.checkCapacity extra = .ok () ∧
      (inv.perform now call).2.storedBytes = inv.storedBytes + extra.toNat := by
  cases call <;> cases hgrows
  case createVolume => exact ⟨_, createVolume_grows h⟩
  case resizeVolume => exact resizeVolume_grows h

/-- No other call makes the sum larger or changes the licence. -/
theorem perform_lighter (now : Timestamp) (hgrows : call.grows = false) :
    inv.Lighter (inv.perform now call).2 := by
  by_cases hmutating : call.method.isMutating = false
  · rw [inv.perform_reads now hmutating]
    exact Lighter.refl inv
  cases call with
  | createNamespace name labels =>
    rcases inv.createNamespace_cases now name labels with ⟨e, heq⟩ | ⟨_, heq⟩ <;>
      · rw [perform, heq]
        exact ⟨rfl, Nat.le_refl _⟩
  | deleteNamespace id params =>
    rcases inv.deleteNamespace_cases id params with ⟨e, heq⟩ | ⟨_, _, _, _, heq⟩ <;>
      · rw [perform, heq]
        exact ⟨rfl, Nat.le_refl _⟩
  | setNodeCordoned id cordoned params =>
    rcases inv.setNodeCordoned_cases now id cordoned params with ⟨e, heq⟩ | ⟨_, _, _, _, heq⟩ <;>
      · rw [perform, heq]
        exact ⟨rfl, Nat.le_refl _⟩
  | deleteVolume ns id params =>
    rcases inv.deleteVolume_cases ns id params with ⟨e, heq⟩ | ⟨_, _, _, heq⟩
    · rw [perform, heq]
      exact Lighter.refl inv
    · rw [perform, heq]
      exact ⟨rfl, bytesOf_filter_le _ _⟩
  | attachVolume ns id node params =>
    rcases inv.attachVolume_cases now ns id node params with ⟨_, heq⟩ | ⟨_, heq⟩
    · rw [perform, heq]
      exact Lighter.refl inv
    · rw [perform, heq]
      exact updateVolume_lighter fun _ => by rfl
  | setReplicas | setDescription | updateNfsExports | detachVolume =>
    exact updateVolume_lighter fun _ => by rfl
  | createVolume | resizeVolume => cases hgrows
  | _ => exact absurd rfl hmutating

/-- No call changes the licence. -/
theorem perform_licence (now : Timestamp) : (inv.perform now call).2.licence = inv.licence := by
  by_cases hgrows : call.grows = false
  · exact (perform_lighter now hgrows).licence
  cases call with
  | createVolume ns spec params =>
    rcases inv.createVolume_cases now ns spec params with ⟨e, heq⟩ | ⟨_, _, _, heq⟩
    · rw [perform, heq]
    · rw [perform, heq]
      exact licence_updateVolume
  | resizeVolume ns id sizeBytes params =>
    rcases inv.resizeVolume_cases now ns id sizeBytes params with ⟨e, heq⟩ | ⟨_, _, _, _, heq⟩
    · rw [perform, heq]
    · rw [perform, heq]
      exact licence_updateVolume
  | _ => exact absurd rfl hgrows

/-- A call breaks off only in a check, when it asks for more bytes. -/
theorem perform_brokenOff (h : (inv.perform now call).1 = .error .brokenOff) :
    call.grows = true ∧ ∃ extra, inv.checkCapacity extra = .error .brokenOff := by
  cases call with
  | createVolume ns spec params => exact ⟨rfl, _, createVolume_brokenOff h⟩
  | resizeVolume ns id sizeBytes params => exact ⟨rfl, resizeVolume_brokenOff h⟩
  | getLicence =>
    rw [perform] at h
    split at h <;> cases h
  | listNamespaces | listVolumes | listNodes | listUsers | listPolicyGroups => cases h
  | _ => exact absurd h (ofClient_ne_brokenOff _)

end

end Inventory

end BlockStorage
