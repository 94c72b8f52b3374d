import BlockStorage.Proofs.Inventory.Capacity
import BlockStorage.Proofs.Inventory.Names

/-!
Changes that a licence forbids.

A volume that is created or enlarged is checked against the licence before anything is drawn, compared or
written. So within a licence such a change is refused exactly if the sum of all sizes would exceed it, and then
nothing is done; what fails otherwise fails for something else.
-/

namespace BlockStorage

namespace Inventory

/-- A step that needs more bytes heeds a licence: if they are too many, then it fails with the error of the
licence and does nothing, and otherwise it does not fail with an error of the licence. -/
structure Heeds {α : Type} (inv : Inventory) (licence : Licence) (extra : Nat)
    (step : Except CallFailure α × Inventory) : Prop where
  refused : licence.clusterCapacityBytes.toNat < inv.storedBytes + extra →
    step = (.error (.client (capacityExceeded licence)), inv)
  allowed : inv.storedBytes + extra ≤ licence.clusterCapacityBytes.toNat →
    ∀ reason, step.1 ≠ .error (.client (.licenceCapability reason))

variable {inv : Inventory} {now : Timestamp} {ns : NamespaceId} {id : VolumeId} {params : RequestParams}
  {licence : Licence}

/-! ### Errors of changes

A change of a volume fails because that is not there, or has another version. -/

theorem volumeIn_ne_licence (reason : String) : inv.volumeIn ns id ≠ .error (.licenceCapability reason) := by
  rw [volumeIn, findOr]
  intro h
  split at h <;> cases h

theorem checkVersion_ne_licence {current : Version} (reason : String) :
    checkVersion current params ≠ .error (.licenceCapability reason) := by
  rw [checkVersion]
  intro h
  split at h
  · split at h <;> cases h
  · cases h

theorem updateVolume_ne_licence {change : Volume → Volume} (reason : String) :
    (inv.updateVolume now ns id params change).1 ≠ .error (.licenceCapability reason) := by
  simp only [updateVolume]
  cases hfind : inv.draw.volumeIn ns id with
  | error e =>
    intro h
    exact volumeIn_ne_licence reason (hfind.trans h)
  | ok volume =>
    cases hcheck : checkVersion volume.version params with
    | error e =>
      simp only [hcheck]
      intro h
      cases h
      exact checkVersion_ne_licence reason hcheck
    | ok _ =>
      simp only [hcheck]
      intro h
      cases h

theorem submitted_ne_licence {α : Type} {answer : Volume → α} {step : Except ClientError Volume × Inventory}
    {reason : String} (h : step.1 ≠ .error (.licenceCapability reason)) :
    (ofClient (submitted params answer step)).1 ≠ .error (.client (.licenceCapability reason)) := by
  obtain ⟨result, after⟩ := step
  cases result with
  | error e =>
    intro herror
    cases herror
    exact h rfl
  | ok volume =>
    intro herror
    cases herror

/-! ### The check -/

/-- Within a licence for fewer bytes than the largest word, the check compares sums without bound. -/
theorem checkCapacity_eq (hlicence : inv.licence = some licence)
    (hroom : inv.storedBytes ≤ licence.clusterCapacityBytes.toNat)
    (hbounded : licence.clusterCapacityBytes ≠ unlimited) (extra : UInt64) :
    inv.checkCapacity extra =
      if licence.clusterCapacityBytes.toNat < inv.storedBytes + extra.toNat then
        .error (.client (capacityExceeded licence))
      else .ok () := by
  have hword : licence.clusterCapacityBytes.toNat < 18446744073709551615 := by
    have hle := licence.clusterCapacityBytes.toNat_lt
    have hne : licence.clusterCapacityBytes.toNat ≠ 18446744073709551615 :=
      fun h => hbounded (UInt64.toNat_inj.1 h)
    omega
  have hsaturating : licence.clusterCapacityBytes.toNat < saturatingSum inv.storedBytes extra.toNat ↔
      licence.clusterCapacityBytes.toNat < inv.storedBytes + extra.toNat := by
    rw [saturatingSum, lt_min_iff]
    exact and_iff_left hword
  have hcounted : ¬ UInt64.size ≤ inv.storedBytes := by
    rw [UInt64.size]
    omega
  rw [checkCapacity, provisioned_eq_storedBytes, hlicence]
  simp only [if_neg hcounted, hsaturating]

/-- A step that fails as the check does, and otherwise with no error of a licence, heeds the licence. -/
theorem heeds_of_check {α : Type} {step : Except CallFailure α × Inventory}
    (hlicence : inv.licence = some licence)
    (hroom : inv.storedBytes ≤ licence.clusterCapacityBytes.toNat)
    (hbounded : licence.clusterCapacityBytes ≠ unlimited) {extra : UInt64}
    (hrefused : ∀ e, inv.checkCapacity extra = .error e → step = (.error e, inv))
    (hallowed : inv.checkCapacity extra = .ok () →
      ∀ reason, step.1 ≠ .error (.client (.licenceCapability reason))) :
    inv.Heeds licence extra.toNat step := by
  have hcheck := checkCapacity_eq hlicence hroom hbounded extra
  constructor
  case refused =>
    intro hexceeds
    rw [if_pos hexceeds] at hcheck
    exact hrefused _ hcheck
  case allowed =>
    intro hfits
    rw [if_neg (Nat.not_lt.mpr hfits)] at hcheck
    exact hallowed hcheck

/-! ### Operations -/

section

variable (hlicence : inv.licence = some licence)
  (hroom : inv.storedBytes ≤ licence.clusterCapacityBytes.toNat)
  (hbounded : licence.clusterCapacityBytes ≠ unlimited)

include hlicence hroom hbounded

/-- A volume under a free name in a namespace that exists is created if the licence has room for it. -/
theorem heeds_createVolume {n : Namespace} (hn : n ∈ inv.namespaces) {spec : VolumeSpec}
    (hname : ∀ v ∈ inv.volumesOf n.id, v.name ≠ spec.name) :
    inv.Heeds licence spec.sizeBytes.toNat (inv.createVolume now n.id spec params) := by
  have hhoused : inv.namespaces.any (fun other => other.id = n.id) = true := by
    simpa using ⟨n, hn, rfl⟩
  have hfree : ¬ (inv.volumes.any fun v => v.namespaceId = n.id && v.name = spec.name) = true := by
    simpa [volumesOf] using hname
  refine heeds_of_check hlicence hroom hbounded ?_ ?_ <;>
    rw [createVolume, hhoused, Bool.not_true, if_neg Bool.false_ne_true, if_neg hfree]
  · intro e hcheck
    rw [hcheck]
  · intro hcheck reason
    rw [hcheck]
    exact submitted_ne_licence (updateVolume_ne_licence reason)

/-- A volume that exists is enlarged only if the licence has room for what is added. -/
theorem heeds_resizeVolume {v : Volume} (hv : inv.volumeIn ns v.id = .ok v) {sizeBytes : UInt64}
    (hlarger : v.sizeBytes < sizeBytes) :
    inv.Heeds licence (sizeBytes.toNat - v.sizeBytes.toNat)
      (inv.resizeVolume now ns v.id sizeBytes params) := by
  have hle : v.sizeBytes ≤ sizeBytes := UInt64.le_of_lt hlarger
  rw [← UInt64.toNat_sub_of_le _ _ hle]
  refine heeds_of_check hlicence hroom hbounded ?_ ?_ <;>
    simp only [resizeVolume, hv, if_neg (UInt64.not_lt.mpr hle)]
  · intro e hcheck
    rw [hcheck]
  · intro hcheck reason
    rw [hcheck]
    exact submitted_ne_licence (updateVolume_ne_licence reason)

end

end Inventory

end BlockStorage
