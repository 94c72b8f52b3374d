import BlockStorage.Proofs.Inventory.Operations

/-!
Updates: the changes of a stored volume.

An update looks its volume up, compares the version that it asks for, may have a condition of its own,
and then changes a few fields. It succeeds exactly if it finds a volume that admits it, and then the
revised volume is in the place of that one and nothing else has changed. So what an update reads and
what it writes can be told without looking into it.
-/

namespace BlockStorage

/-- Where an update looks for its volume, and its parameters. -/
structure VolumeUpdate where
  ns : NamespaceId
  id : VolumeId
  params : RequestParams

namespace Call

/-- The update that a call is, if it is one. -/
def update? : Call → Option VolumeUpdate
  | .resizeVolume ns id _ params => some ⟨ns, id, params⟩
  | .setReplicas ns id _ params => some ⟨ns, id, params⟩
  | .setDescription ns id _ params => some ⟨ns, id, params⟩
  | .updateNfsExports ns id _ params => some ⟨ns, id, params⟩
  | .attachVolume ns id _ params => some ⟨ns, id, params⟩
  | .detachVolume ns id params => some ⟨ns, id, params⟩
  | _ => none

/-- What an update makes of its volume, where these nodes are stored. -/
def revise (nodes : List NodeId) : Call → Volume → Volume
  | .resizeVolume _ _ sizeBytes _, v => { v with sizeBytes := sizeBytes }
  | .setReplicas _ _ count _, v =>
    { v with replicas := Inventory.placeReplicas v.id nodes count.toNat }
  | .setDescription _ _ text _, v => { v with description := text }
  | .updateNfsExports _ _ exports _, v => { v with nfs := { v.nfs with exports := exports } }
  | .attachVolume _ _ node _, v => { v with attachedOn := some node, attachmentType := .host }
  | .detachVolume .., v => { v with attachedOn := none, attachmentType := .detached }
  | _, v => v

/-- An update answers with the volume that it leaves, unless it does not tell or is only accepted. -/
def Reports (new : Volume) : (c : Call) → c.Answer → Prop
  | .resizeVolume _ _ _ params, answer => answer = Inventory.submission new params
  | .setReplicas _ _ _ params, answer => answer = Inventory.submission new params
  | .setDescription .., answer => answer = new
  | .updateNfsExports _ _ _ params, answer => answer = Inventory.submission new params
  | .attachVolume _ _ _ params, answer => answer = Inventory.submission new params
  | .detachVolume _ _ params, answer => answer = Inventory.submission () params
  | _, _ => False

section

variable (nodes : List NodeId) (c : Call) (v : Volume)

@[simp] theorem revise_id : (c.revise nodes v).id = v.id := by cases c <;> rfl

@[simp] theorem revise_name : (c.revise nodes v).name = v.name := by cases c <;> rfl

@[simp] theorem revise_namespaceId : (c.revise nodes v).namespaceId = v.namespaceId := by
  cases c <;> rfl

@[simp] theorem revise_createdAt : (c.revise nodes v).createdAt = v.createdAt := by cases c <;> rfl

end

end Call

namespace Inventory

/-- The identifiers of the stored nodes. -/
def nodeIds (inv : Inventory) : List NodeId := inv.nodes.map (·.id)

/-- The condition of an update besides that its volume is there under the version that is asked for. -/
def Permits (inv : Inventory) (old : Volume) : Call → Prop
  | .resizeVolume _ _ sizeBytes _ =>
    old.sizeBytes ≤ sizeBytes ∧ inv.checkCapacity (sizeBytes - old.sizeBytes) = .ok ()
  | .attachVolume _ _ node _ => ∃ n ∈ inv.nodes, n.id = node
  | _ => True

/-- An update finds a volume, and may be carried out on it. -/
structure Admits (inv : Inventory) (c : Call) (u : VolumeUpdate) (old : Volume) : Prop where
  found : inv.volumeIn u.ns u.id = .ok old
  current : checkVersion old.version u.params = .ok ()
  permitted : inv.Permits old c

/-- The volume that an update leaves. -/
def updatedVolume (inv : Inventory) (now : Timestamp) (c : Call) (old : Volume) : Volume :=
  inv.revised now (c.revise inv.nodeIds) old

/-- The inventory that an update leaves. -/
def updated (inv : Inventory) (now : Timestamp) (c : Call) (old : Volume) : Inventory :=
  (inv.replace (.volume (inv.updatedVolume now c old))).draw

variable {inv : Inventory} {now : Timestamp} {c : Call} {u : VolumeUpdate} {old : Volume}

@[simp] theorem updatedVolume_id : (inv.updatedVolume now c old).id = old.id :=
  c.revise_id inv.nodeIds old

/-- An update that is admitted succeeds, and leaves the revised volume in the place of the old one. -/
theorem perform_of_admits (hsound : inv.Sound) (now : Timestamp) (hc : c.update? = some u)
    (h : inv.Admits c u old) :
    ∃ a, inv.perform now c = (.ok a, inv.updated now c old) ∧
      c.Reports (inv.updatedVolume now c old) a := by
  obtain ⟨hfound, hcurrent, hpermitted⟩ := h
  have hstep : inv.updateVolume now u.ns u.id u.params (c.revise inv.nodeIds) =
      (.ok (inv.updatedVolume now c old), inv.updated now c old) :=
    updateVolume_replaced hsound (c.revise_id inv.nodeIds) hfound hcurrent
  -- what is left is that each call comes to this step, and what it answers
  cases c <;> cases hc
  case resizeVolume ns id sizeBytes params =>
    obtain ⟨hsize, hroom⟩ := hpermitted
    refine ⟨_, ?_, rfl⟩
    rw [perform, resizeVolume]
    simp only [hfound, if_neg (UInt64.not_lt.mpr hsize), hroom]
    exact congrArg (fun step => ofClient (submitted params (fun v => v) step)) hstep
  case setDescription => exact ⟨_, congrArg ofClient hstep, rfl⟩
  case attachVolume ns id node params =>
    have hnode : (inv.nodes.any fun n => n.id = node) = true := by
      obtain ⟨n, hn, hid⟩ := hpermitted
      exact List.any_eq_true.mpr ⟨n, hn, decide_eq_true hid⟩
    refine ⟨_, ?_, rfl⟩
    rw [perform, attachVolume, if_pos hnode]
    exact congrArg (fun step => ofClient (submitted params (fun v => v) step)) hstep
  case detachVolume ns id params =>
    exact ⟨_, congrArg (fun step => ofClient (submitted params (fun _ => ()) step)) hstep, rfl⟩
  case setReplicas | updateNfsExports =>
    exact ⟨_, congrArg (fun step => ofClient (submitted _ (fun v => v) step)) hstep, rfl⟩

theorem admits_of_updateVolume {change : Volume → Volume} {v : Volume}
    (h : (inv.updateVolume now u.ns u.id u.params change).1 = .ok v) :
    ∃ old, inv.volumeIn u.ns u.id = .ok old ∧ checkVersion old.version u.params = .ok () := by
  rcases inv.updateVolume_cases now u.ns u.id u.params change with ⟨e, heq⟩ | ⟨old, hold, hcheck, _⟩
  · rw [heq] at h
    cases h
  · exact ⟨old, hold, hcheck⟩

/-- An update that succeeds was admitted. -/
theorem admits_of_perform (hc : c.update? = some u) {a : c.Answer}
    (h : (inv.perform now c).1 = .ok a) : ∃ old, inv.Admits c u old := by
  cases c <;> cases hc
  case resizeVolume ns id sizeBytes params =>
    rcases inv.resizeVolume_cases now ns id sizeBytes params with
      ⟨e, heq⟩ | ⟨old, hold, hsize, hroom, heq⟩
    · rw [perform, heq] at h
      cases h
    · rw [perform, heq] at h
      obtain ⟨v, h⟩ := submitted_eq_ok (ofClient_eq_ok h)
      obtain ⟨old', hold', hcheck⟩ := admits_of_updateVolume (u := ⟨ns, id, params⟩) h
      obtain rfl := Except.ok.inj (hold.symm.trans hold')
      exact ⟨old, hold, hcheck, UInt64.not_lt.mp hsize, hroom⟩
  case setDescription =>
    obtain ⟨old, hold, hcheck⟩ := admits_of_updateVolume (u := ⟨_, _, _⟩) (ofClient_eq_ok h)
    exact ⟨old, hold, hcheck, trivial⟩
  case attachVolume ns id node params =>
    rcases inv.attachVolume_cases now ns id node params with ⟨_, heq⟩ | ⟨hnode, heq⟩
    · rw [perform, heq] at h
      cases h
    · rw [perform, heq] at h
      obtain ⟨v, h⟩ := submitted_eq_ok (ofClient_eq_ok h)
      obtain ⟨old, hold, hcheck⟩ := admits_of_updateVolume (u := ⟨ns, id, params⟩) h
      exact ⟨old, hold, hcheck, hnode⟩
  all_goals
    obtain ⟨v, h⟩ := submitted_eq_ok (ofClient_eq_ok h)
    obtain ⟨old, hold, hcheck⟩ := admits_of_updateVolume (u := ⟨_, _, _⟩) h
    exact ⟨old, hold, hcheck, trivial⟩

/-- All that an update does that succeeds. -/
theorem updated_of_perform (hsound : inv.Sound) (hc : c.update? = some u) {a : c.Answer}
    {after : Inventory} (h : inv.perform now c = (.ok a, after)) :
    ∃ old, inv.Admits c u old ∧ after = inv.updated now c old ∧
      c.Reports (inv.updatedVolume now c old) a := by
  obtain ⟨old, hold⟩ := admits_of_perform hc (congrArg Prod.fst h)
  obtain ⟨b, hupdated, hreports⟩ := perform_of_admits hsound now hc hold
  obtain ⟨hanswer, rfl⟩ := Prod.mk.inj (h.symm.trans hupdated)
  obtain rfl := Except.ok.inj hanswer
  exact ⟨old, hold, rfl, hreports⟩

theorem Sound.updated (hsound : inv.Sound) (now : Timestamp) (hc : c.update? = some u)
    (h : inv.Admits c u old) : (inv.updated now c old).Sound := by
  obtain ⟨_, hupdated, -⟩ := perform_of_admits hsound now hc h
  simpa [hupdated] using hsound.perform now c

end Inventory

end BlockStorage
