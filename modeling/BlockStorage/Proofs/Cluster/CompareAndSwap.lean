import BlockStorage.Proofs.Cluster.History

/-!
No update is lost among changes that ask for a version.

A version token is spent for a resource once the resource has been written over, since a write brings a
token that was never drawn before. So a change that asks for a version meets the resource only as it was
under that version, and of all changes that ask for one version at most one succeeds.
-/

namespace BlockStorage

/-- The version that a change asks for. -/
def Call.casVersion? (call : Call) : Option Version := call.params?.bind RequestParams.casVersion

namespace Cluster

/-- Whether an event is a change of a resource that asks for a version and succeeds. -/
def swaps (key : RecordKey) (version : Version) (cluster : Cluster) (event : Event) : Bool :=
  match event.operation with
  | .call contexts ctx call =>
    call.target? = some key && call.casVersion? = some version &&
      (cluster.callUnder event.now contexts ctx call).1.isOk
  | _ => false

/-- How many events of a history are changes of a resource that ask for a version and succeed. -/
def swapCount (key : RecordKey) (version : Version) : Cluster → List Event → Nat
  | _, [] => 0
  | cluster, event :: events =>
    (if cluster.swaps key version event then 1 else 0) +
      swapCount key version (cluster.after event) events

/-- A version was drawn, and the resource is not under it. -/
def Spent (key : RecordKey) (version : Version) (inv : Inventory) : Prop :=
  Numbered "v" 0 inv.drawn version.text ∧ ∀ r ∈ inv.records, r.key = key → r.version ≠ version

variable {key : RecordKey} {version : Version} {cluster : Cluster} {event : Event}

theorem checkVersion_cas {current : Version} {params : RequestParams}
    (h : Inventory.checkVersion current params = .ok ()) (hcas : params.casVersion = some version) :
    version = current := by
  rw [Inventory.checkVersion, hcas] at h
  by_cases hv : version = current
  · exact hv
  · simp only [if_neg hv, reduceCtorEq] at h

/-- A change that asks for a version and succeeds found the resource under it, and wrote over it. -/
theorem revises_of_swaps (hsound : cluster.inventory.Sound) (h : cluster.swaps key version event) :
    (∃ old ∈ cluster.inventory.records, old.key = key ∧ old.version = version) ∧
      ∃ w, cluster.inventory.Advances w (cluster.after event).inventory ∧ w.Touches key := by
  obtain ⟨now, operation⟩ := event
  cases operation with
  | call contexts ctx call =>
    simp only [swaps, Bool.and_eq_true, decide_eq_true_eq] at h
    obtain ⟨⟨htarget, hcas⟩, hok⟩ := h
    obtain ⟨params, hparams, hcas⟩ := Option.bind_eq_some_iff.mp hcas
    obtain ⟨a, ha⟩ : ∃ a, (cluster.callUnder now contexts ctx call).1 = .ok a := by
      cases hanswer : (cluster.callUnder now contexts ctx call).1 with
      | ok a => exact ⟨a, rfl⟩
      | error e =>
        rw [hanswer] at hok
        cases hok
    obtain ⟨hanswer, hafter⟩ := callUnder_ok ha
    obtain ⟨⟨old, hmem, hkey, hcheck⟩, w, hw, htouch⟩ :=
      Inventory.perform_revises hsound hanswer htarget hparams
    refine ⟨⟨old, hmem, hkey, (checkVersion_cas hcheck hcas).symm⟩, w, ?_, htouch⟩
    rw [after, hafter]
    exact hw
  | _ => cases h

/-! ### Spent versions -/

/-- A spent version stays spent. -/
theorem Spent.after (hsound : cluster.inventory.Sound) (h : Spent key version cluster.inventory)
    (event : Event) : Spent key version (cluster.after event).inventory := by
  obtain ⟨w, hw⟩ := after_advances hsound event
  refine ⟨h.1.mono le_rfl hw.le, ?_⟩
  intro r hr hkey hversion
  have hmem := Inventory.Sound.mem_of_old_version hw hr (hversion ▸ h.1)
  exact h.2 r hmem hkey hversion

/-- No change under a spent version succeeds. -/
theorem Spent.not_swaps (hsound : cluster.inventory.Sound)
    (h : Spent key version cluster.inventory) (event : Event) :
    cluster.swaps key version event = false := by
  rw [Bool.eq_false_iff]
  intro hswaps
  obtain ⟨⟨old, hmem, hkey, hversion⟩, _⟩ := revises_of_swaps hsound hswaps
  exact h.2 old hmem hkey hversion

/-- A change that asks for a version and succeeds spends it. -/
theorem spent_of_swaps (hsound : cluster.inventory.Sound) (h : cluster.swaps key version event) :
    Spent key version (cluster.after event).inventory := by
  obtain ⟨⟨old, hmem, _, rfl⟩, w, hw, htouch⟩ := revises_of_swaps hsound h
  have hdrawn := hsound.versions old hmem
  refine ⟨hdrawn.mono le_rfl hw.le, ?_⟩
  intro r hr hkey hversion
  -- what is there now under the key has a version that was drawn just now
  have hnew := Inventory.Sound.new_version_of_touches hw hr (hkey ▸ htouch)
  rw [hversion] at hnew
  exact hdrawn.not_later hnew

theorem Spent.swapCount_eq_zero (hsound : cluster.inventory.Sound)
    (h : Spent key version cluster.inventory) (events : List Event) :
    swapCount key version cluster events = 0 := by
  induction events generalizing cluster with
  | nil => rfl
  | cons event events ih =>
    obtain ⟨w, hw⟩ := after_advances hsound event
    have hrest := ih (hsound.advance hw) (h.after hsound event)
    rw [swapCount, h.not_swaps hsound event, hrest]
    rfl

theorem swapCount_le_one (hsound : cluster.inventory.Sound) (events : List Event) :
    swapCount key version cluster events ≤ 1 := by
  induction events generalizing cluster with
  | nil => exact Nat.zero_le 1
  | cons event events ih =>
    obtain ⟨w, hw⟩ := after_advances hsound event
    have hsound' := hsound.advance hw
    rw [swapCount]
    by_cases hswaps : cluster.swaps key version event
    · rw [if_pos hswaps, (spent_of_swaps hsound hswaps).swapCount_eq_zero hsound' events]
    · rw [if_neg hswaps, Nat.zero_add]
      exact ih hsound'

/-! ### Old versions -/

/-- A record of a later state whose version was drawn by now is one of now. -/
theorem mem_of_old_version_run (hsound : cluster.inventory.Sound) {events : List Event}
    {r : Record} (hr : r ∈ (cluster.run events).inventory.records)
    (hold : Numbered "v" 0 cluster.inventory.drawn r.version.text) :
    r ∈ cluster.inventory.records := by
  induction events generalizing cluster with
  | nil =>
    rw [run_nil] at hr
    exact hr
  | cons event events ih =>
    rw [run_cons] at hr
    obtain ⟨w, hw⟩ := after_advances hsound event
    have hmem := ih (hsound.advance hw) hr (hold.mono le_rfl hw.le)
    exact Inventory.Sound.mem_of_old_version hw hmem hold

/-- A change that asks for a version meets the resource as it was in every state in which it was under
that version. -/
theorem same_record_of_swaps (hsound : cluster.inventory.Sound) {events : List Event} {r : Record}
    (hr : cluster.inventory.record? key = some r) (hversion : r.version = version)
    (h : (cluster.run events).swaps key version event) :
    (cluster.run events).inventory.record? key = some r := by
  have hmem : r ∈ cluster.inventory.records := List.mem_of_find?_eq_some hr
  have hkey : r.key = key := by simpa using List.find?_some hr
  have hsound' := sound_run hsound events
  obtain ⟨⟨old, hold, hold_key, hold_version⟩, _⟩ := revises_of_swaps hsound' h
  have hold_now : old ∈ cluster.inventory.records := by
    apply mem_of_old_version_run hsound hold
    rw [hold_version, ← hversion]
    exact hsound.versions r hmem
  have heq : old = r := hsound.record_unique hold_now hmem (hold_key.trans hkey.symm)
  rw [← hold_key, hsound'.record?_key hold, heq]

/-- No update is lost: in every history of a cluster, a change of a resource that asks for a version and
succeeds meets the resource exactly as it was in every earlier state where it was under that version, and
of all changes of the resource that ask for this version at most one succeeds. -/
theorem compare_and_swap (username password : String) (key : RecordKey) (version : Version) :
    (∀ (past between : List Event) (event : Event) (r : Record),
      ((empty username password).run past).inventory.record? key = some r → r.version = version →
      (((empty username password).run past).run between).swaps key version event →
      (((empty username password).run past).run between).inventory.record? key = some r) ∧
    ∀ events : List Event, swapCount key version (empty username password) events ≤ 1 := by
  have hsound := Inventory.sound_empty username password
  refine ⟨?_, swapCount_le_one hsound⟩
  intro past between event r hr hversion h
  exact same_record_of_swaps (sound_run hsound past) hr hversion h

/-- A history that leaves one volume, under its first version. -/
def oneVolume : List Event :=
  [⟨.epoch, .addNamespace "default"⟩, ⟨.epoch, .addVolume ⟨"ns-1"⟩ "data" 1024 .empty⟩]

/-- A client describes that volume as it was under its first version. -/
def describeVolume (text : String) : Event :=
  ⟨.epoch, .call .start 0 (.setDescription ⟨"ns-1"⟩ ⟨"vol-3"⟩ text ⟨some ⟨"v-4"⟩, none⟩)⟩

/-- Two clients have read the volume, and the first one to describe it meets it as both have read it. -/
theorem compare_and_swap_two_clients :
    ∃ r, ((empty "admin" "secret").run oneVolume).inventory.record? (.volume ⟨"vol-3"⟩) = some r ∧
      (((empty "admin" "secret").run oneVolume).run
        [⟨.epoch, .call .start 0 (.getVolume ⟨"ns-1"⟩ ⟨"vol-3"⟩)⟩,
          ⟨.epoch, .call .start 0 (.listVolumes ⟨"ns-1"⟩)⟩]).inventory.record?
          (.volume ⟨"vol-3"⟩) = some r := by
  refine ⟨_, rfl, ?_⟩
  refine (compare_and_swap "admin" "secret" (.volume ⟨"vol-3"⟩) ⟨"v-4"⟩).1 oneVolume _
    (describeVolume "first") _ rfl ?_ ?_
  · decide
  · decide

/-- Of two clients that describe the volume only one succeeds. -/
example : swapCount (.volume ⟨"vol-3"⟩) ⟨"v-4"⟩ ((empty "admin" "secret").run oneVolume)
    [describeVolume "first", describeVolume "second"] = 1 := by decide

end Cluster

end BlockStorage
