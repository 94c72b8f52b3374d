import BlockStorage.Proofs.Command.Arguments
import BlockStorage.Proofs.Command.Standstill
import BlockStorage.Proofs.Run.Observation

/-!
The namespace of a command in the mode of identifiers.

The default namespace is a name, so it is none for identifiers. A command on resources of a namespace that is
given none is turned away before it makes a call. Otherwise all its calls carry the namespace that it was given,
and none looks a name up.
-/

namespace BlockStorage

/-- The namespace that a call is about. -/
def Call.namespace? : Call → Option NamespaceId
  | .listVolumes ns => some ns
  | .getVolume ns _ => some ns
  | .getVolumeByName ns _ => some ns
  | .createVolume ns _ _ => some ns
  | .resizeVolume ns _ _ _ => some ns
  | .setReplicas ns _ _ _ => some ns
  | .setDescription ns _ _ _ => some ns
  | .updateNfsExports ns _ _ _ => some ns
  | .attachVolume ns _ _ _ => some ns
  | .detachVolume ns _ _ => some ns
  | .deleteVolume ns _ _ => some ns
  | _ => none

/-- A call is about one namespace, if it is about any, and looks nothing up by name. -/
structure Call.StaysIn (ns : String) (c : Call) : Prop where
  «namespace» : ∀ id ∈ c.namespace?, id.text = ns
  byName : c.method.isByName = false

/-- The namespace that is given to a run: by an option, or else by the config file. -/
def Settings.namespace? (s : Settings) : Option String := s.options.namespace.or s.file.namespace

theorem Settings.namespace_of_useIds {s : Settings} (hids : s.useIds = true) :
    s.namespace = s.namespace?.getD "" := by
  rw [«namespace», namespace?]
  cases s.options.namespace.or s.file.namespace with
  | none => rw [hids, if_pos rfl, Option.getD_none]
  | some ns => rfl

/-! ### What is looked up -/

section

variable {s : Settings} (hids : s.useIds = true)

include hids

namespace Lookup

theorem resolve_of_useIds {kind : IdKind} (reference : String)
    (byName : String → Program (Ident kind)) : resolve s reference byName = pure ⟨reference⟩ := by
  rw [resolve, hids]
  rfl

theorem configured_of_useIds : configured s = pure ⟨s.namespace⟩ :=
  resolve_of_useIds hids _ _

theorem volumeId_of_useIds (ns : NamespaceId) (reference : String) :
    volumeId s ns reference = pure ⟨reference⟩ :=
  resolve_of_useIds hids _ _

theorem nodeId_of_useIds (reference : String) : nodeId s reference = pure ⟨reference⟩ :=
  resolve_of_useIds hids _ _

end Lookup

/-! ### The programs of commands -/

open Program

theorem Plan.asks_changeVolume {calls : Call → Prop} {reference : String} {cas : Option String}
    {isAsync : Bool} {change : NamespaceId → VolumeId → RequestParams → Program Output.View}
    (h : ∀ id params, (change ⟨s.namespace⟩ id params).Asks calls) :
    (changeVolume s reference cas isAsync change).Asks calls := by
  rw [changeVolume, Lookup.configured_of_useIds hids]
  change (Lookup.volumeId s _ reference >>= _).Asks calls
  rw [Lookup.volumeId_of_useIds hids]
  exact (asks_params s cas isAsync).bind fun params => h _ params

/-- The items of a listing that are fetched one by one. -/
theorem Plan.asks_fetchVolumes {calls : Call → Prop} (h : ∀ id, calls (.getVolume ⟨s.namespace⟩ id))
    (names : List String) :
    (fetchEach (Lookup.volumeId s ⟨s.namespace⟩) (fun id => Program.ask (.getVolume ⟨s.namespace⟩ id))
      names).Asks calls := by
  induction names with
  | nil => trivial
  | cons name names ih =>
    rw [fetchEach, Lookup.volumeId_of_useIds hids]
    exact (asks_ask (h _)).bind fun item => ih.bind fun items => trivial

/-- With identifiers the program of a command on a namespace stays in that of the settings. -/
theorem Command.staysIn_of_plan {c : Command} {plan : Plan} (hplan : c.plan s = .ok plan)
    (hnamespaced : c.isNamespaced = true) : plan.body.Asks (Call.StaysIn s.namespace) := by
  have stays {k : Call} (hns : k.namespace? = some ⟨s.namespace⟩) (hname : k.method.isByName = false) :
      k.StaysIn s.namespace := by
    refine ⟨fun id hid => ?_, hname⟩
    obtain rfl := Option.mem_unique hns hid
    rfl
  cases c with
  | getVolumes listing =>
    obtain ⟨selectors, -, h⟩ := bind_eq_ok hplan
    cases h
    change (Plan.getVolumes s listing.names selectors).Asks _
    rw [Plan.getVolumes, Lookup.configured_of_useIds hids]
    refine (asks_ask (stays rfl rfl)).bind fun items => ?_
    rw [Plan.chosen]
    cases pick s.useIds listing.names items <;> trivial
  | describeVolumes listing =>
    obtain ⟨selectors, -, h⟩ := bind_eq_ok hplan
    cases h
    change (Plan.describeVolumes s listing.names selectors).Asks _
    rw [Plan.describeVolumes, Lookup.configured_of_useIds hids]
    change (if listing.names.isEmpty = true then _ else _ : Program Output.View).Asks _
    split
    · exact (asks_ask (stays rfl rfl)).bind fun items => trivial
    · have hfetch := Plan.asks_fetchVolumes hids (fun id => stays rfl rfl) listing.names
      exact hfetch.bind fun items => trivial
  | createVolume name draft isAsync =>
    obtain ⟨spec, -, h⟩ := bind_eq_ok hplan
    cases h
    change (Plan.createVolume s spec isAsync).Asks _
    rw [Plan.createVolume, Lookup.configured_of_useIds hids]
    exact (asks_params s none isAsync).bind fun params => (asks_ask (stays rfl rfl)).bind fun _ => trivial
  | resizeVolume volume size cas isAsync =>
    cases hplan
    change (Plan.resizeVolume s volume size cas isAsync).Asks _
    rw [Plan.resizeVolume]
    refine Asks.bind trivial fun sizeBytes => Plan.asks_changeVolume hids fun id params => ?_
    exact (asks_ask (stays rfl rfl)).bind fun _ => trivial
  | setReplicas volume replicas cas isAsync =>
    cases hplan
    change (Plan.setReplicas s volume replicas cas isAsync).Asks _
    rw [Plan.setReplicas]
    refine Asks.bind trivial fun count => Plan.asks_changeVolume hids fun id params => ?_
    exact (asks_ask (stays rfl rfl)).bind fun _ => trivial
  | updateExports volume exports cas isAsync =>
    obtain ⟨read, -, h⟩ := bind_eq_ok hplan
    cases h
    exact Plan.asks_changeVolume hids fun id params => (asks_ask (stays rfl rfl)).bind fun _ => trivial
  | setDescription volume description cas =>
    cases hplan
    exact Plan.asks_changeVolume hids fun id params => (asks_ask (stays rfl rfl)).bind fun _ => trivial
  | deleteVolume volume cas isAsync =>
    cases hplan
    refine Plan.asks_changeVolume hids fun id params => (asks_ask (stays rfl rfl)).bind fun answer => ?_
    cases answer <;> trivial
  | attach volume node cas isAsync =>
    cases hplan
    change (Plan.attach s volume node cas isAsync).Asks _
    rw [Plan.attach, Lookup.configured_of_useIds hids]
    change (Lookup.volumeId s _ volume >>= _).Asks _
    rw [Lookup.volumeId_of_useIds hids]
    change (Lookup.nodeId s node >>= _).Asks _
    rw [Lookup.nodeId_of_useIds hids]
    exact (asks_params s cas isAsync).bind fun params => (asks_ask (stays rfl rfl)).bind fun _ => trivial
  | detach volume cas isAsync =>
    cases hplan
    refine Plan.asks_changeVolume hids fun id params => (asks_ask (stays rfl rfl)).bind fun answer => ?_
    cases answer with
    | completed _ => exact (asks_ask (stays rfl rfl)).bind fun _ => trivial
    | accepted => trivial
  | _ => cases hnamespaced

end

/-! ### Runs -/

namespace Command

variable {s : Settings} {c : Command}

/-- A command on a namespace whose arguments are good is turned away if it is given none. -/
theorem run_without_namespace {σ : Type} [Cluster.Callable σ] (hids : s.useIds = true)
    (hmissing : s.namespace.isEmpty = true) (hnamespaced : c.isNamespaced = true)
    (hgood : c.literals.findSome? Literal.fault? = none) (ctx : Nat) (w : World σ)
    (hadmits : Contexts.admits (s.effectiveTimeout Stage.defaultFallback) w.contexts.now = true) :
    Outcome.Refuses w Stage.namespaceMissing (c.run s ctx w) := by
  obtain ⟨plan, hplan, hcheck⟩ := exists_plan_of_literals s hgood
  obtain ⟨targets, hstages, -⟩ := (planned_of_plan hplan).stages
  rw [run_eq_chain ctx w hplan hcheck, hstages, hnamespaced]
  change Outcome.Refuses w _ (Stage.middleware s (.deadline Stage.defaultFallback)
    (Stage.middleware s .namespaceRequired _) ctx plan.args w)
  rw [Stage.deadline_of_admits hadmits]
  simp only [Stage.middleware, hids, hmissing, Bool.and_self, if_true]
  exact ⟨rfl, rfl, rfl⟩

/-- Identifiers never fall back to the default namespace. A command on a namespace that is given none, or an
empty one, makes no call at all: it fails with its arguments, if one of them is rejected, and with the missing
namespace otherwise, and leaves the cluster and the output alone. If it is given one, each of its calls that is
about a namespace carries exactly that, and no name is looked up. So the default is used only where it was
given. -/
theorem identifiers_need_namespace {σ : Type} [Cluster.Callable σ] (s : Settings) (c : Command)
    (hids : s.useIds = true) (hnamespaced : c.isNamespaced = true) (ctx : Nat) (w : World σ)
    (hadmits : Contexts.admits (s.effectiveTimeout Stage.defaultFallback) w.contexts.now = true) :
    let ns := s.namespace?.getD ""
    (ns = "" → c.occasions s ctx w = [] ∧ Stage.namespaceMissing.kind = .precondition ∧
      Outcome.Refuses w ((c.literals.findSome? Literal.fault?).getD Stage.namespaceMissing)
        (c.run s ctx w)) ∧
    (ns ≠ "" → ∀ o ∈ c.occasions s ctx w, o.call.StaysIn ns) ∧
    ∀ o ∈ c.occasions s ctx w, ∀ id ∈ o.call.namespace?, s.namespace? = some id.text := by
  intro ns
  have hns : s.namespace = ns := Settings.namespace_of_useIds hids
  have hmissing (h : ns = "") : Outcome.Refuses w.observed
      ((c.literals.findSome? Literal.fault?).getD Stage.namespaceMissing) (c.run s ctx w.observed) := by
    cases hfault : c.literals.findSome? Literal.fault? with
    | some e =>
      rw [run_rejected hfault ctx w.observed]
      exact ⟨rfl, rfl, rfl⟩
    | none =>
      rw [← hns] at h
      exact run_without_namespace hids (by rw [h]; rfl) hnamespaced hfault ctx w.observed hadmits
  have hquiet (h : ns = "") : c.occasions s ctx w = [] :=
    congrArg Cluster.Observed.occasions (hmissing h).cluster
  have hstays : ∀ o ∈ c.occasions s ctx w, o.call.StaysIn ns := by
    intro o ho
    have hkeeps : Cluster.Keeps σ fun _ => True := fun _ _ _ _ _ _ => trivial
    have hasks : ∀ plan, c.plan s = .ok plan → plan.check = .ok () → plan.body.Asks (Call.StaysIn ns) :=
      fun plan hplan _ => hns ▸ staysIn_of_plan hids hplan hnamespaced
    have hsession (credentials : Credentials) : credentials.opening.StaysIn ns := ⟨nofun, rfl⟩
    have hlicence : Call.getLicence.StaysIn ns := ⟨nofun, rfl⟩
    exact (occasions_of_run hkeeps hasks (fun credentials _ => hsession credentials) hlicence trivial ho).2.1
  refine ⟨fun h => ⟨hquiet h, rfl, ?_⟩, fun _ => hstays, fun o ho id hid => ?_⟩
  · rw [← plain_run_observed]
    exact ⟨(hmissing h).result, congrArg Cluster.Observed.cluster (hmissing h).cluster, (hmissing h).sink⟩
  have htext : id.text = ns := (hstays o ho).namespace id hid
  cases hgiven : s.namespace? with
  | some given =>
    have hsame : ns = given := congrArg (Option.getD · "") hgiven
    rw [htext, hsame]
  | none =>
    rw [hquiet (congrArg (Option.getD · "") hgiven)] at ho
    cases ho

/-- With identifiers a volume is not detached in no namespace, and otherwise in the given one. -/
theorem identifiers_need_namespace_detach :
    let s := { knownUser with
      options := { knownUser.options with useIds := true, «namespace» := some "ns-1" } }
    (detach "vol-3" none false).occasions hopeless 0 oneVolumeWorld = [] ∧
      Outcome.Refuses oneVolumeWorld Stage.namespaceMissing
        ((detach "vol-3" none false).run hopeless 0 oneVolumeWorld) ∧
      ∃ o ∈ (detach "vol-3" none false).occasions s 0 oneVolumeWorld,
        o.call.method = .detachVolume ∧ o.call.StaysIn "ns-1" := by
  intro s
  obtain ⟨hmissing, -⟩ := identifiers_need_namespace hopeless (detach "vol-3" none false) rfl rfl
    0 oneVolumeWorld (by decide)
  obtain ⟨hquiet, -, hrefuses⟩ := hmissing rfl
  obtain ⟨-, hstays, -⟩ := identifiers_need_namespace s (detach "vol-3" none false) rfl rfl 0
    oneVolumeWorld (by decide)
  obtain ⟨o, ho, hdetach⟩ : ∃ o ∈ (detach "vol-3" none false).occasions s 0 oneVolumeWorld,
      o.call.method = .detachVolume := by decide +kernel
  exact ⟨hquiet, hrefuses, o, ho, hdetach, hstays (by decide) o ho⟩

end Command

end BlockStorage
