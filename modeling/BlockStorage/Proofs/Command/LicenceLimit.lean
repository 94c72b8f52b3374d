import BlockStorage.Proofs.Command.Modes
import BlockStorage.Proofs.Inventory.Licence
import BlockStorage.Proofs.Run.Explanation

/-!
Commands that ask for more bytes than the licence has room for.

A volume that is created or enlarged is checked against the licence before anything is drawn, compared or
written. So such a command is refused exactly if the sum of all sizes would exceed the licence, as long as the
sum so far does not. The error of the cluster comes through the program and its handler to the innermost stage,
which fetches the licence and tells it.
-/

namespace BlockStorage

open Cluster (Observed)
open Inventory (unlimited capacityExceeded)

/-! ### The programs -/

namespace Plan

open Output

variable {s : Settings} {now : Timestamp} {inv : Inventory} {n : Namespace}

/-- What is shown of an answer to a call, or the failure of the call. -/
def shownAnswer {c : Call} (view : c.Answer → View) (step : Except CallFailure c.Answer × Inventory) :
    Except Failure View × Inventory :=
  ((step.1.mapError .ofCall).map view, step.2)

theorem eval_ask_view {c : Call} (view : c.Answer → View) :
    (Program.ask c >>= fun answer => pure (view answer)).eval now inv =
      shownAnswer view (inv.perform now c) := by
  rw [Program.eval_bind, Program.eval_ask, shownAnswer]
  rcases inv.perform now c with ⟨e | answer, after⟩ <;> rfl

/-- A namespace that is picked is the one that the settings resolve. -/
theorem eval_configured (hn : pickOne s.useIds inv.namespaces s.namespace = .ok n) :
    (Lookup.configured s).eval now inv = (.ok n.id, inv) := by
  have hresolved : resolved s inv.namespaces Namespace.id s.namespace = .ok n.id :=
    resolved_of_pickOne (fun _ => rfl) hn
  rw [Lookup.configured, eval_namespaceId, hresolved]

/-- A volume is created by one call in the namespace of the settings. -/
theorem eval_createVolume (hn : pickOne s.useIds inv.namespaces s.namespace = .ok n) (spec : VolumeSpec)
    (isAsync : Bool) :
    (createVolume s spec isAsync).eval now inv =
      shownAnswer (volumeView ("create volume " ++ spec.name))
        (inv.perform now (.createVolume n.id spec (.ofFlags s none isAsync))) := by
  rw [createVolume, Program.eval_bind, eval_configured hn]
  simp only
  rw [Program.eval_bind, RequestParams.eval_program]
  exact eval_ask_view _

/-- A volume of the namespace of the settings is enlarged by one call. -/
theorem eval_resizeVolume (hn : pickOne s.useIds inv.namespaces s.namespace = .ok n) {v : Volume}
    {volume size : String} (hv : pickOne s.useIds (inv.volumesOf n.id) volume = .ok v) {sizeBytes : UInt64}
    (hsize : bytesOf size = .ok sizeBytes) (cas : Option String) (isAsync : Bool) :
    (resizeVolume s volume size cas isAsync).eval now inv =
      shownAnswer (volumeView ("resize volume " ++ volume))
        (inv.perform now (.resizeVolume n.id v.id sizeBytes (.ofFlags s cas isAsync))) := by
  have hresolved : resolved s (inv.volumesOf n.id) Volume.id volume = .ok v.id :=
    resolved_of_pickOne (fun _ => rfl) hv
  rw [resizeVolume, hsize]
  change (changeVolume s volume cas isAsync _).eval now inv = _
  rw [changeVolume, Program.eval_bind, eval_configured hn]
  simp only
  rw [Program.eval_bind, eval_volumeId, hresolved]
  simp only
  rw [Program.eval_bind, RequestParams.eval_program]
  exact eval_ask_view _

/-! They do not ask for the licence themselves. -/

/-- A reference that is looked up by one call costs that call at most. -/
theorem asks_resolve {calls : Call → Prop} {kind : IdKind} {c : String → Call}
    {f : ∀ name, (c name).Answer → Ident kind} (h : ∀ name, calls (c name)) (reference : String) :
    (Lookup.resolve s reference fun name => do
      let answer ← Program.ask (c name)
      return f name answer).Asks calls := by
  rw [Lookup.resolve, Reference.parse]
  cases s.useIds with
  | true => trivial
  | false => exact (Program.asks_ask (h reference)).bind fun _ => trivial

theorem asks_createVolume (spec : VolumeSpec) (isAsync : Bool) :
    (createVolume s spec isAsync).Asks fun c => c.method ≠ .getLicence := by
  have hlookup : (Lookup.configured s).Asks fun c => c.method ≠ .getLicence :=
    asks_resolve (fun _ => nofun) s.namespace
  refine hlookup.bind fun ns => (Program.asks_params s none isAsync).bind fun params => ?_
  exact (Program.asks_ask nofun).bind fun _ => trivial

theorem asks_resizeVolume (volume size : String) (cas : Option String) (isAsync : Bool) :
    (resizeVolume s volume size cas isAsync).Asks fun c => c.method ≠ .getLicence := by
  have hsize : (Program.ofExcept (bytesOf size)).Asks fun c => c.method ≠ .getLicence := trivial
  have hlookup : (Lookup.configured s).Asks fun c => c.method ≠ .getLicence :=
    asks_resolve (fun _ => nofun) s.namespace
  have hvolume (ns : NamespaceId) : (Lookup.volumeId s ns volume).Asks fun c => c.method ≠ .getLicence :=
    asks_resolve (fun _ => nofun) volume
  refine hsize.bind fun sizeBytes => hlookup.bind fun ns => (hvolume ns).bind fun id => ?_
  refine (Program.asks_params s cas isAsync).bind fun params => ?_
  exact (Program.asks_ask nofun).bind fun _ => trivial

end Plan

/-! ### The runs -/

/-- A handler does not call what its program does not ask for. -/
theorem Plan.handler_callCount {s : Settings} {plan : Plan} {m : Method}
    (hasks : plan.body.Asks fun c => c.method ≠ m) {child : Nat} (args : List String) {u : World Cluster}
    (hlive : u.contexts.mayStart child = .ok ()) :
    (plan.handler s child args u).2.cluster.callCount m = u.cluster.callCount m := by
  obtain ⟨xs, r, htakes, hanswers, -⟩ := plan.handler_takes s args hlive
  have hnone : (xs.map fun x => x.call.method).count m = 0 := by
    refine List.count_eq_zero_of_not_mem fun hmem => ?_
    obtain ⟨x, hx, hmethod⟩ := List.mem_map.mp hmem
    exact htakes.calls_of_asks hasks x hx hmethod
  rw [Cluster.callCount, Cluster.callCount, hanswers.calls, List.count_append, hnone, Nat.add_zero]

/-- A failure of a command that tells of a licence: the error of the cluster, or the one that explains it. -/
def Failure.TellsOfLicence : Failure → Prop
  | .command (.client (.licenceCapability _)) => True
  | .command (.licenceLimit ..) => True
  | _ => False

namespace Outcome

/-- A run was refused for the licence: it ends with an error that tells the reason, the state of the licence and
what to do about it; the licence was fetched once for that, and the cluster stores what it stored. -/
structure Refused (licence : Licence) (w : World Cluster) (o : Outcome Cluster Unit) : Prop where
  result : o.1 = .error (.command (.licenceLimit
    ("provisioned capacity would exceed the licensed " ++ toString licence.clusterCapacityBytes.toNat ++
      " bytes") licence.description licence.hint))
  inventory : o.2.cluster.inventory = w.cluster.inventory
  fetched : o.2.cluster.callCount .getLicence = w.cluster.callCount .getLicence + 1

/-- A run was not hindered by the licence: if it fails, then for something else, and the licence was not
fetched. -/
structure Unhindered (w : World Cluster) (o : Outcome Cluster Unit) : Prop where
  result : ∀ f, o.1 = .error f → ¬ f.TellsOfLicence
  fetched : o.2.cluster.callCount .getLicence = w.cluster.callCount .getLicence

/-- A run that needs more bytes is refused if they are more than the licence has room for, and not hindered
otherwise. -/
structure Heeds (licence : Licence) (extra : Nat) (w : World Cluster) (o : Outcome Cluster Unit) : Prop where
  refused : licence.clusterCapacityBytes.toNat < w.cluster.inventory.storedBytes + extra → o.Refused licence w
  unhindered : w.cluster.inventory.storedBytes + extra ≤ licence.clusterCapacityBytes.toNat → o.Unhindered w

end Outcome

section

variable {s : Settings} {plan : Plan} {args : List String} {child : Nat} {u : World Cluster} {k : Call}
  {view : k.Answer → Output.View} {licence : Licence} {extra : Nat}

theorem Plan.shownAnswer_error {step : Except CallFailure k.Answer × Inventory} {f : Failure}
    (h : (shownAnswer view step).1 = .error f) : ∃ e, step.1 = .error e ∧ f = .ofCall e := by
  obtain ⟨answer, after⟩ := step
  cases answer with
  | error e => exact ⟨e, rfl, (Except.error.inj h).symm⟩
  | ok a => cases h

section

variable (hlive : u.contexts.mayStart child = .ok ()) (hquiet : u.IsQuiet)
  (heval : plan.body.eval u.now u.cluster.inventory =
    Plan.shownAnswer view (u.cluster.inventory.perform u.now k))
  (hheeds : u.cluster.inventory.Heeds licence extra (u.cluster.inventory.perform u.now k))

include hlive hquiet heval hheeds

variable (s plan args)

/-- A handler whose one call is refused for the licence fails with the error of that call. -/
theorem Plan.handler_refused
    (hexceeds : licence.clusterCapacityBytes.toNat < u.cluster.inventory.storedBytes + extra) :
    (plan.handler s child args u).1 = .error (.client (capacityExceeded licence)) ∧
      (plan.handler s child args u).2.cluster.inventory = u.cluster.inventory := by
  obtain ⟨hshown, hinventory, -⟩ := plan.handler_eval s args hlive hquiet
  rw [heval, hheeds.refused hexceeds] at hshown hinventory
  exact ⟨congrArg Prod.fst hshown, hinventory⟩

/-- A handler for whose one call the licence has room does not fail for a licence. -/
theorem Plan.handler_unhindered
    (hfits : u.cluster.inventory.storedBytes + extra ≤ licence.clusterCapacityBytes.toNat) {f : Failure}
    (hf : (plan.handler s child args u).1 = .error f) : ¬ f.TellsOfLicence := by
  obtain ⟨hshown, -⟩ := plan.handler_eval s args hlive hquiet
  rw [heval] at hshown
  rcases World.shown_error ((congrArg Prod.fst hshown).symm.trans hf) with herror | ⟨e, rfl, hkind⟩
  · obtain ⟨e, hanswer, rfl⟩ := shownAnswer_error herror
    have hother := hheeds.allowed hfits
    cases e with
    | brokenOff => exact id
    | client e =>
      cases e
      case licenceCapability reason => exact absurd hanswer (hother reason)
      all_goals exact id
  · cases e
    case licenceLimit => rcases hkind with hkind | hkind <;> cases hkind
    case client => rcases hkind with hkind | hkind <;> cases hkind
    all_goals exact id

end

/-- A command whose program makes one call that heeds the licence heeds it too. -/
theorem Command.run_heeds {c : Command} {ctx : Nat} {w : World Cluster} (h : w.Accepts s ctx)
    (hlicence : w.cluster.inventory.licence = some licence) (hplan : c.plan s = .ok plan)
    (hcheck : plan.check = .ok ()) (hstages : plan.stages = Plan.namespacedStages)
    (hnamespace : ¬ (s.useIds && s.namespace.isEmpty) = true)
    (hasks : plan.body.Asks fun c => c.method ≠ .getLicence)
    (heval : plan.body.eval w.now w.cluster.inventory =
      Plan.shownAnswer view (w.cluster.inventory.perform w.now k))
    (hheeds : w.cluster.inventory.Heeds licence extra (w.cluster.inventory.perform w.now k)) :
    Outcome.Heeds licence extra w (c.run s ctx w) := by
  obtain ⟨child, u, hlive, hleads, hcalls, hchain⟩ := Stage.standard_enters h true hnamespace
  rw [run_of_plan plan hplan hcheck hstages ctx w, hchain]
  rw [← hleads.now, ← hleads.inventory] at heval hheeds
  have hcount : (plan.handler s child plan.args u).2.cluster.callCount .getLicence =
      w.cluster.callCount .getLicence := by
    rw [Plan.handler_callCount hasks plan.args hlive, Cluster.callCount, hcalls, List.count_append]
    rfl
  constructor
  case refused =>
    intro hexceeds
    rw [← hleads.inventory] at hexceeds
    obtain ⟨hresult, hinventory⟩ :=
      plan.handler_refused s plan.args hlive hleads.quiet heval hheeds hexceeds
    obtain ⟨-, -, hquiet, -, hcontexts⟩ := plan.handler_eval s plan.args hlive hleads.quiet
    obtain ⟨htold, hkept, hfetched⟩ := Stage.withExplanation_tells (Prod.ext hresult rfl)
      (by rw [hcontexts]; exact hlive) hquiet (by rw [hinventory, hleads.inventory, hlicence])
    refine ⟨htold, hkept.trans (hinventory.trans hleads.inventory), ?_⟩
    change (Stage.withExplanation (plan.handler s) child plan.args u).2.cluster.calls.count .getLicence = _
    rw [hfetched, List.count_append, ← hcount]
    rfl
  case unhindered =>
    intro hfits
    rw [← hleads.inventory] at hfits
    have hother : ∀ f, (plan.handler s child plan.args u).1 = .error f → ¬ f.TellsOfLicence :=
      fun _ => plan.handler_unhindered s plan.args hlive hleads.quiet heval hheeds hfits
    have hplain : ¬ Failure.IsLicence (plan.handler s child plan.args u).1 := by
      rintro ⟨reason, hreason⟩
      exact hother _ hreason trivial
    rw [Stage.withExplanation_of_not hplain]
    exact ⟨hother, hcount⟩

end

/-! ### The commands -/

theorem Plan.name_of_volumeSpecOf {name : String} {draft : VolumeDraft} {spec : VolumeSpec}
    (h : volumeSpecOf name draft = .ok spec) : spec.name = name := by
  obtain ⟨labels, -, h⟩ := bind_eq_ok h
  obtain ⟨sizeBytes, -, h⟩ := bind_eq_ok h
  cases h
  rfl

/-- A namespace that is picked for the settings is given by them. -/
theorem Settings.namespace_of_pickOne {s : Settings} {inv : Inventory} (hinv : inv.Identified) {n : Namespace}
    (h : pickOne s.useIds inv.namespaces s.namespace = .ok n) :
    ¬ (s.useIds && s.namespace.isEmpty) = true := by
  rw [Bool.and_eq_true, String.isEmpty_iff]
  rintro ⟨hids, hempty⟩
  have hfind := pickOne_eq_ok.1 h
  have hkey : n.id.text = s.namespace := by
    simpa [referenceKey, hids, Named.id] using List.find?_some hfind
  exact hinv.named n (List.mem_of_find?_eq_some hfind) (hkey.trans hempty)

section

variable {s : Settings} {ctx : Nat} {w : World Cluster} {licence : Licence} {n : Namespace}
  (hidentified : w.cluster.inventory.Identified) (haccepts : w.Accepts s ctx)
  (hwithin : Cluster.Within licence w.cluster) (hbounded : licence.clusterCapacityBytes ≠ unlimited)
  (hn : pickOne s.useIds w.cluster.inventory.namespaces s.namespace = .ok n)

include hidentified haccepts hwithin hbounded hn

theorem Command.createVolume_heeds {name : String} {draft : VolumeDraft} (isAsync : Bool) {spec : VolumeSpec}
    (hspec : Plan.volumeSpecOf name draft = .ok spec)
    (hfree : ∀ v ∈ w.cluster.inventory.volumesOf n.id, v.name ≠ name) :
    Outcome.Heeds licence spec.sizeBytes.toNat w (run s (.createVolume name draft isAsync) ctx w) := by
  have hplan : (createVolume name draft isAsync).plan s = .ok ⟨(createVolume name draft isAsync).name, [name],
      Plan.namespacedStages, .ok (), Plan.createVolume s spec isAsync⟩ := by
    rw [plan, hspec]
    rfl
  refine run_heeds haccepts hwithin.licensed hplan rfl rfl (Settings.namespace_of_pickOne hidentified hn)
    (Plan.asks_createVolume spec isAsync) (Plan.eval_createVolume hn spec isAsync) ?_
  rw [← Plan.name_of_volumeSpecOf hspec] at hfree
  exact Inventory.heeds_createVolume hwithin.licensed hwithin.room hbounded
    (List.mem_of_find?_eq_some (pickOne_eq_ok.1 hn)) hfree

theorem Command.resizeVolume_heeds {volume size : String} (cas : Option String) (isAsync : Bool) {v : Volume}
    (hv : pickOne s.useIds (w.cluster.inventory.volumesOf n.id) volume = .ok v) {sizeBytes : UInt64}
    (hsize : Plan.bytesOf size = .ok sizeBytes) (hlarger : v.sizeBytes < sizeBytes) :
    Outcome.Heeds licence (sizeBytes.toNat - v.sizeBytes.toNat) w
      (run s (.resizeVolume volume size cas isAsync) ctx w) := by
  have hcheck : (Plan.bytesOf size).map (fun _ => ()) = .ok () := by
    rw [hsize]
    rfl
  refine run_heeds haccepts hwithin.licensed rfl hcheck rfl (Settings.namespace_of_pickOne hidentified hn)
    (Plan.asks_resizeVolume volume size cas isAsync) (Plan.eval_resizeVolume hn hv hsize cas isAsync) ?_
  exact Inventory.heeds_resizeVolume hwithin.licensed hwithin.room hbounded
    (Inventory.volumeIn_of_pickOne hidentified.volumes hv) hlarger

end

/-- Errors of a licence are explained, at every cluster and for every handler: one fetch of the licence and only
for them, the error that tells the licence if there is an answer, and the error as it was otherwise. No fetch
from a cluster in memory or over the network comes to anything else. So at a cluster within its licence, with
nothing else in the way, a command that creates a volume under a free name or enlarges a volume is refused with
that licence told if the sum of all sizes would exceed it, and is not hindered by it otherwise. -/
theorem licence_limits_told :
    (∀ {σ : Type} [Cluster.Callable σ] (next : Handler (Observed σ)) (ctx : Nat) (args : List String)
      (w : World (Observed σ)), Stage.Explains next ctx args w) ∧
    (Cluster.FetchesLicence Cluster ∧
      ∀ (ν : Type) [Rest.Network ν], Cluster.FetchesLicence (Rest.Client ν)) ∧
    ∀ (s : Settings) (ctx : Nat) (w : World Cluster) (licence : Licence) (n : Namespace),
      w.cluster.Reachable → w.Accepts s ctx → Cluster.Within licence w.cluster →
      licence.clusterCapacityBytes ≠ unlimited →
      pickOne s.useIds w.cluster.inventory.namespaces s.namespace = .ok n →
      (∀ name draft isAsync spec, Plan.volumeSpecOf name draft = .ok spec →
        (∀ v ∈ w.cluster.inventory.volumesOf n.id, v.name ≠ name) →
        Outcome.Heeds licence spec.sizeBytes.toNat w
          (Command.run s (.createVolume name draft isAsync) ctx w)) ∧
      ∀ volume size cas isAsync v sizeBytes,
        pickOne s.useIds (w.cluster.inventory.volumesOf n.id) volume = .ok v →
        Plan.bytesOf size = .ok sizeBytes → v.sizeBytes < sizeBytes →
        Outcome.Heeds licence (sizeBytes.toNat - v.sizeBytes.toNat) w
          (Command.run s (.resizeVolume volume size cas isAsync) ctx w) := by
  refine ⟨Stage.explains, ⟨Cluster.fetchesLicence, Rest.Client.fetchesLicence⟩, ?_⟩
  intro s ctx w licence n hreachable haccepts hwithin hbounded hn
  have hidentified := hreachable.sound.identified
  constructor
  · intro name draft isAsync spec hspec hfree
    exact Command.createVolume_heeds hidentified haccepts hwithin hbounded hn isAsync hspec hfree
  · intro volume size cas isAsync v sizeBytes hv hsize hlarger
    exact Command.resizeVolume_heeds hidentified haccepts hwithin hbounded hn cas isAsync hv hsize hlarger

/-- A world whose cluster has a volume that takes all that its basic licence is for. -/
def Command.fullWorld : World Cluster := ⟨.epoch, .start, Cluster.fullyUsed 1024, .withLimit none, []⟩

open Command in
/-- Nothing more is created or enlarged there: a basic licence is told, with the hint to upgrade it. -/
theorem licence_limits_told_full :
    let told : Except Failure Unit := .error (.command (.licenceLimit
      "provisioned capacity would exceed the licensed 1024 bytes"
      "Current licence: basic (cluster cluster-1), 0 B of 1.00 KiB used, expires 1971-01-01T00:00:00Z"
      Licence.upgradeHint))
    (run knownUser (.createVolume "more" ⟨"1KiB", none, "", "ext4", []⟩ false) 0 fullWorld).1 = told ∧
      (run knownUser (.resizeVolume "full" "2KiB" (some "v-0") true) 0 fullWorld).1 = told := by
  have hlicence : fullWorld.cluster.inventory.licence = some _ := rfl
  have haccepts : fullWorld.Accepts knownUser 0 :=
    ⟨rfl, rfl, by decide +kernel, ⟨"admin", "secret"⟩, by decide +kernel, rfl, rfl⟩
  have hwithin : Cluster.Within _ fullWorld.cluster := ⟨hlicence, by decide +kernel⟩
  have hn : pickOne knownUser.useIds fullWorld.cluster.inventory.namespaces knownUser.namespace =
      .ok (⟨⟨"ns-1"⟩, "default", .empty, .epoch, .epoch, ⟨"v-2"⟩⟩ : Namespace) := by decide +kernel
  have hspec : Plan.volumeSpecOf "more" ⟨"1KiB", none, "", "ext4", []⟩ =
      .ok ⟨"more", "", 1024, "ext4", .empty⟩ := by decide +kernel
  have hsize : Plan.bytesOf "2KiB" = .ok 2048 := by decide +kernel
  obtain ⟨hcreate, hresize⟩ :=
    licence_limits_told.2.2 knownUser 0 fullWorld _ _ ⟨_, _, _, rfl⟩ haccepts hwithin (by decide) hn
  constructor
  · have hheeds := hcreate "more" _ false _ hspec (by decide +kernel)
    exact (hheeds.refused (by decide +kernel)).result.trans (by decide +kernel)
  · obtain ⟨v, hv, hbytes⟩ : ∃ v, pickOne knownUser.useIds
        (fullWorld.cluster.inventory.volumesOf ⟨"ns-1"⟩) "full" = .ok v ∧ v.sizeBytes = 1024 := ⟨_, rfl, rfl⟩
    have hheeds := hresize "full" "2KiB" (some "v-0") true v 2048 hv hsize (by rw [hbytes]; decide)
    rw [hbytes] at hheeds
    exact (hheeds.refused (by decide +kernel)).result.trans (by decide +kernel)

end BlockStorage
