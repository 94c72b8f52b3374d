import BlockStorage.Proofs.Cluster.History
import BlockStorage.Proofs.Command.Rejection
import BlockStorage.Proofs.Command.Resolution

/-!
Two ways to select resources.

A listing is fetched at once and then picked from, or its references are looked up and fetched one by one.
Both come to the same selection: the resources that are referred to, in the order of the references, or
the error of the first reference that nothing has.
-/

namespace BlockStorage

open Output

/-! ### Selections -/

/-- A reference is the first one of some that no item has. -/
def FirstMissing {α : Type} [Named α] (useIds : Bool) (items : List α) (references : List String)
    (reference : String) : Prop :=
  ∃ earlier later, references = earlier ++ reference :: later ∧
    (∀ r ∈ earlier, ∃ item ∈ items, referenceKey useIds item = r) ∧
    ∀ item ∈ items, referenceKey useIds item ≠ reference

theorem pickEach_eq_error {α : Type} [Named α] {useIds : Bool} {items : List α}
    {references : List String} {e : ClientError} :
    pickEach useIds items references = .error e ↔
      ∃ reference, FirstMissing useIds items references reference ∧
        e = .notFound (Named.kind α) reference := by
  constructor
  · intro h
    induction references with
    | nil => cases h
    | cons reference references ih =>
      rw [pickEach] at h
      cases hone : pickOne useIds items reference with
      | error e' =>
        rw [hone] at h
        obtain rfl : e' = e := Except.error.inj h
        obtain ⟨hnone, he⟩ := pickOne_eq_error.1 hone
        exact ⟨reference, ⟨[], references, rfl, by simp, hnone⟩, he⟩
      | ok item =>
        rw [hone] at h
        cases hrest : pickEach useIds items references with
        | ok rest =>
          rw [hrest] at h
          cases h
        | error e' =>
          rw [hrest] at h
          obtain rfl : e' = e := Except.error.inj h
          obtain ⟨missing, ⟨earlier, later, hsplit, hearlier, hnone⟩, he⟩ := ih hrest
          refine ⟨missing, ⟨reference :: earlier, later, by rw [hsplit]; rfl, ?_, hnone⟩, he⟩
          have hfind := pickOne_eq_ok.1 hone
          refine List.forall_mem_cons.2 ⟨⟨item, List.mem_of_find?_eq_some hfind, ?_⟩, hearlier⟩
          simpa using List.find?_some hfind
  · rintro ⟨reference, ⟨earlier, later, rfl, hearlier, hnone⟩, rfl⟩
    induction earlier with
    | nil =>
      rw [List.nil_append, pickEach, pickOne_eq_error.2 ⟨hnone, rfl⟩]
      rfl
    | cons first earlier ih =>
      obtain ⟨⟨item, hitem, hkey⟩, hearlier⟩ := List.forall_mem_cons.1 hearlier
      cases hone : pickOne useIds items first with
      | error e => exact absurd hkey ((pickOne_eq_error.1 hone).1 item hitem)
      | ok _ =>
        rw [List.cons_append, pickEach, hone]
        exact congrArg (Except.map _) (ih hearlier)

theorem pick_eq_error {α : Type} [Named α] {useIds : Bool} {items : List α}
    {references : List String} {e : ClientError} :
    pick useIds references items = .error e ↔
      ∃ reference, FirstMissing useIds items references reference ∧
        e = .notFound (Named.kind α) reference := by
  rw [pick]
  split
  next hempty =>
    simp only [reduceCtorEq, false_iff, not_exists, not_and]
    rintro reference ⟨earlier, later, rfl, _⟩
    simp at hempty
  next => exact pickEach_eq_error

/-- The items that are referred to and meet the selectors. -/
def selection {α : Type} [Named α] [Labelled α] (s : Settings) (names : List String)
    (selectors : SelectorSet) (items : List α) : Except Failure (List α) :=
  (Failure.lift (pick s.useIds names items)).map (filterSelected selectors)

/-- The volumes of the namespace of the settings that are referred to and meet the selectors. -/
def Inventory.selectedVolumes (inv : Inventory) (s : Settings) (names : List String)
    (selectors : SelectorSet) : Except Failure (List Volume) :=
  (resolved s inv.namespaces Namespace.id s.namespace).bind fun ns =>
    selection s names selectors (inv.volumesOf ns)

/-- A selection fails at the first reference that nothing has. -/
theorem selection_eq_error {α : Type} [Named α] [Labelled α] {s : Settings} {names : List String}
    {selectors : SelectorSet} {items : List α} {f : Failure} :
    selection s names selectors items = .error f ↔
      ∃ reference, FirstMissing s.useIds items names reference ∧
        f = .client (.notFound (Named.kind α) reference) := by
  rw [selection]
  cases hpick : pick s.useIds names items with
  | ok picked =>
    simp only [Failure.lift_ok, Except.map, reduceCtorEq, false_iff]
    rintro ⟨reference, hmissing, -⟩
    rw [pick_eq_error.2 ⟨reference, hmissing, rfl⟩] at hpick
    cases hpick
  | error e =>
    obtain ⟨missing, hmissing, rfl⟩ := pick_eq_error.1 hpick
    simp only [Failure.lift_error, Except.map, Except.error.injEq]
    constructor
    · rintro rfl
      exact ⟨missing, hmissing, rfl⟩
    · rintro ⟨reference, hreference, rfl⟩
      rw [pick_eq_error.2 ⟨reference, hreference, rfl⟩] at hpick
      rw [Except.error.inj hpick]

/-- What a listing of nodes lacks: the first reference that no node has. -/
def Inventory.LacksNode (inv : Inventory) (s : Settings) (names : List String)
    (kind : ResourceKind) (reference : String) : Prop :=
  kind = .node ∧ FirstMissing s.useIds inv.nodes names reference

/-- What a listing of volumes lacks: the namespace that is configured by its name, or the first reference
that no volume of the namespace has. -/
def Inventory.LacksVolume (inv : Inventory) (s : Settings) (names : List String)
    (kind : ResourceKind) (reference : String) : Prop :=
  (kind = .namespace ∧ reference = s.namespace ∧ s.useIds = false ∧
    ∀ ns ∈ inv.namespaces, ns.name ≠ reference) ∨
  (kind = .volume ∧ ∃ ns, resolved s inv.namespaces Namespace.id s.namespace = .ok ns ∧
    FirstMissing s.useIds (inv.volumesOf ns) names reference)

theorem Inventory.selectedNodes_eq_error {inv : Inventory} {s : Settings} {names : List String}
    {selectors : SelectorSet} {f : Failure} :
    selection s names selectors inv.nodes = .error f ↔
      ∃ kind reference, inv.LacksNode s names kind reference ∧
        f = .client (.notFound kind reference) := by
  rw [selection_eq_error]
  constructor
  · rintro ⟨reference, hmissing, rfl⟩
    exact ⟨.node, reference, ⟨rfl, hmissing⟩, rfl⟩
  · rintro ⟨_, reference, ⟨rfl, hmissing⟩, rfl⟩
    exact ⟨reference, hmissing, rfl⟩

theorem Inventory.selectedVolumes_eq_error {inv : Inventory} {s : Settings} {names : List String}
    {selectors : SelectorSet} {f : Failure} :
    inv.selectedVolumes s names selectors = .error f ↔
      ∃ kind reference, inv.LacksVolume s names kind reference ∧
        f = .client (.notFound kind reference) := by
  rw [selectedVolumes]
  cases hns : resolved s inv.namespaces Namespace.id s.namespace with
  | error f' =>
    obtain ⟨hnames, hnone, rfl⟩ := resolved_eq_error.1 hns
    simp only [Except.bind, Except.error.injEq]
    constructor
    · rintro rfl
      exact ⟨.namespace, s.namespace, .inl ⟨rfl, rfl, hnames, hnone⟩, rfl⟩
    · rintro ⟨kind, reference, ⟨rfl, rfl, -⟩ | ⟨-, ns, hok, -⟩, rfl⟩
      · rfl
      · rw [hns] at hok
        cases hok
  | ok ns =>
    simp only [Except.bind]
    rw [selection_eq_error]
    constructor
    · rintro ⟨reference, hmissing, rfl⟩
      exact ⟨.volume, reference, .inr ⟨rfl, ns, hns, hmissing⟩, rfl⟩
    · rintro ⟨kind, reference, ⟨-, rfl, hnames, hnone⟩ | ⟨rfl, ns', hok, hmissing⟩, rfl⟩
      · rw [resolved_eq_error.2 ⟨hnames, hnone, rfl⟩] at hns
        cases hns
      · obtain rfl := Except.ok.inj (hns.symm.trans hok)
        exact ⟨reference, hmissing, rfl⟩

/-! ### Programs -/

namespace Plan

variable {s : Settings} {now : Timestamp} {inv : Inventory}

theorem eval_chosen {α : Type} [Named α] [Labelled α] (names : List String)
    (selectors : SelectorSet) (items : List α) :
    (chosen s names selectors items).eval now inv = (selection s names selectors items, inv) := by
  rw [chosen, Program.eval_bind, selection]
  cases pick s.useIds names items <;> rfl

theorem eval_getNamespaces (names : List String) (selectors : SelectorSet) :
    (getNamespaces s names selectors).eval now inv =
      ((selection s names selectors inv.namespaces).map .namespaces, inv) := by
  rw [getNamespaces, Program.eval_bind, eval_reading .listNamespaces (.ok inv.namespaces) rfl]
  dsimp only [Failure.lift_ok]
  rw [Program.eval_bind, eval_chosen]
  cases selection s names selectors inv.namespaces <;> rfl

theorem eval_getVolumes (names : List String) (selectors : SelectorSet) :
    (getVolumes s names selectors).eval now inv =
      ((inv.selectedVolumes s names selectors).map .volumes, inv) := by
  rw [getVolumes, Program.eval_bind, Lookup.configured, eval_namespaceId, Inventory.selectedVolumes]
  cases resolved s inv.namespaces Namespace.id s.namespace with
  | error e => rfl
  | ok ns =>
    dsimp only
    rw [Program.eval_bind, eval_reading (.listVolumes ns) (.ok (inv.volumesOf ns)) rfl]
    dsimp only [Failure.lift_ok]
    rw [Program.eval_bind, eval_chosen]
    simp only [Except.bind]
    cases selection s names selectors (inv.volumesOf ns) <;> rfl

theorem eval_fetchVolume (hids : inv.Identified) (ns : NamespaceId) (reference : String) :
    (Lookup.volumeId s ns reference >>= fun id => Program.ask (.getVolume ns id)).eval now inv =
      (Failure.lift (pickOne s.useIds (inv.volumesOf ns) reference), inv) := by
  have hvolumes : ((inv.volumesOf ns).map Volume.id).Nodup := Inventory.nodup_map_filter hids.volumes
  refine eval_fetchOne (fun _ => rfl) hvolumes (fun _ => eval_volumeId)
    (fun id => eval_reading (.getVolume ns id) _ ?_) reference
  rw [← inv.volumeIn_eq_pickOne]
  rfl

theorem eval_describeVolumes (hids : inv.Identified) (names : List String) (selectors : SelectorSet) :
    (describeVolumes s names selectors).eval now inv =
      ((inv.selectedVolumes s names selectors).map .describeVolumes, inv) := by
  rw [describeVolumes, Program.eval_bind, Lookup.configured, eval_namespaceId,
    Inventory.selectedVolumes]
  cases resolved s inv.namespaces Namespace.id s.namespace with
  | error e => rfl
  | ok ns =>
    dsimp only
    rw [eval_listOrFetch (eval_reading (.listVolumes ns) (.ok (inv.volumesOf ns)) rfl)
      (eval_fetchVolume hids ns)]
    simp only [Except.bind, selection]
    cases pick s.useIds names (inv.volumesOf ns) <;> rfl

theorem eval_getNodes (names : List String) (selectors : SelectorSet) :
    (getNodes s names selectors).eval now inv =
      ((selection s names selectors inv.nodes).map .nodes, inv) := by
  rw [getNodes, Program.eval_bind, eval_reading .listNodes (.ok inv.nodes) rfl]
  dsimp only [Failure.lift_ok]
  rw [Program.eval_bind, eval_chosen]
  cases selection s names selectors inv.nodes <;> rfl

theorem eval_fetchNode (hids : inv.Identified) (reference : String) :
    (Lookup.nodeId s reference >>= fun id => Program.ask (.getNode id)).eval now inv =
      (Failure.lift (pickOne s.useIds inv.nodes reference), inv) := by
  refine eval_fetchOne (fun _ => rfl) hids.nodes (fun _ => eval_nodeId)
    (fun id => eval_reading (.getNode id) _ ?_) reference
  rw [← Inventory.findOr_id_eq_pickOne fun _ => rfl]
  rfl

theorem eval_fetchUser (hids : inv.Identified) (reference : String) :
    (Lookup.userId s reference >>= fun id => Program.ask (.getUser id)).eval now inv =
      (Failure.lift (pickOne s.useIds inv.users reference), inv) := by
  refine eval_fetchOne (fun _ => rfl) hids.users (fun _ => eval_userId)
    (fun id => eval_reading (.getUser id) _ ?_) reference
  rw [← Inventory.findOr_id_eq_pickOne fun _ => rfl]
  rfl

theorem eval_fetchPolicyGroup (hids : inv.Identified) (reference : String) :
    (Lookup.policyGroupId s reference >>= fun id => Program.ask (.getPolicyGroup id)).eval now inv =
      (Failure.lift (pickOne s.useIds inv.policyGroups reference), inv) := by
  refine eval_fetchOne (fun _ => rfl) hids.policyGroups (fun _ => eval_policyGroupId)
    (fun id => eval_reading (.getPolicyGroup id) _ ?_) reference
  rw [← Inventory.findOr_id_eq_pickOne fun _ => rfl]
  rfl

theorem eval_describeNodes (hids : inv.Identified) (names : List String) (selectors : SelectorSet) :
    (describeNodes s names selectors).eval now inv =
      ((selection s names selectors inv.nodes).map .describeNodes, inv) := by
  rw [describeNodes, eval_listOrFetch (eval_reading .listNodes (.ok inv.nodes) rfl)
    (eval_fetchNode hids), selection]
  cases pick s.useIds names inv.nodes <;> rfl

theorem eval_getUsers (hids : inv.Identified) (names : List String) :
    (getUsers s names).eval now inv =
      ((Failure.lift (pick s.useIds names inv.users)).map .users, inv) := by
  rw [getUsers, eval_listOrFetch (eval_reading .listUsers (.ok inv.users) rfl) (eval_fetchUser hids)]
  cases pick s.useIds names inv.users <;> rfl

theorem eval_getPolicyGroups (hids : inv.Identified) (names : List String) :
    (getPolicyGroups s names).eval now inv =
      ((Failure.lift (pick s.useIds names inv.policyGroups)).map .policyGroups, inv) := by
  rw [getPolicyGroups, eval_listOrFetch (eval_reading .listPolicyGroups (.ok inv.policyGroups) rfl)
    (eval_fetchPolicyGroup hids)]
  cases pick s.useIds names inv.policyGroups <;> rfl

end Plan

/-! ### Selectors -/

theorem SelectorSet.parseParts_ne_nil {parts : List (List Char)} {selectors : List Selector}
    (h : parseParts parts = .ok selectors) (hparts : parts ≠ []) : selectors ≠ [] := by
  cases parts with
  | nil => exact absurd rfl hparts
  | cons part parts =>
    rw [parseParts] at h
    obtain ⟨selector, -, h⟩ := bind_eq_ok h
    obtain ⟨rest, -, h⟩ := bind_eq_ok h
    cases h
    simp

/-- A listing that has names or selectors is more than one of everything. -/
theorem Plan.targeted_of_selectorsOf {listing : Listing} {selectors : SelectorSet}
    (h : selectorsOf listing = .ok selectors) (hlisting : listing.names ≠ [] ∨ listing.selectors ≠ []) :
    Stage.Targeted (some selectors) listing.names := by
  intro _ heq
  obtain rfl := Option.some.inj heq
  rw [Bool.and_eq_true, List.isEmpty_iff, SelectorSet.isEmpty, List.isEmpty_iff]
  rintro ⟨hnames, hselectors⟩
  obtain hexprs := hlisting.resolve_left (not_not_intro hnames)
  rw [selectorsOf, SelectorSet.parse] at h
  cases hparts : SelectorSet.parseParts (listing.selectors.flatMap fun expr =>
      Text.splitAt ',' expr.toList) with
  | error e =>
    rw [hparts] at h
    cases h
  | ok read =>
    rw [hparts] at h
    cases h
    obtain ⟨expr, rest, hcons⟩ := List.exists_cons_of_ne_nil hexprs
    refine SelectorSet.parseParts_ne_nil hparts ?_ hselectors
    rw [hcons, List.flatMap_cons]
    simp [Text.splitAt_ne_nil]

/-! ### Runs -/

/-- A view for listings and one for descriptions are written from one document outside the text form. -/
theorem World.shown_document {α : Type} {view view' : List α → View}
    (hdocument : ∀ items, (view items).document = (view' items).document) {s : Settings}
    (hformat : s.outputFormat = .ok .json ∨ s.outputFormat = .ok .yaml) (u : World Cluster)
    (r : Except Failure (List α)) : u.shown s (r.map view) = u.shown s (r.map view') := by
  cases r with
  | error failure => rfl
  | ok items =>
    have hdisplay : u.display s (view items) = u.display s (view' items) := by
      rcases hformat with hformat | hformat <;>
        simp only [display, hformat, View.pieces, hdocument items]
    simp only [Except.map, shown, hdisplay]

namespace Command

variable {s : Settings} {ctx : Nat} {w : World Cluster}

/-- What a command with selectors is read as. -/
def listingPlan (c : Command) (listing : Listing) (isNamespaced : Bool)
    (targets : SelectorSet → Option SelectorSet) (body : SelectorSet → Program View) :
    Except CommandError Plan :=
  (Plan.selectorsOf listing).map fun selectors =>
    ⟨c.name, listing.names, Stage.standard isNamespaced (targets selectors), .ok (), body selectors⟩

theorem run_listing {c : Command} {listing : Listing} {isNamespaced : Bool}
    {targets : SelectorSet → Option SelectorSet} {body : SelectorSet → Program View}
    (hplan : c.plan s = c.listingPlan listing isNamespaced targets body) {selectors : SelectorSet}
    (h : Plan.selectorsOf listing = .ok selectors) :
    c.run s ctx w =
      chain ((Stage.standard isNamespaced (targets selectors)).map (Stage.middleware s))
        (Plan.handler s ⟨c.name, listing.names, Stage.standard isNamespaced (targets selectors),
          .ok (), body selectors⟩) ctx listing.names w := by
  rw [listingPlan, h] at hplan
  exact run_of_plan _ hplan rfl rfl ctx w

theorem run_listing_error {c : Command} {listing : Listing} {isNamespaced : Bool}
    {targets : SelectorSet → Option SelectorSet} {body : SelectorSet → Program View}
    (hplan : c.plan s = c.listingPlan listing isNamespaced targets body) {e : CommandError}
    (h : Plan.selectorsOf listing = .error e) : c.run s ctx w = (.error (.command e), w) := by
  rw [listingPlan, h] at hplan
  rw [run, hplan]
  rfl

theorem plan_getVolumes (s : Settings) (listing : Listing) :
    (getVolumes listing).plan s = (getVolumes listing).listingPlan listing true (fun _ => none)
      (Plan.getVolumes s listing.names) := by
  rw [plan, listingPlan]
  cases Plan.selectorsOf listing <;> rfl

theorem plan_getNodes (s : Settings) (listing : Listing) :
    (getNodes listing).plan s = (getNodes listing).listingPlan listing false (fun _ => none)
      (Plan.getNodes s listing.names) := by
  rw [plan, listingPlan]
  cases Plan.selectorsOf listing <;> rfl

theorem plan_describeVolumes (s : Settings) (listing : Listing) :
    (describeVolumes listing).plan s = (describeVolumes listing).listingPlan listing true some
      (Plan.describeVolumes s listing.names) := by
  rw [plan, listingPlan]
  cases Plan.selectorsOf listing <;> rfl

theorem plan_describeNodes (s : Settings) (listing : Listing) :
    (describeNodes listing).plan s = (describeNodes listing).listingPlan listing false some
      (Plan.describeNodes s listing.names) := by
  rw [plan, listingPlan]
  cases Plan.selectorsOf listing <;> rfl

/-- A description and a listing are alike if their programs make the same selection. -/
theorem described_alike {α : Type} {c c' : Command} {listing : Listing} {isNamespaced : Bool}
    {body body' : SelectorSet → Program View} {view view' : List α → View}
    {selected : SelectorSet → Except Failure (List α)} (hquiet : w.IsQuiet)
    (hformat : s.outputFormat = .ok .json ∨ s.outputFormat = .ok .yaml)
    (hlisting : listing.names ≠ [] ∨ listing.selectors ≠ [])
    (hplan : c.plan s = c.listingPlan listing isNamespaced some body)
    (hplan' : c'.plan s = c'.listingPlan listing isNamespaced (fun _ => none) body')
    (heval : ∀ selectors, (body selectors).eval w.now w.cluster.inventory =
      ((selected selectors).map view, w.cluster.inventory))
    (heval' : ∀ selectors, (body' selectors).eval w.now w.cluster.inventory =
      ((selected selectors).map view', w.cluster.inventory))
    (hdocument : ∀ items, (view items).document = (view' items).document) :
    Outcome.Alike (c.run s ctx w) (c'.run s ctx w) := by
  cases h : Plan.selectorsOf listing with
  | error e =>
    rw [run_listing_error hplan h, run_listing_error hplan' h]
    exact ⟨rfl, rfl⟩
  | ok selectors =>
    rw [run_listing hplan h, run_listing hplan' h]
    exact Stage.alike_of_eval hquiet (Plan.targeted_of_selectorsOf h hlisting)
      (Stage.targeted_none _) (heval selectors) (heval' selectors)
      (World.shown_document hdocument hformat · _)

/-- A run tells what is missing: it fails for a missing resource only if that one is lacked, and does so
if the stages let it reach its handler. -/
structure Misses (s : Settings) (isNamespaced : Bool) (ctx : Nat) (w : World Cluster)
    (lacks : ResourceKind → String → Prop) (o : Outcome Cluster Unit) : Prop where
  lacked : ∀ kind reference, o.1 = .error (.client (.notFound kind reference)) → lacks kind reference
  told : Stage.Admits s isNamespaced ctx w → ∀ kind reference, lacks kind reference →
    o.1 = .error (.client (.notFound kind reference))

/-- A listing tells what is missing if its selection fails because of that alone. -/
theorem listing_misses {α : Type} {c : Command} {listing : Listing} {isNamespaced : Bool}
    {body : SelectorSet → Program View} {view : List α → View} {selected : Except Failure (List α)}
    {lacks : ResourceKind → String → Prop} {selectors : SelectorSet} (hquiet : w.IsQuiet)
    (hselectors : Plan.selectorsOf listing = .ok selectors)
    (hplan : c.plan s = c.listingPlan listing isNamespaced (fun _ => none) body)
    (heval : (body selectors).eval w.now w.cluster.inventory =
      (selected.map view, w.cluster.inventory))
    (hlacks : ∀ f, selected = .error f ↔
      ∃ kind reference, lacks kind reference ∧ f = .client (.notFound kind reference)) :
    Misses s isNamespaced ctx w lacks (c.run s ctx w) := by
  have hfailed : ∀ f, selected.map view = .error f → selected = .error f := by
    intro f hf
    cases selected with
    | ok items => cases hf
    | error f' => exact congrArg Except.error (Except.error.inj hf)
  have hshows : Stage.Shows s isNamespaced ctx w (selected.map view) (c.run s ctx w) := by
    rw [run_listing hplan hselectors]
    refine Stage.shows_of_eval hquiet (Stage.targeted_none _) heval fun reason hlicence => ?_
    obtain ⟨_, _, _, hf⟩ := (hlacks _).1 (hfailed _ hlicence)
    cases hf
  refine ⟨fun kind reference h => ?_, fun hadmits kind reference hmissing => ?_⟩
  -- the error is none of the output's, and none of a run that was turned away
  · by_cases hadmits : Stage.Admits s isNamespaced ctx w
    · have hresult := congrArg Prod.fst (hshows.admitted hadmits)
      rcases World.shown_error (hresult.symm.trans h) with hselected | ⟨e, he, hkind | hkind⟩
      · obtain ⟨_, _, hmissing, hf⟩ := (hlacks _).1 (hfailed _ hselected)
        cases hf
        exact hmissing
      · cases he
        cases hkind
      · cases he
        cases hkind
    · obtain ⟨f, hfound, hf⟩ := hshows.turnedAway hadmits
      exact absurd (Except.error.inj (hf.symm.trans h)) (hfound kind reference)
  · refine (congrArg Prod.fst (hshows.admitted hadmits)).trans ?_
    rw [(hlacks _).2 ⟨kind, reference, hmissing, rfl⟩]
    rfl

/-- Every error of picking is that of a missing resource, and none of the licence. -/
theorem picked_ne_licence {α : Type} [Named α] {useIds : Bool} {names : List String} {items : List α}
    {view : List α → View} (reason : String) :
    (Failure.lift (pick useIds names items)).map view ≠
      .error (.client (.licenceCapability reason)) := by
  intro hlicence
  cases hpick : pick useIds names items with
  | ok picked =>
    rw [hpick] at hlicence
    cases hlicence
  | error e =>
    obtain ⟨_, _, rfl⟩ := pick_eq_error.1 hpick
    rw [hpick] at hlicence
    cases hlicence

/-- Both ways of selecting agree. Volumes, or nodes, that are looked up and fetched one by one are written
as those that are picked out of the listing, in every form of output but text; a missing resource is told
exactly if it is the namespace or the first reference that nothing has. Users, and policy groups, that are
looked up and fetched one by one are shown as those that are picked out of the listing. -/
theorem selections_agree (s : Settings) (ctx : Nat) {w : World Cluster}
    (hreachable : w.cluster.Reachable) (hquiet : w.IsQuiet) :
    (∀ listing : Listing, listing.names ≠ [] ∨ listing.selectors ≠ [] →
      (s.outputFormat = .ok .json ∨ s.outputFormat = .ok .yaml) →
      Outcome.Alike (run s (.describeVolumes listing) ctx w) (run s (.getVolumes listing) ctx w) ∧
      Outcome.Alike (run s (.describeNodes listing) ctx w) (run s (.getNodes listing) ctx w)) ∧
    (∀ (listing : Listing) selectors, Plan.selectorsOf listing = .ok selectors →
      Misses s true ctx w (w.cluster.inventory.LacksVolume s listing.names)
        (run s (.getVolumes listing) ctx w) ∧
      Misses s false ctx w (w.cluster.inventory.LacksNode s listing.names)
        (run s (.getNodes listing) ctx w)) ∧
    ∀ names : List String,
      Stage.Shows s false ctx w
        ((Failure.lift (pick s.useIds names w.cluster.inventory.users)).map .users)
        (run s (.getUsers names) ctx w) ∧
      Stage.Shows s false ctx w
        ((Failure.lift (pick s.useIds names w.cluster.inventory.policyGroups)).map .policyGroups)
        (run s (.getPolicyGroups names) ctx w) := by
  have hids := hreachable.sound.identified
  refine ⟨fun listing hlisting hformat => ⟨?_, ?_⟩, fun listing selectors hselectors => ⟨?_, ?_⟩,
    fun names => ⟨?_, ?_⟩⟩
  · exact described_alike hquiet hformat hlisting (plan_describeVolumes s listing)
      (plan_getVolumes s listing) (Plan.eval_describeVolumes hids listing.names)
      (Plan.eval_getVolumes listing.names) (fun _ => rfl)
  · exact described_alike hquiet hformat hlisting (plan_describeNodes s listing)
      (plan_getNodes s listing) (Plan.eval_describeNodes hids listing.names)
      (Plan.eval_getNodes listing.names) (fun _ => rfl)
  · exact listing_misses hquiet hselectors (plan_getVolumes s listing)
      (Plan.eval_getVolumes listing.names selectors) fun _ => Inventory.selectedVolumes_eq_error
  · exact listing_misses hquiet hselectors (plan_getNodes s listing)
      (Plan.eval_getNodes listing.names selectors) fun _ => Inventory.selectedNodes_eq_error
  · rw [run_of_plan ⟨_, names, Plan.clusterStages, .ok (), Plan.getUsers s names⟩ rfl rfl rfl ctx w]
    exact Stage.shows_of_eval hquiet (Stage.targeted_none _) (Plan.eval_getUsers hids names)
      picked_ne_licence
  · rw [run_of_plan ⟨_, names, Plan.clusterStages, .ok (), Plan.getPolicyGroups s names⟩ rfl rfl rfl
      ctx w]
    exact Stage.shows_of_eval hquiet (Stage.targeted_none _) (Plan.eval_getPolicyGroups hids names)
      picked_ne_licence

theorem reachable_oneVolumeWorld : oneVolumeWorld.cluster.Reachable :=
  ⟨"admin", "secret", [⟨.epoch, .addNamespace "default"⟩,
    ⟨.epoch, .addVolume ⟨"ns-1"⟩ "data" 1024 .empty⟩], rfl⟩

/-- The one volume is described as it is listed; next to it a second reference is the missing one. -/
theorem selections_agree_data :
    Outcome.Alike
        (run (knownUser.withOutput (some "json")) (.describeVolumes ⟨["data"], []⟩) 0 oneVolumeWorld)
        (run (knownUser.withOutput (some "json")) (.getVolumes ⟨["data"], []⟩) 0 oneVolumeWorld) ∧
      (run knownUser (.getVolumes ⟨["data", "lost"], []⟩) 0 oneVolumeWorld).1 =
        .error (.client (.notFound .volume "lost")) := by
  have hadmits : Stage.Admits knownUser true 0 oneVolumeWorld := by
    rw [Stage.Admits]
    decide +kernel
  have hns : resolved knownUser oneVolumeWorld.cluster.inventory.namespaces Namespace.id
      knownUser.namespace = .ok ⟨"ns-1"⟩ := by
    decide +kernel
  have hmissing : FirstMissing knownUser.useIds (oneVolumeWorld.cluster.inventory.volumesOf ⟨"ns-1"⟩)
      ["data", "lost"] "lost" := by
    refine ⟨["data"], [], rfl, ?_, ?_⟩ <;> decide +kernel
  have hformat : (knownUser.withOutput (some "json")).outputFormat = .ok .json := by
    decide +kernel
  have hjson := selections_agree (knownUser.withOutput (some "json")) 0 reachable_oneVolumeWorld rfl
  have htext := selections_agree knownUser 0 reachable_oneVolumeWorld rfl
  refine ⟨(hjson.1 ⟨["data"], []⟩ (.inl (by decide)) (.inl hformat)).1, ?_⟩
  exact (htext.2.1 ⟨["data", "lost"], []⟩ ⟨[]⟩ rfl).1.told hadmits .volume "lost"
    (.inr ⟨rfl, ⟨"ns-1"⟩, hns, hmissing⟩)

end Command

end BlockStorage
