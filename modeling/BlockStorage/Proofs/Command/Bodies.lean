import BlockStorage.Command.Plan
import BlockStorage.Proofs.Run.Phases

/-!
What each command looks up and changes, and that its program does so in phases.

What a command looks up by name and which call changes something for it are told here on its words
alone. The program of each command goes through its phases accordingly, whatever it is answered.
-/

namespace BlockStorage

namespace Settings

/-- What is looked up of references: nothing, if they are identifiers. -/
def wanted (s : Settings) (refs : List (ResourceKind × String)) : List (ResourceKind × String) :=
  if s.useIds then [] else refs

theorem wanted_append (s : Settings) (refs refs' : List (ResourceKind × String)) :
    s.wanted (refs ++ refs') = s.wanted refs ++ s.wanted refs' := by
  rw [wanted, wanted, wanted]
  split <;> rfl

end Settings

namespace Command

/-- Whether the command is about resources of the namespace of the settings. -/
def isNamespaced : Command → Bool
  | .getVolumes _ => true
  | .describeVolumes _ => true
  | .createVolume .. => true
  | .resizeVolume .. => true
  | .setReplicas .. => true
  | .updateExports .. => true
  | .setDescription .. => true
  | .deleteVolume .. => true
  | .attach .. => true
  | .detach .. => true
  | _ => false

/-- The references that the command resolves one by one. The other listings pick resources out of all
that there are. -/
def references : Command → List (ResourceKind × String)
  | .getUsers names => names.map fun name => (.user, name)
  | .getPolicyGroups names => names.map fun name => (.policyGroup, name)
  | .describeVolumes listing => listing.names.map fun name => (.volume, name)
  | .describeNodes listing => listing.names.map fun name => (.node, name)
  | .resizeVolume volume .. => [(.volume, volume)]
  | .setReplicas volume .. => [(.volume, volume)]
  | .updateExports volume .. => [(.volume, volume)]
  | .setDescription volume .. => [(.volume, volume)]
  | .deleteVolume volume .. => [(.volume, volume)]
  | .deleteNamespace ns _ => [(.namespace, ns)]
  | .attach volume node .. => [(.volume, volume), (.node, node)]
  | .detach volume .. => [(.volume, volume)]
  | .cordon node _ => [(.node, node)]
  | .uncordon node _ => [(.node, node)]
  | _ => []

/-- What the command looks up by name: its namespace, if it has one, and then its references. -/
def lookups (s : Settings) (c : Command) : List (ResourceKind × String) :=
  s.wanted ((if c.isNamespaced then [(.namespace, s.namespace)] else []) ++ c.references)

/-- The listing of a command that refuses to list everything. -/
def described? : Command → Option Listing
  | .describeVolumes listing => some listing
  | .describeNodes listing => some listing
  | _ => none

/-- Whether the command only shows something. -/
def isShowing : Command → Bool
  | .getNamespaces _ => true
  | .getVolumes _ => true
  | .getNodes _ => true
  | .getUsers _ => true
  | .getPolicyGroups _ => true
  | .getLicence => true
  | .describeVolumes _ => true
  | .describeNodes _ => true
  | _ => false

/-- The calls that change what the command is to change, with its literals and its parameters. -/
def Changes (s : Settings) : Command → Call → Prop
  | .createNamespace name labels, c =>
    ∃ read, Plan.labelsOf labels = .ok read ∧ c = .createNamespace name read
  | .createVolume name draft isAsync, c =>
    ∃ ns spec, Plan.volumeSpecOf name draft = .ok spec ∧
      c = .createVolume ns spec (.ofFlags s none isAsync)
  | .resizeVolume _ size cas isAsync, c =>
    ∃ ns id sizeBytes, Plan.bytesOf size = .ok sizeBytes ∧
      c = .resizeVolume ns id sizeBytes (.ofFlags s cas isAsync)
  | .setReplicas _ replicas cas isAsync, c =>
    ∃ ns id count, Plan.replicasOf replicas = .ok count ∧
      c = .setReplicas ns id count (.ofFlags s cas isAsync)
  | .updateExports _ exports cas isAsync, c =>
    ∃ ns id read, Plan.exportsOf exports = .ok read ∧
      c = .updateNfsExports ns id read (.ofFlags s cas isAsync)
  | .setDescription _ description cas, c =>
    ∃ ns id, c = .setDescription ns id description (.ofFlags s cas false)
  | .deleteVolume _ cas isAsync, c => ∃ ns id, c = .deleteVolume ns id (.ofFlags s cas isAsync)
  | .deleteNamespace _ cas, c => ∃ id, c = .deleteNamespace id (.ofFlags s cas false)
  | .attach _ _ cas isAsync, c =>
    ∃ ns id node, c = .attachVolume ns id node (.ofFlags s cas isAsync)
  | .detach _ cas isAsync, c => ∃ ns id, c = .detachVolume ns id (.ofFlags s cas isAsync)
  | .cordon _ cas, c => ∃ id, c = .setNodeCordoned id true (.ofFlags s cas false)
  | .uncordon _ cas, c => ∃ id, c = .setNodeCordoned id false (.ofFlags s cas false)
  | _, _ => False

theorem Changes.isMutating {s : Settings} {c : Command} {call : Call} (h : c.Changes s call) :
    call.method.isMutating := by
  cases c <;> first | exact h.elim | (obtain ⟨_, rfl⟩ := h; rfl) | (obtain ⟨_, _, rfl⟩ := h; rfl) |
    (obtain ⟨_, _, _, rfl⟩ := h; rfl) | (obtain ⟨_, _, _, _, rfl⟩ := h; rfl)

theorem Changes.not_isShowing {s : Settings} {c : Command} {call : Call} (h : c.Changes s call) :
    c.isShowing = false := by
  cases c <;> first | rfl | exact h.elim

end Command

namespace Program

variable {α β : Type} {refs : List (ResourceKind × String)} {changes : Call → Prop}

/-! ### Looking references up -/

theorem looks_resolve (s : Settings) (reference : String) {idKind : IdKind} {kind : ResourceKind}
    {byName : String → Program (Ident idKind)} (h : ∀ name, Looks [(kind, name)] (byName name)) :
    Looks (s.wanted [(kind, reference)]) (Lookup.resolve s reference byName) := by
  rw [Lookup.resolve, Reference.parse, Settings.wanted]
  cases s.useIds with
  | true => exact Looks.pure _
  | false => exact (Looks.tell _).bind fun _ => h reference

/-- One call that looks a name up, and what is read off its answer. -/
theorem looks_byName {c : Call} {kind : ResourceKind} {name : String} (f : c.Answer → α)
    (hc : c.isReading) (hlookup : c.lookup? = some (kind, name)) :
    Looks [(kind, name)] (ask c >>= fun answer => Pure.pure (f answer)) := by
  have h := (Looks.ask hc).bind fun a => Looks.pure (f a)
  rw [hlookup] at h
  exact h

theorem looks_namespaceId (s : Settings) (reference : String) :
    Looks (s.wanted [(.namespace, reference)]) (Lookup.namespaceId s reference) :=
  looks_resolve s reference fun _ => looks_byName _ rfl rfl

theorem looks_volumeId (s : Settings) (ns : NamespaceId) (reference : String) :
    Looks (s.wanted [(.volume, reference)]) (Lookup.volumeId s ns reference) :=
  looks_resolve s reference fun _ => looks_byName _ rfl rfl

theorem looks_nodeId (s : Settings) (reference : String) :
    Looks (s.wanted [(.node, reference)]) (Lookup.nodeId s reference) :=
  looks_resolve s reference fun _ => looks_byName _ rfl rfl

theorem looks_userId (s : Settings) (reference : String) :
    Looks (s.wanted [(.user, reference)]) (Lookup.userId s reference) :=
  looks_resolve s reference fun _ => looks_byName _ rfl rfl

theorem looks_policyGroupId (s : Settings) (reference : String) :
    Looks (s.wanted [(.policyGroup, reference)]) (Lookup.policyGroupId s reference) :=
  looks_resolve s reference fun _ => looks_byName _ rfl rfl

/-- Reading without a look-up. -/
theorem looks_ask {c : Call} (hc : c.isReading) (hlookup : c.lookup? = none) : Looks [] (ask c) := by
  have h := Looks.ask hc
  rw [hlookup] at h
  exact h

theorem looks_fetchEach (s : Settings) {idKind : IdKind} {kind : ResourceKind}
    {lookup : String → Program (Ident idKind)} {fetch : Ident idKind → Program α}
    (hlookup : ∀ reference, Looks (s.wanted [(kind, reference)]) (lookup reference))
    (hfetch : ∀ id, Looks [] (fetch id)) (references : List String) :
    Looks (s.wanted (references.map fun reference => (kind, reference)))
      (Plan.fetchEach lookup fetch references) := by
  induction references with
  | nil =>
    have hnone : s.wanted [] = [] := ite_self _
    rw [List.map_nil, hnone]
    exact Looks.pure []
  | cons reference references ih =>
    have h := (hlookup reference).bind fun id =>
      (hfetch id).bind fun item => ih.bind fun items => Looks.pure (item :: items)
    rw [List.nil_append, List.append_nil, ← s.wanted_append] at h
    exact h

/-! ### Parameters -/

theorem takes_tellAll {events : List Log.Event} {xs : List Exchange} {r : Except Failure Unit}
    (h : (tellAll events).Takes xs r) : xs = [] ∧ r = .ok () := by
  induction events with
  | nil =>
    cases h
    exact ⟨rfl, rfl⟩
  | cons event events ih =>
    cases h with
    | note h => exact ih h

theorem takes_params {s : Settings} {cas : Option String} {isAsync : Bool} {xs : List Exchange}
    {r : Except Failure RequestParams} (h : (RequestParams.program s cas isAsync).Takes xs r) :
    xs = [] ∧ r = .ok (.ofFlags s cas isAsync) := by
  rcases Takes.bind h with ⟨e, _, he⟩ | ⟨_, ys, zs, rfl, hys, hzs⟩
  · cases (takes_tellAll he).2
  · obtain rfl := (takes_tellAll hys).1
    cases hzs
    exact ⟨rfl, rfl⟩

/-- Making the parameters of a change is no phase of its own. -/
theorem Phased.params {s : Settings} {cas : Option String} {isAsync : Bool}
    {f : RequestParams → Program α} (h : Phased refs changes (f (.ofFlags s cas isAsync))) :
    Phased refs changes (RequestParams.program s cas isAsync >>= f) := by
  intro xs r hr
  rcases hr.bind with ⟨e, _, he⟩ | ⟨params, ys, zs, rfl, hys, hzs⟩
  · cases (takes_params he).2
  · obtain ⟨rfl, hparams⟩ := takes_params hys
    obtain rfl := Except.ok.inj hparams
    exact h zs r hzs

end Program

namespace Plan

open Program

variable {α : Type} {s : Settings} {refs : List (ResourceKind × String)} {changes : Call → Prop}

/-! ### The programs of commands -/

/-- Picking out of a listing makes no call, and fails with an error of the cluster. -/
theorem phased_chosen [Named α] [Labelled α] (s : Settings) (names : List String)
    (selectors : SelectorSet) (items : List α) (view : List α → Output.View) :
    Phased [] changes (chosen s names selectors items >>= fun items => pure (view items)) := by
  rw [chosen]
  cases pick s.useIds names items with
  | ok items => exact Phased.pure _
  | error e => exact Phased.client e

theorem phased_getNamespaces (s : Settings) (names : List String) (selectors : SelectorSet) :
    Phased [] changes (getNamespaces s names selectors) :=
  Phased.bind_last (looks_ask rfl rfl) fun items => phased_chosen s names selectors items _

theorem phased_getVolumes (s : Settings) (names : List String) (selectors : SelectorSet) :
    Phased (s.wanted [(.namespace, s.namespace)]) changes (getVolumes s names selectors) :=
  Phased.bind_last (looks_namespaceId s s.namespace) fun _ =>
    Phased.bind_last (looks_ask rfl rfl) fun items => phased_chosen s names selectors items _

theorem phased_getNodes (s : Settings) (names : List String) (selectors : SelectorSet) :
    Phased [] changes (getNodes s names selectors) :=
  Phased.bind_last (looks_ask rfl rfl) fun items => phased_chosen s names selectors items _

theorem phased_getLicence : Phased [] changes getLicence :=
  Phased.bind_last (looks_ask rfl rfl) fun _ => Phased.pure _

/-- A listing of everything, or the resources that are referred to, each looked up and fetched. -/
theorem phased_listOrFetch (s : Settings) {idKind : IdKind} {kind : ResourceKind}
    (view : List α → Output.View) (all : Program (List α)) (lookup : String → Program (Ident idKind))
    (fetch : Ident idKind → Program α) (names : List String) (hall : Looks [] all)
    (hlookup : ∀ reference, Looks (s.wanted [(kind, reference)]) (lookup reference))
    (hfetch : ∀ id, Looks [] (fetch id)) :
    Phased (s.wanted (names.map fun name => (kind, name))) changes
      (if names.isEmpty then all >>= fun items => pure (view items)
        else fetchEach lookup fetch names >>= fun items => pure (view items)) := by
  cases names with
  | nil =>
    have hnone : s.wanted [] = [] := ite_self _
    rw [List.map_nil, hnone]
    exact Phased.bind_last hall fun _ => Phased.pure _
  | cons name names =>
    exact Phased.bind_last (looks_fetchEach s hlookup hfetch (name :: names)) fun _ => Phased.pure _

theorem phased_getUsers (s : Settings) (names : List String) :
    Phased (s.wanted (names.map fun name => (.user, name))) changes (getUsers s names) :=
  phased_listOrFetch s Output.View.users (ask .listUsers) (Lookup.userId s)
    (fun id => ask (.getUser id)) names (looks_ask rfl rfl) (looks_userId s)
    (fun _ => looks_ask rfl rfl)

theorem phased_getPolicyGroups (s : Settings) (names : List String) :
    Phased (s.wanted (names.map fun name => (.policyGroup, name))) changes
      (getPolicyGroups s names) :=
  phased_listOrFetch s Output.View.policyGroups (ask .listPolicyGroups) (Lookup.policyGroupId s)
    (fun id => ask (.getPolicyGroup id)) names (looks_ask rfl rfl) (looks_policyGroupId s)
    (fun _ => looks_ask rfl rfl)

theorem phased_describeVolumes (s : Settings) (names : List String) (selectors : SelectorSet) :
    Phased (s.wanted [(.namespace, s.namespace)] ++ s.wanted (names.map fun name => (.volume, name)))
      changes (describeVolumes s names selectors) :=
  Phased.bind (looks_namespaceId s s.namespace) fun ns =>
    phased_listOrFetch s (fun items => Output.View.describeVolumes (filterSelected selectors items))
      (ask (.listVolumes ns)) (Lookup.volumeId s ns) (fun id => ask (.getVolume ns id)) names
      (looks_ask rfl rfl) (looks_volumeId s ns) (fun _ => looks_ask rfl rfl)

theorem phased_describeNodes (s : Settings) (names : List String) (selectors : SelectorSet) :
    Phased (s.wanted (names.map fun name => (.node, name))) changes
      (describeNodes s names selectors) :=
  phased_listOrFetch s (fun items => Output.View.describeNodes (filterSelected selectors items))
    (ask .listNodes) (Lookup.nodeId s) (fun id => ask (.getNode id)) names (looks_ask rfl rfl)
    (looks_nodeId s) (fun _ => looks_ask rfl rfl)

theorem phased_createNamespace {name : String} {labels : Labels}
    (h : changes (.createNamespace name labels)) : Phased [] changes (createNamespace name labels) :=
  Phased.change h fun _ => Or.inl ⟨rfl, _, rfl⟩

theorem phased_createVolume {spec : VolumeSpec} {isAsync : Bool}
    (h : ∀ ns, changes (.createVolume ns spec (.ofFlags s none isAsync))) :
    Phased (s.wanted [(.namespace, s.namespace)]) changes (createVolume s spec isAsync) :=
  Phased.bind_last (looks_namespaceId s s.namespace) fun ns =>
    Phased.params (Phased.change (h ns) fun _ => Or.inl ⟨rfl, _, rfl⟩)

theorem phased_changeVolume (s : Settings) (reference : String) (cas : Option String)
    (isAsync : Bool) {change : NamespaceId → VolumeId → RequestParams → Program Output.View}
    (h : ∀ ns id, Phased [] changes (change ns id (.ofFlags s cas isAsync))) :
    Phased (s.wanted [(.namespace, s.namespace)] ++ s.wanted [(.volume, reference)]) changes
      (changeVolume s reference cas isAsync change) :=
  Phased.bind (looks_namespaceId s s.namespace) fun ns =>
    Phased.bind_last (looks_volumeId s ns reference) fun id => Phased.params (h ns id)

theorem phased_deleteNamespace {ns : String} {cas : Option String}
    (h : ∀ id, changes (.deleteNamespace id (.ofFlags s cas false))) :
    Phased (s.wanted [(.namespace, ns)]) changes (deleteNamespace s ns cas) :=
  Phased.bind_last (looks_namespaceId s ns) fun id =>
    Phased.params (Phased.change (h id) fun _ => Or.inl ⟨rfl, _, rfl⟩)

theorem phased_attach {volume node : String} {cas : Option String} {isAsync : Bool}
    (h : ∀ ns id nodeId, changes (.attachVolume ns id nodeId (.ofFlags s cas isAsync))) :
    Phased (s.wanted [(.namespace, s.namespace)] ++
        (s.wanted [(.volume, volume)] ++ s.wanted [(.node, node)]))
      changes (attach s volume node cas isAsync) :=
  Phased.bind (looks_namespaceId s s.namespace) fun ns =>
    Phased.bind (looks_volumeId s ns volume) fun id =>
      Phased.bind_last (looks_nodeId s node) fun nodeId =>
        Phased.params (Phased.change (h ns id nodeId) fun _ => Or.inl ⟨rfl, _, rfl⟩)

theorem phased_detach {volume : String} {cas : Option String} {isAsync : Bool}
    (h : ∀ ns id, changes (.detachVolume ns id (.ofFlags s cas isAsync))) :
    Phased (s.wanted [(.namespace, s.namespace)] ++ s.wanted [(.volume, volume)]) changes
      (detach s volume cas isAsync) := by
  refine phased_changeVolume s volume cas isAsync fun ns id => Phased.change (h ns id) ?_
  intro answer
  cases answer with
  | completed _ => exact Or.inr ⟨.getVolume ns id, rfl, Output.View.volume, rfl⟩
  | accepted => exact Or.inl ⟨rfl, _, rfl⟩

theorem phased_setCordoned {node : String} {cordoned : Bool} {cas : Option String}
    (h : ∀ id, changes (.setNodeCordoned id cordoned (.ofFlags s cas false))) :
    Phased (s.wanted [(.node, node)]) changes (setCordoned s node cordoned cas) :=
  Phased.bind_last (looks_nodeId s node) fun id =>
    Phased.params (Phased.change (h id) fun _ => Or.inl ⟨rfl, _, rfl⟩)

end Plan

end BlockStorage
