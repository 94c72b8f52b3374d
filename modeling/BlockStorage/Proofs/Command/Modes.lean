import BlockStorage.Proofs.Command.Selection

/-!
The two modes of references.

A reference is a name, which is looked up, or an identifier, which is taken as it is. A command whose
references are names and the same command with the identifiers of what is named do the same to the
cluster and end in the same way. For a look-up changes nothing, so the calls that follow it are the same
calls in both modes; only the output may name a resource differently.
-/

namespace BlockStorage

open Output

/-! ### Names and identifiers -/

/-- The identifier of the first item with a name. -/
def idNamed? {α : Type} [Named α] (items : List α) (name : String) : Option String :=
  (items.find? fun item => Named.name item = name).map Named.id

/-- The identifier of the first resource of a kind with a name; volumes are those of a namespace. -/
def Inventory.idOf? (inv : Inventory) (ns : NamespaceId) : ResourceKind → String → Option String
  | .namespace => idNamed? inv.namespaces
  | .volume => idNamed? (inv.volumesOf ns)
  | .node => idNamed? inv.nodes
  | .user => idNamed? inv.users
  | .policyGroup => idNamed? inv.policyGroups
  | .licence => fun _ => none

/-- The settings for identifiers, with that of a namespace. -/
def Settings.withIds (s : Settings) (ns : NamespaceId) : Settings :=
  { s with options := { s.options with useIds := true, «namespace» := some ns.text } }

/-- The command with other references, if there is one for each of them. -/
def Command.mapReferences (f : ResourceKind → String → Option String) : Command → Option Command
  | .getNamespaces listing =>
    (listing.names.mapM (f .namespace)).map fun names => .getNamespaces { listing with names }
  | .getVolumes listing =>
    (listing.names.mapM (f .volume)).map fun names => .getVolumes { listing with names }
  | .getNodes listing => (listing.names.mapM (f .node)).map fun names => .getNodes { listing with names }
  | .getUsers names => (names.mapM (f .user)).map .getUsers
  | .getPolicyGroups names => (names.mapM (f .policyGroup)).map .getPolicyGroups
  | .getLicence => some .getLicence
  | .describeVolumes listing =>
    (listing.names.mapM (f .volume)).map fun names => .describeVolumes { listing with names }
  | .describeNodes listing =>
    (listing.names.mapM (f .node)).map fun names => .describeNodes { listing with names }
  | .createNamespace name labels => some (.createNamespace name labels)
  | .createVolume name draft isAsync => some (.createVolume name draft isAsync)
  | .resizeVolume volume size cas isAsync =>
    (f .volume volume).map fun volume => .resizeVolume volume size cas isAsync
  | .setReplicas volume replicas cas isAsync =>
    (f .volume volume).map fun volume => .setReplicas volume replicas cas isAsync
  | .updateExports volume exports cas isAsync =>
    (f .volume volume).map fun volume => .updateExports volume exports cas isAsync
  | .setDescription volume description cas =>
    (f .volume volume).map fun volume => .setDescription volume description cas
  | .deleteVolume volume cas isAsync =>
    (f .volume volume).map fun volume => .deleteVolume volume cas isAsync
  | .deleteNamespace ns cas => (f .namespace ns).map fun ns => .deleteNamespace ns cas
  | .attach volume node cas isAsync =>
    (f .volume volume).bind fun volume =>
      (f .node node).map fun node => .attach volume node cas isAsync
  | .detach volume cas isAsync => (f .volume volume).map fun volume => .detach volume cas isAsync
  | .cordon node cas => (f .node node).map fun node => .cordon node cas
  | .uncordon node cas => (f .node node).map fun node => .uncordon node cas

/-- A command refers by identifiers to what another one refers to by names: the namespace, if it is about
one, and everything else that it refers to. -/
structure Command.Names (inv : Inventory) (s : Settings) (ns : NamespaceId) (c c' : Command) : Prop where
  inNamespace : c.isNamespaced → inv.idOf? ns .namespace s.namespace = some ns.text
  references : c.mapReferences (inv.idOf? ns) = some c'

section

variable {α : Type} [Named α] {items : List α} {name id : String} {names ids : List String}

theorem pickOne_of_idNamed? (h : idNamed? items name = some id) :
    ∃ item, pickOne false items name = .ok item ∧ Named.id item = id := by
  rw [idNamed?, Option.map_eq_some_iff] at h
  obtain ⟨item, hfind, hid⟩ := h
  exact ⟨item, pickOne_eq_ok.2 hfind, hid⟩

theorem mapM_idNamed?_cons (h : (name :: names).mapM (idNamed? items) = some ids) :
    ∃ id rest, idNamed? items name = some id ∧ names.mapM (idNamed? items) = some rest ∧
      ids = id :: rest := by
  rw [List.mapM_cons] at h
  obtain ⟨id, hid, h⟩ := Option.bind_eq_some_iff.1 h
  obtain ⟨rest, hrest, h⟩ := Option.bind_eq_some_iff.1 h
  exact ⟨id, rest, hid, hrest, (Option.some.inj h).symm⟩

theorem isEmpty_of_idNamed? (h : names.mapM (idNamed? items) = some ids) :
    ids.isEmpty = names.isEmpty := by
  cases names with
  | nil =>
    obtain rfl := Option.some.inj h
    rfl
  | cons name names =>
    obtain ⟨id, rest, -, -, rfl⟩ := mapM_idNamed?_cons h
    rfl

/-- Identifiers pick what the names pick that they stand for. -/
theorem pickEach_of_idNamed? (hids : (items.map Named.id).Nodup)
    (h : names.mapM (idNamed? items) = some ids) :
    pickEach true items ids = pickEach false items names := by
  induction names generalizing ids with
  | nil =>
    obtain rfl := Option.some.inj h
    rfl
  | cons name names ih =>
    obtain ⟨id, rest, hid, hrest, rfl⟩ := mapM_idNamed?_cons h
    obtain ⟨item, hitem, rfl⟩ := pickOne_of_idNamed? hid
    rw [pickEach, pickEach, ih hrest, hitem, pickOne_id hids hitem]

theorem pick_of_idNamed? (hids : (items.map Named.id).Nodup)
    (h : names.mapM (idNamed? items) = some ids) : pick true ids items = pick false names items := by
  rw [pick, pick, isEmpty_of_idNamed? h, pickEach_of_idNamed? hids h]

/-! ### Selections and look-ups in both modes -/

variable {s : Settings} {ns : NamespaceId}

theorem pick_withIds (hnames : s.useIds = false) (hids : (items.map Named.id).Nodup)
    (h : names.mapM (idNamed? items) = some ids) :
    pick (s.withIds ns).useIds ids items = pick s.useIds names items := by
  rw [hnames]
  exact pick_of_idNamed? hids h

theorem selection_withIds [Labelled α] (hnames : s.useIds = false)
    (hids : (items.map Named.id).Nodup) (h : names.mapM (idNamed? items) = some ids)
    (selectors : SelectorSet) :
    selection (s.withIds ns) ids selectors items = selection s names selectors items := by
  rw [selection, selection, pick_withIds hnames hids h]

/-- A name is resolved to its identifier. -/
theorem resolved_of_idNamed? {kind : IdKind} (key : α → Ident kind)
    (hkey : ∀ a, Named.id a = (key a).text) (hnames : s.useIds = false)
    (h : idNamed? items name = some id) : resolved s items key name = .ok ⟨id⟩ := by
  obtain ⟨item, hitem, rfl⟩ := pickOne_of_idNamed? h
  rw [resolved, hnames, hitem, hkey]
  rfl

theorem Inventory.selectedVolumes_withIds {inv : Inventory} (hinv : inv.Identified)
    (hnames : s.useIds = false) (hns : inv.idOf? ns .namespace s.namespace = some ns.text)
    (h : names.mapM (inv.idOf? ns .volume) = some ids) (selectors : SelectorSet) :
    inv.selectedVolumes (s.withIds ns) ids selectors = inv.selectedVolumes s names selectors := by
  have hvolumes : ((inv.volumesOf ns).map Volume.id).Nodup := nodup_map_filter hinv.volumes
  rw [selectedVolumes, selectedVolumes, resolved_of_idNamed? Namespace.id (fun _ => rfl) hnames hns]
  exact selection_withIds hnames (nodup_texts (fun _ => rfl) hvolumes) h selectors

end

/-! ### Effects of programs -/

namespace Program

variable {α β : Type} {now : Timestamp} {inv : Inventory}

/-- What a program does to an inventory: whether it succeeds, and the inventory afterwards. -/
def effect (now : Timestamp) (p : Program α) (inv : Inventory) : Except Failure Unit × Inventory :=
  ((p.eval now inv).1.map fun _ => (), (p.eval now inv).2)

theorem effect_of_eval {p : Program α} {p' : Program β} {r : Except Failure α} {after : Inventory}
    {r' : Except Failure β} (h : p.eval now inv = (r, after)) (h' : p'.eval now inv = (r', after))
    (hr : (r.map fun _ => ()) = r'.map fun _ => ()) : p.effect now inv = p'.effect now inv := by
  rw [effect, effect, h, h', hr]

theorem effect_bind_ok {p : Program α} {a : α} {after : Inventory}
    (h : p.eval now inv = (.ok a, after)) (f : α → Program β) :
    (p >>= f).effect now inv = (f a).effect now after := by
  rw [effect, effect, eval_bind, h]

/-- What goes on with one program has one effect if it has one whatever the program came to. -/
theorem effect_bind_congr (p : Program α) {f g : α → Program β}
    (h : ∀ a after, p.eval now inv = (.ok a, after) → (f a).effect now after = (g a).effect now after) :
    (p >>= f).effect now inv = (p >>= g).effect now inv := by
  cases hp : p.eval now inv with
  | mk r after =>
    cases r with
    | error e => rw [effect, effect, eval_bind, eval_bind, hp]
    | ok a => rw [effect_bind_ok hp, effect_bind_ok hp, h a after hp]

end Program

theorem RequestParams.eval_program (s : Settings) (cas : Option String) (isAsync : Bool)
    {now : Timestamp} {inv : Inventory} :
    (RequestParams.program s cas isAsync).eval now inv = (.ok (ofFlags s cas isAsync), inv) := by
  rw [program, Program.eval_bind, Program.eval_tellAll]
  rfl

namespace Lookup

variable {s : Settings} {ns other : NamespaceId} {now : Timestamp} {inv : Inventory} {name id : String}

/-- The namespace of the settings is the same one in both modes. -/
theorem configured_withIds (hnames : s.useIds = false)
    (h : inv.idOf? ns .namespace s.namespace = some ns.text) :
    (configured s).eval now inv = (.ok ns, inv) ∧
      (configured (s.withIds ns)).eval now inv = (.ok ns, inv) := by
  rw [configured, configured, eval_namespaceId, eval_namespaceId,
    resolved_of_idNamed? Namespace.id (fun _ => rfl) hnames h]
  exact ⟨rfl, rfl⟩

theorem namespaceId_withIds (hnames : s.useIds = false) (h : inv.idOf? ns .namespace name = some id) :
    (namespaceId s name).eval now inv = (.ok ⟨id⟩, inv) ∧
      (namespaceId (s.withIds ns) id).eval now inv = (.ok ⟨id⟩, inv) := by
  rw [eval_namespaceId, eval_namespaceId, resolved_of_idNamed? Namespace.id (fun _ => rfl) hnames h]
  exact ⟨rfl, rfl⟩

theorem volumeId_withIds (hnames : s.useIds = false) (h : inv.idOf? ns .volume name = some id) :
    (volumeId s ns name).eval now inv = (.ok ⟨id⟩, inv) ∧
      (volumeId (s.withIds ns) ns id).eval now inv = (.ok ⟨id⟩, inv) := by
  rw [eval_volumeId, eval_volumeId, resolved_of_idNamed? Volume.id (fun _ => rfl) hnames h]
  exact ⟨rfl, rfl⟩

theorem nodeId_withIds (hnames : s.useIds = false) (h : inv.idOf? ns .node name = some id) :
    (nodeId s name).eval now inv = (.ok ⟨id⟩, inv) ∧
      (nodeId (s.withIds ns) id).eval now inv = (.ok ⟨id⟩, inv) := by
  rw [eval_nodeId, eval_nodeId, resolved_of_idNamed? Node.id (fun _ => rfl) hnames h]
  exact ⟨rfl, rfl⟩

end Lookup

namespace Plan

/-! ### Bodies of commands -/

section

variable {s : Settings} {ns : NamespaceId} {now : Timestamp} {inv : Inventory} {name id : String}
  {cas : Option String} {isAsync : Bool}

/-- A change that is made of a volume that is found in one namespace is made of it in both modes. -/
theorem effect_changeVolume (hnames : s.useIds = false)
    (hns : inv.idOf? ns .namespace s.namespace = some ns.text)
    (hvolume : inv.idOf? ns .volume name = some id)
    {change change' : NamespaceId → VolumeId → RequestParams → Program View}
    (hchange : ∀ volume params,
      (change ns volume params).effect now inv = (change' ns volume params).effect now inv) :
    (changeVolume s name cas isAsync change).effect now inv =
      (changeVolume (s.withIds ns) id cas isAsync change').effect now inv := by
  obtain ⟨hconfigured, hconfigured'⟩ := Lookup.configured_withIds hnames hns
  obtain ⟨hfound, hfound'⟩ := Lookup.volumeId_withIds hnames hvolume
  rw [changeVolume, changeVolume, Program.effect_bind_ok hconfigured,
    Program.effect_bind_ok hconfigured', Program.effect_bind_ok hfound,
    Program.effect_bind_ok hfound', Program.effect_bind_ok (RequestParams.eval_program ..),
    Program.effect_bind_ok (RequestParams.eval_program ..)]
  exact hchange ⟨id⟩ _

theorem effect_attach {node nodeId : String} (hnames : s.useIds = false)
    (hns : inv.idOf? ns .namespace s.namespace = some ns.text)
    (hvolume : inv.idOf? ns .volume name = some id)
    (hnode : inv.idOf? ns .node node = some nodeId) :
    (attach s name node cas isAsync).effect now inv =
      (attach (s.withIds ns) id nodeId cas isAsync).effect now inv := by
  obtain ⟨hconfigured, hconfigured'⟩ := Lookup.configured_withIds hnames hns
  obtain ⟨hfound, hfound'⟩ := Lookup.volumeId_withIds hnames hvolume
  obtain ⟨hnodeFound, hnodeFound'⟩ := Lookup.nodeId_withIds hnames hnode
  rw [attach, attach, Program.effect_bind_ok hconfigured, Program.effect_bind_ok hconfigured',
    Program.effect_bind_ok hfound, Program.effect_bind_ok hfound',
    Program.effect_bind_ok hnodeFound, Program.effect_bind_ok hnodeFound',
    Program.effect_bind_ok (RequestParams.eval_program ..),
    Program.effect_bind_ok (RequestParams.eval_program ..)]
  exact Program.effect_bind_congr _ fun _ _ _ => rfl

theorem effect_createVolume (hnames : s.useIds = false)
    (hns : inv.idOf? ns .namespace s.namespace = some ns.text) (spec : VolumeSpec) :
    (createVolume s spec isAsync).effect now inv =
      (createVolume (s.withIds ns) spec isAsync).effect now inv := by
  obtain ⟨hconfigured, hconfigured'⟩ := Lookup.configured_withIds hnames hns
  rw [createVolume, createVolume, Program.effect_bind_ok hconfigured,
    Program.effect_bind_ok hconfigured', Program.effect_bind_ok (RequestParams.eval_program ..),
    Program.effect_bind_ok (RequestParams.eval_program ..)]
  rfl

theorem effect_deleteNamespace (hnames : s.useIds = false)
    (h : inv.idOf? ns .namespace name = some id) :
    (deleteNamespace s name cas).effect now inv =
      (deleteNamespace (s.withIds ns) id cas).effect now inv := by
  obtain ⟨hfound, hfound'⟩ := Lookup.namespaceId_withIds hnames h
  rw [deleteNamespace, deleteNamespace, Program.effect_bind_ok hfound,
    Program.effect_bind_ok hfound', Program.effect_bind_ok (RequestParams.eval_program ..),
    Program.effect_bind_ok (RequestParams.eval_program ..)]
  exact Program.effect_bind_congr _ fun _ _ _ => rfl

theorem effect_setCordoned (hnames : s.useIds = false) (h : inv.idOf? ns .node name = some id)
    (cordoned : Bool) :
    (setCordoned s name cordoned cas).effect now inv =
      (setCordoned (s.withIds ns) id cordoned cas).effect now inv := by
  obtain ⟨hfound, hfound'⟩ := Lookup.nodeId_withIds hnames h
  rw [setCordoned, setCordoned, Program.effect_bind_ok hfound, Program.effect_bind_ok hfound',
    Program.effect_bind_ok (RequestParams.eval_program ..),
    Program.effect_bind_ok (RequestParams.eval_program ..)]
  rfl

end

/-! ### Plans in both modes -/

/-- Plans with the same checks and stages whose programs do the same. -/
structure Agree (now : Timestamp) (inv : Inventory) (plan plan' : Plan) : Prop where
  check : plan.check = plan'.check
  stages : plan.stages = plan'.stages
  args : plan'.args.isEmpty = plan.args.isEmpty
  effect : plan.body.effect now inv = plan'.body.effect now inv

/-- What is read of two commands agrees: they are bad for the same reason or have plans that agree. -/
inductive ReadAlike (now : Timestamp) (inv : Inventory) :
    Except CommandError Plan → Except CommandError Plan → Prop where
  | bad (e : CommandError) : ReadAlike now inv (.error e) (.error e)
  | good {plan plan' : Plan} (agree : Agree now inv plan plan') :
    ReadAlike now inv (.ok plan) (.ok plan')

theorem readAlike_bind {α : Type} {now : Timestamp} {inv : Inventory} (read : Except CommandError α)
    {plan plan' : α → Plan} (h : ∀ a, Agree now inv (plan a) (plan' a)) :
    ReadAlike now inv (read >>= fun a => pure (plan a)) (read >>= fun a => pure (plan' a)) := by
  cases read with
  | error e => exact .bad e
  | ok a => exact .good (h a)

end Plan

open Plan in
/-- Names and the identifiers that they stand for are read into plans that agree. -/
theorem Command.readAlike_of_names {s : Settings} {ns : NamespaceId} {now : Timestamp} {inv : Inventory}
    {c c' : Command} (hids : inv.Identified) (hnames : s.useIds = false) (h : c.Names inv s ns c') :
    ReadAlike now inv (c.plan s) (c'.plan (s.withIds ns)) := by
  obtain ⟨hns, hrefs⟩ := h
  cases c with
  | getNamespaces listing =>
    obtain ⟨ids, hmap, rfl⟩ := Option.map_eq_some_iff.1 hrefs
    refine readAlike_bind (selectorsOf listing) fun selectors =>
      ⟨rfl, rfl, isEmpty_of_idNamed? hmap, ?_⟩
    refine Program.effect_of_eval (eval_getNamespaces ..) (eval_getNamespaces ..) ?_
    rw [selection_withIds hnames (nodup_texts (fun _ => rfl) hids.namespaces) hmap selectors]
  | getVolumes listing =>
    obtain ⟨ids, hmap, rfl⟩ := Option.map_eq_some_iff.1 hrefs
    refine readAlike_bind (selectorsOf listing) fun selectors =>
      ⟨rfl, rfl, isEmpty_of_idNamed? hmap, ?_⟩
    refine Program.effect_of_eval (eval_getVolumes ..) (eval_getVolumes ..) ?_
    rw [Inventory.selectedVolumes_withIds hids hnames (hns rfl) hmap selectors]
  | getNodes listing =>
    obtain ⟨ids, hmap, rfl⟩ := Option.map_eq_some_iff.1 hrefs
    refine readAlike_bind (selectorsOf listing) fun selectors =>
      ⟨rfl, rfl, isEmpty_of_idNamed? hmap, ?_⟩
    refine Program.effect_of_eval (eval_getNodes ..) (eval_getNodes ..) ?_
    rw [selection_withIds hnames (nodup_texts (fun _ => rfl) hids.nodes) hmap selectors]
  | getUsers names =>
    obtain ⟨ids, hmap, rfl⟩ := Option.map_eq_some_iff.1 hrefs
    refine .good ⟨rfl, rfl, isEmpty_of_idNamed? hmap, ?_⟩
    refine Program.effect_of_eval (eval_getUsers hids _) (eval_getUsers hids _) ?_
    rw [pick_withIds hnames (nodup_texts (fun _ => rfl) hids.users) hmap]
  | getPolicyGroups names =>
    obtain ⟨ids, hmap, rfl⟩ := Option.map_eq_some_iff.1 hrefs
    refine .good ⟨rfl, rfl, isEmpty_of_idNamed? hmap, ?_⟩
    refine Program.effect_of_eval (eval_getPolicyGroups hids _) (eval_getPolicyGroups hids _) ?_
    rw [pick_withIds hnames (nodup_texts (fun _ => rfl) hids.policyGroups) hmap]
  | getLicence =>
    cases hrefs
    exact .good ⟨rfl, rfl, rfl, rfl⟩
  | describeVolumes listing =>
    obtain ⟨ids, hmap, rfl⟩ := Option.map_eq_some_iff.1 hrefs
    refine readAlike_bind (selectorsOf listing) fun selectors =>
      ⟨rfl, rfl, isEmpty_of_idNamed? hmap, ?_⟩
    refine Program.effect_of_eval (eval_describeVolumes hids ..) (eval_describeVolumes hids ..) ?_
    rw [Inventory.selectedVolumes_withIds hids hnames (hns rfl) hmap selectors]
  | describeNodes listing =>
    obtain ⟨ids, hmap, rfl⟩ := Option.map_eq_some_iff.1 hrefs
    refine readAlike_bind (selectorsOf listing) fun selectors =>
      ⟨rfl, rfl, isEmpty_of_idNamed? hmap, ?_⟩
    refine Program.effect_of_eval (eval_describeNodes hids ..) (eval_describeNodes hids ..) ?_
    rw [selection_withIds hnames (nodup_texts (fun _ => rfl) hids.nodes) hmap selectors]
  | createNamespace name labels =>
    cases hrefs
    exact readAlike_bind (labelsOf labels) fun _ => ⟨rfl, rfl, rfl, rfl⟩
  | createVolume name draft isAsync =>
    cases hrefs
    exact readAlike_bind (volumeSpecOf name draft) fun spec =>
      ⟨rfl, rfl, rfl, effect_createVolume hnames (hns rfl) spec⟩
  | resizeVolume volume size cas isAsync =>
    obtain ⟨id, hid, rfl⟩ := Option.map_eq_some_iff.1 hrefs
    refine .good ⟨rfl, rfl, rfl, Program.effect_bind_congr _ fun _ after heval => ?_⟩
    obtain rfl : inv = after := congrArg Prod.snd heval
    refine effect_changeVolume hnames (hns rfl) hid fun _ _ => ?_
    exact Program.effect_bind_congr _ fun _ _ _ => rfl
  | setReplicas volume replicas cas isAsync =>
    obtain ⟨id, hid, rfl⟩ := Option.map_eq_some_iff.1 hrefs
    refine .good ⟨rfl, rfl, rfl, Program.effect_bind_congr _ fun _ after heval => ?_⟩
    obtain rfl : inv = after := congrArg Prod.snd heval
    refine effect_changeVolume hnames (hns rfl) hid fun _ _ => ?_
    exact Program.effect_bind_congr _ fun _ _ _ => rfl
  | updateExports volume exports cas isAsync =>
    obtain ⟨id, hid, rfl⟩ := Option.map_eq_some_iff.1 hrefs
    refine readAlike_bind (exportsOf exports) fun read => ⟨rfl, rfl, rfl, ?_⟩
    refine effect_changeVolume hnames (hns rfl) hid fun _ _ => ?_
    exact Program.effect_bind_congr _ fun _ _ _ => rfl
  | setDescription volume description cas =>
    obtain ⟨id, hid, rfl⟩ := Option.map_eq_some_iff.1 hrefs
    exact .good ⟨rfl, rfl, rfl, effect_changeVolume hnames (hns rfl) hid fun _ _ => rfl⟩
  | deleteVolume volume cas isAsync =>
    obtain ⟨id, hid, rfl⟩ := Option.map_eq_some_iff.1 hrefs
    refine .good ⟨rfl, rfl, rfl, effect_changeVolume hnames (hns rfl) hid fun _ _ => ?_⟩
    refine Program.effect_bind_congr _ fun answer _ _ => ?_
    cases answer <;> rfl
  | deleteNamespace reference cas =>
    obtain ⟨id, hid, rfl⟩ := Option.map_eq_some_iff.1 hrefs
    exact .good ⟨rfl, rfl, rfl, effect_deleteNamespace hnames hid⟩
  | attach volume node cas isAsync =>
    obtain ⟨id, hid, hrefs⟩ := Option.bind_eq_some_iff.1 hrefs
    obtain ⟨nodeId, hnode, rfl⟩ := Option.map_eq_some_iff.1 hrefs
    exact .good ⟨rfl, rfl, rfl, effect_attach hnames (hns rfl) hid hnode⟩
  | detach volume cas isAsync =>
    obtain ⟨id, hid, rfl⟩ := Option.map_eq_some_iff.1 hrefs
    refine .good ⟨rfl, rfl, rfl, effect_changeVolume hnames (hns rfl) hid fun _ _ => ?_⟩
    refine Program.effect_bind_congr _ fun answer _ _ => ?_
    cases answer <;> rfl
  | cordon node cas =>
    obtain ⟨id, hid, rfl⟩ := Option.map_eq_some_iff.1 hrefs
    exact .good ⟨rfl, rfl, rfl, effect_setCordoned hnames hid true⟩
  | uncordon node cas =>
    obtain ⟨id, hid, rfl⟩ := Option.map_eq_some_iff.1 hrefs
    exact .good ⟨rfl, rfl, rfl, effect_setCordoned hnames hid false⟩

/-! ### Runs in both modes -/

/-- Where the output has no limit, showing ends in the same way for all views. -/
theorem World.shown_withIds {u : World Cluster} (hroom : u.sink.room = none) (s : Settings)
    (ns : NamespaceId) {r r' : Except Failure View}
    (h : (r.map fun _ => ()) = r'.map fun _ => ()) :
    (u.shown s r).1 = (u.shown (s.withIds ns) r').1 := by
  cases r with
  | error f =>
    cases r' with
    | error f' => exact congrArg Except.error (Except.error.inj h)
    | ok view' => cases h
  | ok view =>
    cases r' with
    | error f' => cases h
    | ok view' =>
      have hformat : (s.withIds ns).outputFormat = s.outputFormat := rfl
      simp only [shown, display, hformat]
      cases s.outputFormat with
      | error e => rfl
      | ok format =>
        simp only [Sink.writeAll_of_room_eq_none hroom]

/-- The stages are the same in both modes where the namespace has an identifier. -/
theorem Stage.middleware_withIds {s : Settings} {ns : NamespaceId} {isNamespaced : Bool}
    (hnames : s.useIds = false) (hns : isNamespaced → ns.text ≠ "") (targets : Option SelectorSet) :
    (standard isNamespaced targets).map (middleware (σ := Cluster) (s.withIds ns)) =
      (standard isNamespaced targets).map (middleware s) := by
  refine List.map_congr_left fun stage hstage => ?_
  cases stage with
  | namespaceRequired =>
    have hnamespaced : isNamespaced = true := by
      cases isNamespaced with
      | true => rfl
      | false => simp [standard] at hstage
    have hgiven : ((s.withIds ns).useIds && (s.withIds ns).namespace.isEmpty) = false := by
      have hempty : ns.text.isEmpty = false := by simpa using hns hnamespaced
      rw [show (s.withIds ns).namespace = ns.text from rfl, hempty, Bool.and_false]
    funext next ctx args w
    simp only [middleware, hgiven, hnames, Bool.false_and]
  | deadline fallback => rfl
  | targetOrSelectors selectors => rfl
  | authenticate => rfl
  | explainLicence => rfl

namespace Command

/-- Plans that agree leave twins, and end in the same way where the output has no limit. -/
theorem run_of_agree {s : Settings} {ctx : Nat} {w : World Cluster} {ns : NamespaceId}
    {c c' : Command} {plan plan' : Plan} (hquiet : w.IsQuiet) (hnames : s.useIds = false)
    (hns : c.isNamespaced → ns.text ≠ "") (hplan : c.plan s = .ok plan)
    (hplan' : c'.plan (s.withIds ns) = .ok plan')
    (hagree : Plan.Agree w.now w.cluster.inventory plan plan') :
    (c.run s ctx w).2.Twin (c'.run (s.withIds ns) ctx w).2 ∧
      (w.sink.room = none → (c.run s ctx w).1 = (c'.run (s.withIds ns) ctx w).1) := by
  obtain ⟨targets, hstages, -⟩ := (planned_of_plan hplan).stages
  cases hcheck : plan.check with
  | error e =>
    have hcheck' : plan'.check = .error e := hagree.check.symm.trans hcheck
    simp only [run, hplan, hplan', Invocation.run, Invocation.validate, Plan.invocation, hcheck,
      hcheck']
    exact ⟨World.Twin.refl w, fun _ => rfl⟩
  | ok _ =>
    rw [run_of_plan plan hplan hcheck hstages, run_of_plan plan' hplan' (hagree.check ▸ hcheck)
      (hagree.stages ▸ hstages), Stage.middleware_withIds hnames hns]
    have htargeted : Stage.Targeted targets plan'.args ↔ Stage.Targeted targets plan.args := by
      rw [Stage.Targeted, Stage.Targeted, hagree.args]
    by_cases hargs : Stage.Targeted targets plan.args
    -- both handlers run in one world, and only what they show differs
    · obtain ⟨hresult, hafter⟩ := Prod.mk.inj hagree.effect
      refine ⟨?_, fun hroom => ?_⟩
      · refine Stage.standard_world hquiet hargs (htargeted.2 hargs) fun child u hlive hleads => ?_
        rw [← hleads.now, ← hleads.inventory] at hafter
        exact Plan.handler_world hlive hleads.quiet hafter
      · refine (Stage.standard_twin hquiet hargs (htargeted.2 hargs)
          fun child u hlive hleads => ?_).1.result
        rw [← hleads.now, ← hleads.inventory] at hresult hafter
        exact Plan.handler_twin hlive hleads.quiet hafter
          (World.shown_withIds (hleads.sink ▸ hroom) s ns hresult)
    -- a listing of everything is refused before any handler runs
    · rw [Stage.standard_barred hargs (mt htargeted.1 hargs) s c.isNamespaced (plan.handler s)
        (plan'.handler (s.withIds ns))]
      exact ⟨World.Twin.refl _, fun _ => rfl⟩

/-- Names and identifiers come to the same. A run of a command whose references are names and one with the
identifiers that they stand for leave the same inventory, and both succeed or fail with the same error.
Only where the output has a limit may one of them fail for its output, as the other names resources
differently. -/
theorem modes_agree (s : Settings) (ctx : Nat) {w : World Cluster} {ns : NamespaceId} {c c' : Command}
    (hids : w.cluster.inventory.Identified) (hquiet : w.IsQuiet) (hnames : s.useIds = false)
    (h : c.Names w.cluster.inventory s ns c') :
    (c.run s ctx w).2.cluster.inventory = (c'.run (s.withIds ns) ctx w).2.cluster.inventory ∧
      (w.sink.room = none → (c.run s ctx w).1 = (c'.run (s.withIds ns) ctx w).1) := by
  have hns : c.isNamespaced → ns.text ≠ "" := by
    intro hnamespaced
    obtain ⟨item, hitem, hid⟩ := pickOne_of_idNamed? (h.inNamespace hnamespaced)
    rw [← hid]
    exact hids.named item (List.mem_of_find?_eq_some (pickOne_eq_ok.1 hitem))
  have hread : Plan.ReadAlike w.now w.cluster.inventory (c.plan s) (c'.plan (s.withIds ns)) :=
    readAlike_of_names hids hnames h
  generalize hplan : c.plan s = read at hread
  generalize hplan' : c'.plan (s.withIds ns) = read' at hread
  cases hread with
  | good hagree =>
    obtain ⟨hworld, hresult⟩ := run_of_agree hquiet hnames hns hplan hplan' hagree
    exact ⟨hworld.inventory, hresult⟩
  | bad e =>
    rw [run, run, hplan, hplan']
    exact ⟨rfl, fun _ => rfl⟩

/-- The one volume is deleted by its name and by its identifier. -/
theorem modes_agree_data :
    (run knownUser (.deleteVolume "data" none false) 0 oneVolumeWorld).2.cluster.inventory =
        (run (knownUser.withIds ⟨"ns-1"⟩) (.deleteVolume "vol-3" none false) 0
          oneVolumeWorld).2.cluster.inventory ∧
      (run (knownUser.withIds ⟨"ns-1"⟩) (.deleteVolume "vol-3" none false) 0 oneVolumeWorld).1 =
        .ok () := by
  have hnames : (deleteVolume "data" none false).Names oneVolumeWorld.cluster.inventory knownUser
      ⟨"ns-1"⟩ (.deleteVolume "vol-3" none false) := by
    constructor <;> decide +kernel
  obtain ⟨hinventory, hresult⟩ :=
    modes_agree knownUser 0 reachable_oneVolumeWorld.sound.identified rfl rfl hnames
  refine ⟨hinventory, ?_⟩
  rw [← hresult rfl]
  decide +kernel

end Command

end BlockStorage
