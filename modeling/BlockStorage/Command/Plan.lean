import BlockStorage.Command.Lookup
import BlockStorage.Run.Invocation
import BlockStorage.Size

/-!
Plans: what each command does.

Reading a command makes a plan of it, or fails when a literal in it is bad. A plan says in which stages
it runs, which literals are checked when it runs, and which program gives the view that it shows.
-/

namespace BlockStorage

open Text Output

/-- A command that has been read. -/
structure Plan where
  name : String
  args : List String
  stages : List Stage
  check : Except CommandError Unit
  body : Program View

namespace Plan

/-! ### Literals -/

/-- The selectors of a listing. -/
def selectorsOf (listing : Listing) : Except CommandError SelectorSet :=
  (SelectorSet.parse listing.selectors).mapError .ofParse

/-- The labels of a new resource. -/
def labelsOf (pairs : List String) : Except CommandError Labels :=
  (Labels.parse pairs).mapError .ofParse

/-- A size. -/
def bytesOf (literal : String) : Except CommandError UInt64 := (Size.parse literal).mapError .ofParse

/-- The exports of a volume; the first bad one decides the error. -/
def exportsOf : List String → Except CommandError (List Export)
  | [] => .ok []
  | text :: texts => do
    let «export» ← (Export.parse text).mapError CommandError.ofParse
    let rest ← exportsOf texts
    return «export» :: rest

/-- A number of replicas. -/
def replicasOf (literal : String) : Except CommandError UInt32 :=
  let digits := match literal.toList with
    | '+' :: digits => digits
    | digits => digits
  match natOfDigits? digits with
  | some n =>
    if n < UInt32.size then .ok (UInt32.ofNat n) else .error (invalidReplicas literal)
  | none => .error (invalidReplicas literal)
where
  invalidReplicas (literal : String) : CommandError :=
    .invalidArguments ("invalid replica count " ++ quoted literal)

/-- The label in which a new volume carries its number of replicas. -/
def replicasLabel : String := "storageos.com/replicas"

/-! ### Programs -/

/-- The resources with the given references, each looked up and fetched in turn. -/
def fetchEach {kind : IdKind} {α : Type} (lookup : String → Program (Ident kind))
    (fetch : Ident kind → Program α) : List String → Program (List α)
  | [] => return []
  | reference :: references => do
    let id ← lookup reference
    let item ← fetch id
    let items ← fetchEach lookup fetch references
    return item :: items

/-- The items of a listing that are referred to and meet the selectors. -/
def chosen {α : Type} [Named α] [Labelled α] (settings : Settings) (names : List String)
    (selectors : SelectorSet) (items : List α) : Program (List α) := do
  let items ← Program.ofExcept ((pick settings.useIds names items).mapError .client)
  return filterSelected selectors items

/-- Lists all namespaces and keeps those that are referred to. -/
def getNamespaces (s : Settings) (names : List String) (selectors : SelectorSet) :
    Program View := do
  let items ← Program.ask .listNamespaces
  let items ← chosen s names selectors items
  return .namespaces items

/-- Lists the volumes of the namespace and keeps those that are referred to. -/
def getVolumes (s : Settings) (names : List String) (selectors : SelectorSet) : Program View := do
  let ns ← Lookup.configured s
  let items ← Program.ask (.listVolumes ns)
  let items ← chosen s names selectors items
  return .volumes items

/-- Lists all nodes and keeps those that are referred to. -/
def getNodes (s : Settings) (names : List String) (selectors : SelectorSet) : Program View := do
  let items ← Program.ask .listNodes
  let items ← chosen s names selectors items
  return .nodes items

/-- Lists all users, or fetches those that are referred to. -/
def getUsers (s : Settings) (names : List String) : Program View := do
  let items ←
    if names.isEmpty then Program.ask .listUsers
    else fetchEach (Lookup.userId s) (fun id => Program.ask (.getUser id)) names
  return .users items

/-- Lists all policy groups, or fetches those that are referred to. -/
def getPolicyGroups (s : Settings) (names : List String) : Program View := do
  let items ←
    if names.isEmpty then Program.ask .listPolicyGroups
    else fetchEach (Lookup.policyGroupId s) (fun id => Program.ask (.getPolicyGroup id)) names
  return .policyGroups items

/-- Fetches the licence. -/
def getLicence : Program View := do
  let licence ← Program.ask .getLicence
  return .licence licence

/-- Lists the volumes of the namespace, or fetches those that are referred to, for a full
description. -/
def describeVolumes (s : Settings) (names : List String) (selectors : SelectorSet) :
    Program View := do
  let ns ← Lookup.configured s
  let items ←
    if names.isEmpty then Program.ask (.listVolumes ns)
    else fetchEach (Lookup.volumeId s ns) (fun id => Program.ask (.getVolume ns id)) names
  return .describeVolumes (filterSelected selectors items)

/-- Lists all nodes, or fetches those that are referred to, for a full description. -/
def describeNodes (s : Settings) (names : List String) (selectors : SelectorSet) :
    Program View := do
  let items ←
    if names.isEmpty then Program.ask .listNodes
    else fetchEach (Lookup.nodeId s) (fun id => Program.ask (.getNode id)) names
  return .describeNodes (filterSelected selectors items)

/-- Creates a namespace. -/
def createNamespace (name : String) (labels : Labels) : Program View := do
  let ns ← Program.ask (.createNamespace name labels)
  return .namespace ns

/-- What is shown after a change of a volume. -/
def volumeView (action : String) : Submission Volume → View
  | .completed volume => .volume volume
  | .accepted => .accepted action

/-- Creates a volume in the namespace of the settings. -/
def createVolume (s : Settings) (spec : VolumeSpec) (isAsync : Bool) : Program View := do
  let ns ← Lookup.configured s
  let params ← RequestParams.program s none isAsync
  let answer ← Program.ask (.createVolume ns spec params)
  return volumeView ("create volume " ++ spec.name) answer

/-- A change of the volume with a reference in the namespace of the settings. -/
def changeVolume (s : Settings) (reference : String) (cas : Option String) (isAsync : Bool)
    (change : NamespaceId → VolumeId → RequestParams → Program View) : Program View := do
  let ns ← Lookup.configured s
  let id ← Lookup.volumeId s ns reference
  let params ← RequestParams.program s cas isAsync
  change ns id params

/-- Resizes a volume; the size is read before the volume is looked up. -/
def resizeVolume (s : Settings) (volume size : String) (cas : Option String) (isAsync : Bool) :
    Program View := do
  let sizeBytes ← Program.ofExcept (bytesOf size)
  changeVolume s volume cas isAsync fun ns id params => do
    let answer ← Program.ask (.resizeVolume ns id sizeBytes params)
    return volumeView ("resize volume " ++ volume) answer

/-- Sets the number of replicas; it is read before the volume is looked up. -/
def setReplicas (s : Settings) (volume replicas : String) (cas : Option String) (isAsync : Bool) :
    Program View := do
  let count ← Program.ofExcept (replicasOf replicas)
  changeVolume s volume cas isAsync fun ns id params => do
    let answer ← Program.ask (.setReplicas ns id count params)
    return volumeView ("set replicas of volume " ++ volume) answer

/-- Replaces the NFS exports of a volume. -/
def updateExports (s : Settings) (volume : String) (exports : List Export) (cas : Option String)
    (isAsync : Bool) : Program View :=
  changeVolume s volume cas isAsync fun ns id params => do
    let answer ← Program.ask (.updateNfsExports ns id exports params)
    return volumeView ("update NFS exports of volume " ++ volume) answer

/-- Replaces the description of a volume. -/
def setDescription (s : Settings) (volume description : String) (cas : Option String) :
    Program View :=
  changeVolume s volume cas false fun ns id params => do
    let changed ← Program.ask (.setDescription ns id description params)
    return .volume changed

/-- Deletes a volume. -/
def deleteVolume (s : Settings) (volume : String) (cas : Option String) (isAsync : Bool) :
    Program View :=
  changeVolume s volume cas isAsync fun ns id params => do
    match ← Program.ask (.deleteVolume ns id params) with
    | .completed () => return .deleted .volume volume
    | .accepted => return .accepted ("delete volume " ++ volume)

/-- Deletes a namespace. -/
def deleteNamespace (s : Settings) (ns : String) (cas : Option String) : Program View := do
  let id ← Lookup.namespaceId s ns
  let params ← RequestParams.program s cas false
  Program.ask (.deleteNamespace id params)
  return .deleted .namespace ns

/-- Attaches a volume to a node; the volume is looked up first. -/
def attach (s : Settings) (volume node : String) (cas : Option String) (isAsync : Bool) :
    Program View := do
  let ns ← Lookup.configured s
  let id ← Lookup.volumeId s ns volume
  let nodeId ← Lookup.nodeId s node
  let params ← RequestParams.program s cas isAsync
  let answer ← Program.ask (.attachVolume ns id nodeId params)
  return volumeView ("attach volume " ++ volume ++ " to " ++ node) answer

/-- Detaches a volume, and fetches it again to show it unless that is done later. -/
def detach (s : Settings) (volume : String) (cas : Option String) (isAsync : Bool) :
    Program View :=
  changeVolume s volume cas isAsync fun ns id params => do
    match ← Program.ask (.detachVolume ns id params) with
    | .completed () =>
      let detached ← Program.ask (.getVolume ns id)
      return .volume detached
    | .accepted => return .accepted ("detach volume " ++ volume)

/-- Cordons a node or lifts that. -/
def setCordoned (s : Settings) (node : String) (cordoned : Bool) (cas : Option String) :
    Program View := do
  let id ← Lookup.nodeId s node
  let params ← RequestParams.program s cas false
  let changed ← Program.ask (.setNodeCordoned id cordoned params)
  return .node changed

/-! ### Reading commands -/

/-- The stages of commands on resources of the whole cluster. -/
def clusterStages : List Stage := Stage.standard false none

/-- The stages of commands on resources of the namespace. -/
def namespacedStages : List Stage := Stage.standard true none

/-- A new volume as it is asked for. -/
def volumeSpecOf (name : String) (draft : VolumeDraft) : Except CommandError VolumeSpec := do
  let labels ← labelsOf draft.labels
  let labels := match draft.replicas with
    | some count => labels.insert replicasLabel (toString count.toNat)
    | none => labels
  let sizeBytes ← bytesOf draft.size
  return { name, description := draft.description, sizeBytes, filesystem := draft.filesystem, labels }

end Plan

open Plan in
/-- Reads a command. -/
def Command.plan (s : Settings) (c : Command) : Except CommandError Plan :=
  let make (args : List String) (stages : List Stage) (body : Program View) : Plan :=
    ⟨c.name, args, stages, .ok (), body⟩
  match c with
  | .getNamespaces listing => do
    let selectors ← selectorsOf listing
    return make listing.names clusterStages (Plan.getNamespaces s listing.names selectors)
  | .getVolumes listing => do
    let selectors ← selectorsOf listing
    return make listing.names namespacedStages (Plan.getVolumes s listing.names selectors)
  | .getNodes listing => do
    let selectors ← selectorsOf listing
    return make listing.names clusterStages (Plan.getNodes s listing.names selectors)
  | .getUsers names => return make names clusterStages (Plan.getUsers s names)
  | .getPolicyGroups names => return make names clusterStages (Plan.getPolicyGroups s names)
  | .getLicence => return make [] clusterStages Plan.getLicence
  | .describeVolumes listing => do
    let selectors ← selectorsOf listing
    return make listing.names (Stage.standard true (some selectors))
      (Plan.describeVolumes s listing.names selectors)
  | .describeNodes listing => do
    let selectors ← selectorsOf listing
    return make listing.names (Stage.standard false (some selectors))
      (Plan.describeNodes s listing.names selectors)
  | .createNamespace name labels => do
    let labels ← labelsOf labels
    return make [name] clusterStages (Plan.createNamespace name labels)
  | .createVolume name draft isAsync => do
    let spec ← volumeSpecOf name draft
    return make [name] namespacedStages (Plan.createVolume s spec isAsync)
  | .resizeVolume volume size cas isAsync =>
    return { make [volume, size] namespacedStages (Plan.resizeVolume s volume size cas isAsync) with
      check := (bytesOf size).map fun _ => () }
  | .setReplicas volume replicas cas isAsync =>
    return { make [volume, replicas] namespacedStages
        (Plan.setReplicas s volume replicas cas isAsync) with
      check := (replicasOf replicas).map fun _ => () }
  | .updateExports volume exports cas isAsync => do
    let exports ← exportsOf exports
    return make [volume] namespacedStages (Plan.updateExports s volume exports cas isAsync)
  | .setDescription volume description cas =>
    return make [volume, description] namespacedStages
      (Plan.setDescription s volume description cas)
  | .deleteVolume volume cas isAsync =>
    return make [volume] namespacedStages (Plan.deleteVolume s volume cas isAsync)
  | .deleteNamespace ns cas => return make [ns] clusterStages (Plan.deleteNamespace s ns cas)
  | .attach volume node cas isAsync =>
    return make [volume, node] namespacedStages (Plan.attach s volume node cas isAsync)
  | .detach volume cas isAsync =>
    return make [volume] namespacedStages (Plan.detach s volume cas isAsync)
  | .cordon node cas => return make [node] clusterStages (Plan.setCordoned s node true cas)
  | .uncordon node cas => return make [node] clusterStages (Plan.setCordoned s node false cas)

namespace Plan

/-- Runs the program of a plan and shows the view that it gives. -/
def handler {σ : Type} [Cluster.Callable σ] (settings : Settings) (plan : Plan) : Handler σ :=
  fun ctx _ w =>
    match plan.body.run ctx w with
    | (.ok view, w) => w.display settings view
    | (.error failure, w) => (.error failure, w)

/-- The invocation of a plan. -/
def invocation {σ : Type} [Cluster.Callable σ] (settings : Settings) (plan : Plan) :
    Invocation σ :=
  { name := plan.name, check := fun _ => plan.check
    middlewares := plan.stages.map (Stage.middleware settings)
    handler := plan.handler settings, args := plan.args }

end Plan

end BlockStorage
