import BlockStorage.Api

/-!
The inventory of a cluster in memory, and what each call does to it.

Every stored resource has a version token, drawn from one counter that also numbers the resources. A
change first draws a token, then looks for its target, then compares the version that it asks for, and
only then changes anything; so a change that fails leaves all resources as they were.
-/

namespace BlockStorage

/-- All that a cluster stores, with the credentials that it accepts and the counter of tokens. -/
structure Inventory where
  username : String
  password : String
  namespaces : List Namespace
  volumes : List Volume
  nodes : List Node
  users : List User
  policyGroups : List PolicyGroup
  licence : Option Licence
  drawn : Nat

namespace Inventory

/-- An empty cluster that accepts the given credentials. -/
def empty (username password : String) : Inventory :=
  ⟨username, password, [], [], [], [], [], none, 0⟩

/-! ### Tokens -/

/-- The token that is drawn next, behind a mark. -/
def token (inv : Inventory) (mark : String) : String := mark ++ "-" ++ toString (inv.drawn + 1)

/-- The inventory after a token was drawn. -/
def draw (inv : Inventory) : Inventory := { inv with drawn := inv.drawn + 1 }

/-- The version token that is drawn next. -/
def nextVersion (inv : Inventory) : Version := ⟨inv.token "v"⟩

/-! ### Setting a cluster up -/

/-- Stores a new namespace without labels; the first token names it, the second is its version. -/
def addNamespace (now : Timestamp) (name : String) (inv : Inventory) : Namespace × Inventory :=
  let id : NamespaceId := ⟨inv.token "ns"⟩
  let inv := inv.draw
  let ns : Namespace := ⟨id, name, .empty, now, now, inv.nextVersion⟩
  let inv := inv.draw
  (ns, { inv with namespaces := inv.namespaces ++ [ns] })

/-- Stores a new detached volume without replicas. -/
def addVolume (now : Timestamp) (ns : NamespaceId) (name : String) (sizeBytes : UInt64)
    (labels : Labels) (inv : Inventory) : Volume × Inventory :=
  let id : VolumeId := ⟨inv.token "vol"⟩
  let inv := inv.draw
  let volume : Volume :=
    { id, name, description := "", namespaceId := ns, labels, filesystem := "ext4", sizeBytes,
      attachedOn := none, attachmentType := .detached, nfs := .empty, master := none,
      replicas := [], createdAt := now, updatedAt := now, version := inv.nextVersion }
  let inv := inv.draw
  (volume, { inv with volumes := inv.volumes ++ [volume] })

/-- Stores a new node that is online and takes volumes. -/
def addNode (now : Timestamp) (name : String) (labels : Labels) (inv : Inventory) :
    Node × Inventory :=
  let id : NodeId := ⟨inv.token "node"⟩
  let inv := inv.draw
  let node : Node :=
    { id, name, health := .online, labels, cordoned := false, ioEndpoint := name ++ ":5703",
      createdAt := now, updatedAt := now, version := inv.nextVersion }
  let inv := inv.draw
  (node, { inv with nodes := inv.nodes ++ [node] })

/-- Stores a new user of no group. -/
def addUser (now : Timestamp) (username : String) (isAdmin : Bool) (inv : Inventory) :
    User × Inventory :=
  let id : UserId := ⟨inv.token "user"⟩
  let inv := inv.draw
  let user : User := ⟨id, username, isAdmin, [], now, now, inv.nextVersion⟩
  let inv := inv.draw
  (user, { inv with users := inv.users ++ [user] })

/-- Stores a new policy group without members and policies. -/
def addPolicyGroup (now : Timestamp) (name : String) (inv : Inventory) : PolicyGroup × Inventory :=
  let id : PolicyGroupId := ⟨inv.token "pg"⟩
  let inv := inv.draw
  let group : PolicyGroup := ⟨id, name, [], [], now, now, inv.nextVersion⟩
  let inv := inv.draw
  (group, { inv with policyGroups := inv.policyGroups ++ [group] })

/-- Gives the cluster a licence for a year. -/
def setLicence (now : Timestamp) (kind : String) (capacityBytes : UInt64) (inv : Inventory) :
    Licence × Inventory :=
  let licence : Licence :=
    ⟨⟨"cluster-1"⟩, now.addDays 365, capacityBytes, 0, kind, "ACME", [], inv.nextVersion⟩
  (licence, { inv.draw with licence := some licence })

/-! ### Looking resources up -/

/-- The first item that meets a condition, or the error that there is none. -/
def findOr {α : Type} (kind : ResourceKind) (reference : String) (p : α → Bool)
    (items : List α) : Except ClientError α :=
  match items.find? p with
  | some item => .ok item
  | none => .error (.notFound kind reference)

/-- The volume with an identifier in a namespace. -/
def volumeIn (inv : Inventory) (ns : NamespaceId) (id : VolumeId) : Except ClientError Volume :=
  findOr .volume id.text (fun v => v.namespaceId = ns && v.id = id) inv.volumes

/-- The volume with an identifier in any namespace. -/
def volume? (inv : Inventory) (id : VolumeId) : Option Volume := inv.volumes.find? fun v => v.id = id

/-- The node with an identifier. -/
def node? (inv : Inventory) (id : NodeId) : Option Node := inv.nodes.find? fun n => n.id = id

/-! ### Checks -/

/-- Compares the version of a resource with the one that a change asks for. -/
def checkVersion (current : Version) (params : RequestParams) : Except ClientError Unit :=
  match params.casVersion with
  | some expected =>
    if expected = current then .ok ()
    else
      .error (.conflict
        ("version mismatch: expected " ++ expected.text ++ ", found " ++ current.text))
  | none => .ok ()

/-- The sum of the sizes of all volumes. -/
def provisioned (inv : Inventory) : Nat :=
  inv.volumes.foldl (fun total v => total + v.sizeBytes.toNat) 0

/-- The largest word of 64 bits, if a sum is larger. -/
def saturatingSum (a b : Nat) : Nat := min (a + b) 18446744073709551615

/-- The error of a licence that has no room for what was asked. -/
def capacityExceeded (licence : Licence) : ClientError :=
  .licenceCapability
    ("provisioned capacity would exceed the licensed " ++
      toString licence.clusterCapacityBytes.toNat ++ " bytes")

/-- Whether the licence has room for more bytes. The sum of the sizes so far must be a word of 64 bits;
the bytes on top may exceed the words, and then exceed the licence unless that is for the largest
word. -/
def checkCapacity (inv : Inventory) (extra : UInt64) : Except CallFailure Unit :=
  match inv.licence with
  | none => .ok ()
  | some licence =>
    if UInt64.size ≤ inv.provisioned then .error .brokenOff
    else if licence.clusterCapacityBytes.toNat < saturatingSum inv.provisioned extra.toNat then
      .error (.client (capacityExceeded licence))
    else .ok ()

/-! ### Changes -/

/-- The list with the first item that meets a condition changed. -/
def changeFirst {α : Type} (p : α → Bool) (change : α → α) : List α → List α
  | [] => []
  | a :: as => if p a then change a :: as else a :: changeFirst p change as

/-- The list without the first item that meets a condition. -/
def removeFirst {α : Type} (p : α → Bool) : List α → List α
  | [] => []
  | a :: as => if p a then as else a :: removeFirst p as

/-- The answer to a change that may have been asked to be done later. -/
def submission {α : Type} (value : α) (params : RequestParams) : Submission α :=
  if params.isAsync then .accepted else .completed value

/-- Changes a volume and gives it a new version. -/
def updateVolume (now : Timestamp) (ns : NamespaceId) (id : VolumeId) (params : RequestParams)
    (change : Volume → Volume) (inv : Inventory) : Except ClientError Volume × Inventory :=
  let version := inv.nextVersion
  let inv := inv.draw
  match inv.volumeIn ns id with
  | .error e => (.error e, inv)
  | .ok volume =>
    match checkVersion volume.version params with
    | .error e => (.error e, inv)
    | .ok () =>
      let changed := { change volume with version := version, updatedAt := now }
      (.ok changed,
        { inv with
          volumes := changeFirst (fun v => v.namespaceId = ns && v.id = id) (fun _ => changed)
            inv.volumes })

/-- The answer of a change of a volume as a submission. -/
def submitted {α : Type} (params : RequestParams) (answer : Volume → α)
    (step : Except ClientError Volume × Inventory) : Except ClientError (Submission α) × Inventory :=
  (step.1.map fun volume => submission (answer volume) params, step.2)

/-- A step that cannot break off, as one of a call. -/
def ofClient {α : Type} (step : Except ClientError α × Inventory) :
    Except CallFailure α × Inventory :=
  (step.1.mapError .client, step.2)

/-- Opens a session of five minutes for the credentials that the cluster accepts. -/
def authenticate (now : Timestamp) (username password : String) (inv : Inventory) :
    Except ClientError Session :=
  if inv.username = username && inv.password = password then
    .ok ⟨⟨"user-admin"⟩, username, some (now.addSeconds 300)⟩
  else .error (.unauthenticated "invalid credentials")

/-- Creates a namespace with labels, unless one has its name. -/
def createNamespace (now : Timestamp) (name : String) (labels : Labels) (inv : Inventory) :
    Except ClientError Namespace × Inventory :=
  if inv.namespaces.any fun ns => ns.name = name then
    (.error (.conflict ("namespace " ++ name ++ " already exists")), inv)
  else
    let (ns, inv) := inv.addNamespace now name
    (.ok { ns with labels := labels },
      { inv with
        namespaces := changeFirst (fun n => n.id = ns.id) (fun n => { n with labels := labels })
          inv.namespaces })

/-- Removes a namespace; its volumes stay. -/
def deleteNamespace (id : NamespaceId) (params : RequestParams) (inv : Inventory) :
    Except ClientError Unit × Inventory :=
  match findOr .namespace id.text (fun (ns : Namespace) => ns.id = id) inv.namespaces with
  | .error e => (.error e, inv)
  | .ok ns =>
    match checkVersion ns.version params with
    | .error e => (.error e, inv)
    | .ok () => (.ok (), { inv with namespaces := removeFirst (fun ns => ns.id = id) inv.namespaces })

/-- Gives a new volume its description, and its filesystem unless that is empty. -/
def describeNew (spec : VolumeSpec) (v : Volume) : Volume :=
  { v with
    description := spec.description
    filesystem := if spec.filesystem.isEmpty then v.filesystem else spec.filesystem }

/-- Creates a volume in a namespace that exists, under a name that is free there, if the licence has
room. -/
def createVolume (now : Timestamp) (ns : NamespaceId) (spec : VolumeSpec) (params : RequestParams)
    (inv : Inventory) : Except CallFailure (Submission Volume) × Inventory :=
  if !inv.namespaces.any (fun n => n.id = ns) then
    (.error (.client (.notFound .namespace ns.text)), inv)
  else if inv.volumes.any fun v => v.namespaceId = ns && v.name = spec.name then
    (.error (.client (.conflict ("volume " ++ spec.name ++ " already exists"))), inv)
  else
    match inv.checkCapacity spec.sizeBytes with
    | .error e => (.error e, inv)
    | .ok () =>
      let (volume, inv) := inv.addVolume now ns spec.name spec.sizeBytes spec.labels
      ofClient (submitted params id (inv.updateVolume now ns volume.id .empty (describeNew spec)))

/-- Makes a volume larger, if the licence has room for what is added. -/
def resizeVolume (now : Timestamp) (ns : NamespaceId) (id : VolumeId) (sizeBytes : UInt64)
    (params : RequestParams) (inv : Inventory) :
    Except CallFailure (Submission Volume) × Inventory :=
  match inv.volumeIn ns id with
  | .error e => (.error (.client e), inv)
  | .ok volume =>
    if sizeBytes < volume.sizeBytes then
      (.error (.client (.api 422 "volumes cannot be shrunk")), inv)
    else
      match inv.checkCapacity (sizeBytes - volume.sizeBytes) with
      | .error e => (.error e, inv)
      | .ok () =>
        ofClient
          (submitted params (fun v => v)
            (inv.updateVolume now ns id params fun v => { v with sizeBytes := sizeBytes }))

/-- The replicas of a volume, placed on the first nodes as far as there are any. -/
def placeReplicas (volume : VolumeId) (nodes : List NodeId) (count : Nat) : List Deployment :=
  (List.range count).map fun i =>
    ⟨volume.text ++ "-r" ++ toString i, nodes.getD i .empty, .syncing, true⟩

/-- Gives a volume as many replicas as asked for, all of them new. -/
def setReplicas (now : Timestamp) (ns : NamespaceId) (id : VolumeId) (count : UInt32)
    (params : RequestParams) (inv : Inventory) :
    Except ClientError (Submission Volume) × Inventory :=
  let nodes := inv.nodes.map (·.id)
  submitted params (fun v => v)
    (inv.updateVolume now ns id params fun v =>
      { v with replicas := placeReplicas v.id nodes count.toNat })

/-- Attaches a volume to a node that exists, also if it is attached already. -/
def attachVolume (now : Timestamp) (ns : NamespaceId) (id : VolumeId) (node : NodeId)
    (params : RequestParams) (inv : Inventory) :
    Except ClientError (Submission Volume) × Inventory :=
  if inv.nodes.any fun n => n.id = node then
    submitted params (fun v => v)
      (inv.updateVolume now ns id params fun v =>
        { v with attachedOn := some node, attachmentType := .host })
  else (.error (.notFound .node node.text), inv)

/-- Detaches a volume from its node, if it has one. -/
def detachVolume (now : Timestamp) (ns : NamespaceId) (id : VolumeId) (params : RequestParams)
    (inv : Inventory) : Except ClientError (Submission Unit) × Inventory :=
  submitted params (fun _ => ())
    (inv.updateVolume now ns id params fun v =>
      { v with attachedOn := none, attachmentType := .detached })

/-- Removes a volume. It draws no token, since nothing is left to carry a version. -/
def deleteVolume (ns : NamespaceId) (id : VolumeId) (params : RequestParams) (inv : Inventory) :
    Except ClientError (Submission Unit) × Inventory :=
  match inv.volumeIn ns id with
  | .error e => (.error e, inv)
  | .ok volume =>
    match checkVersion volume.version params with
    | .error e => (.error e, inv)
    | .ok () =>
      (.ok (submission () params), { inv with volumes := inv.volumes.filter fun v => v.id ≠ id })

/-- Says whether a node takes no more volumes. -/
def setNodeCordoned (now : Timestamp) (id : NodeId) (cordoned : Bool) (params : RequestParams)
    (inv : Inventory) : Except ClientError Node × Inventory :=
  let version := inv.nextVersion
  let inv := inv.draw
  match findOr .node id.text (fun (n : Node) => n.id = id) inv.nodes with
  | .error e => (.error e, inv)
  | .ok node =>
    match checkVersion node.version params with
    | .error e => (.error e, inv)
    | .ok () =>
      let changed := { node with cordoned := cordoned, version := version, updatedAt := now }
      (.ok changed, { inv with nodes := changeFirst (fun n => n.id = id) (fun _ => changed) inv.nodes })

/-- The answer to a call and the inventory after it. -/
def perform (now : Timestamp) (inv : Inventory) : (call : Call) →
    Except CallFailure call.Answer × Inventory
  | .authenticate username password => ofClient (inv.authenticate now username password, inv)
  | .getLicence =>
    match inv.licence with
    | some licence => (.ok licence, inv)
    | none => (.error (.client (.notFound .licence "cluster")), inv)
  | .listNamespaces => (.ok inv.namespaces, inv)
  | .getNamespace id =>
    ofClient (findOr .namespace id.text (fun (ns : Namespace) => ns.id = id) inv.namespaces, inv)
  | .getNamespaceByName name =>
    ofClient (findOr .namespace name (fun (ns : Namespace) => ns.name = name) inv.namespaces, inv)
  | .createNamespace name labels => ofClient (inv.createNamespace now name labels)
  | .deleteNamespace id params => ofClient (inv.deleteNamespace id params)
  | .listVolumes ns => (.ok (inv.volumes.filter fun v => v.namespaceId = ns), inv)
  | .getVolume ns id => ofClient (inv.volumeIn ns id, inv)
  | .getVolumeByName ns name =>
    ofClient
      (findOr .volume name (fun (v : Volume) => v.namespaceId = ns && v.name = name) inv.volumes,
        inv)
  | .createVolume ns spec params => inv.createVolume now ns spec params
  | .resizeVolume ns id sizeBytes params => inv.resizeVolume now ns id sizeBytes params
  | .setReplicas ns id count params => ofClient (inv.setReplicas now ns id count params)
  | .setDescription ns id text params =>
    ofClient (inv.updateVolume now ns id params fun v => { v with description := text })
  | .updateNfsExports ns id exports params =>
    ofClient
      (submitted params (fun v => v)
        (inv.updateVolume now ns id params fun v =>
          { v with nfs := { v.nfs with exports := exports } }))
  | .attachVolume ns id node params => ofClient (inv.attachVolume now ns id node params)
  | .detachVolume ns id params => ofClient (inv.detachVolume now ns id params)
  | .deleteVolume ns id params => ofClient (inv.deleteVolume ns id params)
  | .listNodes => (.ok inv.nodes, inv)
  | .getNode id => ofClient (findOr .node id.text (fun (n : Node) => n.id = id) inv.nodes, inv)
  | .getNodeByName name =>
    ofClient (findOr .node name (fun (n : Node) => n.name = name) inv.nodes, inv)
  | .setNodeCordoned id cordoned params => ofClient (inv.setNodeCordoned now id cordoned params)
  | .listUsers => (.ok inv.users, inv)
  | .getUser id => ofClient (findOr .user id.text (fun (u : User) => u.id = id) inv.users, inv)
  | .getUserByName username =>
    ofClient (findOr .user username (fun (u : User) => u.username = username) inv.users, inv)
  | .listPolicyGroups => (.ok inv.policyGroups, inv)
  | .getPolicyGroup id =>
    ofClient
      (findOr .policyGroup id.text (fun (g : PolicyGroup) => g.id = id) inv.policyGroups, inv)
  | .getPolicyGroupByName name =>
    ofClient
      (findOr .policyGroup name (fun (g : PolicyGroup) => g.name = name) inv.policyGroups, inv)

end Inventory

end BlockStorage
