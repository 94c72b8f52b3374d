import BlockStorage.Api
import BlockStorage.Resource.Format

/-!
What is sent for a call: a verb, a path, parameters and a body.

The constraints of a change travel with its message. The version goes into the body if there is one,
and into a parameter otherwise; the longest wait is always a parameter. A look-up by name sends the
message of the listing that it searches.
-/

namespace BlockStorage.Rest

/-- What a message asks for. -/
inductive Verb where
  | get | post | put | delete
deriving DecidableEq, Repr

/-- The verb as it is sent. -/
def Verb.text : Verb → String
  | .get => "GET"
  | .post => "POST"
  | .put => "PUT"
  | .delete => "DELETE"

/-- What is sent; the path is in segments that are not yet encoded. -/
structure Message where
  verb : Verb
  path : List String
  parameters : List (String × String)
  body : Option Document

namespace Message

/-! ### Constraints -/

/-- The parameter of the longest wait. -/
def waitParameters (params : RequestParams) : List (String × String) :=
  match params.asyncMax with
  | some longest => [("asyncMax", longest.wireText)]
  | none => []

/-- The parameter of the version. -/
def versionParameters (params : RequestParams) : List (String × String) :=
  match params.casVersion with
  | some version => [("version", version.text)]
  | none => []

/-- The field of the version. -/
def versionFields (params : RequestParams) : List (String × Document) :=
  match params.casVersion with
  | some version => [("version", .text version.text)]
  | none => []

/-! ### Messages by kind -/

/-- A message that changes nothing. -/
def get (path : List String) : Message := ⟨.get, path, [], none⟩

/-- A change whose body holds the version. -/
def change (verb : Verb) (path : List String) (fields : List (String × Document))
    (params : RequestParams) : Message :=
  ⟨verb, path, [], some (.record (fields ++ versionFields params))⟩

/-- A change that may be done later. -/
def submit (verb : Verb) (path : List String) (fields : List (String × Document))
    (params : RequestParams) : Message :=
  { change verb path fields params with parameters := waitParameters params }

/-- A removal, which has no body. -/
def remove (path : List String) (params : RequestParams) : Message :=
  ⟨.delete, path, waitParameters params ++ versionParameters params, none⟩

/-! ### Paths -/

/-- The path of all namespaces. -/
def namespaces : List String := ["v2", "namespaces"]

/-- The path of a namespace. -/
def namespacePath (ns : NamespaceId) : List String := namespaces ++ [ns.text]

/-- The path of the volumes of a namespace. -/
def volumes (ns : NamespaceId) : List String := namespacePath ns ++ ["volumes"]

/-- The path of a volume. -/
def volumePath (ns : NamespaceId) (id : VolumeId) : List String := volumes ns ++ [id.text]

/-- The path of all nodes. -/
def nodes : List String := ["v2", "nodes"]

/-- The path of a node. -/
def nodePath (id : NodeId) : List String := nodes ++ [id.text]

/-- The path of all users. -/
def users : List String := ["v2", "users"]

/-- The path of all policy groups. -/
def policies : List String := ["v2", "policies"]

/-! ### Messages of calls -/

/-- The fields of a new namespace, in the order of their names. -/
def namespaceFields (name : String) (labels : Labels) : List (String × Document) :=
  [("labels", DocumentFormat.labels.write labels), ("name", .text name)]

/-- The fields of a new volume, in the order of their names. -/
def volumeFields (spec : VolumeSpec) : List (String × Document) :=
  [("description", .text spec.description), ("filesystem", .text spec.filesystem),
    ("labels", DocumentFormat.labels.write spec.labels), ("name", .text spec.name),
    ("sizeBytes", DocumentFormat.word.write spec.sizeBytes)]

/-- The message of a call. -/
def ofCall : Call → Message
  | .authenticate username password =>
    ⟨.post, ["v2", "auth", "login"], [],
      some (.record [("password", .text password), ("username", .text username)])⟩
  | .getLicence => get ["v2", "cluster", "licence"]
  | .listNamespaces => get namespaces
  | .getNamespace id => get (namespacePath id)
  | .getNamespaceByName _ => get namespaces
  | .createNamespace name labels =>
    ⟨.post, namespaces, [], some (.record (namespaceFields name labels))⟩
  | .deleteNamespace id params => remove (namespacePath id) params
  | .listVolumes ns => get (volumes ns)
  | .getVolume ns id => get (volumePath ns id)
  | .getVolumeByName ns _ => get (volumes ns)
  | .createVolume ns spec params => submit .post (volumes ns) (volumeFields spec) params
  | .resizeVolume ns id sizeBytes params =>
    submit .put (volumePath ns id ++ ["size"])
      [("sizeBytes", DocumentFormat.word.write sizeBytes)] params
  | .setReplicas ns id count params =>
    submit .put (volumePath ns id ++ ["replicas"]) [("replicas", .number count.toNat)] params
  | .setDescription ns id text params =>
    change .put (volumePath ns id ++ ["description"]) [("description", .text text)] params
  | .updateNfsExports ns id exports params =>
    submit .put (volumePath ns id ++ ["nfs", "config"])
      [("exports", (DocumentFormat.list DocumentFormat.«export»).write exports)] params
  | .attachVolume ns id node params =>
    submit .post (volumePath ns id ++ ["attach"]) [("nodeId", .text node.text)] params
  | .detachVolume ns id params => remove (volumePath ns id ++ ["attach"]) params
  | .deleteVolume ns id params => remove (volumePath ns id) params
  | .listNodes => get nodes
  | .getNode id => get (nodePath id)
  | .getNodeByName _ => get nodes
  | .setNodeCordoned id cordoned params =>
    change .put (nodePath id ++ ["cordon"]) [("cordoned", .bool cordoned)] params
  | .listUsers => get users
  | .getUser id => get (users ++ [id.text])
  | .getUserByName _ => get users
  | .listPolicyGroups => get policies
  | .getPolicyGroup id => get (policies ++ [id.text])
  | .getPolicyGroupByName _ => get policies

end Message

end BlockStorage.Rest
