import BlockStorage.Duration
import BlockStorage.Error.Client
import BlockStorage.Resource.Basic

/-!
The calls that a client makes to the cluster, and the type of the answer of each.

A call is a value, so that what a command does can be stated as the list of its calls. Most changes
take request parameters: the version that the resource must still have, and how long to wait for the
change at most when only its acceptance is asked for.
-/

namespace BlockStorage

/-- Constraints of a change: the version that the resource must have, and the longest wait when the
change may be carried out later. -/
structure RequestParams where
  casVersion : Option Version
  asyncMax : Option Duration
deriving DecidableEq, Repr

namespace RequestParams

/-- An unconditional change that is awaited. -/
def empty : RequestParams := ⟨none, none⟩

instance : Inhabited RequestParams := ⟨empty⟩

/-- Whether a change may be done later. -/
def isAsync (p : RequestParams) : Bool := p.asyncMax.isSome

/-- Asks for a version, if one is given. -/
def withCas (p : RequestParams) : Option String → RequestParams
  | some version => ⟨some ⟨version⟩, p.asyncMax⟩
  | none => p

/-- Asks for acceptance only, if enabled. -/
def withAsync (p : RequestParams) (enabled : Bool) (longest : Duration) : RequestParams :=
  if enabled then ⟨p.casVersion, some longest⟩ else p

end RequestParams

/-- The answer to a change: done, with what came of it, or accepted for later. -/
inductive Submission (α : Type) where
  | completed (value : α)
  | accepted
deriving DecidableEq

/-- What a new volume is to be. -/
structure VolumeSpec where
  name : String
  description : String
  sizeBytes : UInt64
  filesystem : String
  labels : Labels
deriving DecidableEq

/-- The calls by name. -/
inductive Method where
  | authenticate | getLicence
  | listNamespaces | getNamespace | getNamespaceByName | createNamespace | deleteNamespace
  | listVolumes | getVolume | getVolumeByName | createVolume | resizeVolume | setReplicas
  | setDescription | updateNfsExports | attachVolume | detachVolume | deleteVolume
  | listNodes | getNode | getNodeByName | setNodeCordoned
  | listUsers | getUser | getUserByName
  | listPolicyGroups | getPolicyGroup | getPolicyGroupByName
deriving DecidableEq, Repr

namespace Method

/-- The name of the call as it is written. -/
def name : Method → String
  | .authenticate => "authenticate"
  | .getLicence => "get_licence"
  | .listNamespaces => "list_namespaces"
  | .getNamespace => "get_namespace"
  | .getNamespaceByName => "get_namespace_by_name"
  | .createNamespace => "create_namespace"
  | .deleteNamespace => "delete_namespace"
  | .listVolumes => "list_volumes"
  | .getVolume => "get_volume"
  | .getVolumeByName => "get_volume_by_name"
  | .createVolume => "create_volume"
  | .resizeVolume => "resize_volume"
  | .setReplicas => "set_replicas"
  | .setDescription => "set_description"
  | .updateNfsExports => "update_nfs_exports"
  | .attachVolume => "attach_volume"
  | .detachVolume => "detach_volume"
  | .deleteVolume => "delete_volume"
  | .listNodes => "list_nodes"
  | .getNode => "get_node"
  | .getNodeByName => "get_node_by_name"
  | .setNodeCordoned => "set_node_cordoned"
  | .listUsers => "list_users"
  | .getUser => "get_user"
  | .getUserByName => "get_user_by_name"
  | .listPolicyGroups => "list_policy_groups"
  | .getPolicyGroup => "get_policy_group"
  | .getPolicyGroupByName => "get_policy_group_by_name"

/-- All calls in the order of their listing. -/
def all : List Method :=
  [.authenticate, .getLicence, .listNamespaces, .getNamespace, .getNamespaceByName,
    .createNamespace, .deleteNamespace, .listVolumes, .getVolume, .getVolumeByName, .createVolume,
    .resizeVolume, .setReplicas, .setDescription, .updateNfsExports, .attachVolume, .detachVolume,
    .deleteVolume, .listNodes, .getNode, .getNodeByName, .setNodeCordoned, .listUsers, .getUser,
    .getUserByName, .listPolicyGroups, .getPolicyGroup, .getPolicyGroupByName]

/-- The call with a name. -/
def ofName? (s : String) : Option Method := all.find? fun m => m.name = s

/-- Whether the call looks a resource up by its name. -/
def isByName : Method → Bool
  | .getNamespaceByName => true
  | .getVolumeByName => true
  | .getNodeByName => true
  | .getUserByName => true
  | .getPolicyGroupByName => true
  | _ => false

/-- Whether the call changes the cluster. -/
def isMutating : Method → Bool
  | .createNamespace => true
  | .deleteNamespace => true
  | .createVolume => true
  | .resizeVolume => true
  | .setReplicas => true
  | .setDescription => true
  | .updateNfsExports => true
  | .attachVolume => true
  | .detachVolume => true
  | .deleteVolume => true
  | .setNodeCordoned => true
  | _ => false

end Method

/-- A call with its arguments. -/
inductive Call where
  | authenticate (username password : String)
  | getLicence
  | listNamespaces
  | getNamespace (id : NamespaceId)
  | getNamespaceByName (name : String)
  | createNamespace (name : String) (labels : Labels)
  | deleteNamespace (id : NamespaceId) (params : RequestParams)
  | listVolumes (ns : NamespaceId)
  | getVolume (ns : NamespaceId) (id : VolumeId)
  | getVolumeByName (ns : NamespaceId) (name : String)
  | createVolume (ns : NamespaceId) (spec : VolumeSpec) (params : RequestParams)
  | resizeVolume (ns : NamespaceId) (id : VolumeId) (sizeBytes : UInt64) (params : RequestParams)
  | setReplicas (ns : NamespaceId) (id : VolumeId) (count : UInt32) (params : RequestParams)
  | setDescription (ns : NamespaceId) (id : VolumeId) (text : String) (params : RequestParams)
  | updateNfsExports (ns : NamespaceId) (id : VolumeId) (exports : List Export)
      (params : RequestParams)
  | attachVolume (ns : NamespaceId) (id : VolumeId) (node : NodeId) (params : RequestParams)
  | detachVolume (ns : NamespaceId) (id : VolumeId) (params : RequestParams)
  | deleteVolume (ns : NamespaceId) (id : VolumeId) (params : RequestParams)
  | listNodes
  | getNode (id : NodeId)
  | getNodeByName (name : String)
  | setNodeCordoned (id : NodeId) (cordoned : Bool) (params : RequestParams)
  | listUsers
  | getUser (id : UserId)
  | getUserByName (username : String)
  | listPolicyGroups
  | getPolicyGroup (id : PolicyGroupId)
  | getPolicyGroupByName (name : String)
deriving DecidableEq

namespace Call

/-- The type of the answer to a call. -/
@[reducible] def Answer : Call → Type
  | .authenticate .. => Session
  | .getLicence => Licence
  | .listNamespaces => List Namespace
  | .getNamespace _ => Namespace
  | .getNamespaceByName _ => Namespace
  | .createNamespace .. => Namespace
  | .deleteNamespace .. => Unit
  | .listVolumes _ => List Volume
  | .getVolume .. => Volume
  | .getVolumeByName .. => Volume
  | .createVolume .. => Submission Volume
  | .resizeVolume .. => Submission Volume
  | .setReplicas .. => Submission Volume
  | .setDescription .. => Volume
  | .updateNfsExports .. => Submission Volume
  | .attachVolume .. => Submission Volume
  | .detachVolume .. => Submission Unit
  | .deleteVolume .. => Submission Unit
  | .listNodes => List Node
  | .getNode _ => Node
  | .getNodeByName _ => Node
  | .setNodeCordoned .. => Node
  | .listUsers => List User
  | .getUser _ => User
  | .getUserByName _ => User
  | .listPolicyGroups => List PolicyGroup
  | .getPolicyGroup _ => PolicyGroup
  | .getPolicyGroupByName _ => PolicyGroup

/-- The call without its arguments. -/
def method : Call → Method
  | .authenticate .. => .authenticate
  | .getLicence => .getLicence
  | .listNamespaces => .listNamespaces
  | .getNamespace _ => .getNamespace
  | .getNamespaceByName _ => .getNamespaceByName
  | .createNamespace .. => .createNamespace
  | .deleteNamespace .. => .deleteNamespace
  | .listVolumes _ => .listVolumes
  | .getVolume .. => .getVolume
  | .getVolumeByName .. => .getVolumeByName
  | .createVolume .. => .createVolume
  | .resizeVolume .. => .resizeVolume
  | .setReplicas .. => .setReplicas
  | .setDescription .. => .setDescription
  | .updateNfsExports .. => .updateNfsExports
  | .attachVolume .. => .attachVolume
  | .detachVolume .. => .detachVolume
  | .deleteVolume .. => .deleteVolume
  | .listNodes => .listNodes
  | .getNode _ => .getNode
  | .getNodeByName _ => .getNodeByName
  | .setNodeCordoned .. => .setNodeCordoned
  | .listUsers => .listUsers
  | .getUser _ => .getUser
  | .getUserByName _ => .getUserByName
  | .listPolicyGroups => .listPolicyGroups
  | .getPolicyGroup _ => .getPolicyGroup
  | .getPolicyGroupByName _ => .getPolicyGroupByName

/-- The parameters of a change that takes them. -/
def params? : Call → Option RequestParams
  | .deleteNamespace _ params => some params
  | .createVolume _ _ params => some params
  | .resizeVolume _ _ _ params => some params
  | .setReplicas _ _ _ params => some params
  | .setDescription _ _ _ params => some params
  | .updateNfsExports _ _ _ params => some params
  | .attachVolume _ _ _ params => some params
  | .detachVolume _ _ params => some params
  | .deleteVolume _ _ params => some params
  | .setNodeCordoned _ _ params => some params
  | _ => none

end Call

end BlockStorage
