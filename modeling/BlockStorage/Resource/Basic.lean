import BlockStorage.Export
import BlockStorage.Ident
import BlockStorage.Labels
import BlockStorage.Time.Timestamp

/-!
Resources of the cluster, as the interface reports them.

Every stored resource carries a version token that names its revision; a request may repeat the token
to ask that the resource has not changed since.
-/

namespace BlockStorage

/-- The health of a node or of a copy of a volume. -/
inductive Health where
  | online | offline | ready | syncing | degraded | unknown
deriving DecidableEq, Repr

namespace Health

/-- The name of the health. -/
def text : Health → String
  | .online => "online"
  | .offline => "offline"
  | .ready => "ready"
  | .syncing => "syncing"
  | .degraded => "degraded"
  | .unknown => "unknown"

/-- The names of all states. -/
def names : List String := ["online", "offline", "ready", "syncing", "degraded", "unknown"]

/-- The health with a name. -/
def ofText? (s : String) : Option Health :=
  if s = "online" then some .online
  else if s = "offline" then some .offline
  else if s = "ready" then some .ready
  else if s = "syncing" then some .syncing
  else if s = "degraded" then some .degraded
  else if s = "unknown" then some .unknown
  else none

@[simp] theorem ofText?_text (h : Health) : ofText? h.text = some h := by cases h <;> rfl

end Health

/-- How a volume is presented to the node it is attached on. -/
inductive AttachmentType where
  | detached | host | nfs
deriving DecidableEq, Repr

namespace AttachmentType

/-- The name of the attachment. -/
def text : AttachmentType → String
  | .detached => "detached"
  | .host => "host"
  | .nfs => "nfs"

/-- The names of all attachments. -/
def names : List String := ["detached", "host", "nfs"]

/-- The attachment with a name. -/
def ofText? (s : String) : Option AttachmentType :=
  if s = "detached" then some .detached
  else if s = "host" then some .host
  else if s = "nfs" then some .nfs
  else none

@[simp] theorem ofText?_text (t : AttachmentType) : ofText? t.text = some t := by cases t <;> rfl

end AttachmentType

/-- A scope of volumes and policies. -/
structure Namespace where
  id : NamespaceId
  name : String
  labels : Labels
  createdAt : Timestamp
  updatedAt : Timestamp
  version : Version
deriving DecidableEq

/-- A copy of the data of a volume. -/
structure Deployment where
  id : String
  nodeId : NodeId
  health : Health
  syncing : Bool
deriving DecidableEq, Repr

/-- A replicated block volume. -/
structure Volume where
  id : VolumeId
  name : String
  description : String
  namespaceId : NamespaceId
  labels : Labels
  filesystem : String
  sizeBytes : UInt64
  attachedOn : Option NodeId
  attachmentType : AttachmentType
  nfs : NfsConfig
  master : Option Deployment
  replicas : List Deployment
  createdAt : Timestamp
  updatedAt : Timestamp
  version : Version
deriving DecidableEq

/-- A storage node. -/
structure Node where
  id : NodeId
  name : String
  health : Health
  labels : Labels
  cordoned : Bool
  ioEndpoint : String
  createdAt : Timestamp
  updatedAt : Timestamp
  version : Version
deriving DecidableEq

/-- A user of the interface. -/
structure User where
  id : UserId
  username : String
  isAdmin : Bool
  groups : List PolicyGroupId
  createdAt : Timestamp
  updatedAt : Timestamp
  version : Version
deriving DecidableEq

/-- What a policy group grants in a namespace. -/
structure PolicySpec where
  namespaceId : NamespaceId
  readOnly : Bool
deriving DecidableEq, Repr

/-- Users that share permissions. -/
structure PolicyGroup where
  id : PolicyGroupId
  name : String
  users : List UserId
  specs : List PolicySpec
  createdAt : Timestamp
  updatedAt : Timestamp
  version : Version
deriving DecidableEq

/-- The licence of the cluster. -/
structure Licence where
  clusterId : ClusterId
  expiresAt : Timestamp
  clusterCapacityBytes : UInt64
  usedBytes : UInt64
  kind : String
  customerName : String
  features : List String
  version : Version
deriving DecidableEq

/-- Whether the licence is of the free kind; case does not matter. -/
def Licence.isBasic (l : Licence) : Bool :=
  l.kind.toList.map Char.toLower = "basic".toList

/-- An open session at the interface. -/
structure Session where
  userId : UserId
  username : String
  expiresAt : Option Timestamp
deriving DecidableEq

end BlockStorage
