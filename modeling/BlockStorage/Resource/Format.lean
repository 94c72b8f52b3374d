import BlockStorage.Document.Shape
import BlockStorage.Resource.Basic

/-!
Documents of resources: their fields, the order of the fields and the defaults of absent ones.

A format of a type of values says how a value is written as a document, which shape the document has
and how a document of that shape is read back. A value that does not exist is left out of its record.
-/

namespace BlockStorage

/-- How values of a type are written as documents and read back. -/
structure DocumentFormat (α : Type) where
  shape : Shape
  write : α → Document
  ofDocument? : Document → Option α

namespace DocumentFormat

/-- Reads a draft; the first fault decides. -/
def read {α : Type} (format : DocumentFormat α) (d : Draft) : Except Fault α := do
  match format.ofDocument? (← format.shape.read d) with
  | some value => return value
  | none => throw .data

/-- Reads a JSON text. -/
def readText {α : Type} (format : DocumentFormat α) (s : List Char) : Except Fault α := do
  match format.ofDocument? (← format.shape.readText? s) with
  | some value => return value
  | none => throw .data

/-! ### Leaves -/

/-- A text. -/
def text : DocumentFormat String where
  shape := .text
  write := .text
  ofDocument?
    | .text s => some s
    | _ => none

/-- A truth value. -/
def bool : DocumentFormat Bool where
  shape := .bool
  write := .bool
  ofDocument?
    | .bool b => some b
    | _ => none

/-- A natural number of 64 bits. -/
def word : DocumentFormat UInt64 where
  shape := .word
  write n := .number n.toNat
  ofDocument?
    | .number n => some (UInt64.ofNat n)
    | _ => none

/-- A point in time. -/
def time : DocumentFormat Timestamp where
  shape := .time
  write := .time
  ofDocument?
    | .time t => some t
    | _ => none

/-- An identifier, which is written as its text. -/
def ident (kind : IdKind) : DocumentFormat (Ident kind) where
  shape := .text
  write id := .text id.text
  ofDocument?
    | .text s => some ⟨s⟩
    | _ => none

/-- The entries of a record of texts. -/
def textEntries? : List (String × Document) → Option (List (String × String))
  | [] => some []
  | (key, .text value) :: rest => (textEntries? rest).map ((key, value) :: ·)
  | _ => none

/-- Labels, which are written as a record of texts in the order of the keys. -/
def labels : DocumentFormat Labels where
  shape := .labels
  write l := .record (l.entries.map fun (key, value) => (key, .text value))
  ofDocument?
    | .record fields => (textEntries? fields).map Labels.ofList
    | _ => none

/-- A type with a name for each of its values. -/
def choice {α : Type} (names : List String) (other : Option String) (text : α → String)
    (ofText? : String → Option α) : DocumentFormat α where
  shape := .choice names other
  write a := .text (text a)
  ofDocument?
    | .text s => ofText? s
    | _ => none

/-- The health of a resource; a name that is not known stands for unknown health. -/
def health : DocumentFormat Health := choice Health.names (some "unknown") Health.text Health.ofText?

/-- How a volume is presented to its node. -/
def attachmentType : DocumentFormat AttachmentType :=
  choice AttachmentType.names none AttachmentType.text AttachmentType.ofText?

/-- What the matcher of a rule is compared with. -/
def identityType : DocumentFormat IdentityType :=
  choice ["cidr", "hostname", "netgroup"] none IdentityType.text IdentityType.ofText?

/-- Which identities a rule of an export replaces. -/
def squash : DocumentFormat Squash :=
  choice ["none", "root", "rootuid", "all"] none Squash.text Squash.ofText?

/-- What a rule of an export grants. -/
def access : DocumentFormat Access := choice ["rw", "ro"] none Access.text Access.ofText?

/-! ### Lists and fields -/

/-- Reads all documents of a list. -/
def allOf? {α : Type} (ofDocument? : Document → Option α) : List Document → Option (List α)
  | [] => some []
  | d :: ds => do
    let a ← ofDocument? d
    let as ← allOf? ofDocument? ds
    return a :: as

/-- A list, whose items are all of one format. -/
def list {α : Type} (item : DocumentFormat α) : DocumentFormat (List α) where
  shape := .list item.shape
  write as := .list (as.map item.write)
  ofDocument?
    | .list ds => allOf? item.ofDocument? ds
    | _ => none

/-- The value of a field of a document. -/
def field? {α : Type} (format : DocumentFormat α) (name : String) (d : Document) : Option α :=
  (d.field? name).bind format.ofDocument?

/-- The value of a field that may be left out; nothing if the field is there and does not fit. -/
def optionalField? {α : Type} (format : DocumentFormat α) (name : String) (d : Document) :
    Option (Option α) :=
  match d.field? name with
  | none => some none
  | some value => (format.ofDocument? value).map some

/-- A field that must be there. -/
def required {α : Type} (format : DocumentFormat α) (name : String) (rest : Shape.Fields) :
    Shape.Fields :=
  .field name format.shape .refused rest

/-- A field with a default. -/
def defaulted {α : Type} (format : DocumentFormat α) (name : String) (value : α)
    (rest : Shape.Fields) : Shape.Fields :=
  .field name format.shape (.default (format.write value)) rest

/-- A field that may have no value. -/
def optional {α : Type} (format : DocumentFormat α) (name : String) (rest : Shape.Fields) :
    Shape.Fields :=
  .field name format.shape .noValue rest

/-! ### Exports -/

/-- A rule of an export. -/
def accessRule : DocumentFormat AccessRule where
  shape := .record <|
    required identityType "identityType" <| required text "matcher" <| required word "uid" <|
    required word "gid" <| required squash "squash" <| required access "access" .nil
  write r := .record
    [("identityType", identityType.write r.identityType), ("matcher", text.write r.matcher),
      ("uid", word.write r.uid), ("gid", word.write r.gid), ("squash", squash.write r.squash),
      ("access", access.write r.access)]
  ofDocument? d := do
    return {
      identityType := ← identityType.field? "identityType" d
      matcher := ← text.field? "matcher" d
      uid := ← word.field? "uid" d
      gid := ← word.field? "gid" d
      squash := ← squash.field? "squash" d
      access := ← access.field? "access" d }

/-- An NFS export. -/
def «export» : DocumentFormat Export where
  shape := .record <|
    required word "exportId" <| required text "path" <| required text "pseudoPath" <|
    required (list accessRule) "acls" .nil
  write e := .record
    [("exportId", word.write e.exportId), ("path", text.write e.path),
      ("pseudoPath", text.write e.pseudoPath), ("acls", (list accessRule).write e.acls)]
  ofDocument? d := do
    return {
      exportId := ← word.field? "exportId" d
      path := ← text.field? "path" d
      pseudoPath := ← text.field? "pseudoPath" d
      acls := ← (list accessRule).field? "acls" d }

/-- The NFS configuration of a volume. -/
def nfsConfig : DocumentFormat NfsConfig where
  shape := .record <| defaulted (list «export») "exports" [] <| optional text "serviceEndpoint" .nil
  write c := .record <|
    [("exports", (list «export»).write c.exports)] ++
      Document.optionalField "serviceEndpoint" text.write c.serviceEndpoint
  ofDocument? d := do
    return {
      exports := ← (list «export»).field? "exports" d
      serviceEndpoint := ← text.optionalField? "serviceEndpoint" d }

/-! ### Resources -/

/-- A namespace. -/
def «namespace» : DocumentFormat Namespace where
  shape := .record <|
    required (ident .namespace) "id" <| required text "name" <|
    defaulted labels "labels" .empty <| required time "createdAt" <| required time "updatedAt" <|
    required (ident .version) "version" .nil
  write n := .record
    [("id", (ident .namespace).write n.id), ("name", text.write n.name),
      ("labels", labels.write n.labels), ("createdAt", time.write n.createdAt),
      ("updatedAt", time.write n.updatedAt), ("version", (ident .version).write n.version)]
  ofDocument? d := do
    return {
      id := ← (ident .namespace).field? "id" d
      name := ← text.field? "name" d
      labels := ← labels.field? "labels" d
      createdAt := ← time.field? "createdAt" d
      updatedAt := ← time.field? "updatedAt" d
      version := ← (ident .version).field? "version" d }

/-- A deployment of a volume on a node. -/
def deployment : DocumentFormat Deployment where
  shape := .record <|
    required text "id" <| required (ident .node) "nodeId" <| defaulted health "health" .unknown <|
    defaulted bool "syncing" false .nil
  write x := .record
    [("id", text.write x.id), ("nodeId", (ident .node).write x.nodeId),
      ("health", health.write x.health), ("syncing", bool.write x.syncing)]
  ofDocument? d := do
    return {
      id := ← text.field? "id" d
      nodeId := ← (ident .node).field? "nodeId" d
      health := ← health.field? "health" d
      syncing := ← bool.field? "syncing" d }

/-- A volume. -/
def volume : DocumentFormat Volume where
  shape := .record <|
    required (ident .volume) "id" <| required text "name" <| defaulted text "description" "" <|
    required (ident .namespace) "namespaceId" <| defaulted labels "labels" .empty <|
    defaulted text "filesystem" "" <| required word "sizeBytes" <|
    optional (ident .node) "attachedOn" <|
    defaulted attachmentType "attachmentType" .detached <| defaulted nfsConfig "nfs" .empty <|
    optional deployment "master" <| defaulted (list deployment) "replicas" [] <|
    required time "createdAt" <| required time "updatedAt" <|
    required (ident .version) "version" .nil
  write v := .record <|
    [("id", (ident .volume).write v.id), ("name", text.write v.name),
      ("description", text.write v.description),
      ("namespaceId", (ident .namespace).write v.namespaceId), ("labels", labels.write v.labels),
      ("filesystem", text.write v.filesystem), ("sizeBytes", word.write v.sizeBytes)] ++
    Document.optionalField "attachedOn" (ident .node).write v.attachedOn ++
    [("attachmentType", attachmentType.write v.attachmentType), ("nfs", nfsConfig.write v.nfs)] ++
    Document.optionalField "master" deployment.write v.master ++
    [("replicas", (list deployment).write v.replicas), ("createdAt", time.write v.createdAt),
      ("updatedAt", time.write v.updatedAt), ("version", (ident .version).write v.version)]
  ofDocument? d := do
    return {
      id := ← (ident .volume).field? "id" d
      name := ← text.field? "name" d
      description := ← text.field? "description" d
      namespaceId := ← (ident .namespace).field? "namespaceId" d
      labels := ← labels.field? "labels" d
      filesystem := ← text.field? "filesystem" d
      sizeBytes := ← word.field? "sizeBytes" d
      attachedOn := ← (ident .node).optionalField? "attachedOn" d
      attachmentType := ← attachmentType.field? "attachmentType" d
      nfs := ← nfsConfig.field? "nfs" d
      master := ← deployment.optionalField? "master" d
      replicas := ← (list deployment).field? "replicas" d
      createdAt := ← time.field? "createdAt" d
      updatedAt := ← time.field? "updatedAt" d
      version := ← (ident .version).field? "version" d }

/-- A node. -/
def node : DocumentFormat Node where
  shape := .record <|
    required (ident .node) "id" <| required text "name" <| defaulted health "health" .unknown <|
    defaulted labels "labels" .empty <| defaulted bool "cordoned" false <|
    defaulted text "ioEndpoint" "" <| required time "createdAt" <| required time "updatedAt" <|
    required (ident .version) "version" .nil
  write n := .record
    [("id", (ident .node).write n.id), ("name", text.write n.name),
      ("health", health.write n.health), ("labels", labels.write n.labels),
      ("cordoned", bool.write n.cordoned), ("ioEndpoint", text.write n.ioEndpoint),
      ("createdAt", time.write n.createdAt), ("updatedAt", time.write n.updatedAt),
      ("version", (ident .version).write n.version)]
  ofDocument? d := do
    return {
      id := ← (ident .node).field? "id" d
      name := ← text.field? "name" d
      health := ← health.field? "health" d
      labels := ← labels.field? "labels" d
      cordoned := ← bool.field? "cordoned" d
      ioEndpoint := ← text.field? "ioEndpoint" d
      createdAt := ← time.field? "createdAt" d
      updatedAt := ← time.field? "updatedAt" d
      version := ← (ident .version).field? "version" d }

/-- A user. -/
def user : DocumentFormat User where
  shape := .record <|
    required (ident .user) "id" <| required text "username" <| defaulted bool "isAdmin" false <|
    defaulted (list (ident .policyGroup)) "groups" [] <| required time "createdAt" <|
    required time "updatedAt" <| required (ident .version) "version" .nil
  write u := .record
    [("id", (ident .user).write u.id), ("username", text.write u.username),
      ("isAdmin", bool.write u.isAdmin),
      ("groups", (list (ident .policyGroup)).write u.groups),
      ("createdAt", time.write u.createdAt), ("updatedAt", time.write u.updatedAt),
      ("version", (ident .version).write u.version)]
  ofDocument? d := do
    return {
      id := ← (ident .user).field? "id" d
      username := ← text.field? "username" d
      isAdmin := ← bool.field? "isAdmin" d
      groups := ← (list (ident .policyGroup)).field? "groups" d
      createdAt := ← time.field? "createdAt" d
      updatedAt := ← time.field? "updatedAt" d
      version := ← (ident .version).field? "version" d }

/-- A policy of a group. -/
def policySpec : DocumentFormat PolicySpec where
  shape := .record <|
    required (ident .namespace) "namespaceId" <| defaulted bool "readOnly" false .nil
  write s := .record
    [("namespaceId", (ident .namespace).write s.namespaceId), ("readOnly", bool.write s.readOnly)]
  ofDocument? d := do
    return {
      namespaceId := ← (ident .namespace).field? "namespaceId" d
      readOnly := ← bool.field? "readOnly" d }

/-- A policy group. -/
def policyGroup : DocumentFormat PolicyGroup where
  shape := .record <|
    required (ident .policyGroup) "id" <| required text "name" <|
    defaulted (list (ident .user)) "users" [] <| defaulted (list policySpec) "specs" [] <|
    required time "createdAt" <| required time "updatedAt" <|
    required (ident .version) "version" .nil
  write g := .record
    [("id", (ident .policyGroup).write g.id), ("name", text.write g.name),
      ("users", (list (ident .user)).write g.users), ("specs", (list policySpec).write g.specs),
      ("createdAt", time.write g.createdAt), ("updatedAt", time.write g.updatedAt),
      ("version", (ident .version).write g.version)]
  ofDocument? d := do
    return {
      id := ← (ident .policyGroup).field? "id" d
      name := ← text.field? "name" d
      users := ← (list (ident .user)).field? "users" d
      specs := ← (list policySpec).field? "specs" d
      createdAt := ← time.field? "createdAt" d
      updatedAt := ← time.field? "updatedAt" d
      version := ← (ident .version).field? "version" d }

/-- A licence. -/
def licence : DocumentFormat Licence where
  shape := .record <|
    required (ident .cluster) "clusterId" <| required time "expiresAt" <|
    required word "clusterCapacityBytes" <| defaulted word "usedBytes" 0 <|
    required text "kind" <| defaulted text "customerName" "" <|
    defaulted (list text) "features" [] <| required (ident .version) "version" .nil
  write l := .record
    [("clusterId", (ident .cluster).write l.clusterId), ("expiresAt", time.write l.expiresAt),
      ("clusterCapacityBytes", word.write l.clusterCapacityBytes),
      ("usedBytes", word.write l.usedBytes), ("kind", text.write l.kind),
      ("customerName", text.write l.customerName), ("features", (list text).write l.features),
      ("version", (ident .version).write l.version)]
  ofDocument? d := do
    return {
      clusterId := ← (ident .cluster).field? "clusterId" d
      expiresAt := ← time.field? "expiresAt" d
      clusterCapacityBytes := ← word.field? "clusterCapacityBytes" d
      usedBytes := ← word.field? "usedBytes" d
      kind := ← text.field? "kind" d
      customerName := ← text.field? "customerName" d
      features := ← (list text).field? "features" d
      version := ← (ident .version).field? "version" d }

/-- A session. -/
def session : DocumentFormat Session where
  shape := .record <|
    required (ident .user) "userId" <| required text "username" <| optional time "expiresAt" .nil
  write s := .record <|
    [("userId", (ident .user).write s.userId), ("username", text.write s.username)] ++
      Document.optionalField "expiresAt" time.write s.expiresAt
  ofDocument? d := do
    return {
      userId := ← (ident .user).field? "userId" d
      username := ← text.field? "username" d
      expiresAt := ← time.optionalField? "expiresAt" d }

end DocumentFormat

end BlockStorage
