import BlockStorage.Document.Yaml
import BlockStorage.Output.Sink
import BlockStorage.Output.Table
import BlockStorage.Resource.Format
import BlockStorage.Resource.Licence
import BlockStorage.Text.Quoted

/-!
How the results of commands are shown.

JSON and YAML show the documents of the resources. Text shows tables, with ages relative to the
present, and blocks of names and values. A view says what is shown; `pieces` says how, as the pieces
of text in which it is written out.
-/

namespace BlockStorage.Output

open Text

/-- The formats of output. -/
inductive OutputFormat where
  | json | yaml | text
deriving DecidableEq, Repr

namespace OutputFormat

/-- The name of the format on the command line. -/
def name : OutputFormat → String
  | .json => "json"
  | .yaml => "yaml"
  | .text => "text"

/-- The name of a format in logs. -/
def logText : OutputFormat → String
  | .json => "Json"
  | .yaml => "Yaml"
  | .text => "Text"

/-- The name of a format without blanks at its ends and in lower case. -/
def normalized (s : String) : String := (trimmed s).map Char.toLower

/-- Reads the name of a format; blanks around it and case do not matter. -/
def parse? (s : String) : Option OutputFormat :=
  match normalized s with
  | "json" => some .json
  | "yaml" => some .yaml
  | "yml" => some .yaml
  | "text" => some .text
  | "table" => some .text
  | _ => none

end OutputFormat

/-- What a command has to show. -/
inductive View where
  | namespaces (items : List Namespace)
  | volumes (items : List Volume)
  | nodes (items : List Node)
  | users (items : List User)
  | policyGroups (items : List PolicyGroup)
  | licence (item : Licence)
  | describeVolumes (items : List Volume)
  | describeNodes (items : List Node)
  | «namespace» (item : Namespace)
  | volume (item : Volume)
  | node (item : Node)
  /-- A request was accepted and will be carried out later. -/
  | accepted (action : String)
  | deleted (kind : ResourceKind) (reference : String)

namespace View

/-- The document of a list of resources. -/
def listOf {α : Type} (format : DocumentFormat α) (items : List α) : Document :=
  .list (items.map format.write)

/-- What is shown as a document. -/
def document : View → Document
  | .namespaces items => listOf .namespace items
  | .volumes items => listOf .volume items
  | .nodes items => listOf .node items
  | .users items => listOf .user items
  | .policyGroups items => listOf .policyGroup items
  | .licence item => DocumentFormat.licence.write item
  | .describeVolumes items => listOf .volume items
  | .describeNodes items => listOf .node items
  | .namespace item => DocumentFormat.namespace.write item
  | .volume item => DocumentFormat.volume.write item
  | .node item => DocumentFormat.node.write item
  | .accepted action => .record [("accepted", .bool true), ("action", .text action)]
  | .deleted kind reference =>
    .record
      [("deleted", .bool true), ("kind", .text kind.text), ("reference", .text reference)]

/-! ### Text -/

/-- The table of namespaces. -/
def namespaceTable (now : Timestamp) (items : List Namespace) : List Row :=
  ["NAME", "LABELS", "AGE"] ::
    items.map fun n => [n.name, n.labels.text, now.ageText n.createdAt]

/-- The table of volumes. -/
def volumeTable (now : Timestamp) (items : List Volume) : List Row :=
  ["NAME", "SIZE", "ATTACHED ON", "REPLICAS", "AGE"] ::
    items.map fun v =>
      [v.name, Size.format v.sizeBytes, (v.attachedOn.map Ident.text).getD "",
        toString v.replicas.length, now.ageText v.createdAt]

/-- The table of nodes. -/
def nodeTable (now : Timestamp) (items : List Node) : List Row :=
  ["NAME", "HEALTH", "CORDONED", "AGE", "LABELS"] ::
    items.map fun n =>
      [n.name, n.health.text, toString n.cordoned, now.ageText n.createdAt, n.labels.text]

/-- The table of users. -/
def userTable (now : Timestamp) (items : List User) : List Row :=
  ["NAME", "ROLE", "AGE", "GROUPS"] ::
    items.map fun u =>
      [u.username, if u.isAdmin then "admin" else "user", now.ageText u.createdAt,
        ",".intercalate (u.groups.map Ident.text)]

/-- The table of policy groups. -/
def policyGroupTable (now : Timestamp) (items : List PolicyGroup) : List Row :=
  ["NAME", "USERS", "SPECS", "AGE"] ::
    items.map fun g =>
      [g.name, toString g.users.length, toString g.specs.length, now.ageText g.createdAt]

/-- The block of a licence. -/
def licenceBlock (l : Licence) : List Row :=
  [pairRow "Cluster ID" l.clusterId.text, pairRow "Kind" l.kind, pairRow "Customer" l.customerName,
    pairRow "Capacity" (Size.format l.clusterCapacityBytes), pairRow "Used" (Size.format l.usedBytes),
    pairRow "Expires" l.expiresAt.secondText, pairRow "Features" (",".intercalate l.features)]

/-- Where a copy of a volume is and how it is. -/
def placement (d : Deployment) (state : String) : String :=
  d.id ++ " on " ++ d.nodeId.text ++ " (" ++ state ++ ")"

/-- The state of a replica; one that is being filled is not judged otherwise. -/
def replicaState (d : Deployment) : String := if d.syncing then "syncing" else d.health.text

/-- The block of a volume. -/
def volumeBlock (v : Volume) : List Row :=
  [pairRow "ID" v.id.text, pairRow "Name" v.name, pairRow "Description" v.description,
    pairRow "Namespace" v.namespaceId.text, pairRow "Labels" v.labels.text,
    pairRow "Filesystem" v.filesystem, pairRow "Size" (Size.format v.sizeBytes),
    pairRow "Attached on" ((v.attachedOn.map Ident.text).getD "-"),
    pairRow "Attachment type" v.attachmentType.text, pairRow "Version" v.version.text,
    pairRow "Created at" v.createdAt.secondText, pairRow "Updated at" v.updatedAt.secondText] ++
  v.nfs.exports.map (fun e => pairRow "NFS export" e.text) ++
  (v.master.toList.map fun d => pairRow "Master" (placement d d.health.text)) ++
  v.replicas.map fun d => pairRow "Replica" (placement d (replicaState d))

/-- The block of a node. -/
def nodeBlock (n : Node) : List Row :=
  [pairRow "ID" n.id.text, pairRow "Name" n.name, pairRow "Health" n.health.text,
    pairRow "Cordoned" (toString n.cordoned), pairRow "Labels" n.labels.text,
    pairRow "IO endpoint" n.ioEndpoint, pairRow "Version" n.version.text,
    pairRow "Created at" n.createdAt.secondText, pairRow "Updated at" n.updatedAt.secondText]

/-- The pieces of blocks with an empty line between neighbours. -/
def blockPieces : List (List Row) → List String
  | [] => []
  | [block] => tablePieces block
  | block :: blocks => tablePieces block ++ ["\n"] ++ blockPieces blocks

/-- The pieces of the text form. -/
def textPieces (now : Timestamp) : View → List String
  | .namespaces items => tablePieces (namespaceTable now items)
  | .volumes items => tablePieces (volumeTable now items)
  | .nodes items => tablePieces (nodeTable now items)
  | .users items => tablePieces (userTable now items)
  | .policyGroups items => tablePieces (policyGroupTable now items)
  | .licence item => tablePieces (licenceBlock item)
  | .describeVolumes items => blockPieces (items.map volumeBlock)
  | .describeNodes items => blockPieces (items.map nodeBlock)
  | .namespace item => tablePieces (namespaceTable now [item])
  | .volume item => tablePieces (volumeTable now [item])
  | .node item => tablePieces (nodeTable now [item])
  | .accepted action => [action, ": request accepted\n"]
  | .deleted kind reference => ["deleted ", kind.text, " ", reference, "\n"]

/-- The pieces in which a view is written out in a format. -/
def pieces (format : OutputFormat) (now : Timestamp) (view : View) : List String :=
  match format with
  | .json => Document.Json.pretty view.document ++ ["\n"]
  | .yaml => Document.Yaml.pieces view.document
  | .text => view.textPieces now

end View

end BlockStorage.Output
