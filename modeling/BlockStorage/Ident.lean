import BlockStorage.Text.Quoted

/-!
Identifiers: opaque texts that the cluster gives to its resources.

The kind of an identifier is part of its type, so that a namespace never stands where a volume is
expected. Version tokens are identifiers too: each names one revision of a resource.
-/

namespace BlockStorage

open Text

/-- The kinds of resource that a user can refer to. -/
inductive ResourceKind where
  | «namespace» | volume | node | user | policyGroup | licence
deriving DecidableEq, Repr

/-- The name of a kind in messages. -/
def ResourceKind.text : ResourceKind → String
  | .namespace => "namespace"
  | .volume => "volume"
  | .node => "node"
  | .user => "user"
  | .policyGroup => "policy group"
  | .licence => "licence"

/-- The kind with a name. -/
def ResourceKind.ofText? (name : String) : Option ResourceKind :=
  [.namespace, .volume, .node, .user, .policyGroup, .licence].find? fun kind => kind.text = name

/-- What an identifier identifies. -/
inductive IdKind where
  | «namespace» | volume | node | user | policyGroup | cluster | version
deriving DecidableEq, Repr

/-- The name of a kind of identifier in logs. -/
def IdKind.logName : IdKind → String
  | .namespace => "NamespaceId"
  | .volume => "VolumeId"
  | .node => "NodeId"
  | .user => "UserId"
  | .policyGroup => "PolicyGroupId"
  | .cluster => "ClusterId"
  | .version => "Version"

/-- The kind of identifier with a name in logs. -/
def IdKind.ofLogName? (name : String) : Option IdKind :=
  [.namespace, .volume, .node, .user, .policyGroup, .cluster, .version].find? fun kind =>
    kind.logName = name

/-- An identifier of a given kind. -/
structure Ident (kind : IdKind) where
  text : String
deriving DecidableEq, Repr

abbrev NamespaceId := Ident .namespace
abbrev VolumeId := Ident .volume
abbrev NodeId := Ident .node
abbrev UserId := Ident .user
abbrev PolicyGroupId := Ident .policyGroup
abbrev ClusterId := Ident .cluster
abbrev Version := Ident .version

namespace Ident

/-- The identifier that was never given. -/
def empty {kind : IdKind} : Ident kind := ⟨""⟩

/-- Whether the identifier is the empty text. -/
def isEmpty {kind : IdKind} (id : Ident kind) : Bool := id.text.isEmpty

/-- The identifier as logs show it. -/
def logText {kind : IdKind} (id : Ident kind) : String :=
  kind.logName ++ "(" ++ quoted id.text ++ ")"

/-- The order of the texts, by code point. -/
def le {kind : IdKind} (a b : Ident kind) : Bool := a.text ≤ b.text

/-- The identifiers in order. -/
def sort {kind : IdKind} (ids : List (Ident kind)) : List (Ident kind) := ids.mergeSort le

end Ident

end BlockStorage
