import BlockStorage.Error.Client
import BlockStorage.Resource.Basic
import BlockStorage.Selector

/-!
References to resources, and picking resources out of a listing.

A reference is a name, which has to be looked up, or an identifier, which is taken as it is. Picking
keeps the order of the references and fails at the first one that nothing has.
-/

namespace BlockStorage

/-- What a user typed for a resource. -/
inductive Reference (kind : IdKind) where
  | byName (name : String)
  | byId (id : Ident kind)
deriving DecidableEq, Repr

namespace Reference

/-- A text as a reference of the mode in use. -/
def parse {kind : IdKind} (input : String) (useIds : Bool) : Reference kind :=
  if useIds then .byId ⟨input⟩ else .byName input

/-- The identifier of a reference; a name costs one look-up, whose failure stands. -/
def resolve {m : Type → Type} [Monad m] {kind : IdKind} (lookup : String → m (Ident kind)) :
    Reference kind → m (Ident kind)
  | .byName name => lookup name
  | .byId id => pure id

end Reference

/-- Resources that can be picked by name or identifier. -/
class Named (α : Type) where
  kind : ResourceKind
  name : α → String
  id : α → String

/-- Resources with labels. -/
class Labelled (α : Type) where
  labels : α → Labels

instance : Named Namespace := ⟨.namespace, Namespace.name, fun n => n.id.text⟩
instance : Named Volume := ⟨.volume, Volume.name, fun v => v.id.text⟩
instance : Named Node := ⟨.node, Node.name, fun n => n.id.text⟩
instance : Named User := ⟨.user, User.username, fun u => u.id.text⟩
instance : Named PolicyGroup := ⟨.policyGroup, PolicyGroup.name, fun g => g.id.text⟩

instance : Labelled Namespace := ⟨Namespace.labels⟩
instance : Labelled Volume := ⟨Volume.labels⟩
instance : Labelled Node := ⟨Node.labels⟩

/-- What a reference is compared with. -/
def referenceKey {α : Type} [Named α] (useIds : Bool) (item : α) : String :=
  if useIds then Named.id item else Named.name item

/-- The first item with a reference. -/
def pickOne {α : Type} [Named α] (useIds : Bool) (items : List α) (reference : String) :
    Except ClientError α :=
  match items.find? fun item => referenceKey useIds item = reference with
  | some item => .ok item
  | none => .error (.notFound (Named.kind α) reference)

/-- One item for each reference, in the order of the references. -/
def pickEach {α : Type} [Named α] (useIds : Bool) (items : List α) :
    List String → Except ClientError (List α)
  | [] => .ok []
  | reference :: references => do
    let item ← pickOne useIds items reference
    let rest ← pickEach useIds items references
    return item :: rest

/-- The items that are referred to, or all of them when there are no references. -/
def pick {α : Type} [Named α] (useIds : Bool) (references : List String) (items : List α) :
    Except ClientError (List α) :=
  if references.isEmpty then .ok items else pickEach useIds items references

/-- The items whose labels meet all requirements. -/
def filterSelected {α : Type} [Labelled α] (selectors : SelectorSet) (items : List α) : List α :=
  selectors.filter Labelled.labels items

end BlockStorage
