import BlockStorage.Command.Reference
import BlockStorage.Run.Stage

/-!
Programs that look references up, and the parameters of changes.

In the mode of names a reference costs one look-up; in the mode of identifiers it costs nothing. The
namespace of a command is looked up in the same way.
-/

namespace BlockStorage

namespace Lookup

/-- The event of a name that is looked up. -/
def nameEvent (name : String) : Log.Event :=
  ⟨.debug, "stor_cli::resolve", "resolving name", [("name", .shown name)]⟩

/-- Looks a reference up; a name is told to the log first. -/
def resolve {kind : IdKind} (settings : Settings) (reference : String)
    (byName : String → Program (Ident kind)) : Program (Ident kind) :=
  (Reference.parse reference settings.useIds).resolve fun name => do
    Program.tell (nameEvent name)
    byName name

/-- The identifier of a namespace. -/
def namespaceId (settings : Settings) (reference : String) : Program NamespaceId :=
  resolve settings reference fun name => do
    let ns ← Program.ask (.getNamespaceByName name)
    return ns.id

/-- The identifier of the namespace of the settings. -/
def configured (settings : Settings) : Program NamespaceId :=
  namespaceId settings settings.namespace

/-- The identifier of a volume in a namespace. -/
def volumeId (settings : Settings) (ns : NamespaceId) (reference : String) : Program VolumeId :=
  resolve settings reference fun name => do
    let volume ← Program.ask (.getVolumeByName ns name)
    return volume.id

/-- The identifier of a node. -/
def nodeId (settings : Settings) (reference : String) : Program NodeId :=
  resolve settings reference fun name => do
    let node ← Program.ask (.getNodeByName name)
    return node.id

/-- The identifier of a user. -/
def userId (settings : Settings) (reference : String) : Program UserId :=
  resolve settings reference fun name => do
    let user ← Program.ask (.getUserByName name)
    return user.id

/-- The identifier of a policy group. -/
def policyGroupId (settings : Settings) (reference : String) : Program PolicyGroupId :=
  resolve settings reference fun name => do
    let group ← Program.ask (.getPolicyGroupByName name)
    return group.id

end Lookup

namespace RequestParams

/-- The parameters of a change: the version that is asked for, and the command timeout as the longest
wait if acceptance is enough. -/
def ofFlags (settings : Settings) (cas : Option String) (isAsync : Bool) : RequestParams :=
  (empty.withCas cas).withAsync isAsync (settings.effectiveTimeout Stage.defaultFallback)

/-- What the log is told about the version that is asked for. -/
def casEvents : Option String → List Log.Event
  | none => []
  | some version =>
    [⟨.debug, "stor_cli::request", "attaching CAS version", [("version", .shown version)]⟩]

/-- What the log is told about the longest wait. -/
def asyncEvents (settings : Settings) (isAsync : Bool) : List Log.Event :=
  if isAsync then
    Stage.fallbackEvents settings Stage.defaultFallback ++
      [⟨.debug, "stor_cli::request", "requesting asynchronous completion",
        [("max_wait", .shown (settings.effectiveTimeout Stage.defaultFallback).logText)]⟩]
  else []

/-- The program that gives the parameters of a change. -/
def program (settings : Settings) (cas : Option String) (isAsync : Bool) : Program RequestParams := do
  Program.tellAll (casEvents cas ++ asyncEvents settings isAsync)
  return ofFlags settings cas isAsync

end RequestParams

end BlockStorage
