import BlockStorage.Text.Quoted

/-!
Commands, as the user typed them.

A command holds its references and literals as texts; nothing has been looked up or read yet. `cas`
is the version that a resource must still have, and `isAsync` asks for acceptance only.
-/

namespace BlockStorage

open Text

/-- The resources of a listing: references to them and requirements on their labels. -/
structure Listing where
  names : List String
  selectors : List String
deriving DecidableEq, Repr

/-- The literals of a new volume. -/
structure VolumeDraft where
  size : String
  replicas : Option UInt32
  description : String
  filesystem : String
  labels : List String
deriving DecidableEq, Repr

/-- What the user asks for, with its literals as they were given. -/
inductive Command where
  | getNamespaces (listing : Listing)
  | getVolumes (listing : Listing)
  | getNodes (listing : Listing)
  | getUsers (names : List String)
  | getPolicyGroups (names : List String)
  | getLicence
  | describeVolumes (listing : Listing)
  | describeNodes (listing : Listing)
  | createNamespace (name : String) (labels : List String)
  | createVolume (name : String) (draft : VolumeDraft) (isAsync : Bool)
  | resizeVolume (volume size : String) (cas : Option String) (isAsync : Bool)
  | setReplicas (volume replicas : String) (cas : Option String) (isAsync : Bool)
  | updateExports (volume : String) (exports : List String) (cas : Option String) (isAsync : Bool)
  | setDescription (volume description : String) (cas : Option String)
  | deleteVolume (volume : String) (cas : Option String) (isAsync : Bool)
  | deleteNamespace (ns : String) (cas : Option String)
  | attach (volume node : String) (cas : Option String) (isAsync : Bool)
  | detach (volume : String) (cas : Option String) (isAsync : Bool)
  | cordon (node : String) (cas : Option String)
  | uncordon (node : String) (cas : Option String)
deriving DecidableEq, Repr

namespace Command

/-- The words that a user types for the command. -/
def path : Command → List String
  | .getNamespaces _ => ["get", "namespaces"]
  | .getVolumes _ => ["get", "volumes"]
  | .getNodes _ => ["get", "nodes"]
  | .getUsers _ => ["get", "users"]
  | .getPolicyGroups _ => ["get", "policy-groups"]
  | .getLicence => ["get", "licence"]
  | .describeVolumes _ => ["describe", "volumes"]
  | .describeNodes _ => ["describe", "nodes"]
  | .createNamespace .. => ["create", "namespace"]
  | .createVolume .. => ["create", "volume"]
  | .resizeVolume .. => ["update", "volume", "size"]
  | .setReplicas .. => ["update", "volume", "replicas"]
  | .updateExports .. => ["update", "volume", "nfs"]
  | .setDescription .. => ["update", "volume", "description"]
  | .deleteVolume .. => ["delete", "volume"]
  | .deleteNamespace .. => ["delete", "namespace"]
  | .attach .. => ["attach"]
  | .detach .. => ["detach"]
  | .cordon .. => ["cordon"]
  | .uncordon .. => ["uncordon"]

/-- The name of the command. -/
def name (c : Command) : String := " ".intercalate c.path

/-! ### The form of logs -/

/-- A record with named fields. -/
def logRecord (name : String) (fields : List (String × String)) : String :=
  name ++ " \x7b " ++ ", ".intercalate (fields.map fun (key, value) => key ++ ": " ++ value) ++ " \x7d"

/-- A list of texts. -/
def logTexts (texts : List String) : String := "[" ++ ", ".intercalate (texts.map quoted) ++ "]"

/-- A value that may be absent. -/
def logOption : Option String → String
  | some value => "Some(" ++ value ++ ")"
  | none => "None"

/-- The version that is asked for. -/
def logCas (cas : Option String) : String × String :=
  ("cas", logRecord "CasArgs" [("cas", logOption (cas.map quoted))])

/-- Whether acceptance is enough. -/
def logAsync (isAsync : Bool) : String × String :=
  ("async_args", logRecord "AsyncArgs" [("async_", toString isAsync)])

/-- The arguments of a listing as logs show them. -/
def logListing (listing : Listing) : String :=
  logRecord "ListArgs"
    [("names", logTexts listing.names), ("selectors", logTexts listing.selectors)]

/-- The names of a listing without selectors as logs show them. -/
def logNames (names : List String) : String := logRecord "NamesArgs" [("names", logTexts names)]

/-- The arguments of a change of a node as logs show them. -/
def logCordon (node : String) (cas : Option String) : String :=
  logRecord "CordonArgs" [("node", quoted node), logCas cas]

/-- The command as logs show it. -/
def logText : Command → String
  | .getNamespaces listing => "Get(Namespaces(" ++ logListing listing ++ "))"
  | .getVolumes listing => "Get(Volumes(" ++ logListing listing ++ "))"
  | .getNodes listing => "Get(Nodes(" ++ logListing listing ++ "))"
  | .getUsers names => "Get(Users(" ++ logNames names ++ "))"
  | .getPolicyGroups names => "Get(PolicyGroups(" ++ logNames names ++ "))"
  | .getLicence => "Get(Licence)"
  | .describeVolumes listing => "Describe(Volumes(" ++ logListing listing ++ "))"
  | .describeNodes listing => "Describe(Nodes(" ++ logListing listing ++ "))"
  | .createNamespace name labels =>
    "Create(Namespace(" ++
      logRecord "CreateNamespaceArgs" [("name", quoted name), ("labels", logTexts labels)] ++ "))"
  | .createVolume name draft isAsync =>
    "Create(Volume(" ++
      logRecord "CreateVolumeArgs"
        [("name", quoted name), ("size", quoted draft.size),
          ("replicas", logOption (draft.replicas.map fun n => toString n.toNat)),
          ("description", quoted draft.description), ("filesystem", quoted draft.filesystem),
          ("labels", logTexts draft.labels), logAsync isAsync] ++ "))"
  | .resizeVolume volume size cas isAsync =>
    "Update(Volume(Size(" ++
      logRecord "SizeArgs"
        [("volume", quoted volume), ("size", quoted size), logCas cas, logAsync isAsync] ++ ")))"
  | .setReplicas volume replicas cas isAsync =>
    "Update(Volume(Replicas(" ++
      logRecord "ReplicasArgs"
        [("volume", quoted volume), ("replicas", quoted replicas), logCas cas, logAsync isAsync] ++
      ")))"
  | .updateExports volume exports cas isAsync =>
    "Update(Volume(Nfs(" ++
      logRecord "NfsArgs"
        [("volume", quoted volume), ("exports", logTexts exports), logCas cas, logAsync isAsync] ++
      ")))"
  | .setDescription volume description cas =>
    "Update(Volume(Description(" ++
      logRecord "DescriptionArgs"
        [("volume", quoted volume), ("description", quoted description), logCas cas] ++ ")))"
  | .deleteVolume volume cas isAsync =>
    "Delete(Volume(" ++
      logRecord "DeleteVolumeArgs" [("volume", quoted volume), logCas cas, logAsync isAsync] ++ "))"
  | .deleteNamespace ns cas =>
    "Delete(Namespace(" ++
      logRecord "DeleteNamespaceArgs" [("namespace", quoted ns), logCas cas] ++ "))"
  | .attach volume node cas isAsync =>
    "Attach(" ++
      logRecord "AttachArgs"
        [("volume", quoted volume), ("node", quoted node), logCas cas, logAsync isAsync] ++ ")"
  | .detach volume cas isAsync =>
    "Detach(" ++
      logRecord "DetachArgs" [("volume", quoted volume), logCas cas, logAsync isAsync] ++ ")"
  | .cordon node cas => "Cordon(" ++ logCordon node cas ++ ")"
  | .uncordon node cas => "Uncordon(" ++ logCordon node cas ++ ")"

end Command

end BlockStorage
