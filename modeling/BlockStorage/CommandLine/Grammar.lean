import BlockStorage.Command.Basic

/-!
The grammar of the command line: the tree of commands, and the flags and operands of each.

The words of a command lead through the tree to a form. Flags may stand anywhere behind the words
that they belong to, and the flags of every command may stand behind any word.
-/

namespace BlockStorage.CommandLine

/-- What a value on the command line is for. -/
inductive Slot where
  | config | endpoints | username | password | passwordFile | «namespace» | useIds | timeout | output
  | verbose
  | names | selectors | name | size | replicas | description | filesystem | labels | isAsync | cas
  | exports | volume | node
deriving DecidableEq, Repr

/-- What a flag asks for. -/
inductive Takes where
  /-- Nothing: the flag says it all. -/
  | nothing
  | text
  /-- A text that is not empty. -/
  | path
  /-- A number of 32 bits. -/
  | number
  /-- A text every time that the flag is given, which a separator may divide further. -/
  | texts (separator : Option Char)
deriving DecidableEq, Repr

/-- A flag, with the variable of the environment that may stand in for it. -/
structure Flag where
  slot : Slot
  long : String
  short : Option Char
  takes : Takes
  standIn : Option String
deriving DecidableEq, Repr

/-- An operand, which has no flag in front; a repeated one takes all that come. -/
structure Operand where
  slot : Slot
  placeholder : String
  isRepeated : Bool
deriving DecidableEq, Repr

/-! ### Flags -/

/-- The flags that every command takes. -/
def globalFlags : List Flag :=
  [⟨.config, "config", none, .text, some "STOR_CONFIG"⟩,
    ⟨.endpoints, "endpoints", none, .texts (some ','), some "STOR_ENDPOINTS"⟩,
    ⟨.username, "username", none, .text, some "STOR_USERNAME"⟩,
    ⟨.password, "password", none, .text, some "STOR_PASSWORD"⟩,
    ⟨.passwordFile, "password-file", none, .path, some "STOR_PASSWORD_FILE"⟩,
    ⟨.namespace, "namespace", some 'n', .text, some "STOR_NAMESPACE"⟩,
    ⟨.useIds, "use-ids", none, .nothing, some "STOR_USE_IDS"⟩,
    ⟨.timeout, "timeout", none, .text, some "STOR_TIMEOUT"⟩,
    ⟨.output, "output", some 'o', .text, some "STOR_OUTPUT"⟩,
    ⟨.verbose, "verbose", some 'v', .nothing, none⟩]

/-- Conditions on labels, one for each time that the flag stands. -/
def selectorFlag : Flag := ⟨.selectors, "selector", some 'l', .texts none, none⟩

/-- The labels of a new resource, with commas between them. -/
def labelsFlag : Flag := ⟨.labels, "labels", none, .texts (some ','), none⟩

/-- The version that a change asks for. -/
def casFlag : Flag := ⟨.cas, "cas", none, .text, none⟩

/-- Whether acceptance of a change is enough. -/
def asyncFlag : Flag := ⟨.isAsync, "async", none, .nothing, none⟩

/-- An NFS export for each time that the flag stands. -/
def exportFlag : Flag := ⟨.exports, "export", none, .texts none, none⟩

/-! ### Forms -/

/-- What follows the words of a command. -/
inductive Form where
  | getNamespaces | getVolumes | getNodes | getUsers | getPolicyGroups | getLicence
  | describeVolumes | describeNodes
  | createNamespace | createVolume
  | resizeVolume | setReplicas | updateExports | setDescription
  | deleteVolume | deleteNamespace
  | attach | detach | cordon | uncordon
deriving DecidableEq, Repr

namespace Form

/-- The operands of a form in order. -/
def operands : Form → List Operand
  | .getNamespaces => [⟨.names, "NAMES", true⟩]
  | .getVolumes => [⟨.names, "NAMES", true⟩]
  | .getNodes => [⟨.names, "NAMES", true⟩]
  | .getUsers => [⟨.names, "NAMES", true⟩]
  | .getPolicyGroups => [⟨.names, "NAMES", true⟩]
  | .getLicence => []
  | .describeVolumes => [⟨.names, "NAMES", true⟩]
  | .describeNodes => [⟨.names, "NAMES", true⟩]
  | .createNamespace => [⟨.name, "NAME", false⟩]
  | .createVolume => [⟨.name, "NAME", false⟩]
  | .resizeVolume => [⟨.volume, "VOLUME", false⟩, ⟨.size, "SIZE", false⟩]
  | .setReplicas => [⟨.volume, "VOLUME", false⟩, ⟨.replicas, "REPLICAS", false⟩]
  | .updateExports => [⟨.volume, "VOLUME", false⟩]
  | .setDescription => [⟨.volume, "VOLUME", false⟩, ⟨.description, "DESCRIPTION", false⟩]
  | .deleteVolume => [⟨.volume, "VOLUME", false⟩]
  | .deleteNamespace => [⟨.namespace, "NAMESPACE", false⟩]
  | .attach => [⟨.volume, "VOLUME", false⟩, ⟨.node, "NODE", false⟩]
  | .detach => [⟨.volume, "VOLUME", false⟩]
  | .cordon => [⟨.node, "NODE", false⟩]
  | .uncordon => [⟨.node, "NODE", false⟩]

/-- The flags of a form besides the flags of every command. -/
def ownFlags : Form → List Flag
  | .getNamespaces => [selectorFlag]
  | .getVolumes => [selectorFlag]
  | .getNodes => [selectorFlag]
  | .getUsers => []
  | .getPolicyGroups => []
  | .getLicence => []
  | .describeVolumes => [selectorFlag]
  | .describeNodes => [selectorFlag]
  | .createNamespace => [labelsFlag]
  | .createVolume =>
    [⟨.size, "size", some 's', .text, none⟩, ⟨.replicas, "replicas", some 'r', .number, none⟩,
      ⟨.description, "description", some 'd', .text, none⟩,
      ⟨.filesystem, "fs-type", none, .text, none⟩, labelsFlag, asyncFlag]
  | .resizeVolume => [casFlag, asyncFlag]
  | .setReplicas => [casFlag, asyncFlag]
  | .updateExports => [exportFlag, casFlag, asyncFlag]
  | .setDescription => [casFlag]
  | .deleteVolume => [casFlag, asyncFlag]
  | .deleteNamespace => [casFlag]
  | .attach => [casFlag, asyncFlag]
  | .detach => [casFlag, asyncFlag]
  | .cordon => [casFlag]
  | .uncordon => [casFlag]

/-- All flags of a form. An operand takes the place of a flag with the same slot. -/
def flags (form : Form) : List Flag :=
  form.ownFlags ++
    globalFlags.filter fun flag => form.operands.all fun operand => operand.slot ≠ flag.slot

/-- The flags that must be given. -/
def requiredFlags : Form → List Flag
  | .updateExports => [exportFlag]
  | _ => []

/-- The slots that must have a value. -/
def required (form : Form) : List Slot :=
  (form.requiredFlags.map Flag.slot) ++
    (form.operands.filter fun operand => !operand.isRepeated).map Operand.slot

/-- An operand in the line that tells how a command is used. -/
def operandUsage (operand : Operand) : String :=
  if operand.isRepeated then "[" ++ operand.placeholder ++ "]..." else "<" ++ operand.placeholder ++ ">"

/-- A required flag in the line that tells how a command is used. -/
def flagUsage (flag : Flag) : String := "--" ++ flag.long ++ " <" ++ (flag.long ++ "s").toUpper ++ ">"

/-- The line that tells how the form behind the given words is used. -/
def usage (form : Form) (path : List String) : String :=
  " ".intercalate
    (["Usage:", "stor"] ++ path ++ ["[OPTIONS]"] ++ form.requiredFlags.map flagUsage ++
      form.operands.map operandUsage)

end Form

/-! ### The tree -/

/-- A node of the tree of commands: a group of words with what each leads to, or a form. The first
word of a branch is its name, and the others are short for it. -/
inductive Grammar where
  | group (branches : List (List String × Grammar))
  | leaf (form : Form)

namespace Grammar

/-- The commands that list resources. -/
def get : Grammar :=
  .group
    [(["namespaces", "namespace", "ns"], .leaf .getNamespaces),
      (["volumes", "volume", "vol"], .leaf .getVolumes), (["nodes", "node"], .leaf .getNodes),
      (["users", "user"], .leaf .getUsers),
      (["policy-groups", "policy-group", "pg"], .leaf .getPolicyGroups),
      (["licence", "license"], .leaf .getLicence)]

/-- The commands that change a volume. -/
def updateVolume : Grammar :=
  .group
    [(["size"], .leaf .resizeVolume), (["replicas"], .leaf .setReplicas),
      (["nfs"], .leaf .updateExports), (["description"], .leaf .setDescription)]

/-- All commands. -/
def root : Grammar :=
  .group
    [(["get"], get),
      (["describe"],
        .group
          [(["volumes", "volume", "vol"], .leaf .describeVolumes),
            (["nodes", "node"], .leaf .describeNodes)]),
      (["create"],
        .group [(["namespace", "ns"], .leaf .createNamespace), (["volume", "vol"], .leaf .createVolume)]),
      (["update"], .group [(["volume", "vol"], updateVolume)]),
      (["delete"],
        .group [(["volume", "vol"], .leaf .deleteVolume), (["namespace", "ns"], .leaf .deleteNamespace)]),
      (["attach"], .leaf .attach), (["detach"], .leaf .detach), (["cordon"], .leaf .cordon),
      (["uncordon"], .leaf .uncordon)]

/-- The name of a branch that a word leads into, and what is behind it. -/
def branch? (word : String) : List (List String × Grammar) → Option (String × Grammar)
  | [] => none
  | (words, behind) :: branches =>
    if words.contains word then some (words.headD word, behind) else branch? word branches

/-- What a word leads to. -/
def step? (word : String) : Grammar → Option (String × Grammar)
  | .group branches => branch? word branches
  | .leaf _ => none

/-- The flags behind the words that lead here. -/
def flags : Grammar → List Flag
  | .group _ => globalFlags
  | .leaf form => form.flags

/-- The operands behind the words that lead here. -/
def operands : Grammar → List Operand
  | .group _ => []
  | .leaf form => form.operands

/-- The line that tells how the command behind the given words is used. -/
def usage? : Grammar → List String → List String → Option String
  | .leaf form, path, _ => some (form.usage path)
  | .group _, _, [] => none
  | .group branches, path, word :: words =>
    match branch? word branches with
    | some (name, behind) => usage? behind (path ++ [name]) words
    | none => none

end Grammar

/-- The line that tells how the command with the given words is used. -/
def usage (path : List String) : String := (Grammar.root.usage? [] path).getD "Usage: stor"

end BlockStorage.CommandLine
