import BlockStorage.CommandLine.Level
import BlockStorage.Settings.Basic

/-!
Reading the command line.

Words lead through the tree of commands, and each word opens a level of its own for the flags behind
it. A level is settled when everything behind it has been read, the innermost level first. A flag of
every command counts wherever it stands; when it is given on several levels, the innermost wins. What
no flag gives, the environment gives.
-/

namespace BlockStorage.CommandLine

open Level (Environment)

/-- What a command line says: the words, the options, and the command. -/
structure Line where
  path : List String
  verbose : Bool
  options : Options
  command : Command
deriving DecidableEq, Repr

/-! ### Options -/

/-- The single value of a slot. -/
def Given.text? (slot : Slot) (given : Given) : Option String :=
  (given.values? slot).bind List.head?

/-- The values of a slot that may be absent. -/
def Given.texts (slot : Slot) (given : Given) : List String := (given.values? slot).getD []

/-- The options that flags give. -/
def optionsOfGiven (given : Given) : Options :=
  { config := given.text? .config, endpoints := given.texts .endpoints,
    username := given.text? .username, password := given.text? .password,
    passwordFile := given.text? .passwordFile, «namespace» := given.text? .namespace,
    useIds := given.has .useIds, timeout := given.text? .timeout, output := given.text? .output }

/-- The options that the environment gives. -/
def optionsOfEnvironment (environment : Environment) : Options :=
  { config := environment.lookup "STOR_CONFIG"
    endpoints := ((environment.lookup "STOR_ENDPOINTS").map (Takes.texts (some ',')).parts).getD []
    username := environment.lookup "STOR_USERNAME", password := environment.lookup "STOR_PASSWORD"
    passwordFile := environment.lookup "STOR_PASSWORD_FILE"
    «namespace» := environment.lookup "STOR_NAMESPACE"
    useIds := environment.lookup "STOR_USE_IDS" = some "true"
    timeout := environment.lookup "STOR_TIMEOUT", output := environment.lookup "STOR_OUTPUT" }

/-- The options of two sources, of which the first wins. -/
def layered (first second : Options) : Options :=
  { config := first.config.or second.config
    endpoints := if first.endpoints.isEmpty then second.endpoints else first.endpoints
    username := first.username.or second.username, password := first.password.or second.password
    passwordFile := first.passwordFile.or second.passwordFile
    «namespace» := first.namespace.or second.namespace, useIds := first.useIds || second.useIds
    timeout := first.timeout.or second.timeout, output := first.output.or second.output }

/-! ### Commands -/

/-- The text of a required slot. -/
def Given.required (slot : Slot) (given : Given) : String := (given.text? slot).getD ""

/-- The listing of a form. -/
def listingOf (given : Given) : Listing := ⟨given.texts .names, given.texts .selectors⟩

/-- The command of a form with the given values. -/
def commandOf (given : Given) (form : Form) : Command :=
  let cas := given.text? .cas
  let isAsync := given.has .isAsync
  let volume := given.required .volume
  match form with
  | .getNamespaces => .getNamespaces (listingOf given)
  | .getVolumes => .getVolumes (listingOf given)
  | .getNodes => .getNodes (listingOf given)
  | .getUsers => .getUsers (given.texts .names)
  | .getPolicyGroups => .getPolicyGroups (given.texts .names)
  | .getLicence => .getLicence
  | .describeVolumes => .describeVolumes (listingOf given)
  | .describeNodes => .describeNodes (listingOf given)
  | .createNamespace => .createNamespace (given.required .name) (given.texts .labels)
  | .createVolume =>
    .createVolume (given.required .name)
      { size := (given.text? .size).getD "5GiB"
        replicas := (given.text? .replicas).bind number?
        description := (given.text? .description).getD ""
        filesystem := (given.text? .filesystem).getD "ext4"
        labels := given.texts .labels }
      isAsync
  | .resizeVolume => .resizeVolume volume (given.required .size) cas isAsync
  | .setReplicas => .setReplicas volume (given.required .replicas) cas isAsync
  | .updateExports => .updateExports volume (given.texts .exports) cas isAsync
  | .setDescription => .setDescription volume (given.required .description) cas
  | .deleteVolume => .deleteVolume volume cas isAsync
  | .deleteNamespace => .deleteNamespace (given.required .namespace) cas
  | .attach => .attach volume (given.required .node) cas isAsync
  | .detach => .detach volume cas isAsync
  | .cordon => .cordon (given.required .node) cas
  | .uncordon => .uncordon (given.required .node) cas

/-! ### Flags -/

/-- What an argument that starts with a dash asks for. -/
inductive Asked where
  | flag (flag : Flag)
  | help
  | version

/-- The meaning of a long name; the version is told in front of all words only. -/
def longNamed? (flags : List Flag) (atRoot : Bool) (name : String) : Option Asked :=
  match flags.find? fun flag => flag.long = name with
  | some flag => some (.flag flag)
  | none =>
    if name = "help" then some .help
    else if name = "version" && atRoot then some .version
    else none

/-- The meaning of a short name. -/
def shortNamed? (flags : List Flag) (atRoot : Bool) (c : Char) : Option Asked :=
  match flags.find? fun flag => flag.short = some c with
  | some flag => some (.flag flag)
  | none =>
    if c = 'h' then some .help else if c = 'V' && atRoot then some .version else none

/-- Tells what was asked for instead of a command. -/
def tell {α : Type} (level : Level) (answer : UsageError) : Except UsageError α := do
  let _ ← level.settlePending
  throw answer

/-- Takes an argument with two dashes, without the dashes. -/
def takeLong (flags : List Flag) (atRoot : Bool) (level : Level) (text : List Char) :
    Except UsageError Level :=
  let name := String.ofList (text.takeWhile (· ≠ '='))
  let attached := match text.dropWhile (· ≠ '=') with
    | '=' :: value => some (String.ofList value)
    | _ => none
  match longNamed? flags atRoot name with
  | none => .error .unknownArgument
  | some (.flag flag) =>
    if flag.takes = .nothing && attached.isSome then .error .tooManyValues
    else level.takeFlag flag attached
  | some .help => if attached.isSome then .error .tooManyValues else tell level .displayHelp
  | some .version => if attached.isSome then .error .tooManyValues else tell level .displayVersion

/-- The value attached to a short flag, if there is one; an equals sign may stand in front of it. -/
def attachedValue? : List Char → Option String
  | [] => none
  | '=' :: value => some (String.ofList value)
  | value => some (String.ofList value)

/-- Takes an argument with one dash, without the dash: flags up to one that takes a value. -/
def takeShort (flags : List Flag) (atRoot : Bool) (level : Level) :
    List Char → Except UsageError Level
  | [] => .ok level
  | c :: rest =>
    match shortNamed? flags atRoot c with
    | none => .error .unknownArgument
    | some (.flag flag) =>
      if flag.takes = .nothing then do
        let level ← level.takeFlag flag none
        takeShort flags atRoot level rest
      else level.takeFlag flag (attachedValue? rest)
    | some .help => tell level .displayHelp
    | some .version => tell level .displayVersion

/-! ### Words -/

/-- The answer to `help` and the words behind it, which must lead through the tree. -/
def helpOn : Grammar → List String → UsageError
  | _, [] => .displayHelp
  | g, word :: words =>
    match g.step? word with
    | some (_, behind) => helpOn behind words
    | none =>
      match g with
      | .group _ => if word = "help" && words.isEmpty then .displayHelp else .invalidSubcommand
      | .leaf _ => .invalidSubcommand

/-- The error of an argument that has no place. -/
def misplaced (g : Grammar) (level : Level) (value : String) : UsageError :=
  match g with
  | .leaf _ => .unknownArgument
  | .group _ =>
    if level.isTrailing && ((g.step? value).isSome || value = "help") then .unknownArgument
    else .invalidSubcommand

/-- Takes an argument that is no word of a command. -/
def takeArgument (g : Grammar) (atRoot : Bool) (level : Level) (argument : String) :
    Except UsageError Level :=
  let asOperand : Except UsageError Level :=
    if level.isWaiting then .ok (level.takeValue argument)
    else (level.takeOperand? argument).getD (.error (misplaced g level argument))
  if level.isTrailing then asOperand
  else
    match argument.toList with
    | ['-', '-'] => .ok { level with isTrailing := true }
    | '-' :: '-' :: text => takeLong g.flags atRoot level text
    | '-' :: c :: text => takeShort g.flags atRoot level (c :: text)
    | _ => asOperand

/-- Settles a level behind which nothing is left to read. -/
def finish (g : Grammar) (environment : Environment) (hasWord : Bool) (level : Level) :
    Except UsageError Given := do
  let level ← level.settlePending
  level.checkEnvironment environment g.flags
  match g with
  | .group _ =>
    if hasWord then return level.given
    else if level.isExplicit environment g.flags then throw .missingSubcommand
    else throw .displayHelpOnMissing
  | .leaf form =>
    if form.required.all fun slot => level.given.has slot then return level.given
    else throw .missingRequiredArgument

/-- Reads the arguments behind the words that lead to a node. The answer has the further words, what
was given, innermost first, and the form that the words lead to. -/
def read (environment : Environment) (atRoot : Bool) (g : Grammar) (level : Level) :
    List String → Except UsageError (List String × Given × Form)
  | [] => do
    let given ← finish g environment false level
    match g with
    | .leaf form => return ([], given, form)
    | .group _ => throw .missingSubcommand
  | argument :: arguments =>
    let isWord := !level.isTrailing && !level.isWaiting
    match (if isWord then g.step? argument else none), g with
    | some (name, behind), _ => do
      let (words, inner, form) ← read environment false behind (.start behind) arguments
      let given ← finish g environment true level
      return (name :: words, inner ++ given, form)
    | none, .group _ =>
      if isWord && argument = "help" then throw (helpOn g arguments)
      else do
        let level ← takeArgument g atRoot level argument
        read environment atRoot g level arguments
    | none, .leaf _ => do
      let level ← takeArgument g atRoot level argument
      read environment atRoot g level arguments

/-- Reads a command line without the name of the program. -/
def parse (environment : Environment) (arguments : List String) : Except UsageError Line := do
  let (path, given, form) ← read environment true .root (.start .root) arguments
  return {
    path
    verbose := given.has .verbose
    options := layered (optionsOfGiven given) (optionsOfEnvironment environment)
    command := commandOf given form }

end BlockStorage.CommandLine
