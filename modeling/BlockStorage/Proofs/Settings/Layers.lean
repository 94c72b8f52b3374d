import BlockStorage.Proofs.CommandLine.Given

/-!
Which source decides a setting: a flag, else a variable of the environment, else the config file, else the
default.

Two settings break the order. A password and a password file are two slots of one setting, and each is
merged with the environment before one is preferred to the other, so the password of a variable wins over the
password file of a flag. And a switch is either given or not, so the variable that turns identifiers off is no
more than a variable that is not set, and the file decides.
-/

namespace BlockStorage

open CommandLine (Slot Given parse givenOf layered optionsOfGiven optionsOfEnvironment)
open CommandLine.Level (Environment)

namespace Settings

/-- The user of a run. -/
def username (s : Settings) : String :=
  (s.options.username.or s.file.username).getD defaultUsername

/-- The password that a text is; an empty one is none. -/
def secretOf (text : String) : Except ConfigError String :=
  if text.isEmpty then .error .missingPassword else .ok text

/-- The password of a run. -/
def secret (s : Settings) : Except ConfigError String := s.password >>= secretOf

/-- Credentials are the settings of the user and of the password. -/
theorem credentials_eq (s : Settings) :
    s.credentials = s.secret.map fun secret => ⟨s.username, secret⟩ := by
  rw [credentials, secret]
  cases s.password with
  | error error => rfl
  | ok password =>
    simp only [bind, Except.bind, secretOf]
    split <;> rfl

/-- The timeout that a literal is; no time at all is none. -/
def timeoutOf (literal : String) : Except ConfigError Duration :=
  match Duration.parse? literal with
  | some timeout => if timeout = .zero then .error .zeroTimeout else .ok timeout
  | none => .error (.invalidTimeout literal)

/-- The format that a literal names. -/
def formatOf (literal : String) : Except ConfigError Output.OutputFormat :=
  match Output.OutputFormat.parse? literal with
  | some format => .ok format
  | none => .error (.invalidOutputFormat literal)

/-- The endpoints that texts name. -/
def endpointsOf (texts : List String) : Except ConfigError (List String) :=
  let endpoints := (texts.map Text.trimmed).filter fun endpoint => !endpoint.isEmpty
  if endpoints.isEmpty then .error .noEndpoints else .ok endpoints

/-- Settings whose options come from arguments and variables, whatever the config file says. -/
def AreOf (environment : Environment) (arguments : List String) (s : Settings) : Prop :=
  ∃ line, parse environment arguments = .ok line ∧ s.options = line.options

/-- What is loaded for a command line are settings of its arguments and variables. -/
theorem areOf_of_load {environment : Environment} {arguments : List String} {line : CommandLine.Line}
    {host : Host} {s : Settings} (hline : parse environment arguments = .ok line)
    (hload : load host line.options = .ok s) : s.AreOf environment arguments ∧ s.host = host := by
  obtain ⟨file, -, h⟩ := bind_eq_ok hload
  obtain rfl := Except.ok.inj h
  exact ⟨⟨line, hline, rfl⟩, rfl⟩

theorem AreOf.options_eq {environment : Environment} {arguments : List String} {s : Settings}
    (h : s.AreOf environment arguments) :
    s.options = layered (optionsOfGiven (givenOf arguments)) (optionsOfEnvironment environment) := by
  obtain ⟨line, hline, hoptions⟩ := h
  rw [hoptions, CommandLine.options_of_parse hline]

end Settings

/-- What flags, variables and the config file set. -/
inductive Setting where
  | namespace | timeout | output | username | password | endpoints | useIds
deriving DecidableEq, Repr

namespace Setting

/-- The slots in which a setting is given. -/
def slots : Setting → List Slot
  | .namespace => [.namespace]
  | .timeout => [.timeout]
  | .output => [.output]
  | .username => [.username]
  | .password => [.password, .passwordFile]
  | .endpoints => [.endpoints]
  | .useIds => [.useIds]

/-- The variables of the environment for a setting. -/
def standIns : Setting → List String
  | .namespace => ["STOR_NAMESPACE"]
  | .timeout => ["STOR_TIMEOUT"]
  | .output => ["STOR_OUTPUT"]
  | .username => ["STOR_USERNAME"]
  | .password => ["STOR_PASSWORD", "STOR_PASSWORD_FILE"]
  | .endpoints => ["STOR_ENDPOINTS"]
  | .useIds => ["STOR_USE_IDS"]

/-- Arguments give a setting. The operand of `delete namespace` is in the slot of the flag, and gives the
namespace as the flag does. -/
def IsGiven (setting : Setting) (arguments : List String) : Prop :=
  ∃ slot ∈ setting.slots, (givenOf arguments).has slot = true

instance (setting : Setting) (arguments : List String) : Decidable (setting.IsGiven arguments) :=
  inferInstanceAs (Decidable (∃ slot ∈ setting.slots, (givenOf arguments).has slot = true))

/-- A variable of a setting is set. -/
def IsSet (setting : Setting) (environment : Environment) : Prop :=
  ∃ name ∈ setting.standIns, (environment.lookup name).isSome = true

instance (setting : Setting) (environment : Environment) : Decidable (setting.IsSet environment) :=
  inferInstanceAs (Decidable (∃ name ∈ setting.standIns, (environment.lookup name).isSome = true))

/-- The config file says something of a setting. -/
def InFile (file : ConfigFile) : Setting → Prop
  | .namespace => file.namespace ≠ none
  | .timeout => file.timeout ≠ none
  | .output => file.format ≠ none
  | .username => file.username ≠ none
  | .password => file.password ≠ none ∨ file.passwordFile ≠ none
  | .endpoints => file.endpoints ≠ []
  | .useIds => file.useIds ≠ none

/-- Two runs have the same result for a setting. -/
def Same (s s' : Settings) : Setting → Prop
  | .namespace => s.namespace = s'.namespace
  | .timeout => s.commandTimeout = s'.commandTimeout
  | .output => s.outputFormat = s'.outputFormat
  | .username => s.username = s'.username
  | .password => s.secret = s'.secret
  | .endpoints => s.apiEndpoints = s'.apiEndpoints
  | .useIds => s.useIds = s'.useIds

/-- A run has the default for a setting. The default namespace is a name, and there is none for
identifiers. -/
def IsDefault (s : Settings) : Setting → Prop
  | .namespace => s.namespace = if s.useIds then "" else Settings.defaultNamespace
  | .timeout => s.commandTimeout = .ok Settings.defaultTimeout
  | .output => s.outputFormat = .ok .text
  | .username => s.username = Settings.defaultUsername
  | .password => s.secret = .error .missingPassword
  | .endpoints => s.apiEndpoints = .ok [Settings.defaultEndpoint]
  | .useIds => s.useIds = false

/-! ### The order of the sources -/

/-- The first source that is there. -/
def first? {α : Type} (sources : List (Option α)) : Option α := sources.findSome? id

theorem first?_cons {α : Type} (x : Option α) (sources : List (Option α)) :
    first? (x :: sources) = x.or (first? sources) := by cases x <;> rfl

theorem first?_nil {α : Type} : first? ([] : List (Option α)) = none := rfl

theorem first?_three {α : Type} (x y z : Option α) : first? [x, y, z] = (x.or y).or z := by
  simp only [first?_cons, first?_nil, Option.or_none, Option.or_assoc]

/-- If a flag gives the setting, neither the environment nor the config file has a say. -/
def FlagDecides (setting : Setting) (arguments : List String) (s : Settings) : Prop :=
  setting.IsGiven arguments →
    ∀ environment' s', s'.AreOf environment' arguments → s.host.files = s'.host.files → setting.Same s s'

/-- If no flag gives the setting and a variable sets it, the config file has no say. -/
def VariableDecides (setting : Setting) (arguments : List String) (environment : Environment)
    (s : Settings) : Prop :=
  ¬setting.IsGiven arguments → setting.IsSet environment →
    ∀ s', s'.AreOf environment arguments → s.host = s'.host → setting.Same s s'

/-- If neither a flag nor a variable is there for the setting, the config file decides, and where it says
nothing, the default. -/
def FileDecides (setting : Setting) (arguments : List String) (environment : Environment)
    (s : Settings) : Prop :=
  ¬setting.IsGiven arguments → ¬setting.IsSet environment →
    (setting.InFile s.file → setting.Same s ⟨.empty, s.file, s.host⟩) ∧
    (¬setting.InFile s.file → setting.IsDefault s)

/-- Settings are read from the first of their sources that is there. For the password, that is a text that a
flag or a variable gives, and only then a file that one of them names. -/
structure FromFirst (arguments : List String) (environment : Environment) (s : Settings) : Prop where
  «namespace» : ∀ text, first? [(givenOf arguments).text? .namespace, environment.lookup "STOR_NAMESPACE",
    s.file.namespace] = some text → s.namespace = text
  timeout : ∀ text, first? [(givenOf arguments).text? .timeout, environment.lookup "STOR_TIMEOUT",
    s.file.timeout] = some text → s.commandTimeout = Settings.timeoutOf text
  output : ∀ text, first? [(givenOf arguments).text? .output, environment.lookup "STOR_OUTPUT",
    s.file.format] = some text → s.outputFormat = Settings.formatOf text
  username : ∀ text, first? [(givenOf arguments).text? .username, environment.lookup "STOR_USERNAME",
    s.file.username] = some text → s.username = text
  password : ∀ read, first?
      [((givenOf arguments).text? .password).map .ok, (environment.lookup "STOR_PASSWORD").map .ok,
        ((givenOf arguments).text? .passwordFile).map s.passwordIn,
        (environment.lookup "STOR_PASSWORD_FILE").map s.passwordIn,
        s.file.password.map .ok, s.file.passwordFile.map fun path => s.passwordIn (s.host.expandHome path)] =
      some read → s.secret = read >>= Settings.secretOf
  endpoints : ∀ texts, first?
      [(givenOf arguments).values? .endpoints,
        (environment.lookup "STOR_ENDPOINTS").map (CommandLine.Takes.texts (some ',')).parts,
        if s.file.endpoints.isEmpty then none else some s.file.endpoints] =
      some texts → s.apiEndpoints = Settings.endpointsOf texts
  useIds : s.useIds = true ↔
    useIds.IsGiven arguments ∨ environment.lookup "STOR_USE_IDS" = some "true" ∨ s.file.useIds = some true

/-! ### Options -/

/-- The options of a setting, without all others. -/
def only (o : Options) : Setting → Options
  | .namespace => { Options.empty with «namespace» := o.namespace }
  | .timeout => { Options.empty with timeout := o.timeout }
  | .output => { Options.empty with output := o.output }
  | .username => { Options.empty with username := o.username }
  | .password => { Options.empty with password := o.password, passwordFile := o.passwordFile }
  | .endpoints => { Options.empty with endpoints := o.endpoints }
  | .useIds => { Options.empty with useIds := o.useIds }

section

variable {setting : Setting} {s s' : Settings}

/-- The password of the options decides, and without one their password file. -/
theorem secret_eq (hpassword : s.options.password = s'.options.password)
    (hpath : s.options.password = none →
      s.options.passwordFile ≠ none ∧ s.options.passwordFile = s'.options.passwordFile)
    (hfiles : s.host.files = s'.host.files) : s.secret = s'.secret := by
  cases hvalue : s.options.password with
  | some value => simp only [Settings.secret, Settings.password, ← hpassword, hvalue]
  | none =>
    obtain ⟨hsome, hsame⟩ := hpath hvalue
    obtain ⟨path, hvalue'⟩ := Option.ne_none_iff_exists'.mp hsome
    simp only [Settings.secret, Settings.password, Settings.passwordIn, ← hpassword, ← hsame, hvalue, hvalue',
      hfiles]

/-- Options that say something of a setting decide it. -/
theorem same_of_only (hsome : setting.only s.options ≠ .empty)
    (hsame : setting.only s.options = setting.only s'.options) (hfiles : s.host.files = s'.host.files) :
    setting.Same s s' := by
  cases setting <;>
    simp only [only, Options.empty, Options.mk.injEq, true_and, and_true, ne_eq] at hsome hsame
  case «namespace» | timeout | output | username =>
    obtain ⟨value, hvalue⟩ := Option.ne_none_iff_exists'.mp hsome
    simp only [Same, Settings.namespace, Settings.commandTimeout, Settings.outputFormat, Settings.username,
      ← hsame, hvalue, Option.some_or]
  case password =>
    obtain ⟨hpassword, hpath⟩ := hsame
    exact secret_eq hpassword (fun hnone => ⟨fun hnone' => hsome ⟨hnone, hnone'⟩, hpath⟩) hfiles
  case endpoints =>
    have hvalue : s.options.endpoints.isEmpty = false := by simpa using hsome
    simp only [Same, Settings.apiEndpoints, ← hsame, hvalue, Bool.not_false, if_true]
  case useIds =>
    have hvalue : s.options.useIds = true := by simpa using hsome
    simp only [Same, Settings.useIds, ← hsame, hvalue, Bool.true_or]

/-- Where the options say nothing of a setting and the config file does, the file decides. -/
theorem same_of_inFile (hnone : setting.only s.options = .empty) (hfile : setting.InFile s.file) :
    setting.Same s ⟨.empty, s.file, s.host⟩ := by
  cases setting <;> simp only [only, Options.empty, Options.mk.injEq, true_and, and_true] at hnone
  case «namespace» =>
    obtain ⟨value, hvalue⟩ := Option.ne_none_iff_exists'.mp hfile
    simp only [Same, Settings.namespace, Options.empty, hnone, hvalue, Option.none_or]
  all_goals
    simp [Same, Settings.commandTimeout, Settings.outputFormat, Settings.username, Settings.secret,
      Settings.password, Settings.passwordIn, Settings.apiEndpoints, Settings.useIds, Options.empty, hnone]

/-- Where neither the options nor the config file say anything of a setting, the default is left. -/
theorem isDefault_of_not_inFile (hnone : setting.only s.options = .empty) (hfile : ¬setting.InFile s.file) :
    setting.IsDefault s := by
  cases setting <;>
    simp only [only, Options.empty, Options.mk.injEq, true_and, and_true, InFile, not_or, ne_eq,
      Decidable.not_not] at hnone hfile
  case «namespace» | output | username =>
    simp only [IsDefault, Settings.namespace, Settings.outputFormat, Settings.username, hnone, hfile,
      Option.or_none, Option.getD_none]
  case timeout =>
    simp only [IsDefault, Settings.commandTimeout, hnone, hfile, Option.or_none]
    rfl
  case password =>
    simp only [IsDefault, Settings.secret, Settings.password, hnone, hfile]
    rfl
  case endpoints =>
    simp only [IsDefault, Settings.apiEndpoints, hnone, hfile]
    rfl
  case useIds => simp only [IsDefault, Settings.useIds, hnone, hfile, Option.getD_none, Bool.or_false]

end

section

variable {setting : Setting} {first second : Options} {arguments : List String} {environment : Environment}

/-- A first source that says something is the one that counts. -/
theorem or_of_ne_none {x y : Option String} (hx : x ≠ none) : x.or y = x :=
  Option.or_eq_left_of_isSome (Option.isSome_iff_ne_none.mpr hx)

/-- What the first source says of a setting stands, but for the two slots of the password. -/
theorem only_layered_of_ne (hsetting : setting ≠ .password) (h : setting.only first ≠ .empty) :
    setting.only (layered first second) = setting.only first := by
  cases setting <;> simp only [only, Options.empty, Options.mk.injEq, true_and, and_true, ne_eq] at h
  case password => exact absurd rfl hsetting
  case useIds =>
    have hvalue : first.useIds = true := by simpa using h
    simp only [only, layered, hvalue, Bool.true_or]
  case endpoints =>
    have hvalue : first.endpoints.isEmpty = false := by simpa using h
    simp [only, layered, hvalue]
  all_goals simp only [only, layered, or_of_ne_none h]

/-- Where the first source says nothing of a setting, the second one stands in. -/
theorem only_layered_of_eq (h : setting.only first = .empty) :
    setting.only (layered first second) = setting.only second := by
  cases setting <;> simp only [only, Options.empty, Options.mk.injEq, true_and, and_true] at h
  all_goals simp [only, layered, h]

theorem only_given_eq_empty_iff :
    setting.only (optionsOfGiven (givenOf arguments)) = .empty ↔ ¬setting.IsGiven arguments := by
  cases setting <;>
    simp (disch := decide) only [only, Options.empty, Options.mk.injEq, true_and, and_true, IsGiven, slots,
      List.mem_cons, List.not_mem_nil, or_false, exists_eq_or_imp, exists_eq_left, optionsOfGiven, not_or,
      Bool.not_eq_true, CommandLine.text?_eq_none_iff, CommandLine.texts_eq_nil_iff]

theorem only_environment_of_not_isSet (h : ¬setting.IsSet environment) :
    setting.only (optionsOfEnvironment environment) = .empty := by
  have hnone : ∀ name ∈ setting.standIns, environment.lookup name = none := fun name hname =>
    Option.not_isSome_iff_eq_none.mp fun hset => h ⟨name, hname, hset⟩
  cases setting <;>
    simp only [standIns, List.mem_cons, List.not_mem_nil, or_false, forall_eq_or_imp, forall_eq] at hnone
  all_goals simp [only, Options.empty, optionsOfEnvironment, hnone]

theorem only_environment_of_isSet (hsetting : setting ≠ .useIds) (h : setting.IsSet environment) :
    setting.only (optionsOfEnvironment environment) ≠ .empty := by
  obtain ⟨name, hname, hset⟩ := h
  obtain ⟨value, hvalue⟩ := Option.isSome_iff_exists.mp hset
  cases setting <;>
    simp only [standIns, List.mem_cons, List.not_mem_nil, or_false] at hname
  case useIds => exact absurd rfl hsetting
  case password => rcases hname with rfl | rfl <;> simp [only, Options.empty, optionsOfEnvironment, hvalue]
  case endpoints =>
    subst hname
    simp [only, Options.empty, optionsOfEnvironment, hvalue, CommandLine.Takes.parts_ne_nil]
  all_goals
    subst hname
    simp [only, Options.empty, optionsOfEnvironment, hvalue]

end

/-! ### The settings of a run -/

section

variable {setting : Setting} {arguments : List String} {environment environment' : Environment}
  {s s' : Settings}

/-- What a flag gives is as the flag gives it. -/
theorem only_options_of_isGiven (h : s.AreOf environment arguments) (hsetting : setting ≠ .password)
    (hgiven : setting.IsGiven arguments) :
    setting.only s.options = setting.only (optionsOfGiven (givenOf arguments)) := by
  rw [h.options_eq, only_layered_of_ne hsetting fun hnone => only_given_eq_empty_iff.mp hnone hgiven]

/-- What no flag gives is as the environment sets it. -/
theorem only_options_of_not_isGiven (h : s.AreOf environment arguments)
    (hgiven : ¬setting.IsGiven arguments) :
    setting.only s.options = setting.only (optionsOfEnvironment environment) := by
  rw [h.options_eq, only_layered_of_eq (only_given_eq_empty_iff.mpr hgiven)]

theorem flagDecides (h : s.AreOf environment arguments) (hsetting : setting ≠ .password) :
    setting.FlagDecides arguments s := by
  intro hgiven environment' s' h' hfiles
  have honly := only_options_of_isGiven h hsetting hgiven
  have honly' := only_options_of_isGiven h' hsetting hgiven
  have hsome : setting.only s.options ≠ .empty := fun hnone =>
    only_given_eq_empty_iff.mp (honly.symm.trans hnone) hgiven
  exact same_of_only hsome (honly.trans honly'.symm) hfiles

theorem variableDecides (h : s.AreOf environment arguments) (hsetting : setting ≠ .useIds) :
    setting.VariableDecides arguments environment s := by
  intro hgiven hset s' h' hhost
  have honly := only_options_of_not_isGiven h hgiven
  have honly' := only_options_of_not_isGiven h' hgiven
  have hsome := only_environment_of_isSet hsetting hset
  exact same_of_only (honly ▸ hsome) (honly.trans honly'.symm) (congrArg Host.files hhost)

theorem fileDecides (h : s.AreOf environment arguments) (setting : Setting) :
    setting.FileDecides arguments environment s := by
  intro hgiven hset
  have hnone : setting.only s.options = .empty :=
    (only_options_of_not_isGiven h hgiven).trans (only_environment_of_not_isSet hset)
  exact ⟨same_of_inFile hnone, isDefault_of_not_inFile hnone⟩

/-- The password of the options is that of the flag, and without the flag that of the variable. -/
theorem options_password (h : s.AreOf environment arguments) :
    s.options.password = ((givenOf arguments).text? .password).or (environment.lookup "STOR_PASSWORD") := by
  rw [h.options_eq]
  rfl

theorem options_passwordFile (h : s.AreOf environment arguments) :
    s.options.passwordFile =
      ((givenOf arguments).text? .passwordFile).or (environment.lookup "STOR_PASSWORD_FILE") := by
  rw [h.options_eq]
  rfl

/-- A flag for the password decides if it is the one of the password itself, or the environments agree on the
variable of the password. -/
theorem same_password (h : s.AreOf environment arguments) (h' : s'.AreOf environment' arguments)
    (hfiles : s.host.files = s'.host.files) (hgiven : password.IsGiven arguments)
    (hlookup : (givenOf arguments).has .password = true ∨
      environment.lookup "STOR_PASSWORD" = environment'.lookup "STOR_PASSWORD") : password.Same s s' := by
  have htext (slot : Slot) (hslot : slot.isSwitch = false) (hhas : (givenOf arguments).has slot = true) :
      (givenOf arguments).text? slot ≠ none := fun hnone => by
    rw [CommandLine.text?_eq_none_iff hslot, hhas] at hnone
    cases hnone
  refine secret_eq ?_ (fun hnone => ?_) hfiles
  · rw [options_password h, options_password h']
    rcases hlookup with hhas | hlookup
    · rw [or_of_ne_none (htext .password rfl hhas), or_of_ne_none (htext .password rfl hhas)]
    · rw [hlookup]
  · -- without a password among the options, the flag that is given is the one of the file
    rw [options_password h, Option.or_eq_none_iff, CommandLine.text?_eq_none_iff rfl] at hnone
    obtain ⟨slot, hslot, hhas⟩ := hgiven
    rcases List.mem_cons.mp hslot with rfl | hslot
    · rw [hnone.1] at hhas
      cases hhas
    · obtain rfl := List.mem_singleton.mp hslot
      have hpath := htext .passwordFile rfl hhas
      rw [options_passwordFile h, options_passwordFile h', or_of_ne_none hpath, or_of_ne_none hpath]
      exact ⟨hpath, rfl⟩

/-- References are identifiers if any of the three sources says so. -/
theorem useIds_iff (h : s.AreOf environment arguments) :
    s.useIds = true ↔
      useIds.IsGiven arguments ∨ environment.lookup "STOR_USE_IDS" = some "true" ∨
        s.file.useIds = some true := by
  have hoptions : s.options.useIds =
      ((givenOf arguments).has .useIds || environment.lookup "STOR_USE_IDS" = some "true") := by
    rw [h.options_eq]
    rfl
  have hfile : s.file.useIds.getD false = true ↔ s.file.useIds = some true := by
    cases s.file.useIds <;> simp
  rw [Settings.useIds, Bool.or_eq_true, hoptions, Bool.or_eq_true, decide_eq_true_iff, hfile, or_assoc]
  simp only [IsGiven, slots, List.mem_singleton, exists_eq_left]

theorem secret_of_first (h : s.AreOf environment arguments) {read : Except ConfigError String}
    (hfirst : first?
      [((givenOf arguments).text? .password).map .ok, (environment.lookup "STOR_PASSWORD").map .ok,
        ((givenOf arguments).text? .passwordFile).map s.passwordIn,
        (environment.lookup "STOR_PASSWORD_FILE").map s.passwordIn,
        s.file.password.map .ok, s.file.passwordFile.map fun path => s.passwordIn (s.host.expandHome path)] =
      some read) : s.secret = read >>= Settings.secretOf := by
  -- the two sources of a text are one option, and so are those of a file
  have hmerged : (s.options.password.map Except.ok).or ((s.options.passwordFile.map s.passwordIn).or
      ((s.file.password.map Except.ok).or
        (s.file.passwordFile.map fun path => s.passwordIn (s.host.expandHome path)))) = some read := by
    rw [options_password h, options_passwordFile h, Option.map_or, Option.map_or, Option.or_assoc,
      Option.or_assoc, ← hfirst]
    simp only [first?_cons, first?_nil, Option.or_none]
  have hread : s.password = read := by
    rw [Settings.password]
    revert hmerged
    cases s.options.password with
    | some _ => exact Option.some.inj
    | none =>
      cases s.options.passwordFile with
      | some _ => exact Option.some.inj
      | none =>
        cases s.file.password with
        | some _ => exact Option.some.inj
        | none =>
          cases s.file.passwordFile with
          | some _ => exact Option.some.inj
          | none =>
            intro hnone
            cases hnone
  rw [Settings.secret, hread]

theorem apiEndpoints_of_first (h : s.AreOf environment arguments) {texts : List String}
    (hfirst : first?
      [(givenOf arguments).values? .endpoints,
        (environment.lookup "STOR_ENDPOINTS").map (CommandLine.Takes.texts (some ',')).parts,
        if s.file.endpoints.isEmpty then none else some s.file.endpoints] = some texts) :
    s.apiEndpoints = Settings.endpointsOf texts := by
  have hgiven {values : List String} (hvalues : (givenOf arguments).values? .endpoints = some values) :
      values.isEmpty = false := by
    have hhas : (givenOf arguments).has .endpoints = true := by rw [Given.has, hvalues, Option.isSome_some]
    obtain ⟨value, rest, hsome⟩ := CommandLine.exists_values_of_has hhas rfl
    obtain rfl := Option.some.inj (hvalues.symm.trans hsome)
    rfl
  have hoptions : s.options.endpoints =
      if ((givenOf arguments).values? .endpoints).getD [] |>.isEmpty then
        ((environment.lookup "STOR_ENDPOINTS").map (CommandLine.Takes.texts (some ',')).parts).getD []
      else ((givenOf arguments).values? .endpoints).getD [] := by
    rw [h.options_eq]
    rfl
  rw [Settings.apiEndpoints, Settings.endpointsOf]
  cases hvalues : (givenOf arguments).values? .endpoints with
  | some values =>
    rw [hvalues, first?_cons] at hfirst
    obtain rfl : values = texts := Option.some.inj hfirst
    simp [hoptions, hvalues, hgiven hvalues]
  | none =>
    cases hvariable : environment.lookup "STOR_ENDPOINTS" with
    | some value =>
      rw [hvalues, hvariable] at hfirst
      obtain rfl : (CommandLine.Takes.texts (some ',')).parts value = texts := Option.some.inj hfirst
      simp [hoptions, hvalues, hvariable, CommandLine.Takes.parts_ne_nil]
    | none =>
      rw [hvalues, hvariable, first?_three] at hfirst
      split at hfirst
      · cases hfirst
      · rename_i hfile
        obtain rfl : s.file.endpoints = texts := Option.some.inj hfirst
        simp [hoptions, hvalues, hvariable, hfile]

theorem fromFirst (h : s.AreOf environment arguments) : FromFirst arguments environment s := by
  have hoptions := h.options_eq
  constructor
  case «namespace» =>
    intro text hfirst
    have hchosen : s.options.namespace.or s.file.namespace = some text := by
      rw [hoptions]
      exact (first?_three ..).symm.trans hfirst
    simp only [Settings.namespace, hchosen]
  case timeout =>
    intro text hfirst
    have hchosen : s.options.timeout.or s.file.timeout = some text := by
      rw [hoptions]
      exact (first?_three ..).symm.trans hfirst
    simp only [Settings.commandTimeout, hchosen, Settings.timeoutOf]
    cases Duration.parse? text <;> rfl
  case output =>
    intro text hfirst
    have hchosen : s.options.output.or s.file.format = some text := by
      rw [hoptions]
      exact (first?_three ..).symm.trans hfirst
    cases hread : Output.OutputFormat.parse? text <;>
      simp only [Settings.outputFormat, hchosen, Settings.formatOf, hread]
  case username =>
    intro text hfirst
    have hchosen : s.options.username.or s.file.username = some text := by
      rw [hoptions]
      exact (first?_three ..).symm.trans hfirst
    rw [Settings.username, hchosen, Option.getD_some]
  case password => exact fun _ => secret_of_first h
  case endpoints => exact fun _ => apiEndpoints_of_first h
  case useIds => exact useIds_iff h

end

/-- Each source decides over those behind it, but for two settings. For the password, a flag that names a file
does not decide over the variable of the password. For identifiers, the variable decides over the config file
only if it turns them on. -/
theorem sources_in_order (arguments : List String) (environment : Environment) (s : Settings)
    (h : s.AreOf environment arguments) :
    (s.credentials = s.secret.map fun secret => ⟨s.username, secret⟩) ∧
    (∀ setting ≠ password, setting.FlagDecides arguments s) ∧
    (∀ setting ≠ useIds, setting.VariableDecides arguments environment s) ∧
    (∀ setting : Setting, setting.FileDecides arguments environment s) ∧
    FromFirst arguments environment s ∧
    (password.IsGiven arguments →
      ∀ (environment' : Environment) (s' : Settings), s'.AreOf environment' arguments →
        s.host.files = s'.host.files →
        ((givenOf arguments).has .password = true ∨
          environment.lookup "STOR_PASSWORD" = environment'.lookup "STOR_PASSWORD") →
        password.Same s s') :=
  ⟨s.credentials_eq, fun _ => flagDecides h, fun _ => variableDecides h, fileDecides h, fromFirst h,
    fun hgiven _ _ h' hfiles => same_password h h' hfiles hgiven⟩

/-- Settings of `get nodes -n flag --password-file pw`, with more of them in variables and in the file. -/
def mixed : Settings :=
  ⟨{ Options.empty with
      «namespace» := some "flag", passwordFile := some "pw", useIds := true, timeout := some "5s" },
    { ConfigFile.empty with «namespace» := some "file", timeout := some "9s", format := some "json" },
    ⟨.ofList [("pw", .text "flag-secret\n")], none⟩⟩

/-- The variables of these settings. -/
def mixedVariables : Environment :=
  [("STOR_NAMESPACE", "variable"), ("STOR_TIMEOUT", "5s"), ("STOR_USE_IDS", "true")]

/-- The arguments of these settings. -/
def mixedArguments : List String := ["get", "nodes", "-n", "flag", "--password-file", "pw"]

/-- The settings of the same arguments, with no variables and no file. -/
def mixedAlone : Settings :=
  ⟨{ mixed.options with useIds := false, timeout := none }, .empty, mixed.host⟩

/-- The flags decide the namespace and the password, a variable the timeout, the file the format, and nothing
the endpoints; another variable would decide the password. -/
theorem sources_in_order_mixed :
    mixed.namespace = mixedAlone.namespace ∧
    mixed.commandTimeout = Settings.commandTimeout { mixed with file := .empty } ∧
    mixed.outputFormat = Settings.outputFormat ⟨.empty, mixed.file, mixed.host⟩ ∧
    mixed.apiEndpoints = .ok [Settings.defaultEndpoint] ∧
    mixed.secret = mixedAlone.secret ∧
    Settings.secret { mixed with options := { mixed.options with password := some "s" } } = .ok "s" ∧
    mixed.useIds = true := by
  have hmixed : mixed.AreOf mixedVariables mixedArguments := ⟨_, rfl, rfl⟩
  have hnofile : Settings.AreOf mixedVariables mixedArguments { mixed with file := .empty } := ⟨_, rfl, rfl⟩
  have halone : mixedAlone.AreOf [] mixedArguments := ⟨_, rfl, rfl⟩
  have hpassword : Settings.AreOf (("STOR_PASSWORD", "s") :: mixedVariables) mixedArguments
      { mixed with options := { mixed.options with password := some "s" } } := ⟨_, rfl, rfl⟩
  obtain ⟨-, hflag, hvariable, hfile, hfirst, hsame⟩ := sources_in_order _ _ _ hmixed
  exact ⟨hflag .namespace (by decide) (by decide +kernel) _ _ halone rfl,
    hvariable .timeout (by decide) (by decide +kernel) (by decide +kernel) _ hnofile rfl,
    (hfile .output (by decide +kernel) (by decide +kernel)).1 (Option.some_ne_none _),
    (hfile .endpoints (by decide +kernel) (by decide +kernel)).2 (fun hfile => hfile rfl),
    hsame (by decide +kernel) _ _ halone rfl (.inr rfl),
    (sources_in_order _ _ _ hpassword).2.2.2.2.1.password _ rfl,
    hfirst.useIds.2 (.inr (.inl rfl))⟩

/-- A password file that a flag names loses to a password in the environment, and a variable that turns
identifiers off loses to the config file. -/
theorem sources_out_of_order :
    (¬∀ arguments environment s, s.AreOf environment arguments → password.FlagDecides arguments s) ∧
    (¬∀ arguments environment s, s.AreOf environment arguments →
      useIds.VariableDecides arguments environment s) := by
  constructor
  · intro h
    let files := Files.ofList [("pw", .text "flag-secret\n")]
    have hsame := h ["get", "nodes", "--password-file", "pw"] [("STOR_PASSWORD", "env-secret")]
      ⟨{ Options.empty with password := some "env-secret", passwordFile := some "pw" }, .empty, ⟨files, none⟩⟩
      ⟨_, rfl, rfl⟩ (by decide +kernel) []
      ⟨{ Options.empty with passwordFile := some "pw" }, .empty, ⟨files, none⟩⟩ ⟨_, rfl, rfl⟩ rfl
    have hword : "env-secret" = "flag-secret" := Except.ok.inj hsame
    exact absurd hword (by decide)
  · intro h
    have hsame := h ["get", "nodes"] [("STOR_USE_IDS", "false")]
      ⟨.empty, { ConfigFile.empty with useIds := some true }, ⟨.ofList [], none⟩⟩ ⟨_, rfl, rfl⟩
      (by decide +kernel) (by decide +kernel) ⟨.empty, .empty, ⟨.ofList [], none⟩⟩ ⟨_, rfl, rfl⟩ rfl
    exact Bool.noConfusion hsame

end Setting

end BlockStorage
