import BlockStorage.Error.Parse
import BlockStorage.Text.Blank
import BlockStorage.Text.Numeral
import BlockStorage.Text.Split

/-!
NFS exports: what of a volume is shared, under which path and with whom.

An export is written `<id>,<path>,<pseudo-path>,<acl>[,<acl>...]`, and an access rule
`<identity-type>;<matcher>;<uid>;<gid>;<squash>;<access>`. Blanks around a field mean nothing.
-/

namespace BlockStorage

open Text

/-- What the matcher of an access rule is compared with. -/
inductive IdentityType where
  | cidr | hostname | netgroup
deriving DecidableEq, Repr

/-- Which identities of a client are replaced by those of the rule. -/
inductive Squash where
  | none | root | rootUid | all
deriving DecidableEq, Repr

/-- What a rule grants. -/
inductive Access where
  | readWrite | readOnly
deriving DecidableEq, Repr

namespace IdentityType

/-- The name of the identity type. -/
def text : IdentityType → String
  | .cidr => "cidr"
  | .hostname => "hostname"
  | .netgroup => "netgroup"

/-- The identity type with a name. -/
def ofText? (s : String) : Option IdentityType :=
  if s = "cidr" then some .cidr
  else if s = "hostname" then some .hostname
  else if s = "netgroup" then some .netgroup
  else none

@[simp] theorem ofText?_text (t : IdentityType) : ofText? t.text = some t := by cases t <;> rfl

end IdentityType

namespace Squash

/-- The name of the squash. -/
def text : Squash → String
  | .none => "none"
  | .root => "root"
  | .rootUid => "rootuid"
  | .all => "all"

/-- The squash with a name. -/
def ofText? (s : String) : Option Squash :=
  if s = "none" then some .none
  else if s = "root" then some .root
  else if s = "rootuid" then some .rootUid
  else if s = "all" then some .all
  else Option.none

@[simp] theorem ofText?_text (t : Squash) : ofText? t.text = some t := by cases t <;> rfl

end Squash

namespace Access

/-- The name of the access in a rule. -/
def text : Access → String
  | .readWrite => "rw"
  | .readOnly => "ro"

/-- The access with a name. -/
def ofText? (s : String) : Option Access :=
  if s = "rw" then some .readWrite
  else if s = "ro" then some .readOnly
  else none

@[simp] theorem ofText?_text (t : Access) : ofText? t.text = some t := by cases t <;> rfl

end Access

/-- One access rule of an export. -/
structure AccessRule where
  identityType : IdentityType
  matcher : String
  uid : UInt64
  gid : UInt64
  squash : Squash
  access : Access
deriving DecidableEq, Repr

/-- One export of a volume. -/
structure Export where
  exportId : UInt64
  path : String
  pseudoPath : String
  acls : List AccessRule
deriving DecidableEq, Repr

/-- The NFS state of a volume. -/
structure NfsConfig where
  exports : List Export
  serviceEndpoint : Option String
deriving DecidableEq, Repr

/-- No exports and no service. -/
def NfsConfig.empty : NfsConfig := ⟨[], none⟩

namespace AccessRule

/-- The rule as a user writes it. -/
def text (r : AccessRule) : String :=
  ";".intercalate
    [r.identityType.text, r.matcher, toString r.uid.toNat, toString r.gid.toNat, r.squash.text,
      r.access.text]

/-- The value that a reader gives, or the reason why there is none. -/
def fieldOr {α : Type} (value : Option α) (reason : String) : Except String α :=
  match value with
  | some v => .ok v
  | none => .error reason

/-- Reads a trimmed rule; a failure is a reason. -/
def parse (rule : List Char) : Except String AccessRule :=
  let parts := (splitAt ';' rule).map fun part => String.ofList (trim part)
  match parts with
  | [identity, matcher, uid, gid, squash, access] => do
    let identityType ←
      fieldOr (IdentityType.ofText? identity) ("unknown identity type \"" ++ identity ++ "\"")
    if matcher.isEmpty then throw "acl matcher is empty"
    let uidValue ← fieldOr (wordOfText? uid.toList) ("uid \"" ++ uid ++ "\" is not a number")
    let gidValue ← fieldOr (wordOfText? gid.toList) ("gid \"" ++ gid ++ "\" is not a number")
    let squashValue ← fieldOr (Squash.ofText? squash) ("unknown squash \"" ++ squash ++ "\"")
    let accessValue ← fieldOr (Access.ofText? access) ("unknown access \"" ++ access ++ "\"")
    return ⟨identityType, matcher, uidValue, gidValue, squashValue, accessValue⟩
  | _ =>
    .error ("acl \"" ++ String.ofList rule ++ "\" has " ++ toString parts.length ++
      " fields, expected 6")

/-- Reads rules in order; the first bad one decides the reason. -/
def parseAll : List (List Char) → Except String (List AccessRule)
  | [] => .ok []
  | rule :: rules => do
    let first ← parse rule
    let rest ← parseAll rules
    return first :: rest

end AccessRule

namespace Export

/-- The export as a user writes it. -/
def text (e : Export) : String :=
  ",".intercalate
    ([toString e.exportId.toNat, e.path, e.pseudoPath] ++ e.acls.map AccessRule.text)

/-- A path that starts at the root, or the reason why it is none. -/
def absolute (path : List Char) : Except String String :=
  match path with
  | '/' :: _ => .ok (String.ofList path)
  | _ => .error ("path \"" ++ String.ofList path ++ "\" is not absolute")

/-- Reads the trimmed fields of an export; a failure is a reason. -/
def ofFields : List (List Char) → Except String Export
  | id :: path :: pseudoPath :: rule :: rules => do
    let exportId ← AccessRule.fieldOr (wordOfText? id)
      ("export id \"" ++ String.ofList id ++ "\" is not a number")
    let path ← absolute path
    let pseudoPath ← absolute pseudoPath
    let acls ← AccessRule.parseAll (rule :: rules)
    return ⟨exportId, path, pseudoPath, acls⟩
  | _ => .error "expected <id>,<path>,<pseudo-path> followed by at least one acl"

/-- Reads an export; a failure carries the whole text, so that one of several can be found. -/
def parse (config : String) : Except ParseError Export :=
  match ofFields ((splitAt ',' config.toList).map trim) with
  | .ok e => .ok e
  | .error reason => .error (.invalidExport config reason)

end Export

end BlockStorage
