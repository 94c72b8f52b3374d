import BlockStorage.Rest.Message
import BlockStorage.Rest.Reply

/-!
How the replies to a call are read.

The head of a reply can be the whole answer: a change was accepted, or something was removed. Otherwise
the body holds the answer, or the listing in which a name is looked up, or, after authentication, the
session with its token. A resource that is not there is told from the call, not from the reply.
-/

namespace BlockStorage.Rest

open Text

/-- What the body of the reply to an authentication says. -/
structure Login where
  token : Option String
  session : Session

/-- The format of a login; the token may be absent. -/
def Login.format : DocumentFormat Login where
  shape := .record <|
    DocumentFormat.text.optional "token" <|
    (DocumentFormat.ident .user).required "userId" <|
    DocumentFormat.text.required "username" <| DocumentFormat.time.optional "expiresAt" .nil
  write l := .record <|
    Document.optionalField "token" .text l.token ++
      [("userId", .text l.session.userId.text), ("username", .text l.session.username)] ++
      Document.optionalField "expiresAt" .time l.session.expiresAt
  ofDocument? d := do
    let token ← DocumentFormat.text.optionalField? "token" d
    let session ← DocumentFormat.session.ofDocument? d
    return ⟨token, session⟩

namespace Login

/-- A text without a word at its start, however often it stands there. The fuel bounds how often. -/
def withoutWord (word : List Char) : Nat → List Char → List Char
  | 0, s => s
  | fuel + 1, s =>
    match afterWord? word s with
    | some rest => withoutWord word fuel rest
    | none => s

/-- The token in the head of a reply. -/
def headToken (authorization : String) : String :=
  String.ofList
    (withoutWord "Bearer ".toList authorization.length authorization.toList)

/-- The session of a reply, and its token, which the head names or else the body. -/
def ofReply (reply : Reply) : Except ClientError (Session × String) := do
  let login ← reply.body.read format
  match (reply.authorization.map headToken).or login.token with
  | some token => return (login.session, token)
  | none => throw (.unauthenticated "login response carried no session token")

end Login

namespace Answer

/-- What is not there when the reply to a call says so. -/
def missing? : Call → Option (ResourceKind × String)
  | .getNamespace id => some (.namespace, id.text)
  | .deleteNamespace id _ => some (.namespace, id.text)
  | .listVolumes ns => some (.namespace, ns.text)
  | .getVolume _ id => some (.volume, id.text)
  | .getVolumeByName ns _ => some (.namespace, ns.text)
  | .resizeVolume _ id _ _ => some (.volume, id.text)
  | .setReplicas _ id _ _ => some (.volume, id.text)
  | .setDescription _ id _ _ => some (.volume, id.text)
  | .updateNfsExports _ id _ _ => some (.volume, id.text)
  | .attachVolume _ id _ _ => some (.volume, id.text)
  | .detachVolume _ id _ => some (.volume, id.text)
  | .deleteVolume _ id _ => some (.volume, id.text)
  | .getNode id => some (.node, id.text)
  | .setNodeCordoned id _ _ => some (.node, id.text)
  | .getUser id => some (.user, id.text)
  | .getPolicyGroup id => some (.policyGroup, id.text)
  | _ => none

/-- An error of the reply to a call; a status of 404 tells what is not there. -/
def reworded (c : Call) (error : ClientError) : ClientError :=
  match error, missing? c with
  | .api 404 _, some (kind, reference) => .notFound kind reference
  | error, _ => error

/-- The answer that the head of a successful reply gives already. -/
def ofHead? (reply : Reply) : (c : Call) → Option c.Answer
  | .createVolume .. => later reply
  | .resizeVolume .. => later reply
  | .setReplicas .. => later reply
  | .updateNfsExports .. => later reply
  | .attachVolume .. => later reply
  | .deleteNamespace .. => some ()
  | .detachVolume .. => some (removed reply)
  | .deleteVolume .. => some (removed reply)
  | _ => none
where
  later (reply : Reply) : Option (Submission Volume) :=
    if reply.isAccepted then some .accepted else none
  removed (reply : Reply) : Submission Unit :=
    if reply.isAccepted then .accepted else .completed ()

/-- The first item of a listing with a name. -/
def named {α : Type} (kind : ResourceKind) (name : String) (nameOf : α → String)
    (items : List α) : Except ClientError α :=
  match items.find? fun item => nameOf item = name with
  | some item => .ok item
  | none => .error (.notFound kind name)

open DocumentFormat in
/-- Reads the answer in the body of a successful reply. -/
def ofBody (body : Body) : (c : Call) → Except ClientError c.Answer
  | .authenticate .. => body.read session
  | .getLicence => body.read licence
  | .listNamespaces => body.read (list «namespace»)
  | .getNamespace _ => body.read «namespace»
  | .getNamespaceByName name => do
    named .namespace name (·.name) (← body.read (list «namespace»))
  | .createNamespace .. => body.read «namespace»
  | .deleteNamespace .. => .ok ()
  | .listVolumes _ => body.read (list volume)
  | .getVolume .. => body.read volume
  | .getVolumeByName _ name => do named .volume name (·.name) (← body.read (list volume))
  | .createVolume .. => Submission.completed <$> body.read volume
  | .resizeVolume .. => Submission.completed <$> body.read volume
  | .setReplicas .. => Submission.completed <$> body.read volume
  | .setDescription .. => body.read volume
  | .updateNfsExports .. => Submission.completed <$> body.read volume
  | .attachVolume .. => Submission.completed <$> body.read volume
  | .detachVolume .. => .ok (.completed ())
  | .deleteVolume .. => .ok (.completed ())
  | .listNodes => body.read (list node)
  | .getNode _ => body.read node
  | .getNodeByName name => do named .node name (·.name) (← body.read (list node))
  | .setNodeCordoned .. => body.read node
  | .listUsers => body.read (list user)
  | .getUser _ => body.read user
  | .getUserByName username => do named .user username (·.username) (← body.read (list user))
  | .listPolicyGroups => body.read (list policyGroup)
  | .getPolicyGroup _ => body.read policyGroup
  | .getPolicyGroupByName name => do
    named .policyGroup name (·.name) (← body.read (list policyGroup))

end Answer

end BlockStorage.Rest
