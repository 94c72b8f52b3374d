import BlockStorage.Ident

/-!
Errors of calls to the cluster.
-/

namespace BlockStorage

/-- Why a call to the cluster failed. -/
inductive ClientError where
  /-- No resource of the kind has the reference. -/
  | notFound (kind : ResourceKind) (reference : String)
  /-- The credentials were rejected. -/
  | unauthenticated (reason : String)
  /-- The resource has changed since, or is there already. -/
  | conflict (reason : String)
  /-- The licence does not permit the operation. -/
  | licenceCapability (reason : String)
  /-- The deadline passed before the call was done. -/
  | deadlineExceeded
  /-- The call was cancelled. -/
  | cancelled
  /-- The cluster could not be reached. -/
  | transport (reason : String)
  /-- The cluster answered with a status that has no error of its own. -/
  | api (status : Nat) (text : String)
  /-- The answer could not be read. -/
  | decode (reason : String)
  /-- The client is not set up right. -/
  | config (reason : String)
deriving DecidableEq, Repr

namespace ClientError

/-- The name of the kind of the error. -/
def kindName : ClientError → String
  | .notFound .. => "NotFound"
  | .unauthenticated _ => "Unauthenticated"
  | .conflict _ => "Conflict"
  | .licenceCapability _ => "LicenceCapability"
  | .deadlineExceeded => "DeadlineExceeded"
  | .cancelled => "Cancelled"
  | .transport _ => "Transport"
  | .api .. => "Api"
  | .decode _ => "Decode"
  | .config _ => "Config"

/-- The wording shown to the user. -/
def message : ClientError → String
  | .notFound kind reference => kind.text ++ " \"" ++ reference ++ "\" not found"
  | .unauthenticated reason => "authentication failed: " ++ reason
  | .conflict reason => "conflict: " ++ reason
  | .licenceCapability reason => "operation not permitted by licence: " ++ reason
  | .deadlineExceeded => "deadline exceeded"
  | .cancelled => "request cancelled"
  | .transport reason => "transport error: " ++ reason
  | .api status text => "api error (" ++ toString status ++ "): " ++ text
  | .decode reason => "decode error: " ++ reason
  | .config reason => "config error: " ++ reason

/-- Whether the licence is what forbids the operation. -/
def isLicenceCapability : ClientError → Bool
  | .licenceCapability _ => true
  | _ => false

end ClientError

/-- How a call fails: with an error, or because a sum has no word of 64 bits, which breaks off whatever
made the call. -/
inductive CallFailure where
  | client (error : ClientError)
  | brokenOff
deriving DecidableEq, Repr

end BlockStorage
