import BlockStorage.Duration
import BlockStorage.Error.Client
import BlockStorage.Resource.Format
import BlockStorage.Text.Blank

/-!
Replies to requests, and the errors that they stand for.

A reply has a head, with a status and perhaps a token, and a body that may come later. A status from
200 to 299 is a success. Any other stands for an error: the body names it, or is the wording itself, or
else the status has a standard wording.
-/

namespace BlockStorage.Rest

open Text

/-- The body of a reply. -/
inductive Body where
  | text (content : String)
  /-- Bytes that are no text, known by how they are shown. -/
  | garbled (shown : String)
  /-- A body that broke off. -/
  | cut
deriving DecidableEq, Repr

/-- What came back for a message. -/
structure Reply where
  status : Nat
  /-- The authorization in the head, if there is one that can be read. -/
  authorization : Option String
  body : Body
  /-- How long after the request the head came. -/
  headAfter : Duration
  /-- How long after the head the body was complete. -/
  bodyAfter : Duration

namespace Body

/-- The body as far as it can be shown. -/
def shown : Body → String
  | .text content => content
  | .garbled shown => shown
  | .cut => ""

/-- Reads a value of a format. -/
def read {α : Type} (format : DocumentFormat α) : Body → Except ClientError α
  | .text content =>
    match format.readText content.toList with
    | .ok value => .ok value
    | .error _ => .error (.decode "the body is not of the expected form")
  | .garbled _ => .error (.decode "the body is no text")
  | .cut => .error (.decode "error decoding response body")

end Body

namespace Reply

/-- Whether the status says that the message was obeyed. -/
def isSuccess (r : Reply) : Bool := 200 ≤ r.status && r.status < 300

/-- Whether the change will be done later. -/
def isAccepted (r : Reply) : Bool := r.status = 202

/-! ### Errors -/

/-- The standard wording of a status. -/
def reason? : Nat → Option String
  | 100 => some "Continue"
  | 101 => some "Switching Protocols"
  | 102 => some "Processing"
  | 200 => some "OK"
  | 201 => some "Created"
  | 202 => some "Accepted"
  | 203 => some "Non Authoritative Information"
  | 204 => some "No Content"
  | 205 => some "Reset Content"
  | 206 => some "Partial Content"
  | 207 => some "Multi-Status"
  | 208 => some "Already Reported"
  | 226 => some "IM Used"
  | 300 => some "Multiple Choices"
  | 301 => some "Moved Permanently"
  | 302 => some "Found"
  | 303 => some "See Other"
  | 304 => some "Not Modified"
  | 305 => some "Use Proxy"
  | 307 => some "Temporary Redirect"
  | 308 => some "Permanent Redirect"
  | 400 => some "Bad Request"
  | 401 => some "Unauthorized"
  | 402 => some "Payment Required"
  | 403 => some "Forbidden"
  | 404 => some "Not Found"
  | 405 => some "Method Not Allowed"
  | 406 => some "Not Acceptable"
  | 407 => some "Proxy Authentication Required"
  | 408 => some "Request Timeout"
  | 409 => some "Conflict"
  | 410 => some "Gone"
  | 411 => some "Length Required"
  | 412 => some "Precondition Failed"
  | 413 => some "Payload Too Large"
  | 414 => some "URI Too Long"
  | 415 => some "Unsupported Media Type"
  | 416 => some "Range Not Satisfiable"
  | 417 => some "Expectation Failed"
  | 418 => some "I'm a teapot"
  | 421 => some "Misdirected Request"
  | 422 => some "Unprocessable Entity"
  | 423 => some "Locked"
  | 424 => some "Failed Dependency"
  | 426 => some "Upgrade Required"
  | 428 => some "Precondition Required"
  | 429 => some "Too Many Requests"
  | 431 => some "Request Header Fields Too Large"
  | 451 => some "Unavailable For Legal Reasons"
  | 500 => some "Internal Server Error"
  | 501 => some "Not Implemented"
  | 502 => some "Bad Gateway"
  | 503 => some "Service Unavailable"
  | 504 => some "Gateway Timeout"
  | 505 => some "HTTP Version Not Supported"
  | 506 => some "Variant Also Negotiates"
  | 507 => some "Insufficient Storage"
  | 508 => some "Loop Detected"
  | 510 => some "Not Extended"
  | 511 => some "Network Authentication Required"
  | _ => none

/-- What the body of an error says. -/
structure Complaint where
  error : String
  code : String
deriving DecidableEq, Repr

/-- The format of the body of an error; both fields may be absent. -/
def Complaint.format : DocumentFormat Complaint where
  shape := .record <|
    DocumentFormat.text.defaulted "error" "" <| DocumentFormat.text.defaulted "code" "" .nil
  write c := .record [("error", .text c.error), ("code", .text c.code)]
  ofDocument? d := do
    return {
      error := ← DocumentFormat.text.field? "error" d
      code := ← DocumentFormat.text.field? "code" d }

/-- What a body complains of: a body that is no complaint is the wording of one. -/
def complaint (body : Body) : Complaint :=
  match Complaint.format.readText body.shown.toList with
  | .ok complaint => complaint
  | .error _ => ⟨trimmed body.shown, ""⟩

/-- The code of an operation that the licence does not permit. -/
def licenceCode : String := "licence_capability_exceeded"

/-- The wording of an error. -/
def wording (status : Nat) (complaint : Complaint) : String :=
  if complaint.error.isEmpty then (reason? status).getD "unknown error" else complaint.error

/-- The error that a status with a body stands for. -/
def errorOf (status : Nat) (body : Body) : ClientError :=
  let complaint := complaint body
  let text := wording status complaint
  if complaint.code = licenceCode then .licenceCapability text
  else if status = 401 then .unauthenticated text
  else if status = 409 || status = 412 then .conflict text
  else .api status text

end Reply

end BlockStorage.Rest
