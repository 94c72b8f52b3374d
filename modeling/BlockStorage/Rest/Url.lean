import BlockStorage.Rest.Host
import BlockStorage.Text.Quoted

/-!
URLs of endpoints and of the resources behind them.

An endpoint is the start of a URL; `http` is meant when it names no scheme. A path is a list of
segments, and segments are added one by one with all separators in them encoded. Two segments do not
add up: a single dot and a double dot are passed over, and a text that becomes one when its line breaks
and tabs are taken out acts as one.
-/

namespace BlockStorage.Rest

open Text

/-- A URL in its parts; all texts are encoded as they are sent. A path has at least one segment. -/
structure Url where
  isSecure : Bool
  userInfo : Option String
  host : Host
  port : Option Nat
  segments : List String
  query : Option String
  fragment : Option String
deriving DecidableEq, Repr

namespace Url

/-! ### Classes of characters -/

/-- What is encoded in a fragment. -/
def isFragmentEncoded (c : Char) : Bool := " \"<>`".toList.contains c

/-- What is encoded in a path. -/
def isPathEncoded (c : Char) : Bool := isFragmentEncoded c || "#?\x7b\x7d".toList.contains c

/-- What is encoded in a segment that is added. -/
def isSegmentEncoded (c : Char) : Bool := isPathEncoded c || "/%\\".toList.contains c

/-- What is encoded in a query. -/
def isQueryEncoded (c : Char) : Bool := " \"#<>'".toList.contains c

/-- What is encoded in a name and a password. -/
def isUserEncoded (c : Char) : Bool := isPathEncoded c || "/:;=@[\\]^|".toList.contains c

/-- What is encoded in the name or the value of a parameter; the blank is written as a plus sign. -/
def isParameterEncoded (c : Char) : Bool := !c.isAlphanum && !"*-._ ".toList.contains c

/-- The characters that are taken out of URLs before they are read. -/
def isDropped (c : Char) : Bool := c = '\t' || c = '\n' || c = '\r'

/-! ### Paths -/

/-- Whether a character ends a segment of a path; both slashes do. -/
def isSeparator (c : Char) : Bool := c = '/' || c = '\\'

/-- Whether a segment stands for the place that it is in. -/
def isSingleDot (s : List Char) : Bool :=
  s = ['.'] || s.map Char.toLower = "%2e".toList

/-- Whether a segment stands for the place above. -/
def isDoubleDot (s : List Char) : Bool :=
  ["..", ".%2e", "%2e.", "%2e%2e"].any fun dots => s.map Char.toLower = dots.toList

/-- Whether a segment names a drive, which is never left. -/
def isDrive : List Char → Bool
  | [letter, mark] => letter.isAlpha && (mark = ':' || mark = '|')
  | _ => false

/-- The path above. -/
def above (segments : List String) : List String :=
  match segments.getLast? with
  | some last => if isDrive last.toList then segments else segments.dropLast
  | none => []

/-- The path with one more segment, which others follow. -/
def enter (segments : List String) (s : List Char) : List String :=
  if isDoubleDot s then above segments
  else if isSingleDot s then segments
  else segments ++ [String.ofList s]

/-- The path with a last segment. -/
def finish (segments : List String) (s : List Char) : List String :=
  if isDoubleDot s then above segments ++ [""]
  else if isSingleDot s then segments ++ [""]
  else segments ++ [String.ofList s]

/-- Reads the segments between separators. -/
def segmentsOf (segments : List String) : List (List Char) → List String
  | [] => finish segments []
  | [last] => finish segments last
  | part :: parts => segmentsOf (enter segments part) parts

/-- The parts between separators. -/
def separated (s : List Char) : List (List Char) :=
  splitAt '/' (s.map fun c => if isSeparator c then '/' else c)

/-- Reads a path. -/
def pathOf (s : List Char) : List String :=
  segmentsOf [] (separated (Percent.encode isPathEncoded s))

/-- The path that segments can be added to: an empty one at the end is dropped. -/
def base (segments : List String) : List String :=
  if segments.getLast? = some "" then segments.dropLast else segments

/-- Adds a segment to a path. -/
def push (segments : List String) (element : String) : List String :=
  if element = "." || element = ".." then segments
  else
    let parts := if segments = [""] then [] else segments
    finish parts (Percent.encode isSegmentEncoded (element.toList.filter fun c => !isDropped c))

/-- The URL with segments added to its path. -/
def extend (url : Url) (elements : List String) : Url :=
  { url with
    segments :=
      let start := if url.segments.length ≤ 1 then url.segments else base url.segments
      elements.foldl push start }

/-! ### Reading -/

/-- The texts before and after the last occurrence of a character. -/
def cutLast? (mark : Char) (s : List Char) : Option (List Char × List Char) :=
  if s.contains mark then
    let after := (s.reverse.takeWhile (· ≠ mark)).reverse
    some (s.take (s.length - after.length - 1), after)
  else none

/-- A name and a password; one that is empty is none. -/
def userInfoOf (s : List Char) : Option String :=
  let name := s.takeWhile (· ≠ ':')
  let password := (s.dropWhile (· ≠ ':')).drop 1
  let encode := Percent.encode isUserEncoded
  let written := encode name ++ (if password.isEmpty then [] else ':' :: encode password)
  if written.isEmpty then none else some (String.ofList written)

/-- The length of the host at the start of a text: it ends at a colon outside brackets. -/
def hostLength : Bool → List Char → Nat
  | _, [] => 0
  | isInside, c :: s =>
    if c = ':' && !isInside then 0
    else 1 + hostLength (if c = '[' then true else if c = ']' then false else isInside) s

/-- Reads the digits of a port. -/
def portOf (standard : Nat) (s : List Char) : Except UrlError (Option Nat) :=
  if s.isEmpty then .ok none
  else
    match natOfDigits? s with
    | none => .error .invalidPort
    | some n =>
      if 65535 < n then .error .invalidPort
      else .ok (if n = standard then none else some n)

/-- The port that a scheme stands for. -/
def standardPort (isSecure : Bool) : Nat := if isSecure then 443 else 80

/-- Reads a URL behind its scheme. -/
def ofRest (isSecure : Bool) (s : List Char) : Except UrlError Url := do
  let s := s.dropWhile isSeparator
  let isAuthority (c : Char) : Bool := !isSeparator c && c ≠ '?' && c ≠ '#'
  let authority := s.takeWhile isAuthority
  let s := s.dropWhile isAuthority
  let (user, authority) := (cutLast? '@' authority).getD ([], authority)
  let length := hostLength false authority
  if length = 0 then throw .emptyHost
  let host ← Host.parse (authority.take length)
  let port ← portOf (standardPort isSecure) (authority.drop (length + 1))
  let path := s.takeWhile fun c => c ≠ '?' && c ≠ '#'
  let s := s.dropWhile fun c => c ≠ '?' && c ≠ '#'
  let query := match s with
    | '?' :: s => some (String.ofList (Percent.encode isQueryEncoded (s.takeWhile (· ≠ '#'))))
    | _ => none
  let fragment := match s.dropWhile (· ≠ '#') with
    | '#' :: s => some (String.ofList (Percent.encode isFragmentEncoded s))
    | _ => none
  let segments := pathOf (path.drop 1)
  return { isSecure, userInfo := userInfoOf user, host, port, segments, query, fragment }

/-- Drops a character at the end of a text as often as it stands there. -/
def trimEndOf (isTrimmed : Char → Bool) (s : List Char) : List Char :=
  (s.reverse.dropWhile isTrimmed).reverse

/-- Reads an endpoint. -/
def ofEndpoint (endpoint : String) : Except UrlError Url :=
  let s := trimEndOf (· = '/') endpoint.toList
  let clean (s : List Char) : List Char :=
    (trimEndOf (fun c => c.toNat ≤ 0x20) s).filter fun c => !isDropped c
  match afterWord? "https://".toList s, afterWord? "http://".toList s with
  | some rest, _ => ofRest true (clean rest)
  | none, some rest => ofRest false (clean rest)
  | none, none => ofRest false (clean s)

/-! ### Writing -/

/-- The path as it is sent. -/
def path (url : Url) : String := "/" ++ "/".intercalate url.segments

/-- The URL in its written form. -/
def text (url : Url) : String :=
  let part (mark : String) : Option String → String
    | some s => mark ++ s
    | none => ""
  (if url.isSecure then "https://" else "http://") ++
    (match url.userInfo with
      | some user => user ++ "@"
      | none => "") ++
    url.host.text ++ part ":" (url.port.map toString) ++ url.path ++ part "?" url.query ++
    part "#" url.fragment

/-- A name or value of a parameter as it is sent. -/
def parameterText (s : String) : String :=
  String.ofList ((Percent.encode isParameterEncoded s.toList).map fun c => if c = ' ' then '+' else c)

/-- The URL with parameters added to its query; an empty query is dropped. -/
def withParameters (url : Url) (parameters : List (String × String)) : Url :=
  let written := parameters.map fun (name, value) => parameterText name ++ "=" ++ parameterText value
  let parts := (url.query.toList.filter fun q => !q.isEmpty) ++ written
  { url with query := if parts.isEmpty then none else some ("&".intercalate parts) }

/-- Whether an encoded text stands for a text, and not for other bytes. -/
def isReadable (s : List Char) : Bool := (String.fromUTF8? ⟨(Percent.decode s).toArray⟩).isSome

/-- Whether a name and a password can be read: the name has to be readable and, where it is empty, the
password too. -/
def isReadableUser (user : String) : Bool :=
  let name := user.toList.takeWhile (· ≠ ':')
  let password := (user.toList.dropWhile (· ≠ ':')).drop 1
  isReadable name && (!name.isEmpty || isReadable password)

/-- The URL without a name and a password that can be read; others stay. -/
def withoutUser (url : Url) : Url := { url with userInfo := url.userInfo.filter (!isReadableUser ·) }

/-- Whether a request to the URL can be built: hosts with these characters cannot be sent. -/
def isSendable (url : Url) : Bool :=
  url.text.utf8ByteSize < 65535 &&
    match url.host with
    | .domain name => name.toList.all fun c => !"\"`\x7b\x7d".toList.contains c
    | _ => true

end Url

end BlockStorage.Rest
