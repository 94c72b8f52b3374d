import BlockStorage.Cluster.Callable
import BlockStorage.Rest.Answer
import BlockStorage.Rest.Url

/-!
The client of a cluster behind endpoints.

A request goes to one endpoint after the other until one does not refuse the connection; what that
one does is the outcome, be it good or bad. The whole exchange up to the head of a success runs under
the context, and so does the body of an error. The body of a success is read afterwards. The token of
the last good authentication goes with every later request.
-/

namespace BlockStorage.Rest

open Text

/-- A request as it goes out. -/
structure Request where
  verb : Verb
  url : Url
  userAgent : String
  /-- The token that is shown. -/
  bearer : Option String
  body : Option Document

/-- What happens to a request: the connection is refused, or breaks, or there is a reply. -/
inductive Delivery where
  | refused (after : Duration)
  | broken (after : Duration)
  | replied (reply : Reply)

/-- Networks that carry requests. -/
class Network (ν : Type) where
  deliver : ν → Request → Delivery × ν

/-- A network on which nothing can be reached. -/
structure Unreachable where

instance : Network Unreachable where
  deliver network _ := (.refused .zero, network)

/-- The client: its endpoints, how it introduces itself, the token of its session, and its network. -/
structure Client (ν : Type) where
  endpoints : List String
  userAgent : String
  token : Option String
  network : ν

namespace Client

/-- How a client introduces itself. -/
def defaultUserAgent : String := "stor-cli/0.4.0"

/-- Whether a text can stand in the head of a request. -/
def isHeaderText (s : String) : Bool :=
  s.toList.all fun c => c = '\t' || (0x20 ≤ c.toNat && c.toNat ≠ 0x7F)

/-- Makes a client; it needs at least one endpoint. -/
def make {ν : Type} (endpoints : List String) (userAgent : String) (network : ν) :
    Except ClientError (Client ν) :=
  if endpoints.isEmpty then .error (.config "no API endpoints configured")
  else if !isHeaderText userAgent then .error (.config "builder error")
  else .ok ⟨endpoints, userAgent, none, network⟩

/-! ### Requests -/

/-- The URL of a message at an endpoint. -/
def urlAt (endpoint : String) (path : List String) : Except ClientError Url :=
  match Url.ofEndpoint endpoint with
  | .ok url => .ok (url.extend path)
  | .error error =>
    .error (.config ("invalid API endpoint " ++ quoted endpoint ++ ": " ++ error.message))

/-- The request of a message to a URL, if it can be built. -/
def request {ν : Type} (client : Client ν) (message : Message) (url : Url) :
    Except ClientError Request :=
  let url := (url.withParameters message.parameters).withoutUser
  if !client.token.all isHeaderText then .error (.config "builder error")
  else if !url.isSendable then .error (.config ("builder error for url (" ++ url.text ++ ")"))
  else .ok ⟨message.verb, url, client.userAgent, client.token, message.body⟩

/-- The wording of a request that came to nothing. -/
def sendingError (request : Request) : String :=
  "error sending request for url (" ++ request.url.text ++ ")"

/-! ### Events -/

/-- The part of the program that the events of requests name. -/
def target : String := "stor_client::rest"

/-- The event of a request that is about to be sent. -/
def sendingEvent (message : Message) (url : Url) : Log.Event :=
  ⟨.debug, target, "sending api request",
    [("method", .shown message.verb.text), ("url", .shown url.text)]⟩

/-- The event of an endpoint that refused the connection. -/
def unreachableEvent (endpoint : String) (request : Request) : Log.Event :=
  ⟨.debug, target, "endpoint unreachable",
    [("endpoint", .shown endpoint), ("error", .shown (sendingError request))]⟩

/-! ### Sending -/

/-- What came of sending a message: a good reply or an error, when it came, the network afterwards,
the requests that went out, and what the log is told. -/
structure Sent (ν : Type) where
  result : Except ClientError Reply
  time : Nat
  network : ν
  requests : List Request
  events : List Log.Event

namespace Sent

/-- Adds what was sent and told before. -/
def after {ν : Type} (requests : List Request) (events : List Log.Event) (sent : Sent ν) : Sent ν :=
  { sent with requests := requests ++ sent.requests, events := events ++ sent.events }

end Sent

/-- What a delivery comes to under a context, and when: nothing if the connection is refused. -/
def outcome (context : Context) (now : Nat) (cancelledAt : Option Nat) (request : Request) :
    Delivery → Except ClientError (Option Reply) × Nat
  | .refused after => context.outcome now (now + after.nanos) cancelledAt (.ok none)
  | .broken after =>
    context.outcome now (now + after.nanos) cancelledAt (.error (.transport (sendingError request)))
  | .replied reply =>
    if reply.isSuccess then
      context.outcome now (now + reply.headAfter.nanos) cancelledAt (.ok (some reply))
    else
      context.outcome now (now + reply.headAfter.nanos + reply.bodyAfter.nanos) cancelledAt
        (.error (Reply.errorOf reply.status reply.body))

/-- Sends a message to one endpoint after the other. `failure` is the error if none is left. -/
def sendTo {ν : Type} [Network ν] (client : Client ν) (context : Context)
    (cancelledAt : Option Nat) (message : Message) (failure : ClientError) (now : Nat) (network : ν) :
    List String → Sent ν
  | [] => ⟨.error failure, now, network, [], []⟩
  | endpoint :: endpoints =>
    match urlAt endpoint message.path with
    | .error error => ⟨.error error, now, network, [], []⟩
    | .ok url =>
      let sending := sendingEvent message url
      match client.request message url with
      | .error error => ⟨.error error, now, network, [], [sending]⟩
      | .ok request =>
        let (delivery, network) := Network.deliver network request
        match outcome context now cancelledAt request delivery with
        | (.ok none, now) =>
          (client.sendTo context cancelledAt message (.transport (sendingError request)) now network
            endpoints).after [request] [sending, unreachableEvent endpoint request]
        | (.ok (some reply), now) => ⟨.ok reply, now, network, [request], [sending]⟩
        | (.error error, now) => ⟨.error error, now, network, [request], [sending]⟩

/-- Sends a message under a context. -/
def send {ν : Type} [Network ν] (client : Client ν) (contexts : Contexts) (ctx : Nat)
    (cancelledAt : Option Nat) (message : Message) : Sent ν :=
  match contexts.mayStart ctx with
  | .error error => ⟨.error error, contexts.now, client.network, [], []⟩
  | .ok () =>
    client.sendTo (contexts.get ctx) cancelledAt message (.config "no API endpoints configured")
      contexts.now client.network client.endpoints

/-! ### Calls -/

/-- Reads a good reply: the answer, the token that it brings, and how long that takes. -/
def readReply (reply : Reply) (c : Call) : Except ClientError (c.Answer × Option String) × Duration :=
  match Answer.ofHead? reply c with
  | some answer => (.ok (answer, none), .zero)
  | none =>
    let result : Except ClientError (c.Answer × Option String) :=
      match c with
      | .authenticate .. => (Login.ofReply reply).map fun (session, token) => (session, some token)
      | c => (Answer.ofBody reply.body c).map fun answer => (answer, none)
    (result, reply.bodyAfter)

/-- What came of a call: the answer, when it came, the client afterwards, the requests that went out,
and what the log is told. -/
structure Called (ν : Type) (c : Call) where
  answer : Except ClientError c.Answer
  time : Nat
  client : Client ν
  requests : List Request
  events : List Log.Event

/-- Makes a call under a context, which another task may cancel meanwhile. -/
def call {ν : Type} [Network ν] (client : Client ν) (contexts : Contexts) (ctx : Nat)
    (cancelledAt : Option Nat) (c : Call) : Called ν c :=
  let sent := client.send contexts ctx cancelledAt (.ofCall c)
  let client := { client with network := sent.network }
  match sent.result with
  | .error error =>
    ⟨.error (Answer.reworded c error), sent.time, client, sent.requests, sent.events⟩
  | .ok reply =>
    let (result, reading) := readReply reply c
    let time := sent.time + reading.nanos
    match result with
    | .error error => ⟨.error error, time, client, sent.requests, sent.events⟩
    | .ok (answer, token) =>
      ⟨.ok answer, time, { client with token := token.or client.token }, sent.requests, sent.events⟩

instance {ν : Type} [Network ν] : Cluster.Callable (Client ν) where
  answer _ contexts ctx client c :=
    let called := client.call contexts ctx none c
    ⟨called.answer.mapError .client, called.client, contexts.advanceTo called.time, called.events⟩

end Client

end BlockStorage.Rest
