import BlockStorage.Proofs.Rest.Constraints
import BlockStorage.Proofs.Rest.Deadline

/-!
The endpoints that a message is sent to.

A message goes to the endpoints in their order, and to the next one only when the one before has refused
the connection. So no more than one endpoint can have acted on it, whatever the network does: a broken
connection and an error status are the end, like a success. What became of the message is what became of it
at the last endpoint that was tried, unless the next one could not even be addressed.
-/

namespace BlockStorage.Rest

/-- Whether the connection was refused, so that the endpoint never saw the request. -/
def Delivery.isRefused : Delivery → Bool
  | .refused _ => true
  | _ => false

/-- Only a refused connection leaves the outcome to the next endpoint. -/
theorem Delivery.result_eq_ok_none_iff (request : Request) {delivery : Delivery} :
    delivery.result request = .ok none ↔ delivery.isRefused = true := by
  cases delivery with
  | refused after => simp [Delivery.result, isRefused]
  | broken after => simp [Delivery.result, isRefused]
  | replied reply =>
    rw [Delivery.result]
    split
    · simp [isRefused]
    · simp [isRefused]

namespace Client

variable {ν : Type}

/-- A request that cannot be made is the fault of the configuration. -/
theorem exists_config_of_requestAt {client : Client ν} {message : Message} {endpoint : String}
    {e : ClientError} (h : client.requestAt message endpoint = .error e) :
    ∃ reason, e = .config reason := by
  cases hurl : urlAt endpoint message.path with
  | error e' =>
    obtain rfl : e' = e := by
      rw [requestAt, hurl] at h
      exact Except.error.inj h
    rw [urlAt] at hurl
    split at hurl
    · cases hurl
    · exact ⟨_, (Except.error.inj hurl).symm⟩
  | ok url =>
    replace h : client.request message url = .error e := by
      rw [requestAt, hurl] at h
      exact h
    rw [request] at h
    split at h
    · exact ⟨_, (Except.error.inj h).symm⟩
    · split at h
      · exact ⟨_, (Except.error.inj h).symm⟩
      · cases h

/-! ### Attempts -/

/-- A request that went out to an endpoint, and what happened to it. -/
structure Attempt where
  endpoint : String
  request : Request
  delivery : Delivery

/-- What becomes of a message that is sent to endpoints, by the attempts that were made. -/
inductive Settles (client : Client ν) (message : Message) :
    List String → List Attempt → Except ClientError Reply → Prop
  /-- The first endpoint that does not refuse the connection decides. -/
  | acted (front : List Attempt) {last : Attempt} {endpoints : List String}
      {result : Except ClientError Reply} :
      (∀ a ∈ front, a.delivery.isRefused = true) → last.delivery.isRefused = false →
      last.delivery.result last.request = result.map some →
      Settles client message endpoints (front ++ [last]) result
  /-- All before refuse the connection, and there is no request for the next endpoint. -/
  | unaddressed (attempts : List Attempt) {endpoint : String} {endpoints : List String}
      {reason : String} :
      (∀ a ∈ attempts, a.delivery.isRefused = true) →
      client.requestAt message endpoint = .error (.config reason) →
      Settles client message (attempts.map Attempt.endpoint ++ endpoint :: endpoints) attempts
        (.error (.config reason))
  /-- All refuse the connection. -/
  | refused (front : List Attempt) {last : Attempt} :
      (∀ a ∈ front ++ [last], a.delivery.isRefused = true) →
      Settles client message ((front ++ [last]).map Attempt.endpoint) (front ++ [last])
        (.error (.transport (sendingError last.request)))

variable {client : Client ν} {message : Message} {endpoint : String} {endpoints : List String}
  {attempts : List Attempt} {request : Request} {result : Except ClientError Reply}

/-- What settles a message settles it behind an endpoint that refuses the connection. -/
theorem Settles.cons (h : client.Settles message endpoints attempts result) (a : Attempt)
    (ha : a.delivery.isRefused = true) :
    client.Settles message (a.endpoint :: endpoints) (a :: attempts) result := by
  cases h with
  | acted front hfront hlast hresult =>
    exact .acted (a :: front) (List.forall_mem_cons.mpr ⟨ha, hfront⟩) hlast hresult
  | unaddressed attempts hfront hrequest =>
    exact .unaddressed (a :: attempts) (List.forall_mem_cons.mpr ⟨ha, hfront⟩) hrequest
  | refused front hall => exact .refused (a :: front) (List.forall_mem_cons.mpr ⟨ha, hall⟩)

variable [Network ν]

/-- Attempts to send a message, one after the other: the requests are those of the message at the endpoints,
and what happens to them is up to the network. -/
inductive Attempts (client : Client ν) (message : Message) : ν → List Attempt → ν → Prop
  | nil {network : ν} : Attempts client message network [] network
  | cons {network network' last : ν} {endpoint : String} {request : Request} {delivery : Delivery}
      {attempts : List Attempt} :
      client.requestAt message endpoint = .ok request →
      Network.deliver network request = (delivery, network') →
      Attempts client message network' attempts last →
      Attempts client message network (⟨endpoint, request, delivery⟩ :: attempts) last

/-- A message goes out by some attempts: to the endpoints in their order, and to no one behind an endpoint
that does not refuse the connection. -/
structure GoesOut (client : Client ν) (message : Message) (network : ν) (endpoints : List String)
    (attempts : List Attempt) (sent : Sent ν) : Prop where
  made : client.Attempts message network attempts sent.network
  requests : sent.requests = attempts.map Attempt.request
  inOrder : attempts.map Attempt.endpoint <+: endpoints
  refused : ∀ a ∈ attempts.dropLast, a.delivery.isRefused = true

variable {network : ν} {sent : Sent ν}

/-- No more than one endpoint sees the request. -/
theorem GoesOut.countP_le_one (h : client.GoesOut message network endpoints attempts sent) :
    (attempts.countP fun a => !a.delivery.isRefused) ≤ 1 := by
  rcases attempts.eq_nil_or_concat with hnil | ⟨front, last, rfl⟩
  · simp [hnil]
  · have hfront : (front.countP fun a => !a.delivery.isRefused) = 0 := by
      rw [List.countP_eq_zero]
      intro a ha
      have := h.refused a (by simpa using ha)
      simp [this]
    rw [List.concat_eq_append, List.countP_append, hfront, Nat.zero_add]
    exact List.countP_le_length

/-- A message that goes out behind a refused connection goes out with that attempt in front. -/
theorem GoesOut.cons
    (h : client.GoesOut message (Network.deliver network request).2 endpoints attempts sent)
    (hrequest : client.requestAt message endpoint = .ok request)
    (hrefused : (Network.deliver network request).1.isRefused = true) {events : List Log.Event} :
    client.GoesOut message network (endpoint :: endpoints)
      (⟨endpoint, request, (Network.deliver network request).1⟩ :: attempts)
      (sent.after [request] events) where
  made := .cons hrequest rfl h.made
  requests := congrArg (request :: ·) h.requests
  inOrder := (List.prefix_cons_inj endpoint).mpr h.inOrder
  refused := by
    cases attempts with
    | nil => exact List.forall_mem_nil _
    | cons b rest => exact List.forall_mem_cons.mpr ⟨hrefused, h.refused⟩

/-- A message that goes out once, to the first endpoint. -/
theorem GoesOut.one (hrequest : client.requestAt message endpoint = .ok request)
    (hnetwork : sent.network = (Network.deliver network request).2)
    (hrequests : sent.requests = [request]) :
    client.GoesOut message network (endpoint :: endpoints)
      [⟨endpoint, request, (Network.deliver network request).1⟩] sent where
  made := .cons hrequest rfl (hnetwork ▸ .nil)
  requests := hrequests
  inOrder := (List.prefix_cons_inj endpoint).mpr List.nil_prefix
  refused := List.forall_mem_nil _

/-- A message that does not go out at all. -/
theorem GoesOut.none (hnetwork : sent.network = network) (hrequests : sent.requests = []) :
    client.GoesOut message network endpoints [] sent where
  made := hnetwork ▸ .nil
  requests := hrequests
  inOrder := List.nil_prefix
  refused := List.forall_mem_nil _

/-! ### Sending -/

/-- The context has ended a message with its error. -/
def Sent.Interrupted (context : Context) (cancelledAt : Option Nat) (sent : Sent ν) : Prop :=
  ∃ e, sent.result = .error e ∧ context.EndedBy cancelledAt sent.time e

theorem sendTo_of_requestAt_error {e : ClientError}
    (h : client.requestAt message endpoint = .error e) (context : Context) (cancelledAt : Option Nat)
    (failure : ClientError) (now : Nat) (network : ν) (endpoints : List String) :
    let sent := client.sendTo context cancelledAt message failure now network (endpoint :: endpoints)
    sent.result = .error e ∧ sent.network = network ∧ sent.requests = [] := by
  rcases client.sendTo_cases message context cancelledAt failure now network endpoint endpoints with
    ⟨e', he', hresult, hrequests, hnetwork⟩ | ⟨request, hrequest, -⟩
  · obtain rfl := Except.error.inj (h.symm.trans he')
    exact ⟨hresult, hnetwork, hrequests⟩
  · exact nomatch h.symm.trans hrequest

/-- Behind the first endpoint, either the next ones are tried, or what happened there is the end. -/
theorem sendTo_onward (hrequest : client.requestAt message endpoint = .ok request) (context : Context)
    (cancelledAt : Option Nat) (failure : ClientError) (now : Nat) (network : ν)
    (endpoints : List String) :
    let delivered := Network.deliver network request
    let outcome := context.outcome now (now + delivered.1.span) cancelledAt (delivered.1.result request)
    let sent := client.sendTo context cancelledAt message failure now network (endpoint :: endpoints)
    (outcome.1 = .ok none ∧ ∃ events, sent =
        (client.sendTo context cancelledAt message (.transport (sendingError request)) outcome.2
          delivered.2 endpoints).after [request] events) ∨
      (outcome.1 = sent.result.map some ∧ sent.time = outcome.2 ∧ sent.network = delivered.2 ∧
        sent.requests = [request]) := by
  intro delivered outcome sent
  obtain ⟨url, hurl, hrequest⟩ := bind_eq_ok hrequest
  simp only [sent, sendTo, hurl, hrequest, outcome_eq]
  rcases houtcome : outcome with ⟨e | _ | reply, time⟩
  · simp only [outcome, delivered] at houtcome
    rw [houtcome]
    exact .inr ⟨rfl, rfl, rfl, rfl⟩
  · simp only [outcome, delivered] at houtcome
    rw [houtcome]
    exact .inl ⟨rfl, _, rfl⟩
  · simp only [outcome, delivered] at houtcome
    rw [houtcome]
    exact .inr ⟨rfl, rfl, rfl, rfl⟩

/-- Messages go out to the endpoints in their order, until one does not refuse the connection. `failure` is
what comes of it where there is no endpoint. -/
theorem exists_goesOut_sendTo (client : Client ν) (message : Message) (context : Context)
    (cancelledAt : Option Nat) (failure : ClientError) (now : Nat) (network : ν)
    (endpoints : List String) :
    let sent := client.sendTo context cancelledAt message failure now network endpoints
    ∃ attempts, client.GoesOut message network endpoints attempts sent ∧
      (client.Settles message endpoints attempts sent.result ∨ sent.Interrupted context cancelledAt ∨
        endpoints = [] ∧ attempts = [] ∧ sent.result = .error failure) := by
  induction endpoints generalizing failure now network with
  | nil => exact ⟨[], .none rfl rfl, .inr (.inr ⟨rfl, rfl, rfl⟩)⟩
  | cons endpoint endpoints ih =>
    intro sent
    cases hrequest : client.requestAt message endpoint with
    | error e =>
      obtain ⟨hresult, hnetwork, hrequests⟩ :=
        sendTo_of_requestAt_error hrequest context cancelledAt failure now network endpoints
      obtain ⟨reason, rfl⟩ := exists_config_of_requestAt hrequest
      refine ⟨[], .none hnetwork hrequests, .inl ?_⟩
      rw [hresult]
      exact .unaddressed [] (List.forall_mem_nil _) hrequest
    | ok request =>
      let delivery := (Network.deliver network request).1
      have hends := context.outcome_cases now (now + delivery.span) cancelledAt (delivery.result request)
      rcases sendTo_onward hrequest context cancelledAt failure now network endpoints with
        ⟨hnone, events, hsent⟩ | ⟨hresult, htime, hnetwork, hrequests⟩
      · -- the context has not ended, so the connection was refused
        have hrefused : delivery.isRefused = true := by
          rcases hends with hdone | ⟨e, herror, -⟩
          · exact (Delivery.result_eq_ok_none_iff request).mp (hdone.symm.trans hnone)
          · exact nomatch herror.symm.trans hnone
        obtain ⟨attempts, hgoes, hsettles⟩ := ih _ _ _
        simp only [sent, hsent]
        refine ⟨_, hgoes.cons hrequest hrefused, ?_⟩
        rcases hsettles with hsettles | hinterrupted | ⟨rfl, rfl, hresult⟩
        · exact .inl (hsettles.cons ⟨endpoint, request, delivery⟩ hrefused)
        · exact .inr (.inl hinterrupted)
        · refine .inl ?_
          have hall : ∀ a ∈ [(⟨endpoint, request, delivery⟩ : Attempt)], a.delivery.isRefused = true :=
            List.forall_mem_singleton.mpr hrefused
          rw [Sent.after, hresult]
          exact .refused [] hall
      · refine ⟨_, .one hrequest hnetwork hrequests, ?_⟩
        rcases hends with hdone | ⟨e, herror, hended⟩
        · have hresult : delivery.result request = sent.result.map some := hdone.symm.trans hresult
          have hacted : delivery.isRefused = false := by
            rw [Bool.eq_false_iff, Ne, ← Delivery.result_eq_ok_none_iff request, hresult]
            cases sent.result <;> exact nofun
          exact .inl (.acted [] (List.forall_mem_nil _) hacted hresult)
        · refine .inr (.inl ⟨e, ?_, htime ▸ hended⟩)
          have hresult : Except.error e = sent.result.map some := herror.symm.trans hresult
          cases hsent : sent.result with
          | error e' =>
            rw [hsent] at hresult
            exact congrArg Except.error (Except.error.inj hresult).symm
          | ok reply =>
            rw [hsent] at hresult
            cases hresult

/-- A context under which nothing may start has ended. -/
theorem endedBy_of_mayStart {contexts : Contexts} {ctx : Nat} {e : ClientError}
    (h : contexts.mayStart ctx = .error e) (cancelledAt : Option Nat) :
    (contexts.get ctx).EndedBy cancelledAt contexts.now e := by
  rcases Contexts.mayStart_eq_error_iff.mp h with ⟨rfl, hcancelled⟩ | ⟨rfl, -, hexpired⟩
  · exact .cancelled (.inl hcancelled)
  · exact .expired hexpired

/-- At most one endpoint acts on a message. No client is made without endpoints. A client with some sends to
them in their order, to each one after the first only because all before have refused the connection. What it
returns is what came of the first that did not refuse, or the failure of the last one, unless the context has
ended meanwhile. -/
theorem send_to_one_endpoint :
    (∀ (userAgent : String) (network : ν), ∃ reason,
      Client.make [] userAgent network = .error (.config reason)) ∧
    ∀ client : Client ν, client.endpoints ≠ [] →
      ∀ (contexts : Contexts) (ctx : Nat) (cancelledAt : Option Nat) (message : Message),
        let sent := client.send contexts ctx cancelledAt message
        ∃ attempts, client.GoesOut message client.network client.endpoints attempts sent ∧
          (attempts.countP fun a => !a.delivery.isRefused) ≤ 1 ∧
          (client.Settles message client.endpoints attempts sent.result ∨
            sent.Interrupted (contexts.get ctx) cancelledAt) := by
  refine ⟨fun _ _ => ⟨_, rfl⟩, fun client hendpoints contexts ctx cancelledAt message => ?_⟩
  intro sent
  cases hstart : contexts.mayStart ctx with
  | error e =>
    have hsent : sent = ⟨.error e, contexts.now, client.network, [], []⟩ := by
      simp only [sent, send, hstart]
    rw [hsent]
    exact ⟨[], .none rfl rfl, Nat.zero_le 1, .inr ⟨e, rfl, endedBy_of_mayStart hstart cancelledAt⟩⟩
  | ok _ =>
    have hsent : sent = client.sendTo (contexts.get ctx) cancelledAt message
        (.config "no API endpoints configured") contexts.now client.network client.endpoints := by
      simp only [sent, send, hstart]
    obtain ⟨attempts, hgoes, hsettles⟩ := client.exists_goesOut_sendTo message (contexts.get ctx)
      cancelledAt (.config "no API endpoints configured") contexts.now client.network client.endpoints
    rw [hsent]
    refine ⟨attempts, hgoes, hgoes.countP_le_one, ?_⟩
    rcases hsettles with hsettles | hinterrupted | ⟨hnil, -, -⟩
    · exact .inl hsettles
    · exact .inr hinterrupted
    · exact absurd hnil hendpoints

/-- A network that does one thing after the other, and refuses connections when it has run out. -/
structure Scripted where
  deliveries : List Delivery

instance : Network Scripted where
  deliver network _ :=
    match network.deliveries with
    | [] => (.refused .zero, network)
    | delivery :: deliveries => (delivery, ⟨deliveries⟩)

/-- A client whose first endpoint is down and whose second one is out of order. -/
def withBusyEndpoint : Client Scripted :=
  ⟨["a", "b", "c"], defaultUserAgent, none,
    ⟨[.refused .zero, .replied ⟨503, none, .text "busy", .zero, .zero⟩,
      .replied ⟨200, none, .text "[]", .zero, .zero⟩]⟩⟩

/-- The error of the second endpoint is the end, although the third one would do. -/
theorem send_to_one_endpoint_busy :
    let sent := withBusyEndpoint.send .start 0 none (.ofCall .listNodes)
    (∃ attempts, withBusyEndpoint.GoesOut (.ofCall .listNodes) withBusyEndpoint.network
        withBusyEndpoint.endpoints attempts sent ∧
      (attempts.countP fun a => !a.delivery.isRefused) ≤ 1 ∧
      (withBusyEndpoint.Settles (.ofCall .listNodes) withBusyEndpoint.endpoints attempts sent.result ∨
        sent.Interrupted (Contexts.start.get 0) none)) ∧
    sent.requests.length = 2 ∧ sent.result = .error (Reply.errorOf 503 (.text "busy")) :=
  ⟨send_to_one_endpoint.2 withBusyEndpoint (List.cons_ne_nil _ _) .start 0 none (.ofCall .listNodes),
    rfl, rfl⟩

end Client

end BlockStorage.Rest
