import BlockStorage.Proofs.Failure
import BlockStorage.Proofs.Rest.Parameters
import BlockStorage.Rest.Client

/-!
The constraints of a change in its requests.

A change can go out by three ways: with a body that holds the version, with such a body and the longest
wait as a parameter, or with no body and both as parameters. On each of them the request has the version
exactly once if one is asked for and not at all otherwise, and the rest of its body is what it is without a
version.
-/

namespace BlockStorage

/-- Whether the change may be carried out later, so that there is a longest wait for it. -/
def Method.isDeferrable : Method → Bool
  | .deleteNamespace => true
  | .createVolume => true
  | .resizeVolume => true
  | .setReplicas => true
  | .updateNfsExports => true
  | .attachVolume => true
  | .detachVolume => true
  | .deleteVolume => true
  | _ => false

/-- The same call with other parameters, if it takes any. -/
def Call.withParams (params : RequestParams) : Call → Call
  | .deleteNamespace id _ => .deleteNamespace id params
  | .createVolume ns spec _ => .createVolume ns spec params
  | .resizeVolume ns id sizeBytes _ => .resizeVolume ns id sizeBytes params
  | .setReplicas ns id count _ => .setReplicas ns id count params
  | .setDescription ns id text _ => .setDescription ns id text params
  | .updateNfsExports ns id exports _ => .updateNfsExports ns id exports params
  | .attachVolume ns id node _ => .attachVolume ns id node params
  | .detachVolume ns id _ => .detachVolume ns id params
  | .deleteVolume ns id _ => .deleteVolume ns id params
  | .setNodeCordoned id cordoned _ => .setNodeCordoned id cordoned params
  | c => c

namespace Rest

open Text

/-! ### What a request carries -/

/-- The values of the fields with a name. -/
def valuesOf (name : String) (fields : List (String × Document)) : List Document :=
  (fields.filter fun field => field.1 = name).map Prod.snd

namespace Request

/-- The values of the parameters with a name. -/
def parameter (r : Request) (name : String) : List (List UInt8) :=
  (r.url.parameters.filter fun p => p.1 = Percent.bytes name.toList).map Prod.snd

/-- The version is in the request, at the one place that there is for it: in the body of a change, and among
the parameters of a removal. -/
def CarriesVersion (r : Request) (version : Option String) : Prop :=
  match r.verb with
  | .get => False
  | .delete =>
    r.body = none ∧ r.parameter "version" = version.toList.map fun text => Percent.bytes text.toList
  | _ =>
    r.parameter "version" = [] ∧
      ∃ fields, r.body = some (.record fields) ∧
        valuesOf "version" fields = version.toList.map Document.text

/-- The longest wait is among the parameters. -/
def CarriesWait (r : Request) (longest : Option Duration) : Prop :=
  r.parameter "asyncMax" = longest.toList.map fun wait => Percent.bytes wait.wireText.toList

/-- The body without the version. -/
def plainBody (r : Request) : Option Document :=
  r.body.map fun
    | .record fields => .record (fields.filter fun field => field.1 ≠ "version")
    | other => other

/-- A request has been made of a message at one of some endpoints. -/
structure IsOf (endpoints : List String) (m : Message) (r : Request) : Prop where
  verb : r.verb = m.verb
  body : r.body = m.body
  url : ∃ endpoint ∈ endpoints, ∃ url, Url.ofEndpoint endpoint = .ok url ∧
    r.url = ((url.extend m.path).withParameters m.parameters).withoutUser

end Request

/-- No endpoint has a parameter of its own in its query. -/
def Unparametrized (endpoints : List String) : Prop :=
  ∀ endpoint ∈ endpoints, ∀ url, Url.ofEndpoint endpoint = .ok url → url.parameters = []

namespace Request

variable {endpoints : List String} {m : Message} {r : Request}

/-- A request has the parameters of its message behind those of the endpoint. -/
theorem IsOf.exists_parameters_eq (h : r.IsOf endpoints m) :
    ∃ endpoint ∈ endpoints, ∃ url, Url.ofEndpoint endpoint = .ok url ∧
      r.url.parameters = url.parameters ++ m.parameters.map parameterBytes := by
  obtain ⟨endpoint, hmem, url, hurl, hr⟩ := h.url
  refine ⟨endpoint, hmem, url, hurl, ?_⟩
  rw [hr, Url.parameters_withoutUser, Url.parameters_withParameters, Url.parameters_extend]

theorem IsOf.parameters (h : r.IsOf endpoints m) (hown : Unparametrized endpoints) :
    r.url.parameters = m.parameters.map parameterBytes := by
  obtain ⟨endpoint, hmem, url, hurl, hr⟩ := h.exists_parameters_eq
  rw [hr, hown endpoint hmem url hurl, List.nil_append]

/-- Names are told apart by their bytes. -/
theorem values_parameterBytes (name : String) (ps : List (String × String)) :
    ((ps.map parameterBytes).filter fun p => p.1 = Percent.bytes name.toList).map Prod.snd =
      (ps.filter fun p => p.1 = name).map fun p => Percent.bytes p.2.toList := by
  have hname (p : String × String) :
      decide ((parameterBytes p).1 = Percent.bytes name.toList) = decide (p.1 = name) := by
    simp [parameterBytes, Percent.bytes_injective.eq_iff, String.toList_inj]
  rw [List.filter_map, List.map_map]
  simp only [Function.comp_def, hname]
  rfl

theorem IsOf.parameter (h : r.IsOf endpoints m) (hown : Unparametrized endpoints) (name : String) :
    r.parameter name =
      (m.parameters.filter fun p => p.1 = name).map fun p => Percent.bytes p.2.toList := by
  rw [Request.parameter, h.parameters hown, values_parameterBytes]

/-- A request carries a version and a longest wait, and the rest of its body is the given one. -/
structure Carries (r : Request) (version : Option String) (plain : Option Document)
    (longest : Option Duration) : Prop where
  version : r.CarriesVersion version
  plain : r.plainBody = plain
  wait : r.CarriesWait longest

/-! ### The three ways -/

variable {params : RequestParams} {fields : List (String × Document)} {verb : Verb} {path : List String}

theorem mem_waitParameters {p : String × String} (h : p ∈ Message.waitParameters params) :
    p.1 = "asyncMax" := by
  rw [Message.waitParameters] at h
  cases hlongest : params.asyncMax with
  | none =>
    rw [hlongest] at h
    cases h
  | some longest =>
    rw [hlongest] at h
    rw [List.mem_singleton.1 h]

/-- The version stands behind the fields of a body, none of which has its name. -/
theorem IsOf.of_body (h : r.IsOf endpoints m) (hown : Unparametrized endpoints)
    (hverb : m.verb = .post ∨ m.verb = .put)
    (hbody : m.body = some (.record (fields ++ Message.versionFields params)))
    (hfields : ∀ field ∈ fields, field.1 ≠ "version")
    (hparameters : ∀ p ∈ m.parameters, p.1 = "asyncMax") {longest : Option Duration}
    (hwait : r.CarriesWait longest) :
    r.Carries (params.casVersion.map Ident.text)
      (some (.record (fields ++ Message.versionFields { params with casVersion := none }))) longest := by
  have hnone : (fields.filter fun field => field.1 = "version") = [] := by
    simpa [List.filter_eq_nil_iff] using hfields
  have hall : (fields.filter fun field => field.1 ≠ "version") = fields := by
    simpa [List.filter_eq_self] using hfields
  have hparameter : r.parameter "version" = [] := by
    rw [h.parameter hown, List.filter_eq_nil_iff.2 fun p hp => by simp [hparameters p hp], List.map_nil]
  have hvalues : valuesOf "version" (fields ++ Message.versionFields params) =
      (params.casVersion.map Ident.text).toList.map Document.text := by
    rw [valuesOf, List.filter_append, hnone, Message.versionFields]
    cases params.casVersion <;> rfl
  have hplain : ((fields ++ Message.versionFields params).filter fun field => field.1 ≠ "version") =
      fields ++ [] := by
    rw [List.filter_append, hall, Message.versionFields]
    cases params.casVersion <;> simp
  refine ⟨?_, ?_, hwait⟩
  · rcases hverb with hverb | hverb
    · rw [CarriesVersion, h.verb, hverb]
      exact ⟨hparameter, _, h.body.trans hbody, hvalues⟩
    · rw [CarriesVersion, h.verb, hverb]
      exact ⟨hparameter, _, h.body.trans hbody, hvalues⟩
  · rw [plainBody, h.body, hbody, Option.map_some]
    exact congrArg (fun fields => some (Document.record fields)) hplain

theorem IsOf.of_change (h : r.IsOf endpoints (.change verb path fields params))
    (hown : Unparametrized endpoints) (hverb : verb = .post ∨ verb = .put)
    (hfields : ∀ field ∈ fields, field.1 ≠ "version") :
    r.Carries (params.casVersion.map Ident.text)
      (some (.record (fields ++ Message.versionFields { params with casVersion := none }))) none := by
  refine h.of_body hown hverb rfl hfields (by simp [Message.change]) ?_
  rw [CarriesWait, h.parameter hown]
  rfl

theorem IsOf.of_submit (h : r.IsOf endpoints (.submit verb path fields params))
    (hown : Unparametrized endpoints) (hverb : verb = .post ∨ verb = .put)
    (hfields : ∀ field ∈ fields, field.1 ≠ "version") :
    r.Carries (params.casVersion.map Ident.text)
      (some (.record (fields ++ Message.versionFields { params with casVersion := none })))
      params.asyncMax := by
  refine h.of_body hown hverb rfl hfields (fun p hp => mem_waitParameters hp) ?_
  rw [CarriesWait, h.parameter hown, Message.submit, Message.waitParameters]
  cases params.asyncMax <;> rfl

theorem IsOf.of_remove (h : r.IsOf endpoints (.remove path params)) (hown : Unparametrized endpoints) :
    r.Carries (params.casVersion.map Ident.text) none params.asyncMax := by
  refine ⟨?_, ?_, ?_⟩
  · rw [CarriesVersion, h.verb]
    refine ⟨h.body, ?_⟩
    rw [h.parameter hown, Message.remove, Message.waitParameters, Message.versionParameters]
    cases params.asyncMax <;> cases params.casVersion <;> rfl
  · rw [plainBody, h.body]
    rfl
  · rw [CarriesWait, h.parameter hown, Message.remove, Message.waitParameters,
      Message.versionParameters]
    cases params.asyncMax <;> cases params.casVersion <;> rfl

/-! ### Calls -/

/-- The request of a call carries what its parameters ask for, and the rest of its body is that of the call
without a version. -/
theorem IsOf.carries {c : Call} (h : r.IsOf endpoints (.ofCall c)) (hown : Unparametrized endpoints)
    (hparams : c.params? = some params) :
    r.Carries (params.casVersion.map Ident.text)
      (Message.ofCall (c.withParams { params with casVersion := none })).body
      (if c.method.isDeferrable then params.asyncMax else none) := by
  cases c with
  | deleteNamespace id params =>
    obtain rfl := Option.some.inj hparams
    exact h.of_remove hown
  | createVolume ns spec params =>
    obtain rfl := Option.some.inj hparams
    exact h.of_submit hown (.inl rfl) (by simp [Message.volumeFields])
  | resizeVolume ns id sizeBytes params =>
    obtain rfl := Option.some.inj hparams
    exact h.of_submit hown (.inr rfl) (by simp)
  | setReplicas ns id count params =>
    obtain rfl := Option.some.inj hparams
    exact h.of_submit hown (.inr rfl) (by simp)
  | setDescription ns id text params =>
    obtain rfl := Option.some.inj hparams
    exact h.of_change hown (.inr rfl) (by simp)
  | updateNfsExports ns id exports params =>
    obtain rfl := Option.some.inj hparams
    exact h.of_submit hown (.inr rfl) (by simp)
  | attachVolume ns id node params =>
    obtain rfl := Option.some.inj hparams
    exact h.of_submit hown (.inl rfl) (by simp)
  | detachVolume ns id params =>
    obtain rfl := Option.some.inj hparams
    exact h.of_remove hown
  | deleteVolume ns id params =>
    obtain rfl := Option.some.inj hparams
    exact h.of_remove hown
  | setNodeCordoned id cordoned params =>
    obtain rfl := Option.some.inj hparams
    exact h.of_change hown (.inr rfl) (by simp)
  | _ => cases hparams

/-- A new namespace has no constraints. -/
theorem IsOf.of_createNamespace {name : String} {labels : Labels}
    (h : r.IsOf endpoints (.ofCall (.createNamespace name labels))) (hown : Unparametrized endpoints) :
    r.CarriesVersion none ∧ r.CarriesWait none := by
  have hmessage : Message.ofCall (.createNamespace name labels) =
      .change .post Message.namespaces (Message.namespaceFields name labels) .empty := by
    simp [Message.ofCall, Message.change, Message.versionFields, RequestParams.empty]
  rw [hmessage] at h
  have hcarries := h.of_change hown (.inl rfl) (by simp [Message.namespaceFields])
  exact ⟨hcarries.version, hcarries.wait⟩

end Request

/-! ### What goes out -/

namespace Client

variable {ν : Type} {client : Client ν} {message : Message}

/-- The request of a message at an endpoint, if it can be made. -/
def requestAt (client : Client ν) (message : Message) (endpoint : String) : Except ClientError Request := do
  let url ← urlAt endpoint message.path
  client.request message url

theorem isOf_of_requestAt {endpoint : String} {r : Request} {endpoints : List String}
    (hmem : endpoint ∈ endpoints) (h : client.requestAt message endpoint = .ok r) :
    r.IsOf endpoints message := by
  obtain ⟨url, hurl, h⟩ := bind_eq_ok h
  rw [urlAt] at hurl
  split at hurl
  next start hstart =>
    obtain rfl := Except.ok.inj hurl
    rw [request] at h
    split at h
    · cases h
    split at h
    · cases h
    obtain rfl := Except.ok.inj h
    exact ⟨rfl, rfl, endpoint, hmem, start, hstart, rfl⟩
  next => cases hurl

variable [Network ν]

/-- Sending starts with a request to the first endpoint, if one can be made, and may go on behind it. -/
theorem sendTo_cases (client : Client ν) (message : Message) (context : Context)
    (cancelledAt : Option Nat) (failure : ClientError) (now : Nat) (network : ν) (endpoint : String)
    (endpoints : List String) :
    let sent := client.sendTo context cancelledAt message failure now network (endpoint :: endpoints)
    (∃ e, client.requestAt message endpoint = .error e ∧ sent.result = .error e ∧ sent.requests = [] ∧
        sent.network = network) ∨
      ∃ request, client.requestAt message endpoint = .ok request ∧
        ((sent.requests = [request] ∧ sent.network = (Network.deliver network request).2) ∨
          ∃ failure now,
            let rest := client.sendTo context cancelledAt message failure now
              (Network.deliver network request).2 endpoints
            sent.requests = request :: rest.requests ∧ sent.network = rest.network) := by
  intro sent
  cases hurl : urlAt endpoint message.path with
  | error e =>
    have hsent : sent = ⟨.error e, now, network, [], []⟩ := by simp only [sent, sendTo, hurl]
    rw [hsent, requestAt, hurl]
    exact .inl ⟨e, rfl, rfl, rfl, rfl⟩
  | ok url =>
    cases hrequest : client.request message url with
    | error e =>
      have hsent : sent = ⟨.error e, now, network, [], [sendingEvent message url]⟩ := by
        simp only [sent, sendTo, hurl, hrequest]
      rw [hsent, requestAt, hurl]
      exact .inl ⟨e, hrequest, rfl, rfl, rfl⟩
    | ok request =>
      refine .inr ⟨request, by rw [requestAt, hurl]; exact hrequest, ?_⟩
      simp only [sent, sendTo, hurl, hrequest]
      rcases outcome context now cancelledAt request (Network.deliver network request).1 with
        ⟨e | _ | reply, time⟩
      · exact .inl ⟨rfl, rfl⟩
      · exact .inr ⟨_, time, rfl, rfl⟩
      · exact .inl ⟨rfl, rfl⟩

/-- All that goes out for a message are requests of it at the endpoints. -/
theorem exists_requestAt_of_mem_sendTo {context : Context} {cancelledAt : Option Nat}
    {endpoints : List String} {failure : ClientError} {now : Nat} {network : ν} {r : Request}
    (h : r ∈ (client.sendTo context cancelledAt message failure now network endpoints).requests) :
    ∃ endpoint ∈ endpoints, client.requestAt message endpoint = .ok r := by
  induction endpoints generalizing failure now network with
  | nil => cases h
  | cons endpoint endpoints ih =>
    rcases client.sendTo_cases message context cancelledAt failure now network endpoint endpoints with
      ⟨e, -, -, hnone, -⟩ | ⟨request, hrequest, ⟨hone, -⟩ | ⟨failure', now', hmore, -⟩⟩
    · rw [hnone] at h
      cases h
    · rw [hone, List.mem_singleton] at h
      exact ⟨endpoint, List.mem_cons_self, h ▸ hrequest⟩
    · rw [hmore] at h
      rcases List.mem_cons.1 h with rfl | h
      · exact ⟨endpoint, List.mem_cons_self, hrequest⟩
      · obtain ⟨other, hmem, hother⟩ := ih h
        exact ⟨other, List.mem_cons_of_mem _ hmem, hother⟩

theorem requests_call (contexts : Contexts) (ctx : Nat) (cancelledAt : Option Nat) (c : Call) :
    (client.call contexts ctx cancelledAt c).requests =
      (client.send contexts ctx cancelledAt (.ofCall c)).requests := by
  simp only [call]
  split
  · rfl
  · split <;> rfl

theorem exists_requestAt_of_mem_call {contexts : Contexts} {ctx : Nat} {cancelledAt : Option Nat}
    {c : Call} {r : Request} (h : r ∈ (client.call contexts ctx cancelledAt c).requests) :
    ∃ endpoint ∈ client.endpoints, client.requestAt (.ofCall c) endpoint = .ok r := by
  rw [requests_call, send] at h
  split at h
  · cases h
  · exact exists_requestAt_of_mem_sendTo h

theorem isOf_of_mem_call {contexts : Contexts} {ctx : Nat} {cancelledAt : Option Nat} {c : Call}
    {r : Request} (h : r ∈ (client.call contexts ctx cancelledAt c).requests) :
    r.IsOf client.endpoints (.ofCall c) := by
  obtain ⟨endpoint, hmem, hrequest⟩ := exists_requestAt_of_mem_call h
  exact isOf_of_requestAt hmem hrequest

/-- Where a call may start, a request goes out to the first endpoint, if one can be made. -/
theorem mem_call_of_requestAt {contexts : Contexts} {ctx : Nat} {cancelledAt : Option Nat} {c : Call}
    {r : Request} (hstart : contexts.mayStart ctx = .ok ())
    (h : ∃ endpoint ∈ client.endpoints.head?, client.requestAt (.ofCall c) endpoint = .ok r) :
    r ∈ (client.call contexts ctx cancelledAt c).requests := by
  obtain ⟨endpoint, hhead, hrequest⟩ := h
  obtain ⟨endpoints, hendpoints⟩ := List.head?_eq_some_iff.1 hhead
  rw [requests_call, send, hstart, hendpoints]
  rcases client.sendTo_cases (.ofCall c) (contexts.get ctx) cancelledAt
      (.config "no API endpoints configured") contexts.now client.network endpoint endpoints with
    ⟨e, herror, -, -, -⟩ | ⟨request, hrequest', hsent⟩
  · rw [hrequest] at herror
    cases herror
  · obtain rfl := Except.ok.inj (hrequest.symm.trans hrequest')
    rcases hsent with ⟨hone, -⟩ | ⟨failure, now, hmore, -⟩
    · simp only [hone, List.mem_singleton]
    · simp only [hmore, List.mem_cons, true_or]

end Client

end Rest

end BlockStorage
