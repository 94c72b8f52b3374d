import BlockStorage.Proofs.Command.Changes
import BlockStorage.Proofs.Rest.Constraints
import BlockStorage.Proofs.Rest.Deadline

/-!
What commands send over a network.

A network that keeps a record shows all requests of a run in their order. A command sends requests of its
look-ups, of its session and of its one change, and it does not succeed without the last, if it is there to
change something. So the constraints that its flags ask for are in every request that changes something.
-/

namespace BlockStorage

namespace Rest

/-- A network that keeps a record of the requests that it carries. -/
structure Recorded (ν : Type) where
  network : ν
  sent : List Request

instance {ν : Type} [Network ν] : Network (Recorded ν) where
  deliver recorded request :=
    let (delivery, network) := Network.deliver recorded.network request
    (delivery, ⟨network, recorded.sent ++ [request]⟩)

end Rest

open Rest

variable {ν : Type}

/-- From one world to the other these requests were sent. -/
structure World.Sends (w : World (Client (Recorded ν))) (rs : List Request)
    (v : World (Client (Recorded ν))) : Prop where
  endpoints : v.cluster.endpoints = w.cluster.endpoints
  sent : v.cluster.network.sent = w.cluster.network.sent ++ rs

namespace World

variable {u v w : World (Client (Recorded ν))} {rs rs' : List Request}

theorem Sends.of_cluster_eq (h : v.cluster = w.cluster) : w.Sends [] v :=
  ⟨by rw [h], by rw [h, List.append_nil]⟩

theorem Sends.trans (h : u.Sends rs v) (h' : v.Sends rs' w) : u.Sends (rs ++ rs') w :=
  ⟨h'.endpoints.trans h.endpoints, by rw [h'.sent, h.sent, List.append_assoc]⟩

end World

variable [Network ν]

/-! ### Calls -/

namespace Rest.Client

/-- The record gets the requests that go out for a message, and no message succeeds without one. -/
theorem sent_sendTo (client : Client (Recorded ν)) (message : Message) (context : Context)
    (cancelledAt : Option Nat) (failure : ClientError) (now : Nat) (network : Recorded ν)
    (endpoints : List String) :
    let sent := client.sendTo context cancelledAt message failure now network endpoints
    sent.network.sent = network.sent ++ sent.requests ∧
      (sent.requests = [] → ∃ e, sent.result = .error e) := by
  induction endpoints generalizing failure now network with
  | nil => exact ⟨(List.append_nil _).symm, fun _ => ⟨failure, rfl⟩⟩
  | cons endpoint endpoints ih =>
    intro sent
    rcases client.sendTo_cases message context cancelledAt failure now network endpoint endpoints with
      ⟨e, -, herror, hnone, hnetwork⟩ |
        ⟨request, -, ⟨hone, hnetwork⟩ | ⟨failure', now', hmore, hnetwork⟩⟩
    · refine ⟨?_, fun _ => ⟨e, herror⟩⟩
      rw [hnone, hnetwork, List.append_nil]
    · refine ⟨?_, fun hnone => ?_⟩
      · rw [hone, hnetwork]
        rfl
      · rw [hone] at hnone
        cases hnone
    · refine ⟨?_, fun hnone => ?_⟩
      · rw [hmore, hnetwork, (ih failure' now' _).1]
        exact List.append_assoc _ [request] _
      · rw [hmore] at hnone
        cases hnone

theorem sent_send (client : Client (Recorded ν)) (contexts : Contexts) (ctx : Nat)
    (cancelledAt : Option Nat) (message : Message) :
    let sent := client.send contexts ctx cancelledAt message
    sent.network.sent = client.network.sent ++ sent.requests ∧
      (sent.requests = [] → ∃ e, sent.result = .error e) := by
  rw [send]
  split
  next e he => exact ⟨(List.append_nil _).symm, fun _ => ⟨e, rfl⟩⟩
  next => exact sent_sendTo ..

/-- The record gets the requests of a call, and no call succeeds without one. -/
theorem sent_call (client : Client (Recorded ν)) (contexts : Contexts) (ctx : Nat)
    (cancelledAt : Option Nat) (c : Call) :
    let called := client.call contexts ctx cancelledAt c
    called.client.endpoints = client.endpoints ∧
      called.client.network.sent = client.network.sent ++ called.requests ∧
      (called.requests = [] → ∃ e, called.answer = .error e) := by
  obtain ⟨hsent, hnone⟩ := client.sent_send contexts ctx cancelledAt (.ofCall c)
  simp only [call]
  split
  next e he => exact ⟨rfl, hsent, fun _ => ⟨_, rfl⟩⟩
  next reply hreply =>
    have hsome : (client.send contexts ctx cancelledAt (.ofCall c)).requests ≠ [] := fun h => by
      obtain ⟨e, he⟩ := hnone h
      rw [hreply] at he
      cases he
    split
    next e he => exact ⟨rfl, hsent, fun h => absurd h hsome⟩
    next answer token he => exact ⟨rfl, hsent, fun h => absurd h hsome⟩

end Rest.Client

theorem World.sends_call (w : World (Client (Recorded ν))) (ctx : Nat) (c : Call) :
    ∃ rs, w.Sends rs (w.call ctx c).2 ∧ (∀ r ∈ rs, r.IsOf w.cluster.endpoints (.ofCall c)) ∧
      ((w.call ctx c).1.isOk → rs ≠ []) := by
  obtain ⟨hendpoints, hsent, hnone⟩ := w.cluster.sent_call w.contexts ctx none c
  refine ⟨(w.cluster.call w.contexts ctx none c).requests, ⟨hendpoints, hsent⟩,
    fun r hr => Client.isOf_of_mem_call hr, fun hok h => ?_⟩
  obtain ⟨e, he⟩ := hnone h
  simp [World.call, Cluster.Callable.answer, he] at hok
  cases hok

/-! ### Programs -/

/-- A program sends the requests of the calls that it makes, and at least one for each that succeeds. -/
theorem Program.run_sends {α : Type} (p : Program α) (ctx : Nat) (w : World (Client (Recorded ν))) :
    ∃ xs rs, p.Takes xs (p.run ctx w).1 ∧ w.Sends rs (p.run ctx w).2 ∧
      (∀ r ∈ rs, ∃ x ∈ xs, r.IsOf w.cluster.endpoints (.ofCall x.call)) ∧
      ∀ x ∈ xs, x.isOk → ∃ r ∈ rs, r.IsOf w.cluster.endpoints (.ofCall x.call) := by
  induction p generalizing w with
  | done result => exact ⟨[], [], .done result, .of_cluster_eq rfl, by simp, by simp⟩
  | note event next ih =>
    obtain ⟨xs, rs, htakes, hsends, hrest⟩ := ih (w.log [event])
    exact ⟨xs, rs, .note htakes, ⟨hsends.endpoints, hsends.sent⟩, hrest⟩
  | call c next ih =>
    obtain ⟨rs, hsends, hof, hsome⟩ := w.sends_call ctx c
    rw [Program.run]
    rcases hcall : w.call ctx c with ⟨f | a, v⟩
    · rw [hcall] at hsends
      refine ⟨[⟨c, .error f⟩], rs, .failed f, hsends, fun r hr => ⟨_, List.mem_cons_self, hof r hr⟩, ?_⟩
      intro x hx hok
      rw [List.mem_singleton.1 hx] at hok
      cases hok
    · rw [hcall] at hsends hsome
      obtain ⟨xs, rs', htakes, hsends', hof', hsome'⟩ := ih a v
      rw [hsends.endpoints] at hof' hsome'
      refine ⟨⟨c, .ok a⟩ :: xs, rs ++ rs', .answered htakes, hsends.trans hsends', ?_, ?_⟩
      · intro r hr
        rcases List.mem_append.1 hr with hr | hr
        · exact ⟨_, List.mem_cons_self, hof r hr⟩
        · obtain ⟨x, hx, hr⟩ := hof' r hr
          exact ⟨x, List.mem_cons_of_mem _ hx, hr⟩
      · intro x hx hok
        rcases List.mem_cons.1 hx with rfl | hx
        · obtain ⟨r, hr⟩ := List.exists_mem_of_ne_nil rs (hsome rfl)
          exact ⟨r, List.mem_append_left _ hr, hof r hr⟩
        · obtain ⟨r, hr, hr'⟩ := hsome' x hx hok
          exact ⟨r, List.mem_append_right _ hr, hr'⟩

/-! ### Stages -/

/-- Started at these endpoints, a handler sends only requests of some calls, and what it has sent when it
succeeds is as told. -/
def SendsOnly (endpoints : List String) (calls : Call → Prop) (finished : List Request → Prop)
    (handler : Handler (Client (Recorded ν))) : Prop :=
  ∀ ctx args w, w.cluster.endpoints = endpoints →
    ∃ rs, w.Sends rs (handler ctx args w).2 ∧
      (∀ r ∈ rs, ∃ c, calls c ∧ r.IsOf endpoints (.ofCall c)) ∧
      ((handler ctx args w).1 = .ok () → finished rs)

section

variable {s : Settings} {endpoints : List String} {calls : Call → Prop} {finished : List Request → Prop}
  {next : Handler (Client (Recorded ν))}

omit [Network ν] in
/-- Ending with an error and nothing sent is never wrong. -/
theorem sends_nothing {w v : World (Client (Recorded ν))} {f : Failure} (h : v.cluster = w.cluster) :
    ∃ rs, w.Sends rs ((.error f, v) : Outcome (Client (Recorded ν)) Unit).2 ∧
      (∀ r ∈ rs, ∃ c, calls c ∧ r.IsOf endpoints (.ofCall c)) ∧
      (((.error f, v) : Outcome (Client (Recorded ν)) Unit).1 = .ok () → finished rs) :=
  ⟨[], .of_cluster_eq h, by simp, fun h => by cases h⟩

omit [Network ν] in
theorem SendsOnly.underDeadline (h : SendsOnly endpoints calls finished next) (timeout : Duration) :
    SendsOnly endpoints calls finished (Stage.underDeadline timeout next) := by
  intro ctx args w hw
  rw [Stage.underDeadline]
  split
  · obtain ⟨rs, hsends, hrest⟩ :=
      h (w.contexts.derive ctx timeout).2 args { w with contexts := (w.contexts.derive ctx timeout).1 } hw
    exact ⟨rs, ⟨hsends.endpoints, hsends.sent⟩, hrest⟩
  · exact sends_nothing rfl

theorem SendsOnly.withSession (h : SendsOnly endpoints calls finished next)
    (hopening : ∀ credentials, s.credentials = .ok credentials → calls credentials.opening)
    (hfinished : ∀ rs rs', finished rs' → finished (rs ++ rs')) :
    SendsOnly endpoints calls finished (Stage.withSession s next) := by
  intro ctx args w hw
  rw [Stage.withSession]
  split
  next e he => exact sends_nothing rfl
  next credentials hcredentials =>
    obtain ⟨rs, hsends, hof, -⟩ := w.sends_call ctx credentials.opening
    rw [hw] at hof
    have hcalls : ∀ r ∈ rs, ∃ c, calls c ∧ r.IsOf endpoints (.ofCall c) := fun r hr =>
      ⟨_, hopening credentials hcredentials, hof r hr⟩
    split
    next f v hcall =>
      rw [hcall] at hsends
      exact ⟨rs, hsends, hcalls, fun h => by cases h⟩
    next session v hcall =>
      rw [hcall] at hsends
      obtain ⟨rs', hsends', hcalls', hdone⟩ :=
        h ctx args (v.log [Stage.authenticatedEvent session]) (hsends.endpoints.trans hw)
      refine ⟨rs ++ rs', hsends.trans ⟨hsends'.endpoints, hsends'.sent⟩, ?_, fun hok =>
        hfinished rs rs' (hdone hok)⟩
      intro r hr
      exact (List.mem_append.1 hr).elim (hcalls r) (hcalls' r)

theorem SendsOnly.withExplanation (h : SendsOnly endpoints calls finished next)
    (hlicence : calls .getLicence) :
    SendsOnly endpoints calls finished (Stage.withExplanation next) := by
  intro ctx args w hw
  obtain ⟨rs, hsends, hcalls, hdone⟩ := h ctx args w hw
  rw [Stage.withExplanation]
  split
  next reason v hnext =>
    rw [hnext] at hsends
    obtain ⟨rs', hsends', hof, -⟩ := v.sends_call ctx .getLicence
    rw [hsends.endpoints, hw] at hof
    have hboth : ∀ r ∈ rs ++ rs', ∃ c, calls c ∧ r.IsOf endpoints (.ofCall c) := fun r hr =>
      (List.mem_append.1 hr).elim (hcalls r) fun hr => ⟨_, hlicence, hof r hr⟩
    have hall := hsends.trans hsends'
    split
    next licence u hcall =>
      rw [hcall] at hall
      exact ⟨rs ++ rs', ⟨hall.endpoints, hall.sent⟩, hboth, fun h => by cases h⟩
    next e u hcall =>
      rw [hcall] at hall
      exact ⟨rs ++ rs', ⟨hall.endpoints, hall.sent⟩, hboth, fun h => by cases h⟩
    next u hcall =>
      rw [hcall] at hall
      exact ⟨rs ++ rs', hall, hboth, fun h => by cases h⟩
  next => exact ⟨rs, hsends, hcalls, hdone⟩

/-- Stages add the requests of a session and of the licence. -/
theorem SendsOnly.chain (h : SendsOnly endpoints calls finished next)
    (hopening : ∀ credentials, s.credentials = .ok credentials → calls credentials.opening)
    (hlicence : calls .getLicence) (hfinished : ∀ rs rs', finished rs' → finished (rs ++ rs'))
    (stages : List Stage) :
    SendsOnly endpoints calls finished (BlockStorage.chain (stages.map (Stage.middleware s)) next) := by
  have hrespects : Stage.Respects s fun (next _ : Handler (Client (Recorded ν))) =>
      SendsOnly endpoints calls finished next := by
    constructor
    case barred =>
      intro bars error _ next _ h ctx args w hw
      rw [Stage.barring]
      split
      · exact sends_nothing rfl
      · exact h ctx args w hw
    case session => exact fun h => h.withSession hopening hfinished
    case explained => exact fun h => h.withExplanation hlicence
  refine hrespects.chain_one (fun fallback _ next h ctx args w hw => ?_) h
  obtain ⟨rs, hsends, hrest⟩ := h.underDeadline (s.effectiveTimeout fallback) ctx args
    (w.log (Stage.deadlineEvents s fallback)) hw
  exact ⟨rs, ⟨hsends.endpoints, hsends.sent⟩, hrest⟩

end

/-! ### Commands -/

theorem Call.verb_of_isReading {c : Call} (h : c.isReading = true) : (Message.ofCall c).verb = .get := by
  cases c <;> first | rfl | cases h

namespace Command

/-- The calls that a run of a command may make: it reads, opens its session and makes its change. -/
def MayCall (s : Settings) (c : Command) (k : Call) : Prop :=
  k.isReading = true ∨ (∃ credentials, s.credentials = .ok credentials ∧ k = credentials.opening) ∨
    c.Changes s k

/-- The request makes the change of a command. -/
def IsChange (s : Settings) (c : Command) (endpoints : List String) (r : Request) : Prop :=
  ∃ k, c.Changes s k ∧ r.IsOf endpoints (.ofCall k)

variable {s : Settings} {c : Command} {endpoints : List String} {r : Request}

theorem mayCall_of_fits {refs : List (ResourceKind × String)} {ph : Phases}
    (h : ph.Fits refs (c.Changes s)) {x : Exchange} (hx : x ∈ ph.exchanges) : c.MayCall s x.call := by
  rcases Phases.mem_exchanges.1 hx with hx | hx | hx
  · exact .inl (h.reads x hx)
  · exact .inr (.inr (h.change x hx))
  · -- what is fetched again is only read
    have hmem : x.call ∈ ph.change.filterMap Exchange.refetch? := by
      rw [← h.refetch]
      exact List.mem_map_of_mem hx
    obtain ⟨y, -, hy⟩ := List.mem_filterMap.1 hmem
    refine .inl ?_
    unfold Exchange.refetch? at hy
    split at hy
    · rw [← Option.some.inj hy]
      rfl
    · cases hy

/-- The handler of a command sends requests of the calls that it may make, and when it succeeds, its
change is among them. -/
theorem handler_sends {plan : Plan} (hplan : c.plan s = .ok plan) (hcheck : plan.check = .ok ()) :
    SendsOnly (ν := ν) endpoints (c.MayCall s)
      (fun rs => c.isShowing = false → ∃ r ∈ rs, c.IsChange s endpoints r) (plan.handler s) := by
  intro ctx args w hw
  obtain ⟨xs, rs, htakes, hsends, hof, hsome⟩ := plan.body.run_sends ctx w
  rw [hw] at hof hsome
  obtain ⟨⟨ph, rfl, hfits⟩, -⟩ := (planned_of_plan hplan).phased hcheck xs _ htakes
  have hcalls : ∀ r ∈ rs, ∃ k, c.MayCall s k ∧ r.IsOf endpoints (.ofCall k) := fun r hr => by
    obtain ⟨x, hx, hr⟩ := hof r hr
    exact ⟨x.call, mayCall_of_fits hfits hx, hr⟩
  rw [Plan.handler]
  rcases hrun : plan.body.run ctx w with ⟨f | view, v⟩
  · rw [hrun] at hsends
    exact ⟨rs, hsends, hcalls, fun h => by cases h⟩
  · rw [hrun] at hsends htakes
    have hcluster : (v.display s view).2.cluster = v.cluster := by
      rw [World.display]
      cases s.outputFormat <;> rfl
    refine ⟨rs, ⟨?_, ?_⟩, hcalls, fun _ hshowing => ?_⟩
    · exact (congrArg _ hcluster).trans hsends.endpoints
    · exact (congrArg (fun cluster => cluster.network.sent) hcluster).trans hsends.sent
    · obtain ⟨x, hx, hchanges⟩ := makes_of_plan hplan hcheck hshowing _ _ htakes
      obtain ⟨r, hr, hrof⟩ := hsome x hx (htakes.isOk_of_ok x hx)
      exact ⟨r, hr, x.call, hchanges, hrof⟩

theorem run_sends (s : Settings) (c : Command) (ctx : Nat) (w : World (Client (Recorded ν)))
    (hw : w.cluster.endpoints = endpoints) :
    ∃ rs, w.Sends rs (c.run s ctx w).2 ∧
      (∀ r ∈ rs, ∃ k, c.MayCall s k ∧ r.IsOf endpoints (.ofCall k)) ∧
      ((c.run s ctx w).1 = .ok () → c.isShowing = false → ∃ r ∈ rs, c.IsChange s endpoints r) := by
  rw [Command.run]
  cases hplan : c.plan s with
  | error e => exact sends_nothing rfl
  | ok plan =>
    simp only [Invocation.run, Invocation.validate, Plan.invocation]
    cases hcheck : plan.check with
    | error e => exact sends_nothing rfl
    | ok _ =>
      refine (handler_sends hplan hcheck).chain ?_ (.inl rfl) ?_ plan.stages ctx plan.args w hw
      · exact fun credentials hcredentials => .inr (.inl ⟨credentials, hcredentials, rfl⟩)
      · intro rs rs' h hshowing
        obtain ⟨r, hr, hchange⟩ := h hshowing
        exact ⟨r, List.mem_append_right _ hr, hchange⟩

/-- Only a change that may be carried out later has a flag for that. -/
theorem Changes.isDeferrable {k : Call} (h : c.Changes s k) (hasync : c.isAsync = true) :
    k.method.isDeferrable = true := by
  cases c with
  | createVolume name draft isAsync =>
    obtain ⟨ns, spec, -, rfl⟩ := h
    rfl
  | resizeVolume volume size cas isAsync =>
    obtain ⟨ns, id, sizeBytes, -, rfl⟩ := h
    rfl
  | setReplicas volume replicas cas isAsync =>
    obtain ⟨ns, id, count, -, rfl⟩ := h
    rfl
  | updateExports volume exports cas isAsync =>
    obtain ⟨ns, id, read, -, rfl⟩ := h
    rfl
  | deleteVolume volume cas isAsync =>
    obtain ⟨ns, id, rfl⟩ := h
    rfl
  | attach volume node cas isAsync =>
    obtain ⟨ns, id, nodeId, rfl⟩ := h
    rfl
  | detach volume cas isAsync =>
    obtain ⟨ns, id, rfl⟩ := h
    rfl
  | _ => cases hasync

/-- The change of a command carries what its flags ask for. -/
theorem IsChange.carries (h : c.IsChange s endpoints r) (hown : Unparametrized endpoints) :
    r.CarriesVersion c.cas? ∧ r.CarriesWait (c.wait? s) := by
  obtain ⟨k, hchanges, hof⟩ := h
  rcases hchanges.params with ⟨name, labels, rfl, hcas, hasync⟩ | hparams
  · rw [hcas, wait?, hasync]
    exact hof.of_createNamespace hown
  · have hcarries := hof.carries hown hparams
    rw [RequestParams.casVersion_ofFlags, RequestParams.asyncMax_ofFlags] at hcarries
    refine ⟨hcarries.version, ?_⟩
    have hwait := hcarries.wait
    by_cases hasync : c.isAsync = true
    · rwa [hchanges.isDeferrable hasync] at hwait
    · rw [if_neg hasync, ite_self] at hwait
      rwa [wait?, if_neg hasync]

end Command

/-- The constraints of every change are in its requests. Whatever the way that a call goes out on, each of its
requests has the version exactly once if one is asked for, unaltered and at its place, and not at all
otherwise; the rest of the body is that without a version; and the longest wait is among the parameters of
the changes that may be carried out later. Such a request does go out where the call may start and one can be
made. So in every run of a command, whatever does not only read or open the session is the change of the
command with the version and the wait that its flags ask for, and the run does not succeed without it. -/
theorem constraints_on_the_wire {endpoints : List String} (hown : Unparametrized endpoints) :
    (∀ (client : Client ν) (contexts : Contexts) (ctx : Nat) (cancelledAt : Option Nat) (k : Call)
        (params : RequestParams), client.endpoints = endpoints → k.params? = some params →
      (∀ r ∈ (client.call contexts ctx cancelledAt k).requests,
        r.Carries (params.casVersion.map Ident.text)
          (Message.ofCall (k.withParams { params with casVersion := none })).body
          (if k.method.isDeferrable then params.asyncMax else none)) ∧
      ∀ endpoint ∈ endpoints.head?, ∀ r, contexts.mayStart ctx = .ok () →
        client.requestAt (.ofCall k) endpoint = .ok r →
        r ∈ (client.call contexts ctx cancelledAt k).requests) ∧
    ∀ (s : Settings) (c : Command) (ctx : Nat) (w : World (Client (Recorded ν))),
      w.cluster.endpoints = endpoints →
      ∃ rs, w.Sends rs (c.run s ctx w).2 ∧
        (∀ r ∈ rs, r.verb = .get ∨
          (∃ credentials, s.credentials = .ok credentials ∧
            r.IsOf endpoints (.ofCall credentials.opening)) ∨
          (c.IsChange s endpoints r ∧ r.CarriesVersion c.cas? ∧ r.CarriesWait (c.wait? s))) ∧
        ((c.run s ctx w).1 = .ok () → c.isShowing = false →
          ∃ r ∈ rs, c.IsChange s endpoints r ∧ r.CarriesVersion c.cas? ∧ r.CarriesWait (c.wait? s)) := by
  constructor
  · rintro client contexts ctx cancelledAt k params rfl hparams
    refine ⟨fun r hr => (Client.isOf_of_mem_call hr).carries hown hparams, ?_⟩
    exact fun endpoint hhead r hstart hrequest =>
      Client.mem_call_of_requestAt hstart ⟨endpoint, hhead, hrequest⟩
  · intro s c ctx w hw
    obtain ⟨rs, hsends, hcalls, hdone⟩ := c.run_sends s ctx w hw
    refine ⟨rs, hsends, fun r hr => ?_, fun hok hshowing => ?_⟩
    · obtain ⟨k, hreading | ⟨credentials, hcredentials, rfl⟩ | hchanges, hof⟩ := hcalls r hr
      · exact .inl (hof.verb.trans (Call.verb_of_isReading hreading))
      · exact .inr (.inl ⟨credentials, hcredentials, hof⟩)
      · have hchange : c.IsChange s endpoints r := ⟨k, hchanges, hof⟩
        exact .inr (.inr ⟨hchange, hchange.carries hown⟩)
    · obtain ⟨r, hr, hchange⟩ := hdone hok hshowing
      exact ⟨r, hr, hchange, hchange.carries hown⟩

/-- A client whose endpoint opens every session and takes every change for later. -/
def acceptingClient : Client (Recorded Client.OneReply) :=
  let session := "\x7b\"userId\":\"user-1\",\"username\":\"admin\"\x7d"
  ⟨["http://node-1:5705"], Client.defaultUserAgent, none,
    ⟨⟨⟨202, some "Bearer token", .text session, .zero, .zero⟩⟩, []⟩⟩

/-- Settings in which references are identifiers. -/
def settingsWithIds : Settings :=
  ⟨{ Options.empty with password := some "secret", «namespace» := some "ns-1", useIds := true }, .empty,
    ⟨.empty, none⟩⟩

/-- A volume is deleted if it has a version still, which has a blank in it, and that may be done later. -/
theorem constraints_on_the_wire_removal :
    let removal : Command := .deleteVolume "vol-2" (some "v 4") true
    let w : World (Client (Recorded Client.OneReply)) :=
      ⟨.epoch, .start, acceptingClient, .withLimit none, []⟩
    let after := removal.run settingsWithIds 0 w
    after.1 = .ok () ∧
      (after.2.cluster.network.sent.map fun r => (r.verb, r.url.text)) =
        [(.post, "http://node-1:5705/v2/auth/login"),
          (.delete, "http://node-1:5705/v2/namespaces/ns-1/volumes/vol-2?asyncMax=15s&version=v+4")] ∧
      Unparametrized acceptingClient.endpoints ∧
      (∀ r ∈ (acceptingClient.call .start 0 none
          (.deleteVolume ⟨"ns-1"⟩ ⟨"vol-2"⟩ ⟨some ⟨"v 4"⟩, none⟩)).requests,
        r.Carries (some "v 4") none none) ∧
      ∃ r ∈ after.2.cluster.network.sent, removal.IsChange settingsWithIds acceptingClient.endpoints r ∧
        r.CarriesVersion (some "v 4") ∧ r.CarriesWait (some (.ofSecs 15)) := by
  intro removal w after
  have hok : after.1 = .ok () := by decide +kernel
  have hown : Unparametrized acceptingClient.endpoints := by
    intro endpoint hmem url hurl
    have hread : (Url.ofEndpoint "http://node-1:5705").toOption.map Url.parameters = some [] := by decide
    rw [List.mem_singleton.1 hmem] at hurl
    rw [hurl] at hread
    exact Option.some.inj hread
  obtain ⟨rs, hsends, -, hdone⟩ :=
    (constraints_on_the_wire (ν := Client.OneReply) hown).2 settingsWithIds removal 0 w rfl
  obtain ⟨r, hr, hchange⟩ := hdone hok rfl
  refine ⟨hok, by decide +kernel, hown, ?_, r, ?_, hchange⟩
  · exact ((constraints_on_the_wire (ν := Recorded Client.OneReply) hown).1 acceptingClient .start 0 none
      (.deleteVolume ⟨"ns-1"⟩ ⟨"vol-2"⟩ ⟨some ⟨"v 4"⟩, none⟩) _ rfl rfl).1
  · rw [hsends.sent]
    exact List.mem_append_right _ hr

end BlockStorage
