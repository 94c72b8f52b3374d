import BlockStorage.Proofs.Context.Deadline

/-!
Calls over a network, and the ends of their contexts.

What an exchange comes to if nothing ends it, the free exchange, is the measure. Sending a message under a
context ends with what comes first: the free exchange, the deadline or a cancellation. The exchange reaches
to the end of an error, but only to the head of a success. So a call whose context ends before that fails
with the error of its context, and a success whose body comes too late is an answer nevertheless.
-/

namespace BlockStorage.Rest

/-- How long a delivery takes, as far as it is bound to a context. -/
def Delivery.span : Delivery → Nat
  | .refused after => after.nanos
  | .broken after => after.nanos
  | .replied reply =>
    if reply.isSuccess then reply.headAfter.nanos else reply.headAfter.nanos + reply.bodyAfter.nanos

/-- What a delivery comes to if nothing ends it. -/
def Delivery.result (request : Request) : Delivery → Except ClientError (Option Reply)
  | .refused _ => .ok none
  | .broken _ => .error (.transport (Client.sendingError request))
  | .replied reply =>
    if reply.isSuccess then .ok (some reply) else .error (Reply.errorOf reply.status reply.body)

namespace Client

variable {ν : Type} [Network ν]

theorem outcome_eq (context : Context) (now : Nat) (cancelledAt : Option Nat) (request : Request)
    (delivery : Delivery) :
    outcome context now cancelledAt request delivery =
      context.outcome now (now + delivery.span) cancelledAt (delivery.result request) := by
  cases delivery with
  | refused after => rfl
  | broken after => rfl
  | replied reply =>
    rw [outcome, Delivery.span, Delivery.result]
    split
    · rfl
    · rw [Nat.add_assoc]

/-- What sending comes to after a delivery, and when. -/
def onward (rest : Nat → Except ClientError Reply × Nat) :
    Except ClientError (Option Reply) × Nat → Except ClientError Reply × Nat
  | (.ok none, now) => rest now
  | (.ok (some reply), now) => (.ok reply, now)
  | (.error error, now) => (.error error, now)

/-- What came of sending a message, and when. -/
def Sent.ending (sent : Sent ν) : Except ClientError Reply × Nat := (sent.result, sent.time)

theorem ending_sendTo_cons {client : Client ν} {context : Context} {cancelledAt : Option Nat}
    {message : Message} {failure : ClientError} {now : Nat} {network : ν} {endpoint : String}
    {endpoints : List String} {url : Url} {request : Request}
    (hurl : urlAt endpoint message.path = .ok url) (hrequest : client.request message url = .ok request) :
    (client.sendTo context cancelledAt message failure now network (endpoint :: endpoints)).ending =
      onward (fun now => (client.sendTo context cancelledAt message
          (.transport (sendingError request)) now (Network.deliver network request).2 endpoints).ending)
        (context.outcome now (now + (Network.deliver network request).1.span) cancelledAt
          ((Network.deliver network request).1.result request)) := by
  rw [sendTo, hurl]
  simp only [hrequest, outcome_eq]
  rcases context.outcome now (now + (Network.deliver network request).1.span) cancelledAt
    ((Network.deliver network request).1.result request) with ⟨error | _ | reply, time⟩
  · rfl
  · rfl
  · rfl

/-- What sending to endpoints comes to if nothing ends it, and when. -/
def free (client : Client ν) (message : Message) (failure : ClientError) (network : ν)
    (endpoints : List String) (now : Nat) : Except ClientError Reply × Nat :=
  (client.sendTo Contexts.background none message failure now network endpoints).ending

/-- What the message of a call comes to if nothing ends that, and when: an error with all of its body, or a
success with its head. -/
def exchange (client : Client ν) (c : Call) (now : Nat) : Except ClientError Reply × Nat :=
  client.free (.ofCall c) (.config "no API endpoints configured") client.network client.endpoints now

/-- What a call comes to after its message, and when. The body of a success is read now. -/
def finish (c : Call) : Except ClientError Reply × Nat → Except ClientError c.Answer × Nat
  | (.error error, now) => (.error (Answer.reworded c error), now)
  | (.ok reply, now) => ((readReply reply c).1.map Prod.fst, now + (readReply reply c).2.nanos)

variable {context : Context} {cancelledAt : Option Nat} {now done : Nat}
  {result : Except ClientError (Option Reply)} {unbound bound : Nat → Except ClientError Reply × Nat}

theorem le_onward (hunbound : done ≤ (unbound done).2) : done ≤ (onward unbound (result, done)).2 := by
  rcases result with error | _ | reply
  · exact le_rfl
  · exact hunbound
  · exact le_rfl

theorem eq_none_of_lt_onward (h : done < (onward unbound (result, done)).2) : result = .ok none := by
  rcases result with error | _ | reply
  · exact absurd h (lt_irrefl done)
  · rfl
  · exact absurd h (lt_irrefl done)

/-- What comes first ends a delivery and what follows it, if it ends what follows. -/
theorem endsFirst_onward (hlive : context.cancelled = false)
    (hopen : ∀ d ∈ context.deadline, now < d) (hlater : ∀ t ∈ cancelledAt, now ≤ t)
    (hdone : now ≤ done) (hunbound : done ≤ (unbound done).2)
    (hbound : (∀ d ∈ context.deadline, done < d) → (∀ t ∈ cancelledAt, done ≤ t) →
      Context.EndsFirst context.deadline {t | t ∈ cancelledAt} (unbound done).2 (unbound done).1
        (bound done)) :
    Context.EndsFirst context.deadline {t | t ∈ cancelledAt} (onward unbound (result, done)).2
      (onward unbound (result, done)).1
      (onward bound (context.outcome now done cancelledAt result)) where
  cancelled := by
    intro t ht hbefore hdeadline
    have hmem : t ∈ cancelledAt := ht.1
    have honly : ∀ u ∈ cancelledAt, u = t := fun u hu => Option.mem_unique hu hmem
    by_cases hearly : t ≤ done ∧ now < done
    · rw [Option.mem_def.mp hmem,
        Context.outcome_of_cancelledAt hlive (hlater t hmem) hearly.2 hearly.1 hdeadline]
      rfl
    · -- the delivery is over before the cancellation, or takes no time at all
      have hnow := hlater t hmem
      have hle : done ≤ t := by omega
      have hopen' : ∀ d ∈ context.deadline, done < d := fun d hd => hle.trans_lt (hdeadline d hd)
      have hover : context.outcome now done cancelledAt result = (result, done) := by
        rcases hdone.eq_or_lt with rfl | hlong
        · exact Context.outcome_of_short hlive hopen
        · refine Context.outcome_of_done hlive hdone hopen' fun u hu => ?_
          rw [honly u hu]
          omega
      have hnone := eq_none_of_lt_onward (hle.trans_lt hbefore)
      subst hnone
      rw [hover]
      exact (hbound hopen' fun u hu => honly u hu ▸ hle).cancelled t ht hbefore hdeadline
  expired := by
    intro d hd hbefore hcancelled
    by_cases hearly : d ≤ done
    · rw [Context.outcome_of_deadline hlive hd (hopen d hd) hearly hcancelled]
      rfl
    · have hlt : done < d := Nat.lt_of_not_le hearly
      have hopen' : ∀ e ∈ context.deadline, done < e := fun e he => Option.mem_unique he hd ▸ hlt
      have hnone := eq_none_of_lt_onward (hlt.trans_le hbefore)
      subst hnone
      rw [Context.outcome_of_done hlive hdone hopen' fun t ht => hlt.trans (hcancelled t ht)]
      exact (hbound hopen' fun t ht => (hlt.trans (hcancelled t ht)).le).expired d hd hbefore hcancelled
  done := by
    intro hdeadline hcancelled
    have hle : done ≤ (onward unbound (result, done)).2 := le_onward hunbound
    have hopen' : ∀ d ∈ context.deadline, done < d := fun d hd => hle.trans_lt (hdeadline d hd)
    have hcancelled' : ∀ t ∈ cancelledAt, done < t := fun t ht => hle.trans_lt (hcancelled t ht)
    rw [Context.outcome_of_done hlive hdone hopen' hcancelled']
    rcases result with error | _ | reply
    · rfl
    · exact (hbound hopen' fun t ht => (hcancelled' t ht).le).done hdeadline hcancelled
    · rfl

theorem free_cons {client : Client ν} {message : Message} {failure : ClientError} {network : ν}
    {endpoint : String} {endpoints : List String} {url : Url} {request : Request}
    (hurl : urlAt endpoint message.path = .ok url) (hrequest : client.request message url = .ok request) :
    client.free message failure network (endpoint :: endpoints) now =
      onward (client.free message (.transport (sendingError request))
          (Network.deliver network request).2 endpoints)
        ((Network.deliver network request).1.result request,
          now + (Network.deliver network request).1.span) := by
  rw [free, ending_sendTo_cons hurl hrequest,
    Context.outcome_of_done rfl (Nat.le_add_right _ _) (by rintro d ⟨⟩) (by rintro t ⟨⟩)]
  rfl

/-- An endpoint that gives no request to send ends the sending at once, under any context. -/
theorem ending_sendTo_cases (client : Client ν) (message : Message) (endpoint : String)
    (endpoints : List String) (failure : ClientError) (network : ν) :
    (∃ url request, urlAt endpoint message.path = .ok url ∧
      client.request message url = .ok request) ∨
    ∃ error, ∀ context cancelledAt now,
      (client.sendTo context cancelledAt message failure now network (endpoint :: endpoints)).ending =
        (.error error, now) := by
  cases hurl : urlAt endpoint message.path with
  | error error =>
    refine .inr ⟨error, fun context cancelledAt now => ?_⟩
    rw [sendTo, hurl]
    rfl
  | ok url =>
    cases hrequest : client.request message url with
    | error error =>
      refine .inr ⟨error, fun context cancelledAt now => ?_⟩
      rw [sendTo, hurl]
      simp only [hrequest]
      rfl
    | ok request => exact .inl ⟨url, request, rfl, hrequest⟩

theorem le_free (client : Client ν) (message : Message) (failure : ClientError) (network : ν)
    (endpoints : List String) (now : Nat) :
    now ≤ (client.free message failure network endpoints now).2 := by
  induction endpoints generalizing failure network now with
  | nil => exact le_rfl
  | cons endpoint endpoints ih =>
    rcases client.ending_sendTo_cases message endpoint endpoints failure network with
      ⟨url, request, hurl, hrequest⟩ | ⟨error, hstuck⟩
    · rw [free_cons hurl hrequest]
      exact (Nat.le_add_right _ _).trans (le_onward (ih _ _ _))
    · rw [free, hstuck]

/-- What comes first ends the sending of a message. -/
theorem sendTo_endsFirst (client : Client ν) (message : Message) (hlive : context.cancelled = false)
    (endpoints : List String) (failure : ClientError) (network : ν)
    (hopen : ∀ d ∈ context.deadline, now < d) (hlater : ∀ t ∈ cancelledAt, now ≤ t) :
    Context.EndsFirst context.deadline {t | t ∈ cancelledAt}
      (client.free message failure network endpoints now).2
      (client.free message failure network endpoints now).1
      (client.sendTo context cancelledAt message failure now network endpoints).ending := by
  induction endpoints generalizing failure network now with
  | nil => exact Context.endsFirst_of_short hopen hlater
  | cons endpoint endpoints ih =>
    rcases client.ending_sendTo_cases message endpoint endpoints failure network with
      ⟨url, request, hurl, hrequest⟩ | ⟨error, hstuck⟩
    · rw [free_cons hurl hrequest, ending_sendTo_cons hurl hrequest]
      exact endsFirst_onward hlive hopen hlater (Nat.le_add_right _ _) (le_free ..) (ih _ _)
    · rw [free, hstuck, hstuck]
      exact Context.endsFirst_of_short hopen hlater

/-! ### Calls -/

/-- What came of a call, and when. -/
def Called.ending {c : Call} (called : Called ν c) : Except ClientError c.Answer × Nat :=
  (called.answer, called.time)

theorem ending_call {client : Client ν} {contexts : Contexts} {ctx : Nat}
    (hstart : contexts.mayStart ctx = .ok ()) (c : Call) :
    (client.call contexts ctx cancelledAt c).ending =
      finish c (client.sendTo (contexts.get ctx) cancelledAt (.ofCall c)
        (.config "no API endpoints configured") contexts.now client.network client.endpoints).ending := by
  rw [call, send, hstart]
  simp only [Sent.ending, Called.ending]
  cases (client.sendTo (contexts.get ctx) cancelledAt (.ofCall c)
    (.config "no API endpoints configured") contexts.now client.network client.endpoints).result with
  | error error => rfl
  | ok reply =>
    simp only [finish]
    cases (readReply reply c).1 with
    | error error => rfl
    | ok answer => rfl

/-- Endpoints that refuse the connection, if any, and then one that replies, to a message that is sent from
some time on. The last time is that of the head of the reply. -/
inductive Replies (client : Client ν) (message : Message) :
    ν → List String → Nat → Reply → Nat → Prop
  | replied {network network' : ν} {endpoint : String} {endpoints : List String} {url : Url}
      {request : Request} {reply : Reply} {now : Nat} :
      urlAt endpoint message.path = .ok url → client.request message url = .ok request →
      Network.deliver network request = (.replied reply, network') →
      Replies client message network (endpoint :: endpoints) now reply (now + reply.headAfter.nanos)
  | refused {network network' : ν} {endpoint : String} {endpoints : List String} {url : Url}
      {request : Request} {reply : Reply} {after : Duration} {now head : Nat} :
      urlAt endpoint message.path = .ok url → client.request message url = .ok request →
      Network.deliver network request = (.refused after, network') →
      Replies client message network' endpoints (now + after.nanos) reply head →
      Replies client message network (endpoint :: endpoints) now reply head

/-- A success is there with its head and an error with all of its body. -/
theorem Replies.free_eq {client : Client ν} {message : Message} {network : ν} {endpoints : List String}
    {reply : Reply} {head : Nat} (h : Replies client message network endpoints now reply head)
    (failure : ClientError) :
    client.free message failure network endpoints now =
      if reply.isSuccess then (.ok reply, head)
      else (.error (Reply.errorOf reply.status reply.body), head + reply.bodyAfter.nanos) := by
  induction h generalizing failure with
  | replied hurl hrequest hdeliver =>
    rw [free_cons hurl hrequest, hdeliver]
    simp only [Delivery.result, Delivery.span]
    split
    · rfl
    · rw [Nat.add_assoc]
      rfl
  | refused hurl hrequest hdeliver _ ih =>
    rw [free_cons hurl hrequest, hdeliver]
    exact ih _

/-- How far a call is bound to its context. Under a cancelled context, and under one whose deadline has come,
no call starts. Any other ends with its context if that ends before the exchange, as it goes if nothing ends
it, comes to something: an error with all of its body, but a success with no more than its head. When that is
there in time, the call goes on to its answer, whatever becomes of the context meanwhile. -/
theorem call_bounded_to_head (client : Client ν) (contexts : Contexts) (ctx : Nat)
    (cancelledAt : Option Nat) (hlater : ∀ t ∈ cancelledAt, contexts.now ≤ t) (c : Call) :
    ((contexts.get ctx).cancelled = true → contexts.NeverStarts ctx .cancelled) ∧
    ((contexts.get ctx).cancelled = false → ∀ d ∈ (contexts.get ctx).deadline, d ≤ contexts.now →
      contexts.NeverStarts ctx .deadlineExceeded) ∧
    ((contexts.get ctx).cancelled = false →
      (∀ d ∈ (contexts.get ctx).deadline, contexts.now < d) →
      (∀ t ∈ cancelledAt, t < (client.exchange c contexts.now).2 →
        (∀ d ∈ (contexts.get ctx).deadline, t < d) →
        (client.call contexts ctx cancelledAt c).ending = (.error .cancelled, t)) ∧
      (∀ d ∈ (contexts.get ctx).deadline, d ≤ (client.exchange c contexts.now).2 →
        (∀ t ∈ cancelledAt, d < t) →
        (client.call contexts ctx cancelledAt c).ending = (.error .deadlineExceeded, d)) ∧
      ((∀ d ∈ (contexts.get ctx).deadline, (client.exchange c contexts.now).2 < d) →
        (∀ t ∈ cancelledAt, (client.exchange c contexts.now).2 < t) →
        (client.call contexts ctx cancelledAt c).ending =
          finish c (client.exchange c contexts.now))) ∧
    ∀ reply head,
      Replies client (.ofCall c) client.network client.endpoints contexts.now reply head →
      client.exchange c contexts.now =
        if reply.isSuccess then (.ok reply, head)
        else (.error (Reply.errorOf reply.status reply.body), head + reply.bodyAfter.nanos) := by
  refine ⟨?_, ?_, ?_, fun reply head h => h.free_eq _⟩
  · intro hcancelled
    exact Contexts.neverStarts_of_mayStart (Contexts.mayStart_of_cancelled hcancelled) fun _ => rfl
  · intro hlive d hd hexpired
    exact Contexts.neverStarts_of_mayStart (Contexts.mayStart_of_expired hlive hd hexpired)
      fun _ => rfl
  · intro hlive hopen
    have hends := client.sendTo_endsFirst (.ofCall c) hlive client.endpoints
      (.config "no API endpoints configured") client.network hopen hlater
    rw [ending_call (Contexts.mayStart_of_open hlive hopen)]
    refine ⟨?_, ?_, ?_⟩
    · intro t ht hbefore hdeadline
      rw [hends.cancelled t ((isEarliest_mem cancelledAt).mem_iff.mp ht) hbefore hdeadline]
      rfl
    · intro d hd hbefore hcancelled
      rw [hends.expired d hd hbefore hcancelled]
      rfl
    · intro hdeadline hcancelled
      rw [hends.done hdeadline hcancelled]
      rfl

/-- A network on which every request gets one and the same reply. -/
structure OneReply where
  reply : Reply

instance : Network OneReply where
  deliver network _ := (.replied network.reply, network)

/-- A client whose endpoint sends the head of its replies after a second, and the body ten seconds later. -/
def withSlowReplies (status : Nat) (content : String) : Client OneReply :=
  ⟨["http://h"], defaultUserAgent, none, ⟨status, none, .text content, .ofSecs 1, .ofSecs 10⟩⟩

/-- A context with five seconds to go. -/
def fiveSeconds : Contexts := (Contexts.start.derive 0 (.ofSecs 5)).1

/-- The deadline comes before the body of an error. -/
theorem call_bounded_to_head_slow_error :
    ((withSlowReplies 503 "").call fiveSeconds 1 none .listNodes).ending =
      (.error .deadlineExceeded, 5000000000) := by
  obtain ⟨_, _, hbound, hexchange⟩ :=
    (withSlowReplies 503 "").call_bounded_to_head fiveSeconds 1 none nofun .listNodes
  have hreplies : Replies (withSlowReplies 503 "") (.ofCall .listNodes) ⟨_⟩ ["http://h"] 0
      (withSlowReplies 503 "").network.reply 1000000000 := .replied rfl rfl rfl
  have hopen : ∀ d ∈ (fiveSeconds.get 1).deadline, fiveSeconds.now < d := by
    rintro d ⟨rfl⟩
    decide
  refine (hbound rfl hopen).2.1 5000000000 rfl ?_ nofun
  rw [hexchange _ _ hreplies]
  decide

/-- The deadline, or a cancellation, comes before the body of a success, and the call succeeds after that. -/
theorem success_after_context_ended :
    (fiveSeconds.get 1).deadline = some 5000000000 ∧
    ((withSlowReplies 200 "[]").call fiveSeconds 1 none .listNodes).ending = (.ok [], 11000000000) ∧
    ((withSlowReplies 200 "[]").call fiveSeconds 1 (some 2000000000) .listNodes).ending =
      (.ok [], 11000000000) :=
  ⟨rfl, rfl, rfl⟩

end Client

end BlockStorage.Rest
