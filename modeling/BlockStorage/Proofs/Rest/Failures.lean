import BlockStorage.Proofs.Rest.Deadline

/-!
What a client makes of replies that are no success.

The error is told by the status, unless the body complains of the licence, which counts whatever the status.
Where the path of a message names a resource, a status of 404 means that this resource is not there; where it
names none, there is nothing that could be missing, and the status is passed on as it is.
-/

namespace BlockStorage.Rest

/-! ### Errors of replies -/

namespace Reply

/-- The body is a complaint about the licence. -/
def BlamesLicence (body : Body) : Prop :=
  ∃ complaint, Complaint.format.readText body.shown.toList = .ok complaint ∧
    complaint.code = licenceCode

theorem blamesLicence_iff {body : Body} : BlamesLicence body ↔ (complaint body).code = licenceCode := by
  rw [BlamesLicence, complaint]
  cases Complaint.format.readText body.shown.toList with
  | ok complaint => simp
  | error e =>
    have hcode : "" ≠ licenceCode := by decide
    simp [hcode]

theorem reason?_ne_empty {status : Nat} {text : String} (h : reason? status = some text) : text ≠ "" := by
  unfold reason? at h
  split at h <;> first | (obtain rfl := Option.some.inj h; decide) | cases h

/-- There is always something to say. -/
theorem wording_ne_empty (status : Nat) (complaint : Complaint) : wording status complaint ≠ "" := by
  rw [wording]
  split
  next =>
    cases hreason : reason? status with
    | none => decide
    | some text => exact reason?_ne_empty hreason
  next herror => simpa using herror

/-- A complaint about the licence counts whatever the status. -/
theorem errorOf_of_blames {body : Body} (h : BlamesLicence body) (status : Nat) :
    errorOf status body = .licenceCapability (wording status (complaint body)) := by
  rw [errorOf]
  exact if_pos (blamesLicence_iff.mp h)

/-- Without one the status decides. -/
theorem errorOf_of_not_blames {body : Body} (h : ¬ BlamesLicence body) (status : Nat) :
    errorOf status body =
      if status = 401 then .unauthenticated (wording status (complaint body))
      else if status = 409 ∨ status = 412 then .conflict (wording status (complaint body))
      else .api status (wording status (complaint body)) := by
  rw [blamesLicence_iff] at h
  simp only [errorOf, if_neg h, Bool.or_eq_true, decide_eq_true_eq]

end Reply

/-! ### Resources in paths -/

/-- The resource that a path names, by its identifier. -/
def addressed : List String → Option (ResourceKind × String)
  | ["v2", "namespaces", ns] => some (.namespace, ns)
  | ["v2", "namespaces", ns, "volumes"] => some (.namespace, ns)
  | "v2" :: "namespaces" :: _ :: "volumes" :: volume :: _ => some (.volume, volume)
  | "v2" :: "nodes" :: node :: _ => some (.node, node)
  | ["v2", "users", user] => some (.user, user)
  | ["v2", "policies", group] => some (.policyGroup, group)
  | _ => none

/-- What the reply to a call can say to be missing is what its path names. -/
theorem missing?_eq_addressed {c : Call} (hc : c.method ≠ .createVolume) :
    Answer.missing? c = addressed (Message.ofCall c).path := by
  cases c with
  | createVolume ns spec params => exact absurd rfl hc
  | _ => rfl

/-- The reply to a call whose path names nothing says nothing to be missing. -/
theorem missing?_eq_none {c : Call} (h : addressed (Message.ofCall c).path = none) :
    Answer.missing? c = none := by
  by_cases hc : c.method = .createVolume
  · cases c with
    | createVolume ns spec params => rfl
    | _ => cases hc
  · rw [missing?_eq_addressed hc, h]

theorem reworded_api {c : Call} {kind : ResourceKind} {reference : String}
    (h : Answer.missing? c = some (kind, reference)) (text : String) :
    Answer.reworded c (.api 404 text) = .notFound kind reference := by
  simp only [Answer.reworded, h]

/-- Only a status of 404 is told in other words, and only where something can be missing. -/
theorem reworded_eq_self {c : Call} {error : ClientError}
    (h : Answer.missing? c = none ∨ ∀ text, error ≠ .api 404 text) :
    Answer.reworded c error = error := by
  unfold Answer.reworded
  split
  next text kind reference hmissing =>
    rcases h with h | h
    · exact nomatch h.symm.trans hmissing
    · exact absurd rfl (h text)
  next => rfl

/-! ### Errors of calls -/

/-- The error of a call tells of a reply that is no success: that the licence does not permit it, or else
what the status stands for. Texts are never empty. -/
structure Tells (c : Call) (reply : Reply) (error : ClientError) : Prop where
  licence : Reply.BlamesLicence reply.body → ∃ text, text ≠ "" ∧ error = .licenceCapability text
  unauthenticated : ¬ Reply.BlamesLicence reply.body → reply.status = 401 →
    ∃ text, text ≠ "" ∧ error = .unauthenticated text
  conflict : ¬ Reply.BlamesLicence reply.body → reply.status = 409 ∨ reply.status = 412 →
    ∃ text, text ≠ "" ∧ error = .conflict text
  notFound : ¬ Reply.BlamesLicence reply.body → reply.status = 404 → c.method ≠ .createVolume →
    ∀ kind reference, addressed (Message.ofCall c).path = some (kind, reference) →
      error = .notFound kind reference
  unaddressed : ¬ Reply.BlamesLicence reply.body → reply.status = 404 →
    addressed (Message.ofCall c).path = none → ∃ text, text ≠ "" ∧ error = .api 404 text
  other : ¬ Reply.BlamesLicence reply.body → reply.status ∉ [401, 404, 409, 412] →
    ∃ text, text ≠ "" ∧ error = .api reply.status text

theorem tells_errorOf (c : Call) (reply : Reply) :
    Tells c reply (Answer.reworded c (Reply.errorOf reply.status reply.body)) where
  licence := by
    intro h
    rw [Reply.errorOf_of_blames h, reworded_eq_self]
    · exact ⟨_, Reply.wording_ne_empty _ _, rfl⟩
    · simp
  unauthenticated := by
    intro h hstatus
    rw [Reply.errorOf_of_not_blames h, hstatus, if_pos rfl, reworded_eq_self]
    · exact ⟨_, Reply.wording_ne_empty _ _, rfl⟩
    · simp
  conflict := by
    intro h hstatus
    have hne : reply.status ≠ 401 := by omega
    rw [Reply.errorOf_of_not_blames h, if_neg hne, if_pos hstatus, reworded_eq_self]
    · exact ⟨_, Reply.wording_ne_empty _ _, rfl⟩
    · simp
  notFound := by
    intro h hstatus hc kind reference haddressed
    rw [Reply.errorOf_of_not_blames h, hstatus]
    exact reworded_api ((missing?_eq_addressed hc).trans haddressed) _
  unaddressed := by
    intro h hstatus haddressed
    rw [Reply.errorOf_of_not_blames h, hstatus, reworded_eq_self (.inl (missing?_eq_none haddressed))]
    exact ⟨_, Reply.wording_ne_empty _ _, rfl⟩
  other := by
    intro h hstatus
    simp only [List.mem_cons, List.not_mem_nil, or_false, not_or] at hstatus
    obtain ⟨h401, h404, h409, h412⟩ := hstatus
    have hconflict : ¬ (reply.status = 409 ∨ reply.status = 412) := not_or.mpr ⟨h409, h412⟩
    rw [Reply.errorOf_of_not_blames h, if_neg h401, if_neg hconflict, reworded_eq_self]
    · exact ⟨_, Reply.wording_ne_empty _ _, rfl⟩
    · exact .inr fun text heq => h404 (ClientError.api.inj heq).1

namespace Client

variable {ν : Type} [Network ν]

/-- What a client makes of any reply that is no success, which is what ends a call unless its context ends
before all of the body is there. A complaint about the licence is told as such whatever the status. Else 401
is told as failed authentication, 409 and 412 as a conflict, and 404 as a missing resource if the path of the
call names one; a volume that is to be created is none that could be missing, and here nothing is said of
its namespace. A 404 where the path names no resource is told as it is, and so is any other status. -/
theorem call_tells_failure (client : Client ν) {contexts : Contexts} {ctx : Nat}
    {cancelledAt : Option Nat} (c : Call) {reply : Reply} {head : Nat}
    (hlive : (contexts.get ctx).cancelled = false)
    (hreplies : Replies client (.ofCall c) client.network client.endpoints contexts.now reply head)
    (hfailed : reply.isSuccess = false)
    (hdeadline : ∀ d ∈ (contexts.get ctx).deadline, head + reply.bodyAfter.nanos < d)
    (hcancelled : ∀ t ∈ cancelledAt, head + reply.bodyAfter.nanos < t) :
    ∃ error, (client.call contexts ctx cancelledAt c).answer = .error error ∧ Tells c reply error := by
  have hfree : client.exchange c contexts.now =
      (.error (Reply.errorOf reply.status reply.body), head + reply.bodyAfter.nanos) := by
    rw [exchange, hreplies.free_eq, hfailed]
    rfl
  have hnow : contexts.now ≤ head + reply.bodyAfter.nanos := by
    have hle := client.le_free (.ofCall c) (.config "no API endpoints configured") client.network
      client.endpoints contexts.now
    rwa [← exchange, hfree] at hle
  have hopen : ∀ d ∈ (contexts.get ctx).deadline, contexts.now < d :=
    fun d hd => hnow.trans_lt (hdeadline d hd)
  have hends := client.sendTo_endsFirst (.ofCall c) hlive client.endpoints
    (.config "no API endpoints configured") client.network hopen
    fun t ht => (hnow.trans_lt (hcancelled t ht)).le
  rw [← exchange, hfree] at hends
  have hending : (client.call contexts ctx cancelledAt c).ending = _ :=
    client.ending_call (Contexts.mayStart_of_open hlive hopen) c
  rw [hends.done hdeadline hcancelled] at hending
  exact ⟨_, congrArg Prod.fst hending, tells_errorOf c reply⟩

/-- A node that is not there is told by its identifier, although the server has no words for it. -/
theorem call_tells_failure_node :
    ∃ error, ((withSlowReplies 404 "").call .start 0 none (.getNode ⟨"node-7"⟩)).answer = .error error ∧
      error = .notFound .node "node-7" := by
  have hreplies : Replies (withSlowReplies 404 "") (.ofCall (.getNode ⟨"node-7"⟩)) ⟨_⟩ ["http://h"] 0
      (withSlowReplies 404 "").network.reply 1000000000 := .replied rfl rfl rfl
  obtain ⟨error, hanswer, htells⟩ : ∃ error, ((withSlowReplies 404 "").call .start 0 none
      (.getNode ⟨"node-7"⟩)).answer = .error error ∧ Tells _ _ error :=
    (withSlowReplies 404 "").call_tells_failure (.getNode ⟨"node-7"⟩) rfl hreplies rfl nofun nofun
  have hbody : ¬ Reply.BlamesLicence (.text "") := by
    rw [Reply.blamesLicence_iff]
    decide
  exact ⟨error, hanswer, htells.notFound hbody rfl (by decide) .node "node-7" rfl⟩

/-- It is not so that a status of 404 always means a missing resource: a listing of all nodes names none. -/
theorem not_found_passed_on :
    ¬ ∀ (c : Call) (reply : Reply), reply.status = 404 → ¬ Reply.BlamesLicence reply.body →
      ∃ kind reference, (Client.call ⟨["http://h"], defaultUserAgent, none, OneReply.mk reply⟩
        .start 0 none c).answer = .error (.notFound kind reference) := by
  intro h
  have hbody : ¬ Reply.BlamesLicence (.text "no such route") := by
    rw [Reply.blamesLicence_iff]
    decide +kernel
  obtain ⟨kind, reference, hanswer⟩ :=
    h .listNodes ⟨404, none, .text "no such route", .zero, .zero⟩ rfl hbody
  have hapi : (Client.call ⟨["http://h"], defaultUserAgent, none,
      OneReply.mk ⟨404, none, .text "no such route", .zero, .zero⟩⟩ .start 0 none .listNodes).answer =
        .error (.api 404 "no such route") := rfl
  exact nomatch hanswer.symm.trans hapi

end Client

end BlockStorage.Rest
