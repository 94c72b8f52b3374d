import BlockStorage.Proofs.Rest.Endpoints
import BlockStorage.Proofs.Text.Split

/-!
The session of a client, over all the calls that it makes.

A client remembers one token. Only an authentication that succeeds changes it, as its last step, and every
request shows what is remembered at that time. So what a request shows is told by the calls before it: the
token of the last authentication that succeeded, and nothing if none did.
-/

namespace BlockStorage.Rest

open Text

/-! ### The token in a reply -/

namespace Login

/-- A text introduces a token: the word stands before it, any number of times, and not at its start. -/
def Introduces (authorization token : String) : Prop :=
  ∃ k, authorization.toList = (List.replicate k "Bearer ".toList).flatten ++ token.toList ∧
    ¬ "Bearer ".toList <+: token.toList

section

variable {word s : List Char} {fuel k : Nat}

theorem afterWord?_eq_none (h : ¬ word <+: s) : afterWord? word s = none := by
  cases hword : afterWord? word s with
  | none => rfl
  | some rest => exact absurd ⟨rest, (eq_append_of_afterWord? hword).symm⟩ h

theorem withoutWord_of_not_prefix (h : ¬ word <+: s) (fuel : Nat) : withoutWord word fuel s = s := by
  cases fuel with
  | zero => rfl
  | succ fuel => rw [withoutWord, afterWord?_eq_none h]

/-- Words in front are dropped as far as the fuel goes. -/
theorem withoutWord_flatten (hs : ¬ word <+: s) (hk : k ≤ fuel) :
    withoutWord word fuel ((List.replicate k word).flatten ++ s) = s := by
  induction k generalizing fuel with
  | zero => exact withoutWord_of_not_prefix hs fuel
  | succ k ih =>
    obtain ⟨fuel, rfl⟩ := Nat.exists_eq_add_of_le' (Nat.one_le_of_lt hk)
    rw [List.replicate_succ, List.flatten_cons, List.append_assoc, withoutWord, afterWord?_append]
    exact ih (Nat.le_of_succ_le_succ hk)

theorem le_length_flatten (hword : word ≠ []) (k : Nat) (s : List Char) :
    k ≤ ((List.replicate k word).flatten ++ s).length := by
  have hpos := List.length_pos_iff.mpr hword
  induction k with
  | zero => exact Nat.zero_le _
  | succ k ih =>
    rw [List.replicate_succ, List.flatten_cons, List.append_assoc, List.length_append]
    omega

/-- Every text is some words and a rest that does not start with one. -/
theorem exists_flatten (hword : word ≠ []) (s : List Char) :
    ∃ k rest, s = (List.replicate k word).flatten ++ rest ∧ ¬ word <+: rest := by
  induction hn : s.length using Nat.strong_induction_on generalizing s with
  | _ n ih =>
    subst hn
    by_cases hs : word <+: s
    · obtain ⟨behind, rfl⟩ := hs
      have hpos := List.length_pos_iff.mpr hword
      have hlt : behind.length < (word ++ behind).length := by
        rw [List.length_append]
        omega
      obtain ⟨k, rest, hbehind, hrest⟩ := ih _ hlt behind rfl
      refine ⟨k + 1, rest, ?_, hrest⟩
      rw [List.replicate_succ, List.flatten_cons, List.append_assoc, ← hbehind]
    · exact ⟨0, s, rfl, hs⟩

end

/-- A text introduces one token, and that is the one that is read from it. -/
theorem introduces_iff {authorization token : String} :
    Introduces authorization token ↔ token = headToken authorization := by
  have hread : ∀ k rest, authorization.toList = (List.replicate k "Bearer ".toList).flatten ++ rest →
      ¬ "Bearer ".toList <+: rest → headToken authorization = String.ofList rest := by
    intro k rest hsplit hrest
    have hfuel : k ≤ authorization.length := by
      rw [← String.length_toList, hsplit]
      exact le_length_flatten (by decide) k rest
    rw [headToken, hsplit, withoutWord_flatten hrest hfuel]
  constructor
  · rintro ⟨k, hsplit, htoken⟩
    rw [hread k token.toList hsplit htoken, String.ofList_toList]
  · rintro rfl
    obtain ⟨k, rest, hsplit, hrest⟩ : ∃ k rest, authorization.toList =
        (List.replicate k "Bearer ".toList).flatten ++ rest ∧ ¬ "Bearer ".toList <+: rest :=
      exists_flatten (by decide) _
    have htext : (String.ofList rest).toList = rest := String.toList_ofList
    rw [hread k rest hsplit hrest, Introduces, htext]
    exact ⟨k, hsplit, hrest⟩

end Login

/-! ### Calls that open a session -/

/-- A call with the moment at which it is made: the contexts, the number of its own, and when another task
cancels that one. -/
structure Use where
  contexts : Contexts
  ctx : Nat
  cancelledAt : Option Nat
  call : Call

/-- A call as it is made by a client. -/
structure Made (ν : Type) extends Use where
  client : Client ν

namespace Made

variable {ν : Type} [Network ν]

/-- What came of the message of the call. -/
def sent (m : Made ν) : Client.Sent ν := m.client.send m.contexts m.ctx m.cancelledAt (.ofCall m.call)

/-- What came of the call. -/
def called (m : Made ν) : Client.Called ν m.call :=
  m.client.call m.contexts m.ctx m.cancelledAt m.call

/-- The call is an authentication, and succeeds. -/
def Authenticates (m : Made ν) : Prop :=
  m.call.method = .authenticate ∧ ∃ answer, m.called.answer = .ok answer

/-- The call is an authentication whose reply is good and holds a login, and the token is the one that the
head of the reply introduces, or that of the login if the head has none. -/
structure Opens (m : Made ν) (token : String) : Prop where
  authentication : m.call.method = .authenticate
  replied : ∃ reply login, m.sent.result = .ok reply ∧ reply.body.read Login.format = .ok login ∧
    match reply.authorization with
    | some authorization => Login.Introduces authorization token
    | none => login.token = some token

end Made

namespace Client

variable {ν : Type} [Network ν]

/-- The calls of a client one after the other, each with the client that makes it. -/
def course (client : Client ν) : List Use → List (Made ν)
  | [] => []
  | use :: uses =>
    ⟨use, client⟩ :: (client.call use.contexts use.ctx use.cancelledAt use.call).client.course uses

end Client

/-- The last session that some calls open has this token. -/
def LastOpened {ν : Type} [Network ν] (made : List (Made ν)) (token : String) : Prop :=
  ∃ before m later, made = before ++ m :: later ∧ m.Opens token ∧
    ∀ m ∈ later, ∀ token, ¬ m.Opens token

/-! ### One call -/

theorem Login.ofReply_eq_ok_iff {reply : Reply} {session : Session} {token : String} :
    Login.ofReply reply = .ok (session, token) ↔
      ∃ login, reply.body.read Login.format = .ok login ∧ login.session = session ∧
        match reply.authorization with
        | some authorization => Login.Introduces authorization token
        | none => login.token = some token := by
  rw [Login.ofReply, bind_eq_ok_iff]
  refine exists_congr fun login => and_congr_right fun _ => ?_
  cases reply.authorization with
  | some authorization =>
    simp only [Option.map_some, Option.some_or, Login.introduces_iff]
    constructor
    · intro h
      obtain ⟨rfl, rfl⟩ := Prod.mk.inj (Except.ok.inj h)
      exact ⟨rfl, rfl⟩
    · rintro ⟨rfl, rfl⟩
      rfl
  | none =>
    simp only [Option.map_none, Option.none_or]
    cases login.token with
    | none => simp
    | some text =>
      constructor
      · intro h
        obtain ⟨rfl, rfl⟩ := Prod.mk.inj (Except.ok.inj h)
        exact ⟨rfl, rfl⟩
      · rintro ⟨rfl, h⟩
        obtain rfl := Option.some.inj h
        rfl

namespace Client

variable {ν : Type}

/-- A new client has no token. -/
theorem token_make {endpoints : List String} {userAgent : String} {network : ν} {client : Client ν}
    (h : make endpoints userAgent network = .ok client) : client.token = none := by
  rw [make] at h
  split at h
  · cases h
  split at h
  · cases h
  obtain rfl := Except.ok.inj h
  rfl

/-- The reply to any other call brings no token. -/
theorem readReply_token {reply : Reply} {c : Call} (hc : c.method ≠ .authenticate)
    {answer : c.Answer} {token : Option String} (h : (readReply reply c).1 = .ok (answer, token)) :
    token = none := by
  have hother : ∀ username password, c = .authenticate username password → False := by
    rintro username password rfl
    exact hc rfl
  rw [readReply] at h
  · split at h
    · obtain ⟨-, rfl⟩ := Prod.mk.inj (Except.ok.inj h)
      rfl
    · obtain ⟨a, -, h⟩ := eq_of_map_eq_ok h
      exact (Prod.mk.inj h).2.symm
  · exact hother

end Client

namespace Made

variable {ν : Type} [Network ν] {m : Made ν}

/-- A message that comes to nothing leaves the token. -/
theorem called_of_sent_error {e : ClientError} (h : m.sent.result = .error e) :
    (∃ e', m.called.answer = .error e') ∧ m.called.client.token = m.client.token := by
  rw [sent] at h
  simp only [called, Client.call, h]
  exact ⟨⟨_, rfl⟩, trivial⟩

/-- A reply changes the token only when it was read as an answer that brings one. -/
theorem called_of_sent_ok {reply : Reply} (h : m.sent.result = .ok reply) :
    (∃ e, (Client.readReply reply m.call).1 = .error e ∧ m.called.answer = .error e ∧
        m.called.client.token = m.client.token) ∨
      ∃ answer token, (Client.readReply reply m.call).1 = .ok (answer, token) ∧
        m.called.answer = .ok answer ∧ m.called.client.token = token.or m.client.token := by
  rw [sent] at h
  simp only [called, Client.call, h]
  cases (Client.readReply reply m.call).1 with
  | error e => exact .inl ⟨e, rfl, rfl, rfl⟩
  | ok answer => exact .inr ⟨answer.1, answer.2, rfl, rfl, rfl⟩

/-- A call that is no authentication leaves the token. -/
theorem token_of_other (hc : m.call.method ≠ .authenticate) :
    m.called.client.token = m.client.token := by
  cases hsent : m.sent.result with
  | error e => exact (called_of_sent_error hsent).2
  | ok reply =>
    rcases called_of_sent_ok hsent with ⟨_, _, _, htoken⟩ | ⟨answer, token, hread, _, htoken⟩
    · exact htoken
    · rw [htoken, Client.readReply_token hc hread]
      rfl

/-- An authentication that succeeds opens a session with the token that is remembered from then on. One that
does not opens none, and leaves what was remembered. -/
theorem cases_of_authentication (hc : m.call.method = .authenticate) :
    (∃ token, m.Opens token ∧ m.Authenticates ∧ m.called.client.token = some token) ∨
      (∀ token, ¬ m.Opens token) ∧ ¬ m.Authenticates ∧ m.called.client.token = m.client.token := by
  cases hsent : m.sent.result with
  | error e =>
    obtain ⟨⟨e', hanswer⟩, htoken⟩ := called_of_sent_error hsent
    refine .inr ⟨?_, ?_, htoken⟩
    · rintro token ⟨-, reply, login, hreply, -⟩
      cases hsent.symm.trans hreply
    · rintro ⟨-, answer, hok⟩
      cases hanswer.symm.trans hok
  | ok reply =>
    obtain ⟨⟨contexts, ctx, cancelledAt, call⟩, client⟩ := m
    cases call with
    | authenticate username password =>
      rcases called_of_sent_ok hsent with
        ⟨e, hread, hanswer, htoken⟩ | ⟨session, token, hread, hanswer, htoken⟩
      · refine .inr ⟨?_, ?_, htoken⟩
        · rintro token ⟨-, reply', login, hreply, hlogin, hbrings⟩
          obtain rfl := Except.ok.inj (hsent.symm.trans hreply)
          have hok := Login.ofReply_eq_ok_iff.mpr ⟨login, hlogin, rfl, hbrings⟩
          have hread : Except.map _ (Login.ofReply reply) = .error e := hread
          rw [hok] at hread
          cases hread
        · rintro ⟨-, answer, hok⟩
          cases hanswer.symm.trans hok
      · obtain ⟨⟨session', token'⟩, hlogin, heq⟩ := eq_of_map_eq_ok hread
        obtain ⟨rfl, rfl⟩ := Prod.mk.inj heq
        obtain ⟨login, hbody, -, hbrings⟩ := Login.ofReply_eq_ok_iff.mp hlogin
        exact .inl ⟨token', ⟨rfl, reply, login, hsent, hbody, hbrings⟩, ⟨rfl, _, hanswer⟩, htoken⟩
    | _ => cases hc

/-- A call either opens a session with the token that is remembered from then on, or leaves the token. -/
theorem opens_cases (m : Made ν) :
    (∃ token, m.Opens token ∧ m.Authenticates ∧ m.called.client.token = some token) ∨
      (∀ token, ¬ m.Opens token) ∧ ¬ m.Authenticates ∧ m.called.client.token = m.client.token := by
  by_cases hc : m.call.method = .authenticate
  · exact cases_of_authentication hc
  · exact .inr ⟨fun token h => hc h.authentication, fun h => hc h.1, token_of_other hc⟩

/-- An authentication succeeds exactly if it opens a session. -/
theorem authenticates_iff : m.Authenticates ↔ ∃ token, m.Opens token := by
  rcases opens_cases m with ⟨token, hopens, hsucceeds, -⟩ | ⟨hnone, hfails, -⟩
  · exact iff_of_true hsucceeds ⟨token, hopens⟩
  · exact iff_of_false hfails fun ⟨token, hopens⟩ => hnone token hopens

/-- No call opens a session with two tokens. -/
theorem Opens.unique {token token' : String} (h : m.Opens token) (h' : m.Opens token') :
    token = token' := by
  obtain ⟨-, reply, login, hreply, hlogin, hbrings⟩ := h
  obtain ⟨-, reply', login', hreply', hlogin', hbrings'⟩ := h'
  obtain rfl := Except.ok.inj (hreply.symm.trans hreply')
  have hok := Login.ofReply_eq_ok_iff.mpr ⟨login, hlogin, rfl, hbrings⟩
  have hok' := Login.ofReply_eq_ok_iff.mpr ⟨login', hlogin', rfl, hbrings'⟩
  exact (Prod.mk.inj (Except.ok.inj (hok.symm.trans hok'))).2

/-- The token after a call is the one that it opens a session with, or else the one before it. -/
theorem token_called_iff {token : String} :
    m.called.client.token = some token ↔
      m.Opens token ∨ (∀ other, ¬ m.Opens other) ∧ m.client.token = some token := by
  rcases opens_cases m with ⟨opened, hopens, -, htoken⟩ | ⟨hnone, -, htoken⟩
  · rw [htoken]
    constructor
    · intro h
      obtain rfl := Option.some.inj h
      exact .inl hopens
    · rintro (h | ⟨hnone, -⟩)
      · rw [hopens.unique h]
      · exact absurd hopens (hnone opened)
  · rw [htoken]
    exact ⟨fun h => .inr ⟨hnone, h⟩, fun h => (h.resolve_left (hnone token)).2⟩

/-- Every request of a call shows what is remembered when the call is made. -/
theorem bearer_of_mem {r : Request} (h : r ∈ m.called.requests) : r.bearer = m.client.token := by
  obtain ⟨endpoint, -, hrequest⟩ := Client.exists_requestAt_of_mem_call h
  obtain ⟨url, -, hrequest⟩ := bind_eq_ok hrequest
  rw [Client.request] at hrequest
  split at hrequest
  · cases hrequest
  split at hrequest
  · cases hrequest
  obtain rfl := Except.ok.inj hrequest
  rfl

end Made

/-! ### Sequences of calls -/

section

variable {ν : Type} [Network ν] {m : Made ν} {before later : List (Made ν)} {token : String}

theorem not_lastOpened_nil : ¬ LastOpened ([] : List (Made ν)) token := by
  rintro ⟨before, m, later, h, -⟩
  cases before <;> cases h

/-- The last session is opened behind the first call, or by it if by none behind it. -/
theorem lastOpened_cons :
    LastOpened (m :: later) token ↔
      LastOpened later token ∨ (∀ other ∈ later, ∀ token, ¬ other.Opens token) ∧ m.Opens token := by
  rw [LastOpened, exists_split_cons_iff, or_comm, and_comm (b := m.Opens token), LastOpened]

/-- Where a session is opened at all, one is opened last. -/
theorem exists_lastOpened_iff : (∃ token, LastOpened before token) ↔ ∃ m ∈ before, m.Authenticates := by
  induction before with
  | nil => simp [not_lastOpened_nil]
  | cons m later ih =>
    constructor
    · rintro ⟨token, hlast⟩
      rcases lastOpened_cons.mp hlast with hlater | ⟨-, hopens⟩
      · obtain ⟨other, hmem, hother⟩ := ih.mp ⟨token, hlater⟩
        exact ⟨other, List.mem_cons_of_mem _ hmem, hother⟩
      · exact ⟨m, List.mem_cons_self, Made.authenticates_iff.mpr ⟨token, hopens⟩⟩
    · rintro ⟨other, hmem, hother⟩
      by_cases hlater : ∃ m ∈ later, m.Authenticates
      · obtain ⟨token, hlast⟩ := ih.mpr hlater
        exact ⟨token, lastOpened_cons.mpr (.inl hlast)⟩
      · rcases List.mem_cons.mp hmem with rfl | hmem
        · obtain ⟨token, hopens⟩ := Made.authenticates_iff.mp hother
          refine ⟨token, lastOpened_cons.mpr (.inr ⟨?_, hopens⟩)⟩
          intro later hin other hlast
          exact hlater ⟨later, hin, Made.authenticates_iff.mpr ⟨other, hlast⟩⟩
        · exact absurd ⟨other, hmem, hother⟩ hlater

namespace Client

/-- The token of a client behind some calls is that of the last session that they open, or what it was. -/
theorem token_of_course {client : Client ν} {uses : List Use}
    (h : client.course uses = before ++ m :: later) :
    m.client.token = some token ↔
      LastOpened before token ∨
        (∀ other ∈ before, ∀ token, ¬ other.Opens token) ∧ client.token = some token := by
  induction before generalizing client uses with
  | nil =>
    cases uses with
    | nil => cases h
    | cons use uses =>
      obtain ⟨rfl, -⟩ := List.cons.inj h
      simp [not_lastOpened_nil]
  | cons first before ih =>
    cases uses with
    | nil => cases h
    | cons use uses =>
      obtain ⟨rfl, hrest⟩ := List.cons.inj h
      rw [ih hrest, lastOpened_cons]
      have hfirst : (client.call use.contexts use.ctx use.cancelledAt use.call).client.token = some token ↔ _ :=
        Made.token_called_iff (m := ⟨use, client⟩)
      rw [hfirst, List.forall_mem_cons]
      tauto

/-- What requests show of the session, over any calls of a new client. A request shows a token exactly if an
authentication before it succeeded, and then that of the last one that did. An authentication succeeds
exactly if its reply is good and brings a token with a login, and then that is remembered; any other call,
and one that fails for whatever reason, leaves what was remembered. -/
theorem requests_show_session {endpoints : List String} {userAgent : String} {network : ν}
    {client : Client ν} (hmade : make endpoints userAgent network = .ok client) {uses : List Use}
    (hcourse : client.course uses = before ++ m :: later) :
    (∀ r ∈ m.called.requests,
      (r.bearer ≠ none ↔ ∃ earlier ∈ before, earlier.Authenticates) ∧
      ∀ token, r.bearer = some token ↔ LastOpened before token) ∧
    (m.Authenticates ↔ ∃ token, m.Opens token) ∧
    (∀ token, m.Opens token → m.called.client.token = some token) ∧
    (¬ m.Authenticates → m.called.client.token = m.client.token) := by
  have htoken : ∀ token, m.client.token = some token ↔ LastOpened before token := by
    intro token
    rw [token_of_course hcourse, token_make hmade]
    simp
  refine ⟨?_, Made.authenticates_iff, ?_, ?_⟩
  · intro r hr
    rw [Made.bearer_of_mem hr]
    refine ⟨?_, htoken⟩
    rw [Option.ne_none_iff_exists', ← exists_lastOpened_iff]
    exact exists_congr htoken
  · intro token hopens
    exact Made.token_called_iff.mpr (.inl hopens)
  · intro hfails
    rcases m.opens_cases with ⟨token, -, hsucceeds, -⟩ | ⟨-, -, hkept⟩
    · exact absurd hsucceeds hfails
    · exact hkept

end Client

end

namespace Client

/-- A server that forgets the login at first, then sends it with a token in the head, and has no nodes. -/
def forgetful : Scripted :=
  ⟨[.replied ⟨200, none, .text "[]", .zero, .zero⟩,
    .replied ⟨200, some "Bearer abc", .text "\x7b\"userId\":\"u\",\"username\":\"admin\"\x7d",
      .zero, .zero⟩,
    .replied ⟨200, none, .text "[]", .zero, .zero⟩]⟩

/-- A client of that server. -/
def newcomer : Client Scripted := ⟨["h"], defaultUserAgent, none, forgetful⟩

/-- An authentication, another one, and a listing. -/
def threeUses : List Use :=
  [⟨.start, 0, none, .authenticate "admin" "secret"⟩, ⟨.start, 0, none, .authenticate "admin" "secret"⟩,
    ⟨.start, 0, none, .listNodes⟩]

/-- The first request shows no token, nor does the next one, and the listing the token of the second
authentication. -/
theorem requests_show_session_second_login :
    make ["h"] defaultUserAgent forgetful = .ok newcomer ∧
    ∃ before m, newcomer.course threeUses = before ++ [m] ∧
      ∃ r ∈ m.called.requests, r.bearer = some "abc" ∧ LastOpened before "abc" := by
  have hmade : make ["h"] defaultUserAgent forgetful = .ok newcomer := rfl
  have hbearers : (newcomer.course threeUses).map (fun m => m.called.requests.map (·.bearer)) =
      [[none], [none], [some "abc"]] := by decide +kernel
  obtain ⟨first, second, third, hcourse⟩ :
      ∃ first second third, newcomer.course threeUses = [first, second] ++ third :: [] :=
    ⟨_, _, _, rfl⟩
  have hthird : third.called.requests.map (·.bearer) = [some "abc"] := by
    rw [hcourse] at hbearers
    exact (List.cons.inj (List.cons.inj (List.cons.inj hbearers).2).2).1
  obtain ⟨r, hr, hbearer⟩ := List.mem_map.mp (hthird ▸ List.mem_cons_self)
  obtain ⟨hshows, -⟩ := requests_show_session hmade hcourse
  exact ⟨hmade, _, _, hcourse, r, hr, hbearer, ((hshows r hr).2 "abc").mp hbearer⟩

end Client

end BlockStorage.Rest
