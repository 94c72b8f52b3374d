import BlockStorage.Proofs.Context.Cancellation
import BlockStorage.Proofs.Context.Outcome
import BlockStorage.Rest.Client

/-!
The deadlines of contexts, and when calls under them end.

The deadline of a context is the earliest end of a timeout that it or a context above it was derived with,
and it stays that. A call under a context ends with whatever comes first: its own result, that deadline, or
the first time that the context or one above it is cancelled. Under a context that has ended it does not
start.
-/

namespace BlockStorage

namespace Contexts

/-- The ends of the timeouts that a context and those above it were derived with. -/
def limits (forest : List Origin) (id : Nat) : Set Nat :=
  {l | ∃ a origin, Above forest a id ∧ forest[a]? = some origin ∧ origin.limit = some l}

/-- The deadlines of all contexts, in the order of their numbers. -/
def deadlines (cs : Contexts) : List (Option Nat) := cs.contexts.map Context.deadline

/-- No call starts under a context: it fails with an error, without a trace on a cluster in memory, and
without a request where there is a network. -/
structure NeverStarts (cs : Contexts) (id : Nat) (error : ClientError) : Prop where
  inMemory : ∀ (now : Timestamp) (cluster : Cluster) (call : Call),
    cluster.callUnder now cs id call = (.error (.client error), cluster)
  remote : ∀ (ν : Type) [Rest.Network ν] (client : Rest.Client ν) (cancelledAt : Option Nat)
    (call : Call), client.call cs id cancelledAt call = ⟨.error error, cs.now, client, [], []⟩

/-- Every deadline is the earliest limit. -/
def Timed (forest : List Origin) (deadlines : List (Option Nat)) : Prop :=
  ∀ id deadline, deadlines[id]? = some deadline → IsEarliest (limits forest id) deadline

variable {forest : List Origin} {pending : List Nat} {contexts : List Context} {cs : Contexts}
  {id k : Nat}

/-! ### Deadlines -/

theorem getElem?_deadlines (h : id < cs.contexts.length) :
    cs.deadlines[id]? = some (cs.get id).deadline := by
  rw [deadlines, List.getElem?_map, get, List.getD_eq_getElem?_getD, List.getElem?_eq_getElem h]
  rfl

theorem map_deadline_cancelAll (contexts : List Context) (pending : List Nat) :
    (cancelAll contexts pending).map Context.deadline = contexts.map Context.deadline := by
  apply List.ext_getElem?
  intro k
  rw [List.getElem?_map, List.getElem?_map]
  rcases cancelAll_getElem? contexts pending k with hk | hk
  · rw [hk]
  · rw [hk, Option.map_map]
    rfl

theorem map_deadline_modify_register (contexts : List Context) (id number : Nat) :
    (contexts.modify id (·.register number)).map Context.deadline =
      contexts.map Context.deadline := by
  apply List.ext_getElem?
  intro k
  rw [List.getElem?_map, List.getElem?_map, List.getElem?_modify]
  cases contexts[k]? with
  | none => rfl
  | some c =>
    by_cases hk : id = k
    · simp [hk]
    · simp [hk]

theorem deadlines_derive (cs : Contexts) (id : Nat) (timeout : Duration) :
    (cs.derive id timeout).1.deadlines =
      cs.deadlines ++ [some (Context.earlier (cs.get id).deadline (cs.now + timeout.nanos))] := by
  rw [deadlines, derive]
  split
  · rw [List.map_append, ← deadlines]
    rfl
  · rw [List.map_append, map_deadline_modify_register, ← deadlines]
    rfl

/-- The deadline of the context that an event makes, if it makes one. -/
def newDeadline? (cs : Contexts) (event : Event) : Option (Option Nat) :=
  match event.operation with
  | .addBackground => some none
  | .derive id timeout =>
    some (some (Context.earlier (cs.get id).deadline (max cs.now event.time + timeout.nanos)))
  | .cancel _ => none
  | .dropGuard _ => none

theorem deadlines_after (cs : Contexts) (event : Event) :
    (cs.after event).deadlines = cs.deadlines ++ (cs.newDeadline? event).toList := by
  obtain ⟨time, operation⟩ := event
  have cancel (id : Nat) : ((cs.advanceTo time).cancel id).deadlines = cs.deadlines ++ [] := by
    rw [List.append_nil]
    exact map_deadline_cancelAll cs.contexts [id]
  cases operation with
  | addBackground => exact List.map_append
  | derive id timeout => exact deadlines_derive (cs.advanceTo time) id timeout
  | cancel id => exact cancel id
  | dropGuard id => exact cancel id

theorem deadlines_afterAll (cs : Contexts) (events : List Event) :
    cs.deadlines <+: (cs.afterAll events).deadlines := by
  induction events generalizing cs with
  | nil => exact List.prefix_refl _
  | cons event events ih =>
    have hstep : cs.deadlines <+: (cs.after event).deadlines := by
      rw [deadlines_after]
      exact List.prefix_append _ _
    exact hstep.trans (ih (cs.after event))

/-- Whatever happens, a context keeps its deadline. -/
theorem deadline_afterAll (hid : id < cs.contexts.length) (events : List Event) :
    ((cs.afterAll events).get id).deadline = (cs.get id).deadline := by
  obtain ⟨more, hmore⟩ := deadlines_afterAll cs events
  have hlt : id < cs.deadlines.length := by
    rwa [deadlines, List.length_map]
  have hlater : id < (cs.afterAll events).contexts.length := by
    have hlength : (cs.deadlines ++ more).length = (cs.afterAll events).contexts.length := by
      rw [hmore, deadlines, List.length_map]
    rw [List.length_append] at hlength
    omega
  have hsame := getElem?_deadlines hlater
  rw [← hmore, List.getElem?_append_left hlt, getElem?_deadlines hid] at hsame
  exact (Option.some.inj hsame).symm

/-! ### Limits -/

theorem mem_limits_iff {l : Nat} : l ∈ limits forest id ↔
    ∃ a origin, Above forest a id ∧ forest[a]? = some origin ∧ origin.limit = some l :=
  Iff.rfl

theorem limits_append (h : Tracks forest pending contexts) {more : List Origin}
    (hid : id < forest.length) : limits (forest ++ more) id = limits forest id := by
  ext l
  rw [mem_limits_iff, mem_limits_iff]
  constructor
  · rintro ⟨a, origin, habove, horigin, hl⟩
    rw [above_append_iff h.older hid] at habove
    rw [List.getElem?_append_left ((h.le_of_above habove).trans_lt hid)] at horigin
    exact ⟨a, origin, habove, horigin, hl⟩
  · rintro ⟨a, origin, habove, horigin, hl⟩
    refine ⟨a, origin, (above_append_iff h.older hid).mpr habove, ?_, hl⟩
    rwa [List.getElem?_append_left ((h.le_of_above habove).trans_lt hid)]

/-- The limits of a new context are its own and those of the context that it was derived from. -/
theorem limits_concat (h : Tracks forest pending contexts) {origin : Origin}
    (hparent : ∀ id, origin.parent = some id → id < forest.length) :
    limits (forest ++ [origin]) forest.length =
      {l | origin.limit = some l} ∪ {l | ∃ id, origin.parent = some id ∧ l ∈ limits forest id} := by
  ext l
  rw [Set.mem_union]
  constructor
  · rintro ⟨a, o, habove, ho, hl⟩
    rcases Relation.ReflTransGen.cases_tail habove with heq | ⟨id, habove, hlast⟩
    · rw [← heq, List.getElem?_concat_length] at ho
      obtain rfl := Option.some.inj ho
      exact .inl hl
    · rcases isParent_concat_iff.mp hlast with hold | ⟨_, hid⟩
      · exact absurd hold.lt_length (lt_irrefl _)
      · refine .inr ⟨id, hid, ?_⟩
        rw [← limits_append h (hparent id hid)]
        exact ⟨a, o, habove, ho, hl⟩
  · rintro (hl | ⟨id, hid, hl⟩)
    · exact ⟨forest.length, origin, .refl, List.getElem?_concat_length, hl⟩
    · rw [← limits_append h (hparent id hid)] at hl
      obtain ⟨a, o, habove, ho, hl⟩ := hl
      exact ⟨a, o, habove.tail (isParent_concat_iff.mpr (.inr ⟨rfl, hid⟩)), ho, hl⟩

theorem limits_background (h : Tracks forest pending contexts) :
    limits (forest ++ [⟨none, none⟩]) forest.length = ∅ := by
  rw [limits_concat h (by simp)]
  simp

theorem Timed.concat (htimed : Timed forest cs.deadlines) (h : Tracks forest [] cs.contexts)
    {origin : Origin} {deadline : Option Nat}
    (hnew : IsEarliest (limits (forest ++ [origin]) forest.length) deadline) :
    Timed (forest ++ [origin]) (cs.deadlines ++ [deadline]) := by
  have hlength : cs.deadlines.length = forest.length := by
    rw [deadlines, List.length_map, h.length]
  intro id d hid
  rcases getElem?_concat_eq_some_iff.mp hid with hold | ⟨rfl, rfl⟩
  · have hlt : id < forest.length := hlength ▸ (List.getElem?_eq_some_iff.mp hold).1
    rw [limits_append h hlt]
    exact htimed id d hold
  · rwa [hlength]

/-- A derived context has the earliest limit for its deadline, if the one above it does. -/
theorem Timed.derive (htimed : Timed forest cs.deadlines) (h : Tracks forest [] cs.contexts)
    (id : Nat) (l : Nat) :
    IsEarliest (limits (forest ++ [⟨if id < cs.contexts.length then some id else none, some l⟩])
      forest.length) (some (Context.earlier (cs.get id).deadline l)) := by
  by_cases hid : id < cs.contexts.length
  · have hset : limits (forest ++ [⟨some id, some l⟩]) forest.length =
        insert l (limits forest id) := by
      rw [limits_concat h (by simp [← h.length, hid])]
      ext l'
      simp [eq_comm]
    rw [if_pos hid, hset]
    exact Context.isEarliest_insert (htimed id _ (getElem?_deadlines hid)) l
  · have hset : limits (forest ++ [⟨none, some l⟩]) forest.length = insert l ∅ := by
      rw [limits_concat h (by simp)]
      ext l'
      simp [eq_comm]
    rw [if_neg hid, hset, get_of_length_le (Nat.not_lt.mp hid)]
    exact Context.isEarliest_insert isEarliest_empty l

/-- Whatever happens, the deadlines are the earliest limits. -/
theorem Timed.after (htimed : Timed forest cs.deadlines) (h : Tracks forest [] cs.contexts)
    (event : Event) : Timed (forest ++ (cs.origin? event).toList) (cs.after event).deadlines := by
  rw [deadlines_after]
  obtain ⟨time, operation⟩ := event
  cases operation with
  | addBackground =>
    refine htimed.concat h ?_
    rw [limits_background h]
    exact isEarliest_empty
  | derive id timeout => exact htimed.concat h (htimed.derive h id _)
  | cancel id => simpa [origin?, newDeadline?] using htimed
  | dropGuard id => simpa [origin?, newDeadline?] using htimed

theorem Timed.afterAll (htimed : Timed forest cs.deadlines) (h : Tracks forest [] cs.contexts)
    (events : List Event) :
    Timed (forest ++ cs.originsFrom events) (cs.afterAll events).deadlines := by
  induction events generalizing forest cs with
  | nil =>
    rw [originsFrom, List.append_nil]
    exact htimed
  | cons event events ih =>
    rw [originsFrom, ← List.append_assoc]
    exact ih (htimed.after h event) (h.after event)

/-- After any history the deadline of a context is its earliest limit. -/
theorem deadline_isEarliest (history : List Event)
    (hid : id < (start.afterAll history).contexts.length) :
    IsEarliest (limits (origins history) id) ((start.afterAll history).get id).deadline := by
  have hempty : Timed [] (⟨0, []⟩ : Contexts).deadlines := by
    intro id deadline hid
    cases hid
  have hstart : Timed [⟨none, none⟩] start.deadlines := by
    refine hempty.concat Tracks.empty ?_
    rw [limits_background Tracks.empty]
    exact isEarliest_empty
  have htimed := hstart.afterAll Tracks.start history
  exact htimed id _ (getElem?_deadlines hid)

/-! ### Cancellations -/

/-- An operation cancels a context or one above it. -/
def Operation.Ends (forest : List Origin) (id : Nat) : Operation → Prop
  | .cancel a => Above forest a id
  | .dropGuard a => Above forest a id
  | .addBackground => False
  | .derive _ _ => False

/-- The times at which events cancel a context or one above it. -/
def cancellations (forest : List Origin) (id : Nat) : Contexts → List Event → Set Nat
  | _, [] => ∅
  | cs, event :: events =>
    {t | event.operation.Ends forest id ∧ t = (cs.after event).now} ∪
      cancellations forest id (cs.after event) events

/-- The clock never goes back. -/
theorem now_le_after (cs : Contexts) (event : Event) : cs.now ≤ (cs.after event).now := by
  obtain ⟨time, operation⟩ := event
  have hadvanced : cs.now ≤ (cs.advanceTo time).now := Nat.le_max_left _ _
  cases operation with
  | addBackground => exact hadvanced
  | derive id timeout =>
    rw [after, perform, derive]
    split <;> exact hadvanced
  | cancel id => exact hadvanced
  | dropGuard id => exact hadvanced

theorem le_of_mem_cancellations {events : List Event} {t : Nat}
    (h : t ∈ cancellations forest id cs events) : cs.now ≤ t := by
  induction events generalizing cs with
  | nil => cases h
  | cons event events ih =>
    rcases h with ⟨_, rfl⟩ | h
    · exact now_le_after cs event
    · exact (now_le_after cs event).trans (ih h)

theorem le_of_mem_cancelledAt? {events : List Event} {t : Nat}
    (h : t ∈ cs.cancelledAt? id events) : cs.now ≤ t := by
  induction events generalizing cs with
  | nil => cases h
  | cons event events ih =>
    rw [cancelledAt?] at h
    split at h
    · obtain ⟨rfl⟩ := h
      exact now_le_after cs event
    · exact (now_le_after cs event).trans (ih h)

/-- A live context is cancelled by an event exactly if that cancels it or one above it. -/
theorem cancelled_after_iff {more : List Origin} (h : Tracks (forest ++ more) [] cs.contexts)
    (hid : id < forest.length) (hlive : ¬Cancelled cs.contexts id) (event : Event) :
    Cancelled (cs.after event).contexts id ↔ event.operation.Ends forest id := by
  have hlength := h.length
  rw [List.length_append] at hlength
  obtain ⟨time, operation⟩ := event
  have cancel (a : Nat) : Cancelled ((cs.advanceTo time).cancel a).contexts id ↔
      Above forest a id := by
    have hadvanced : Tracks (forest ++ more) [] (cs.advanceTo time).contexts := h
    rw [← above_append_iff (fun hk => h.older ((isParent_append_iff hk.lt_length).mpr hk)) hid]
    constructor
    · intro hcancelled
      by_contra habove
      rw [Cancelled, (hadvanced.cancel_endsExactly a).others id habove] at hcancelled
      exact hlive hcancelled
    · intro habove
      have hlt : id < (cs.advanceTo time).contexts.length := by
        rw [hadvanced.length, List.length_append]
        omega
      rw [Cancelled, (hadvanced.cancel_endsExactly a).below id habove,
        List.getElem?_eq_getElem hlt]
      exact ⟨_, rfl, rfl⟩
  cases operation with
  | addBackground =>
    refine ⟨fun hcancelled => ?_, False.elim⟩
    rcases cancelled_concat_iff.mp hcancelled with hold | ⟨_, ⟨⟩⟩
    exact hlive hold
  | derive a timeout =>
    refine ⟨fun hcancelled => ?_, False.elim⟩
    rcases cancelled_derive_iff.mp hcancelled with hold | ⟨hnew, _⟩
    · exact hlive hold
    · have hnew : id = cs.contexts.length := hnew
      omega
  | cancel a => exact cancel a
  | dropGuard a => exact cancel a

/-- The first time that events leave a live context cancelled is the earliest cancellation. -/
theorem cancelledAt?_isEarliest {more : List Origin} (h : Tracks (forest ++ more) [] cs.contexts)
    (hid : id < forest.length) (hlive : ¬Cancelled cs.contexts id) (events : List Event) :
    IsEarliest (cancellations forest id cs events) (cs.cancelledAt? id events) := by
  induction events generalizing cs more with
  | nil => exact isEarliest_empty
  | cons event events ih =>
    have hstep := cancelled_after_iff h hid hlive event
    rw [cancelledAt?, cancellations]
    by_cases hends : event.operation.Ends forest id
    · have hcancelled := cancelled_iff_get.mp (hstep.mpr hends)
      simp only [hcancelled, if_true]
      refine ⟨.inl ⟨hends, rfl⟩, ?_⟩
      rintro t (⟨_, rfl⟩ | ht)
      · exact le_rfl
      · exact le_of_mem_cancellations ht
    · have hlive' : ¬Cancelled (cs.after event).contexts id := fun hc => hends (hstep.mp hc)
      have hnone : {t | event.operation.Ends forest id ∧ t = (cs.after event).now} = (∅ : Set Nat) := by
        ext t
        simp [hends]
      rw [hnone, Set.empty_union]
      have hafter := h.after event
      rw [List.append_assoc] at hafter
      simp only [cancelled_iff_get.not.mp hlive']
      exact ih hafter hlive'

/-! ### Calls -/

theorem mayStart_of_cancelled (h : (cs.get id).cancelled = true) :
    cs.mayStart id = .error .cancelled := by
  rw [mayStart, if_pos h]

theorem mayStart_of_expired {d : Nat} (hlive : (cs.get id).cancelled = false)
    (hd : d ∈ (cs.get id).deadline) (h : d ≤ cs.now) :
    cs.mayStart id = .error .deadlineExceeded := by
  rw [mayStart, if_neg (by simp [hlive]), if_pos (Context.isExpired_of_mem hd h)]

theorem mayStart_of_open (hlive : (cs.get id).cancelled = false)
    (hopen : ∀ d ∈ (cs.get id).deadline, cs.now < d) : cs.mayStart id = .ok () := by
  rw [mayStart, if_neg (by simp [hlive]), if_neg (by simp [Context.isExpired_eq_false_iff.mpr hopen])]

/-- Nothing starts under a context that was cancelled or, failing that, whose deadline has come. -/
theorem mayStart_eq_error_iff {error : ClientError} : cs.mayStart id = .error error ↔
    (error = .cancelled ∧ (cs.get id).cancelled = true) ∨
      (error = .deadlineExceeded ∧ (cs.get id).cancelled = false ∧
        ∃ d ∈ (cs.get id).deadline, d ≤ cs.now) := by
  constructor
  · intro h
    rw [mayStart] at h
    split at h
    · rename_i hcancelled
      exact .inl ⟨(Except.error.inj h).symm, hcancelled⟩
    · rename_i hlive
      split at h
      · rename_i hexpired
        exact .inr ⟨(Except.error.inj h).symm, Bool.eq_false_iff.mpr hlive,
          Context.any_le_eq_true_iff.mp hexpired⟩
      · cases h
  · rintro (⟨rfl, hcancelled⟩ | ⟨rfl, hlive, d, hd, hexpired⟩)
    · exact mayStart_of_cancelled hcancelled
    · exact mayStart_of_expired hlive hd hexpired

theorem derive_snd (cs : Contexts) (id : Nat) (timeout : Duration) :
    (cs.derive id timeout).2 = cs.contexts.length := by
  rw [derive]
  split <;> rfl

theorem derive_now (cs : Contexts) (id : Nat) (timeout : Duration) :
    (cs.derive id timeout).1.now = cs.now := by
  rw [derive]
  split <;> rfl

/-- A derived context is cancelled like the one above it, and has no later deadline. -/
theorem get_derive (cs : Contexts) (id : Nat) (timeout : Duration) :
    (cs.derive id timeout).1.get (cs.derive id timeout).2 =
      ⟨some (Context.earlier (cs.get id).deadline (cs.now + timeout.nanos)), (cs.get id).cancelled,
        []⟩ := by
  rw [derive]
  cases hcancelled : (cs.get id).cancelled with
  | true => simp [get, Context.ended]
  | false => simp [get]

/-- What is derived from a context that has ended has ended in the same way. -/
theorem mayStart_derive {error : ClientError} (h : cs.mayStart id = .error error) (timeout : Duration) :
    (cs.derive id timeout).1.mayStart (cs.derive id timeout).2 = .error error := by
  rw [mayStart_eq_error_iff, get_derive, derive_now]
  rcases mayStart_eq_error_iff.mp h with ⟨rfl, hcancelled⟩ | ⟨rfl, hlive, d, hd, hexpired⟩
  · exact .inl ⟨rfl, hcancelled⟩
  · refine .inr ⟨rfl, hlive, _, rfl, ?_⟩
    rw [Option.mem_def.mp hd]
    exact (Nat.min_le_left _ _).trans hexpired

/-- Something starts under what is derived with some time from a context under which something starts. -/
theorem mayStart_derive_of_ok (h : cs.mayStart id = .ok ()) {timeout : Duration} (htimeout : timeout ≠ .zero) :
    (cs.derive id timeout).1.mayStart (cs.derive id timeout).2 = .ok () := by
  have hpos : 0 < timeout.nanos := Nat.pos_of_ne_zero fun hzero => htimeout (congrArg Duration.mk hzero)
  have hlive : (cs.get id).cancelled = false := by
    rw [← Bool.not_eq_true]
    intro hcancelled
    rw [mayStart_of_cancelled hcancelled] at h
    cases h
  refine mayStart_of_open (by rw [get_derive, hlive]) fun d hd => ?_
  rw [get_derive, Option.mem_some_iff] at hd
  rw [derive_now, ← hd]
  cases hdeadline : (cs.get id).deadline with
  | none => exact Nat.lt_add_of_pos_right hpos
  | some own =>
    have hopen : cs.now < own := by
      by_contra hexpired
      rw [mayStart_of_expired hlive hdeadline (Nat.not_lt.mp hexpired)] at h
      cases h
    exact lt_min hopen (Nat.lt_add_of_pos_right hpos)

theorem neverStarts_of_mayStart {error : ClientError} (h : cs.mayStart id = .error error)
    (hkept : ∀ call, Rest.Answer.reworded call error = error) : cs.NeverStarts id error where
  inMemory now cluster call := by
    rw [Cluster.callUnder, h]
  remote ν _ client cancelledAt call := by
    rw [Rest.Client.call, Rest.Client.send, h]
    simp only [hkept]

/-- The clock moves to the end of a call. -/
theorem runAmid_eq {α : Type} (cs : Contexts) (id : Nat) (length : Duration)
    (meanwhile : List Event) (result : Except ClientError α) :
    (cs.runAmid id length meanwhile result).1 =
      (cs.get id).outcome cs.now (cs.now + length.nanos) (cs.cancelledAt? id meanwhile) result := by
  have hlater : cs.now ≤ ((cs.get id).outcome cs.now (cs.now + length.nanos)
      (cs.cancelledAt? id meanwhile) result).2 :=
    Context.start_le_outcome (Nat.le_add_right _ _) fun t ht => le_of_mem_cancelledAt? ht
  simp [runAmid, run, advanceTo, hlater]

/-- What a call under a context comes to. The deadline of a context is the earliest limit of itself and
those above it, and stays that whatever happens. Under a cancelled context and, failing that, under one
whose deadline has come, no call starts, and the error is the one of the context. Any other call ends with
what comes first: the first time that the context or one above it is cancelled, the deadline, or its own
result. -/
theorem call_outcome (history : List Event) (now : Nat) (cs : Contexts)
    (hcs : (start.afterAll history).advanceTo now = cs) (id : Nat) (hid : id < cs.contexts.length) :
    IsEarliest (limits (origins history) id) (cs.get id).deadline ∧
    (∀ later, ((cs.afterAll later).get id).deadline = (cs.get id).deadline) ∧
    ∀ (α : Type) (length : Duration) (meanwhile : List Event) (result : Except ClientError α),
      ((cs.get id).cancelled = true → cs.NeverStarts id .cancelled ∧
        (cs.runAmid id length meanwhile result).1 = (.error .cancelled, cs.now)) ∧
      ((cs.get id).cancelled = false → ∀ d ∈ (cs.get id).deadline, d ≤ cs.now →
        cs.NeverStarts id .deadlineExceeded ∧
        (cs.runAmid id length meanwhile result).1 = (.error .deadlineExceeded, cs.now)) ∧
      ((cs.get id).cancelled = false → (∀ d ∈ (cs.get id).deadline, cs.now < d) →
        Context.EndsFirst (cs.get id).deadline (cancellations (origins history) id cs meanwhile)
          (cs.now + length.nanos) result (cs.runAmid id length meanwhile result).1) := by
  have htracks : Tracks (origins history) [] cs.contexts := hcs ▸ Tracks.of_history history
  have hdeadline : IsEarliest (limits (origins history) id) (cs.get id).deadline := by
    subst hcs
    exact deadline_isEarliest history hid
  refine ⟨hdeadline, deadline_afterAll hid, ?_⟩
  intro α length meanwhile result
  refine ⟨?_, ?_, ?_⟩
  · intro hcancelled
    rw [runAmid_eq]
    exact ⟨neverStarts_of_mayStart (mayStart_of_cancelled hcancelled) fun _ => rfl,
      Context.outcome_of_cancelled hcancelled⟩
  · intro hlive d hd hexpired
    rw [runAmid_eq]
    exact ⟨neverStarts_of_mayStart (mayStart_of_expired hlive hd hexpired) fun _ => rfl,
      Context.outcome_of_expired hlive hd hexpired⟩
  · intro hlive hopen
    have hnot : ¬Cancelled cs.contexts id := by
      rw [cancelled_iff_get, hlive]
      exact Bool.false_ne_true
    have htracks' : Tracks (origins history ++ []) [] cs.contexts := by
      rwa [List.append_nil]
    rw [runAmid_eq]
    exact Context.outcome_endsFirst hlive hopen (Nat.le_add_right _ _)
      (cancelledAt?_isEarliest htracks' (htracks.length ▸ hid) hnot meanwhile)
      fun c hc => le_of_mem_cancellations hc

/-- A context with a second to go, below one with five. -/
def twoTimeouts : List Event := [⟨0, .derive 0 (.ofSecs 5)⟩, ⟨0, .derive 1 (.ofSecs 1)⟩]

/-- A call of three seconds ends when the guard of the context above is dropped, and with the deadline
otherwise. -/
theorem call_outcome_two_timeouts :
    (((start.afterAll twoTimeouts).advanceTo 200000000).runAmid 2 (.ofSecs 3)
      [⟨500000000, .dropGuard 1⟩] (.ok ())).1 = (.error .cancelled, 500000000) ∧
    (((start.afterAll twoTimeouts).advanceTo 200000000).runAmid 2 (.ofSecs 3) [] (.ok ())).1 =
      (.error .deadlineExceeded, 1000000000) := by
  have hdeadline : (((start.afterAll twoTimeouts).advanceTo 200000000).get 2).deadline =
      some 1000000000 := by decide
  obtain ⟨_, _, hcalls⟩ := call_outcome twoTimeouts 200000000 _ rfl 2 (by decide)
  have hopen : ∀ d ∈ (((start.afterAll twoTimeouts).advanceTo 200000000).get 2).deadline,
      ((start.afterAll twoTimeouts).advanceTo 200000000).now < d := by
    rw [hdeadline]
    rintro d ⟨rfl⟩
    decide
  constructor
  · refine ((hcalls Unit (.ofSecs 3) [⟨500000000, .dropGuard 1⟩] (.ok ())).2.2 (by decide)
      hopen).cancelled 500000000 ⟨.inl ⟨?_, rfl⟩, ?_⟩ (by decide) ?_
    · exact .single ⟨_, rfl, rfl⟩
    · rintro t (⟨_, rfl⟩ | ht)
      · exact le_rfl
      · exact absurd ht (Set.notMem_empty t)
    · rw [hdeadline]
      rintro d ⟨rfl⟩
      decide
  · refine ((hcalls Unit (.ofSecs 3) [] (.ok ())).2.2 (by decide) hopen).expired 1000000000
      hdeadline (by decide) ?_
    rintro c ⟨⟩

end Contexts

end BlockStorage
