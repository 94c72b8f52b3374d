import BlockStorage.Proofs.Command.Handler

/-!
The calls of one run of a command, in their order.

A run makes no call at all, or it asks for a session, and if it gets one its handler goes through its
phases: look-ups and other reading, then at most one change, then the volume again that was detached.
Last comes the licence, if the handler ended with an error of the licence.
-/

namespace BlockStorage

namespace Command

/-- Everything that is checked before a session is asked for lets the command through: its literals, its
namespace, its targets and the credentials. -/
structure Admitted (s : Settings) (c : Command) : Prop where
  valid : ∃ plan, c.plan s = .ok plan ∧ plan.check = .ok ()
  namespaced : c.isNamespaced → ¬ (s.useIds && s.namespace.isEmpty)
  targeted : ∀ listing ∈ c.described?, ∀ selectors, Plan.selectorsOf listing = .ok selectors →
    ¬ (listing.names.isEmpty && selectors.isEmpty)
  credentials : ∃ credentials, s.credentials = .ok credentials

/-- The handler of the command ends so after the session was opened. -/
def Ends (s : Settings) (c : Command) (w : World Cluster) (r : Except Failure Unit) : Prop :=
  ∃ plan credentials child u, c.plan s = .ok plan ∧ s.credentials = .ok credentials ∧
    (w.opened credentials).Same u ∧ u.contexts.mayStart child = .ok () ∧
    r = (plan.handler s child plan.args u).1

/-- The command is to detach a volume and to await that, and its change succeeded. -/
def Detached (c : Command) (ph : Phases) : Prop :=
  (∃ volume cas, c = .detach volume cas false) ∧ ∃ x ∈ ph.change, x.isOk

end Command

/-- The exchanges of a run that asks for a session. -/
structure Transcript where
  session : Exchange
  handled : Phases
  licence : List Exchange

namespace Transcript

/-- All exchanges in their order. -/
def exchanges (t : Transcript) : List Exchange := t.session :: (t.handled.exchanges ++ t.licence)

/-- The exchanges are those of a run of a command. -/
structure Fits (s : Settings) (c : Command) (w : World Cluster) (t : Transcript) : Prop where
  session : ∃ credentials, s.credentials = .ok credentials ∧ t.session.call = credentials.opening
  opened : t.handled.exchanges ++ t.licence ≠ [] → t.session.isOk
  phases : t.session.isOk → t.handled.Fits (c.lookups s) (c.Changes s)
  stops : ∀ x ∈ t.handled.exchanges.dropLast, x.isOk
  refetch : (c.Detached t.handled ∧
      t.handled.refetch.map (fun x => x.call.method) = [.getVolume]) ∨
    (¬ c.Detached t.handled ∧ t.handled.refetch = [])
  licence : t.session.isOk → ∃ r, c.Ends s w r ∧
    ((Failure.IsLicence r ∧ t.licence.map (fun x => x.call.method) = [.getLicence]) ∨
      (¬ Failure.IsLicence r ∧ t.licence = []))
  byName : s.useIds → ∀ x ∈ t.exchanges, x.call.method.isByName = false

end Transcript

/-! ### Fetching again -/

theorem Inventory.detachVolume_answer {inv : Inventory} {now : Timestamp} {ns : NamespaceId}
    {id : VolumeId} {params : RequestParams} {a : Submission Unit}
    (h : (inv.detachVolume now ns id params).1 = .ok a) : a = submission () params := by
  rw [detachVolume, submitted] at h
  cases hupdate : (inv.updateVolume now ns id params fun v =>
      { v with attachedOn := none, attachmentType := .detached }).1 with
  | error e =>
    rw [hupdate] at h
    cases h
  | ok v =>
    rw [hupdate] at h
    cases h
    rfl

/-- A cluster that detaches a volume answers that it was done, unless it may be done later. -/
theorem Cluster.perform_detachVolume {cluster : Cluster} {now : Timestamp} {ns : NamespaceId}
    {id : VolumeId} {params : RequestParams} {a : Submission Unit}
    (h : (cluster.perform now (.detachVolume ns id params)).1 = .ok a) :
    a = Inventory.submission () params := by
  rw [perform] at h
  split at h
  · cases h
  · exact Inventory.detachVolume_answer (Inventory.ofClient_eq_ok h)

theorem RequestParams.isAsync_ofFlags (s : Settings) (cas : Option String) (isAsync : Bool) :
    (ofFlags s cas isAsync).isAsync = isAsync := by
  cases isAsync <;> cases cas <;> rfl

/-- Only a command that detaches a volume has a volume detached. -/
theorem Command.Changes.detachVolume {s : Settings} {c : Command} {ns : NamespaceId}
    {id : VolumeId} {params : RequestParams} (h : c.Changes s (.detachVolume ns id params)) :
    ∃ volume cas isAsync, c = .detach volume cas isAsync ∧ params = .ofFlags s cas isAsync := by
  cases c with
  | detach volume cas isAsync =>
    obtain ⟨_, _, hcall⟩ := h
    cases hcall
    exact ⟨volume, cas, isAsync, rfl, rfl⟩
  | _ => simp only [Changes, reduceCtorEq, and_false, exists_false] at h

/-- What a change of a command has fetched again: a volume whose detachment was awaited, if it
succeeded. -/
theorem Exchange.refetch?_isSome {s : Settings} {c : Command} {now : Timestamp} {state : Cluster}
    {x : Exchange} (hchanges : c.Changes s x.call)
    (hanswer : x.answer = (state.perform now x.call).1) :
    x.refetch?.isSome ↔ (∃ volume cas, c = .detach volume cas false) ∧ x.isOk := by
  obtain ⟨call, answer⟩ := x
  cases call with
  | detachVolume ns id params =>
    obtain ⟨volume, cas, isAsync, rfl, rfl⟩ := hchanges.detachVolume
    cases answer with
    | error f =>
      constructor
      · intro h
        cases h
      · rintro ⟨_, h⟩
        cases h
    | ok a =>
      have ha := Cluster.perform_detachVolume hanswer.symm
      rw [Inventory.submission, RequestParams.isAsync_ofFlags] at ha
      subst ha
      cases isAsync with
      | false => exact ⟨fun _ => ⟨⟨volume, cas, rfl⟩, rfl⟩, fun _ => rfl⟩
      | true =>
        constructor
        · intro h
          cases h
        · rintro ⟨⟨volume', cas', h⟩, _⟩
          cases h
  | _ =>
    constructor
    · intro h
      cases h
    · rintro ⟨⟨volume, cas, rfl⟩, _⟩
      obtain ⟨ns, id, hcall⟩ := hchanges
      cases hcall

theorem Exchange.refetch?_method {x : Exchange} {c : Call} (h : x.refetch? = some c) :
    c.method = .getVolume := by
  obtain ⟨call, answer⟩ := x
  cases call with
  | detachVolume ns id params =>
    rcases answer with f | a
    · cases h
    · cases a with
      | completed _ =>
        cases h
        rfl
      | accepted => cases h
  | _ => cases h

/-- A volume is fetched again exactly if its detachment was awaited and succeeded. -/
theorem Phases.Fits.refetched {s : Settings} {c : Command} {now : Timestamp} {ph : Phases}
    (h : ph.Fits (c.lookups s) (c.Changes s))
    (hanswers : ∀ x ∈ ph.change, ∃ state : Cluster, x.answer = (state.perform now x.call).1) :
    (c.Detached ph ∧ ph.refetch.map (fun x => x.call.method) = [.getVolume]) ∨
      (¬ c.Detached ph ∧ ph.refetch = []) := by
  have hmethods : ph.refetch.map (fun x => x.call.method) =
      (ph.change.filterMap Exchange.refetch?).map Call.method := by
    rw [← h.refetch, List.map_map]
    rfl
  match hchange : ph.change with
  | [] =>
    refine Or.inr ⟨?_, ?_⟩
    · rintro ⟨_, x, hx, _⟩
      rw [hchange] at hx
      cases hx
    · rw [hchange] at hmethods
      exact List.map_eq_nil_iff.mp hmethods
  | [x] =>
    have hx : x ∈ ph.change := by
      rw [hchange]
      exact List.mem_singleton_self x
    obtain ⟨state, hanswer⟩ := hanswers x hx
    have hiff := Exchange.refetch?_isSome (h.change x hx) hanswer
    rw [hchange] at hmethods
    cases hrefetch : x.refetch? with
    | some c' =>
      obtain ⟨hdetach, hok⟩ := hiff.mp (by rw [hrefetch]; rfl)
      refine Or.inl ⟨⟨hdetach, x, hx, hok⟩, ?_⟩
      simpa [hrefetch, Exchange.refetch?_method hrefetch] using hmethods
    | none =>
      refine Or.inr ⟨?_, ?_⟩
      · rintro ⟨hdetach, y, hy, hok⟩
        rw [hchange, List.mem_singleton] at hy
        have hsome := hiff.mpr ⟨hdetach, hy ▸ hok⟩
        rw [hrefetch] at hsome
        cases hsome
      · simpa [hrefetch] using hmethods
  | _ :: _ :: _ =>
    have hlength := h.change_length
    rw [hchange] at hlength
    simp at hlength

/-- Of exchanges that are one call of a method where something holds, and none otherwise, each is a call
of that method. -/
theorem method_of_mem {p : Prop} {xs : List Exchange} {m : Method}
    (h : (p ∧ xs.map (fun x => x.call.method) = [m]) ∨ (¬ p ∧ xs = [])) :
    ∀ x ∈ xs, x.call.method = m := by
  intro x hx
  rcases h with ⟨_, hmap⟩ | ⟨_, rfl⟩
  · have hmem : x.call.method ∈ xs.map fun x => x.call.method := List.mem_map_of_mem hx
    rw [hmap] at hmem
    exact List.mem_singleton.mp hmem
  · cases hx

/-! ### Look-ups by name -/

theorem Method.isByName_of_isMutating {m : Method} (h : m.isMutating) : m.isByName = false := by
  cases m <;> first | rfl | cases h

/-- With identifiers nothing is looked up by name. -/
theorem Phases.Fits.not_byName {s : Settings} {c : Command} {ph : Phases}
    (h : ph.Fits (c.lookups s) (c.Changes s))
    (hrefetch : ∀ x ∈ ph.refetch, x.call.method = .getVolume) (hids : s.useIds) :
    ∀ x ∈ ph.exchanges, x.call.method.isByName = false := by
  have hnone : lookupsOf ph.reads = [] := by
    have hlookups := h.lookups
    rw [Command.lookups, Settings.wanted, if_pos hids] at hlookups
    exact List.prefix_nil.mp hlookups
  intro x hx
  rcases Phases.mem_exchanges.mp hx with hx | hx | hx
  · have hlookup : x.call.lookup? = none := List.filterMap_eq_nil_iff.mp hnone x hx
    rw [← Call.lookup?_isSome, hlookup]
    rfl
  · exact Method.isByName_of_isMutating (h.change x hx).isMutating
  · rw [hrefetch x hx]
    rfl

/-! ### Runs -/

namespace Command

variable {s : Settings} {c : Command}

theorem admitted {plan : Plan} {targets : Option SelectorSet} {credentials : Credentials}
    (hplan : c.plan s = .ok plan) (hcheck : plan.check = .ok ())
    (htargets : ∀ listing ∈ c.described?, plan.args = listing.names ∧
      ∀ selectors, Plan.selectorsOf listing = .ok selectors → targets = some selectors)
    (hlets : Stage.Lets s c.isNamespaced targets plan.args)
    (hknown : s.credentials = .ok credentials) : c.Admitted s := by
  refine ⟨⟨plan, hplan, hcheck⟩, hlets.namespaced, ?_, credentials, hknown⟩
  intro listing hlisting selectors hselectors
  obtain ⟨hargs, htargets⟩ := htargets listing hlisting
  have hlet := hlets.targeted selectors (htargets selectors hselectors)
  rw [hargs] at hlet
  exact hlet

theorem stops_of_takes {α : Type} {p : Program α} {xs : List Exchange} {r : Except Failure α}
    (h : p.Takes xs r) : ∀ x ∈ xs.dropLast, x.isOk := by
  rcases h.ending with hok | ⟨ys, call, f, rfl, hok, _⟩
  · intro x hx
    exact hok x (List.dropLast_subset _ hx)
  · rw [List.dropLast_concat]
    exact hok

/-- A run that gets no session makes no other call. -/
theorem fits_refused {credentials : Credentials} {w : World Cluster} (f : CallFailure)
    (hknown : s.credentials = .ok credentials) :
    Transcript.Fits s c w ⟨⟨credentials.opening, .error f⟩, ⟨[], [], []⟩, []⟩ := by
  refine ⟨⟨credentials, hknown, rfl⟩, ?_, ?_, ?_, Or.inr ⟨?_, rfl⟩, ?_, ?_⟩
  · intro h
    exact absurd rfl h
  · intro h
    cases h
  · intro x hx
    cases hx
  · rintro ⟨_, x, hx, _⟩
    cases hx
  · intro h
    cases h
  · intro _ x hx
    rw [List.mem_singleton.mp hx]
    rfl

/-- A run that gets a session goes through the phases of its handler, and then fetches the licence if it
has to. -/
theorem fits_entered {credentials : Credentials} {w : World Cluster} {session : Session}
    {ph : Phases} {licence : List Exchange} (hknown : s.credentials = .ok credentials)
    (hfits : ph.Fits (c.lookups s) (c.Changes s)) (hstops : ∀ x ∈ ph.exchanges.dropLast, x.isOk)
    (hrefetch : (c.Detached ph ∧ ph.refetch.map (fun x => x.call.method) = [.getVolume]) ∨
      (¬ c.Detached ph ∧ ph.refetch = []))
    (hlicence : ∃ r, c.Ends s w r ∧
      ((Failure.IsLicence r ∧ licence.map (fun x => x.call.method) = [.getLicence]) ∨
        (¬ Failure.IsLicence r ∧ licence = []))) :
    Transcript.Fits s c w ⟨⟨credentials.opening, .ok session⟩, ph, licence⟩ := by
  refine ⟨⟨credentials, hknown, rfl⟩, fun _ => rfl, fun _ => hfits, hstops, hrefetch,
    fun _ => hlicence, ?_⟩
  intro hids x hx
  rcases List.mem_cons.mp hx with rfl | hx
  · rfl
  rcases List.mem_append.mp hx with hx | hx
  · exact hfits.not_byName (method_of_mem hrefetch) hids x hx
  · obtain ⟨r, _, hlast⟩ := hlicence
    rw [method_of_mem hlast x hx]
    rfl

/-- A run of a command leaves the cluster as it was, or makes the calls of a transcript. -/
theorem run_transcript (s : Settings) (c : Command) (ctx : Nat) (w : World Cluster) :
    (c.run s ctx w).2.cluster = w.cluster ∨
      ∃ t : Transcript, c.Admitted s ∧ t.Fits s c w ∧
        Cluster.Answers w.now w.cluster t.exchanges (c.run s ctx w).2.cluster := by
  rcases c.run_course s ctx w with ⟨e, hrun⟩ | ⟨plan, targets, hplan, hcheck, htargets, hcourse⟩
  · rw [hrun]
    exact Or.inl rfl
  generalize c.run s ctx w = r at hcourse ⊢
  cases hcourse with
  | turnedAway same => exact Or.inl same.2.1
  | @refused credentials f v lets known answer same =>
    have hsession := Cluster.Answers.single w.now w.cluster credentials.opening
    rw [answer] at hsession
    refine Or.inr ⟨_, admitted hplan hcheck htargets lets known, fits_refused f known, ?_⟩
    rw [same.2.1]
    exact hsession
  | @entered credentials session child u v lets known answer opened live same =>
    have hsession := Cluster.Answers.single w.now w.cluster credentials.opening
    rw [answer] at hsession
    obtain ⟨xs, result, htakes, hanswers, hnow, hcontexts, _⟩ :=
      plan.handler_takes s plan.args live
    rw [opened.1, opened.2.1] at hanswers
    obtain ⟨⟨ph, rfl, hfits⟩, _⟩ := (planned_of_plan hplan).phased hcheck xs result htakes
    have hrefetch := hfits.refetched fun x hx => hanswers.answer_of_mem
      (List.mem_append_left _ (List.mem_append_right _ hx))
    have hends : c.Ends s w (plan.handler s child plan.args u).1 :=
      ⟨plan, credentials, child, u, hplan, known, opened, live, rfl⟩
    -- the licence is fetched last, if at all
    obtain ⟨licence, hlast, hlicence⟩ : ∃ licence, Cluster.Answers w.now
        (plan.handler s child plan.args u).2.cluster licence v.cluster ∧
        ((Failure.IsLicence (plan.handler s child plan.args u).1 ∧
            licence.map (fun x => x.call.method) = [.getLicence]) ∨
          (¬ Failure.IsLicence (plan.handler s child plan.args u).1 ∧ licence = [])) := by
      rw [same.2.1]
      by_cases hends : Failure.IsLicence (plan.handler s child plan.args u).1
      · obtain ⟨hcluster, _, _⟩ := Stage.withExplanation_of_licence hends (hcontexts.symm ▸ live)
        rw [hcluster, hnow, opened.1]
        exact ⟨_, .single w.now _ .getLicence, Or.inl ⟨hends, rfl⟩⟩
      · rw [Stage.withExplanation_of_not hends]
        exact ⟨[], .nil _, Or.inr ⟨hends, rfl⟩⟩
    have hfitting : Transcript.Fits s c w ⟨⟨credentials.opening, .ok session⟩, ph, licence⟩ :=
      fits_entered known hfits (stops_of_takes htakes) hrefetch ⟨_, hends, hlicence⟩
    exact Or.inr ⟨_, admitted hplan hcheck htargets lets known, hfitting,
      hsession.append (hanswers.append hlast)⟩

/-- A command that only shows something makes no change. -/
theorem not_isMutating_of_fits {w : World Cluster} {t : Transcript} (h : t.Fits s c w)
    (hshowing : c.isShowing) : ∀ x ∈ t.exchanges, x.call.method.isMutating = false := by
  obtain ⟨credentials, _, hsession⟩ := h.session
  intro x hx
  rcases List.mem_cons.mp hx with rfl | hx
  · rw [hsession]
    rfl
  have hopen := h.opened (List.ne_nil_of_mem hx)
  have hfits := h.phases hopen
  rcases List.mem_append.mp hx with hx | hx
  · rcases Phases.mem_exchanges.mp hx with hx | hx | hx
    · have hreads := hfits.reads x hx
      rw [Call.isReading, Bool.and_eq_true, Bool.not_eq_true'] at hreads
      exact hreads.1
    · rw [(hfits.change x hx).not_isShowing] at hshowing
      cases hshowing
    · rw [method_of_mem h.refetch x hx]
      rfl
  · obtain ⟨r, _, hlast⟩ := h.licence hopen
    rw [method_of_mem hlast x hx]
    rfl

/-- The shape of every run of a command: the calls that it leaves on the record of a cluster are none, or
those of a transcript, for which everything was let through that is checked before. A command that only
shows something makes no change among them and leaves the cluster as it was, but for that record. -/
theorem run_shape (s : Settings) (c : Command) (ctx : Nat) (w : World Cluster) :
    ∃ xs, Cluster.Answers w.now w.cluster xs (c.run s ctx w).2.cluster ∧
      (c.run s ctx w).2.cluster.calls = w.cluster.calls ++ xs.map (fun x => x.call.method) ∧
      (xs = [] ∨ ∃ t : Transcript, t.exchanges = xs ∧ c.Admitted s ∧ t.Fits s c w) ∧
      (c.isShowing → (∀ x ∈ xs, x.call.method.isMutating = false) ∧
        (c.run s ctx w).2.cluster =
          { w.cluster with calls := (c.run s ctx w).2.cluster.calls }) := by
  rcases c.run_transcript s ctx w with hsame | ⟨t, hadmitted, hfits, hanswers⟩
  · rw [hsame]
    refine ⟨[], .nil _, (List.append_nil _).symm, Or.inl rfl, fun _ => ⟨?_, rfl⟩⟩
    intro x hx
    cases hx
  · refine ⟨t.exchanges, hanswers, hanswers.calls, Or.inr ⟨t, rfl, hadmitted, hfits⟩, ?_⟩
    intro hshowing
    have hreads := not_isMutating_of_fits hfits hshowing
    exact ⟨hreads, hanswers.of_reads hreads⟩

/-- The calls of a volume that is detached and fetched again are those of a transcript. -/
theorem run_shape_detach : ∃ t : Transcript,
    t.exchanges.map (fun x => x.call.method) =
      [.authenticate, .getNamespaceByName, .getVolumeByName, .detachVolume, .getVolume] ∧
    t.Fits knownUser (.detach "data" none false) oneVolumeWorld := by
  obtain ⟨xs, _, hcalls, hshape, _⟩ :=
    run_shape knownUser (.detach "data" none false) 0 oneVolumeWorld
  have hrun : (run knownUser (.detach "data" none false) 0 oneVolumeWorld).2.cluster.calls =
      [.authenticate, .getNamespaceByName, .getVolumeByName, .detachVolume, .getVolume] := rfl
  have hmethods := hcalls.symm.trans hrun
  rcases hshape with rfl | ⟨t, rfl, _, hfits⟩
  · cases hmethods
  · exact ⟨t, hmethods, hfits⟩

end Command

end BlockStorage
