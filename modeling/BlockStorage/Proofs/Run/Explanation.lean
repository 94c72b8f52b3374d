import BlockStorage.Proofs.Cluster.Capacity
import BlockStorage.Proofs.Run.Evaluation
import BlockStorage.Proofs.Run.Observation
import BlockStorage.Rest.Client

/-!
What the innermost stage makes of the errors of a licence.

What is no error of the licence passes the stage, and nothing is asked for. For an error of the licence the
licence is fetched, once and under the same context. The licence that is fetched is told in the place of the
error; if the fetch fails, for whatever reason, then the error stays as it was. A run reaches the stage where its
context is live and its credentials are accepted.
-/

namespace BlockStorage

open Cluster (Observed)

/-- A fetch of the licence comes to a licence or to an error of the cluster. -/
def Cluster.FetchesLicence (σ : Type) [Cluster.Callable σ] : Prop :=
  ∀ now cs ctx (cluster : σ),
    (Cluster.Callable.answer now cs ctx cluster .getLicence).answer ≠ .error .brokenOff

theorem Cluster.fetchesLicence : Cluster.FetchesLicence Cluster := by
  intro now cs ctx cluster hbroken
  cases (callUnder_brokenOff hbroken).1

theorem Rest.Client.fetchesLicence (ν : Type) [Rest.Network ν] : Cluster.FetchesLicence (Rest.Client ν) := by
  intro now cs ctx client hbroken
  change (client.call cs ctx none .getLicence).answer.mapError CallFailure.client = _ at hbroken
  cases hanswer : (client.call cs ctx none .getLicence).answer <;> rw [hanswer] at hbroken <;> cases hbroken

namespace Stage

/-! ### Handlers at any cluster -/

section

variable {σ : Type} [Cluster.Callable σ] {ctx : Nat} {args : List String}

/-- A run that the licence forbids ends as the fetch of the licence says. -/
theorem withExplanation_refused {next : Handler σ} {w v : World σ} {reason : String}
    (h : next ctx args w = (.error (.command (.client (.licenceCapability reason))), v)) :
    withExplanation next ctx args w =
      match v.call ctx .getLicence with
      | (.ok licence, u) => (.error (.command (explained reason licence)), u.log [licenceEvent licence])
      | (.error (.client error), u) => ((next ctx args w).1, u.log [licenceMissingEvent error])
      | (.error .brokenOff, u) => (.error .brokenOff, u) := by
  rw [withExplanation]
  generalize next ctx args w = o at *
  subst h
  rfl

/-- A handler is explained: what is no error of the licence is left as it is, with nothing done. An error of
the licence has the licence fetched by one call under the same context. It becomes an error that tells its
reason, the licence, and a hint that is to upgrade if the kind is the basic one, in letters of either case. If
the fetch fails, then it stays. -/
structure Explains (next : Handler (Observed σ)) (ctx : Nat) (args : List String)
    (w : World (Observed σ)) : Prop where
  passed : ¬ Failure.IsLicence (next ctx args w).1 → withExplanation next ctx args w = next ctx args w
  asked : Failure.IsLicence (next ctx args w).1 → (withExplanation next ctx args w).2.occasions =
    (next ctx args w).2.occasions ++ [⟨(next ctx args w).2.contexts, ctx, .getLicence⟩]
  told : ∀ reason licence,
    (next ctx args w).1 = .error (.command (.client (.licenceCapability reason))) →
    ((next ctx args w).2.call ctx .getLicence).1 = .ok licence →
    (withExplanation next ctx args w).1 =
      .error (.command (.licenceLimit reason licence.description
        (if licence.kind.toList.map Char.toLower = "basic".toList then Licence.upgradeHint
          else Licence.salesHint)))
  kept : ∀ error, Failure.IsLicence (next ctx args w).1 →
    ((next ctx args w).2.call ctx .getLicence).1 = .error (.client error) →
    (withExplanation next ctx args w).1 = (next ctx args w).1

theorem explains (next : Handler (Observed σ)) (ctx : Nat) (args : List String)
    (w : World (Observed σ)) : Explains next ctx args w where
  passed := withExplanation_of_not
  asked := by
    rintro ⟨reason, hreason⟩
    have hcall : ((next ctx args w).2.call ctx .getLicence).2.occasions =
        (next ctx args w).2.occasions ++ [⟨(next ctx args w).2.contexts, ctx, .getLicence⟩] := rfl
    rw [withExplanation_refused (Prod.ext hreason rfl), ← hcall]
    rcases (next ctx args w).2.call ctx .getLicence with ⟨(e | _) | licence, v⟩ <;> rfl
  told := by
    intro reason licence hreason hfetch
    rw [withExplanation_refused (Prod.ext hreason rfl)]
    generalize (next ctx args w).2.call ctx .getLicence = fetched at *
    obtain ⟨answer, v⟩ := fetched
    obtain rfl : answer = _ := hfetch
    simp only [explained, Licence.hint, Licence.isBasic, decide_eq_true_eq]
  kept := by
    rintro error ⟨reason, hreason⟩ hfetch
    rw [withExplanation_refused (Prod.ext hreason rfl)]
    generalize (next ctx args w).2.call ctx .getLicence = fetched at *
    obtain ⟨answer, v⟩ := fetched
    obtain rfl : answer = _ := hfetch
    rfl

end

/-! ### Runs at a cluster in memory -/

/-- Where the licence can be fetched, the error of a handler is explained by it, and nothing changes but the
record of calls. -/
theorem withExplanation_tells {next : Handler Cluster} {ctx : Nat} {args : List String}
    {u v : World Cluster} {reason : String} {licence : Licence}
    (hnext : next ctx args u = (.error (.command (.client (.licenceCapability reason))), v))
    (hlive : v.contexts.mayStart ctx = .ok ()) (hquiet : v.IsQuiet)
    (hlicence : v.cluster.inventory.licence = some licence) :
    (withExplanation next ctx args u).1 = .error (.command (explained reason licence)) ∧
      (withExplanation next ctx args u).2.cluster.inventory = v.cluster.inventory ∧
      (withExplanation next ctx args u).2.cluster.calls = v.cluster.calls ++ [.getLicence] := by
  obtain ⟨hanswer, hinventory, -⟩ := World.call_quiet hlive hquiet .getLicence
  have hperform : v.cluster.inventory.perform v.now .getLicence = (.ok licence, v.cluster.inventory) := by
    rw [Inventory.perform, hlicence]
  have hcalls : (v.call ctx .getLicence).2.cluster.calls = v.cluster.calls ++ [.getLicence] := by
    rw [v.call_live hlive]
    exact Cluster.perform_calls ..
  rw [hperform] at hanswer hinventory
  rw [withExplanation_refused hnext]
  generalize v.call ctx .getLicence = fetched at *
  obtain ⟨answer, x⟩ := fetched
  obtain rfl : answer = .ok licence := hanswer
  exact ⟨rfl, hinventory, hcalls⟩

end Stage

/-- Everything around a command is in order: no failure was told, calls may start under the context of the run,
its deadline is a point in time, and the cluster accepts the credentials of the settings. -/
structure World.Accepts (w : World Cluster) (s : Settings) (ctx : Nat) : Prop where
  quiet : w.IsQuiet
  live : w.contexts.mayStart ctx = .ok ()
  timely : Contexts.admits (s.effectiveTimeout Stage.defaultFallback) w.contexts.now = true
  known : ∃ credentials, s.credentials = .ok credentials ∧
    w.cluster.inventory.username = credentials.username ∧
    w.cluster.inventory.password = credentials.password

namespace Stage

variable {s : Settings} {ctx : Nat} {w : World Cluster}

/-- Where everything is in order, the stages let a handler run in a session, under a context of its own. -/
theorem standard_enters (h : w.Accepts s ctx) (isNamespaced : Bool)
    (hnamespaced : ¬ (isNamespaced && (s.useIds && s.namespace.isEmpty)) = true) :
    ∃ child u, u.contexts.mayStart child = .ok () ∧ Leads w u ∧
      u.cluster.calls = w.cluster.calls ++ [.authenticate] ∧ ∀ (next : Handler Cluster) args,
        chain ((standard isNamespaced none).map (middleware s)) next ctx args w =
          leaving child (withExplanation next child args u) := by
  obtain ⟨credentials, hcredentials, husername, hpassword⟩ := h.known
  generalize hchild : (w.contexts.derive ctx (s.effectiveTimeout defaultFallback)).2 = child
  generalize hv : (w.log (deadlineEvents s defaultFallback)).timed ctx (s.effectiveTimeout defaultFallback) = v
  have hleads : Leads w v := by
    rw [← hv]
    exact ⟨rfl, rfl, rfl, h.quiet⟩
  have hcalls : v.cluster.calls = w.cluster.calls := by
    rw [← hv]
    rfl
  have hlive : v.contexts.mayStart child = .ok () := by
    rw [← hv, ← hchild]
    exact Contexts.mayStart_derive_of_ok h.live s.effectiveTimeout_ne_zero
  obtain ⟨session, hanswer⟩ : ∃ session, (v.call child credentials.opening).1 = .ok session := by
    rw [(World.call_quiet hlive hleads.quiet _).1, hleads.inventory]
    simp only [Inventory.perform, Inventory.authenticate, husername, hpassword]
    exact ⟨_, rfl⟩
  obtain ⟨u, hu, hopened, hsession, hruns⟩ := withSession_opened hleads.quiet hcredentials hanswer
  refine ⟨child, u, hu, ?_, by rw [hsession, hcalls], fun next args => ?_⟩
  · exact ⟨hopened.now.trans hleads.now, hopened.sink.trans hleads.sink,
      hopened.inventory.trans hleads.inventory, hopened.quiet⟩
  · rw [standard_targeted (targeted_none args)]
    simp only [if_pos h.timely, if_neg hnamespaced]
    rw [← hruns (withExplanation next) args, ← hchild, ← hv]
    rfl

end Stage

end BlockStorage
