import BlockStorage.Proofs.Command.Wait
import BlockStorage.Proofs.Duration.Literal

/-!
The timeout of a run in the requests that it sends.

The timeout is what a literal spells, or the fallback, which one spells as well. A change that may be carried
out later sends it in its wire form, and that form spells the timeout again: the cluster is told the time that
the user gave, neither rounded nor in another unit.
-/

namespace BlockStorage

open Rest Text

theorem Settings.parse?_wireText_effectiveTimeout (s : Settings) :
    let timeout := s.effectiveTimeout Stage.defaultFallback
    Duration.parse? timeout.wireText = some timeout := by
  intro timeout
  obtain ⟨literal, hliteral⟩ : ∃ literal, Duration.parse? literal = some timeout := by
    simp only [timeout, effectiveTimeout_eq, timeout?]
    cases h : ((s.options.timeout.or s.file.timeout).bind Duration.parse?).filter (· ≠ .zero) with
    | none => exact ⟨"15s", by decide⟩
    | some d =>
      obtain ⟨literal, -, hparse⟩ := Option.bind_eq_some_iff.1 (Option.filter_eq_some_iff.1 h).1
      exact ⟨literal, hparse⟩
  exact (Duration.parse?_eq_some_iff.1 hliteral).parse?_wireText

namespace Rest

/-- The values of the parameters of a URL with a name. -/
def Url.valuesOf (url : Url) (name : String) : List (List UInt8) :=
  (url.parameters.filter fun p => p.1 = Percent.bytes name.toList).map Prod.snd

/-- The longest wait of a change is its only parameter of that name. -/
theorem Message.parameters_asyncMax {k : Call} {params : RequestParams} {wait : Duration}
    (hparams : k.params? = some params) (hdeferrable : k.method.isDeferrable = true)
    (hwait : params.asyncMax = some wait) :
    ((ofCall k).parameters.filter fun p => p.1 = "asyncMax") = [("asyncMax", wait.wireText)] := by
  have hsubmitted : ((waitParameters params).filter fun p => p.1 = "asyncMax") =
      [("asyncMax", wait.wireText)] := by
    rw [waitParameters, hwait]
    rfl
  have hremoved : ((waitParameters params ++ versionParameters params).filter fun p => p.1 = "asyncMax") =
      [("asyncMax", wait.wireText)] := by
    rw [List.filter_append, hsubmitted, versionParameters]
    cases params.casVersion <;> rfl
  cases k with
  | deleteNamespace id _ => cases hparams; exact hremoved
  | createVolume ns spec _ => cases hparams; exact hsubmitted
  | resizeVolume ns id sizeBytes _ => cases hparams; exact hsubmitted
  | setReplicas ns id count _ => cases hparams; exact hsubmitted
  | updateNfsExports ns id exports _ => cases hparams; exact hsubmitted
  | attachVolume ns id node _ => cases hparams; exact hsubmitted
  | detachVolume ns id _ => cases hparams; exact hremoved
  | deleteVolume ns id _ => cases hparams; exact hremoved
  | _ => cases hdeferrable

namespace Request

/-- The request says how long to wait: behind what the endpoint itself may say there is one more value, which
is read as the time. -/
def SaysWait (r : Request) (endpoints : List String) (wait : Duration) : Prop :=
  ∃ endpoint ∈ endpoints, ∃ url, Url.ofEndpoint endpoint = .ok url ∧
    ∃ text : String, r.parameter "asyncMax" = url.valuesOf "asyncMax" ++ [Percent.bytes text.toList] ∧
      Duration.parse? text = some wait

variable {endpoints : List String} {m : Message} {r : Request}

theorem IsOf.exists_parameter_eq (h : r.IsOf endpoints m) (name : String) :
    ∃ endpoint ∈ endpoints, ∃ url, Url.ofEndpoint endpoint = .ok url ∧
      r.parameter name = url.valuesOf name ++
        (m.parameters.filter fun p => p.1 = name).map fun p => Percent.bytes p.2.toList := by
  obtain ⟨endpoint, hmem, url, hurl, hparameters⟩ := h.exists_parameters_eq
  refine ⟨endpoint, hmem, url, hurl, ?_⟩
  rw [Request.parameter, hparameters, List.filter_append, List.map_append, values_parameterBytes]
  rfl

end Request

end Rest

namespace Command

variable {s : Settings} {c : Command} {endpoints : List String} {r : Request}

theorem isShowing_of_isAsync (h : c.isAsync = true) : c.isShowing = false := by
  cases c <;> first | rfl | cases h

theorem IsChange.saysWait (h : c.IsChange s endpoints r) (hasync : c.isAsync = true) :
    r.SaysWait endpoints (s.effectiveTimeout Stage.defaultFallback) := by
  obtain ⟨k, hchanges, hof⟩ := h
  obtain ⟨params, hparams, hwait⟩ := Option.bind_eq_some_iff.1 (hchanges.asyncMax hasync)
  obtain ⟨endpoint, hmem, url, hurl, hvalues⟩ := hof.exists_parameter_eq "asyncMax"
  rw [Message.parameters_asyncMax hparams (hchanges.isDeferrable hasync) hwait] at hvalues
  exact ⟨endpoint, hmem, url, hurl, _, hvalues, s.parse?_wireText_effectiveTimeout⟩

end Command

/-- A duration is read exactly if a text spells it. What was read is written for the wire as a text that is read
as the same. So whatever a run sends, apart from reading and opening its session, says the timeout of the run
if the change may be carried out later, and such a run does not succeed without having said it. -/
theorem durations_kept_on_the_wire :
    (∀ (s : String) (d : Duration), Duration.parse? s = some d ↔ d.IsSpelled s) ∧
    (∀ (s : String) (d : Duration), Duration.parse? s = some d → Duration.parse? d.wireText = some d) ∧
    ∀ {ν : Type} [Network ν] (s : Settings) (c : Command) (ctx : Nat) (w : World (Client (Recorded ν))),
      c.isAsync = true →
      let timeout := s.effectiveTimeout Stage.defaultFallback
      let endpoints := w.cluster.endpoints
      ∃ rs, w.Sends rs (c.run s ctx w).2 ∧
        (∀ r ∈ rs, r.verb = .get ∨
          (∃ credentials, s.credentials = .ok credentials ∧
            r.IsOf endpoints (.ofCall credentials.opening)) ∨
          r.SaysWait endpoints timeout) ∧
        ((c.run s ctx w).1 = .ok () → ∃ r ∈ rs, r.SaysWait endpoints timeout) := by
  refine ⟨fun s d => Duration.parse?_eq_some_iff, fun s d h => ?_, ?_⟩
  · exact (Duration.parse?_eq_some_iff.1 h).parse?_wireText
  · intro ν _ s c ctx w hasync timeout endpoints
    obtain ⟨rs, hsends, hcalls, hdone⟩ := c.run_sends s ctx w rfl
    refine ⟨rs, hsends, fun r hr => ?_, fun hok => ?_⟩
    · obtain ⟨k, hreading | ⟨credentials, hcredentials, rfl⟩ | hchanges, hof⟩ := hcalls r hr
      · exact .inl (hof.verb.trans (Call.verb_of_isReading hreading))
      · exact .inr (.inl ⟨credentials, hcredentials, hof⟩)
      · have hchange : c.IsChange s endpoints r := ⟨k, hchanges, hof⟩
        exact .inr (.inr (hchange.saysWait hasync))
    · obtain ⟨r, hr, hchange⟩ := hdone hok (Command.isShowing_of_isAsync hasync)
      exact ⟨r, hr, hchange.saysWait hasync⟩

/-- A timeout in milliseconds that is no whole number of seconds goes out in milliseconds. -/
theorem durations_kept_on_the_wire_millis :
    let literal := " 90500\tms "
    let wait : Duration := .ofMillis 90500
    let s := { settingsWithIds with options := { settingsWithIds.options with timeout := some literal } }
    let w : World (Client (Recorded Client.OneReply)) :=
      ⟨.epoch, .start, acceptingClient, .withLimit none, []⟩
    let after := (Command.detach "vol-2" none true).run s 0 w
    wait.IsSpelled literal ∧ wait.wireText = "90500ms" ∧ Duration.parse? "90500ms" = some wait ∧
      after.1 = .ok () ∧
      ∃ r ∈ after.2.cluster.network.sent, r.SaysWait ["http://node-1:5705"] wait := by
  intro literal wait s w after
  obtain ⟨hread, hback, hrun⟩ := durations_kept_on_the_wire
  have hparse : Duration.parse? literal = some wait := by decide +kernel
  have hwire : wait.wireText = "90500ms" := by decide +kernel
  have htimeout : s.effectiveTimeout Stage.defaultFallback = wait := by decide +kernel
  have hok : after.1 = .ok () := by decide +kernel
  obtain ⟨rs, hsends, -, hdone⟩ := hrun s (.detach "vol-2" none true) 0 w rfl
  obtain ⟨r, hr, hwait⟩ := hdone hok
  rw [htimeout] at hwait
  refine ⟨(hread literal wait).1 hparse, hwire, hwire ▸ hback literal wait hparse, hok, r, ?_, hwait⟩
  rw [hsends.sent]
  exact List.mem_append_right _ hr

end BlockStorage
