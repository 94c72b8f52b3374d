import BlockStorage.Proofs.Command.Handler

/-!
The change of a command.

A command that is there to change something does not succeed without having made its change, whatever the
cluster answers, and the change has the parameters that the flags of the command ask for.
-/

namespace BlockStorage

namespace Program

variable {α β : Type} {changes : Call → Prop}

/-- The program makes such a call before it ends well. -/
def Makes (changes : Call → Prop) (p : Program α) : Prop :=
  ∀ xs a, p.Takes xs (.ok a) → ∃ x ∈ xs, changes x.call

theorem Makes.bind {p : Program α} {f : α → Program β} (h : ∀ a, Makes changes (f a)) :
    Makes changes (p >>= f) := by
  intro xs b hb
  rcases Takes.bind hb with ⟨e, he, -⟩ | ⟨a, ys, zs, rfl, -, hf⟩
  · cases he
  · obtain ⟨x, hx, hchanges⟩ := h a zs b hf
    exact ⟨x, List.mem_append_right _ hx, hchanges⟩

theorem Makes.ask {c : Call} {f : c.Answer → Program β} (h : changes c) :
    Makes changes (ask c >>= f) := by
  intro xs b hb
  cases hb with
  | answered hb => exact ⟨_, List.mem_cons_self, h⟩

/-- The parameters that a change has are those of the flags. -/
theorem Makes.params {s : Settings} {cas : Option String} {isAsync : Bool}
    {f : RequestParams → Program α} (h : Makes changes (f (.ofFlags s cas isAsync))) :
    Makes changes (RequestParams.program s cas isAsync >>= f) := by
  intro xs a ha
  rcases Takes.bind ha with ⟨e, he, -⟩ | ⟨params, ys, zs, rfl, hys, hzs⟩
  · cases he
  · obtain ⟨rfl, hparams⟩ := takes_params hys
    obtain rfl := Except.ok.inj hparams
    exact h zs a hzs

theorem Makes.changeVolume {s : Settings} {reference : String} {cas : Option String} {isAsync : Bool}
    {change : NamespaceId → VolumeId → RequestParams → Program Output.View}
    (h : ∀ ns id, Makes changes (change ns id (.ofFlags s cas isAsync))) :
    Makes changes (Plan.changeVolume s reference cas isAsync change) :=
  Makes.bind fun ns => Makes.bind fun id => Makes.params (h ns id)

end Program

namespace Command

open Program

variable {s : Settings} {plan : Plan}

/-- A command that changes something ends well only after its change. -/
theorem makes_of_plan {c : Command} (h : c.plan s = .ok plan) (hcheck : plan.check = .ok ())
    (hshowing : c.isShowing = false) : plan.body.Makes (c.Changes s) := by
  cases c with
  | createNamespace name labels =>
    obtain ⟨read, hread, h⟩ := bind_eq_ok h
    cases h
    exact Makes.ask ⟨read, hread, rfl⟩
  | createVolume name draft isAsync =>
    obtain ⟨spec, hspec, h⟩ := bind_eq_ok h
    cases h
    exact Makes.bind fun ns => Makes.params (Makes.ask ⟨ns, spec, hspec, rfl⟩)
  | resizeVolume volume size cas isAsync =>
    cases h
    obtain ⟨sizeBytes, hsize⟩ := map_check hcheck
    rw [Plan.resizeVolume, hsize]
    exact Makes.changeVolume fun ns id => Makes.ask ⟨ns, id, sizeBytes, hsize, rfl⟩
  | setReplicas volume replicas cas isAsync =>
    cases h
    obtain ⟨count, hcount⟩ := map_check hcheck
    rw [Plan.setReplicas, hcount]
    exact Makes.changeVolume fun ns id => Makes.ask ⟨ns, id, count, hcount, rfl⟩
  | updateExports volume exports cas isAsync =>
    obtain ⟨read, hread, h⟩ := bind_eq_ok h
    cases h
    exact Makes.changeVolume fun ns id => Makes.ask ⟨ns, id, read, hread, rfl⟩
  | setDescription volume description cas =>
    cases h
    exact Makes.changeVolume fun ns id => Makes.ask ⟨ns, id, rfl⟩
  | deleteVolume volume cas isAsync =>
    cases h
    exact Makes.changeVolume fun ns id => Makes.ask ⟨ns, id, rfl⟩
  | deleteNamespace ns cas =>
    cases h
    exact Makes.bind fun id => Makes.params (Makes.ask ⟨id, rfl⟩)
  | attach volume node cas isAsync =>
    cases h
    exact Makes.bind fun ns => Makes.bind fun id => Makes.bind fun nodeId =>
      Makes.params (Makes.ask ⟨ns, id, nodeId, rfl⟩)
  | detach volume cas isAsync =>
    cases h
    exact Makes.changeVolume fun ns id => Makes.ask ⟨ns, id, rfl⟩
  | cordon node cas =>
    cases h
    exact Makes.bind fun id => Makes.params (Makes.ask ⟨id, rfl⟩)
  | uncordon node cas =>
    cases h
    exact Makes.bind fun id => Makes.params (Makes.ask ⟨id, rfl⟩)
  | _ => cases hshowing

/-! ### Flags -/

/-- The version that the flags of the command ask for. -/
def cas? : Command → Option String
  | .resizeVolume _ _ cas _ => cas
  | .setReplicas _ _ cas _ => cas
  | .updateExports _ _ cas _ => cas
  | .setDescription _ _ cas => cas
  | .deleteVolume _ cas _ => cas
  | .deleteNamespace _ cas => cas
  | .attach _ _ cas _ => cas
  | .detach _ cas _ => cas
  | .cordon _ cas => cas
  | .uncordon _ cas => cas
  | _ => none

/-- Whether the flags of the command ask for acceptance only. -/
def isAsync : Command → Bool
  | .createVolume _ _ isAsync => isAsync
  | .resizeVolume _ _ _ isAsync => isAsync
  | .setReplicas _ _ _ isAsync => isAsync
  | .updateExports _ _ _ isAsync => isAsync
  | .deleteVolume _ _ isAsync => isAsync
  | .attach _ _ _ isAsync => isAsync
  | .detach _ _ isAsync => isAsync
  | _ => false

/-- The longest wait that the flags of the command ask for: the command timeout. -/
def wait? (s : Settings) (c : Command) : Option Duration :=
  if c.isAsync then some (s.effectiveTimeout Stage.defaultFallback) else none

end Command

theorem RequestParams.casVersion_ofFlags (s : Settings) (cas : Option String) (isAsync : Bool) :
    (ofFlags s cas isAsync).casVersion.map Ident.text = cas := by
  cases isAsync <;> cases cas <;> rfl

theorem RequestParams.asyncMax_ofFlags (s : Settings) (cas : Option String) (isAsync : Bool) :
    (ofFlags s cas isAsync).asyncMax =
      if isAsync then some (s.effectiveTimeout Stage.defaultFallback) else none := by
  cases isAsync <;> cases cas <;> rfl

/-- The change of a command has the parameters of its flags, and a wait that no parameter is there for was
not asked for; only a new namespace has no parameters at all. -/
theorem Command.Changes.params {s : Settings} {c : Command} {call : Call} (h : c.Changes s call) :
    (∃ name labels, call = .createNamespace name labels ∧ c.cas? = none ∧ c.isAsync = false) ∨
      call.params? = some (.ofFlags s c.cas? c.isAsync) := by
  cases c with
  | createNamespace name labels =>
    obtain ⟨read, -, rfl⟩ := h
    exact .inl ⟨name, read, rfl, rfl, rfl⟩
  | createVolume name draft isAsync =>
    obtain ⟨ns, spec, -, rfl⟩ := h
    exact .inr rfl
  | resizeVolume volume size cas isAsync =>
    obtain ⟨ns, id, sizeBytes, -, rfl⟩ := h
    exact .inr rfl
  | setReplicas volume replicas cas isAsync =>
    obtain ⟨ns, id, count, -, rfl⟩ := h
    exact .inr rfl
  | updateExports volume exports cas isAsync =>
    obtain ⟨ns, id, read, -, rfl⟩ := h
    exact .inr rfl
  | setDescription volume description cas =>
    obtain ⟨ns, id, rfl⟩ := h
    exact .inr rfl
  | deleteVolume volume cas isAsync =>
    obtain ⟨ns, id, rfl⟩ := h
    exact .inr rfl
  | deleteNamespace ns cas =>
    obtain ⟨id, rfl⟩ := h
    exact .inr rfl
  | attach volume node cas isAsync =>
    obtain ⟨ns, id, nodeId, rfl⟩ := h
    exact .inr rfl
  | detach volume cas isAsync =>
    obtain ⟨ns, id, rfl⟩ := h
    exact .inr rfl
  | cordon node cas =>
    obtain ⟨id, rfl⟩ := h
    exact .inr rfl
  | uncordon node cas =>
    obtain ⟨id, rfl⟩ := h
    exact .inr rfl
  | _ => exact h.elim

end BlockStorage
