import BlockStorage.Proofs.Inventory.Operations

/-!
Changes of which only the acceptance is asked for.

The longest wait that a change comes with has no part in its checks or in what it stores. It decides how
the change is answered: without a wait with what came of it, with one as accepted.
-/

namespace BlockStorage

/-- The parameters with another longest wait, or with none. -/
def RequestParams.withAsyncMax (wait : Option Duration) (p : RequestParams) : RequestParams :=
  { p with asyncMax := wait }

/-- Two results of calls are the same failure, or answers that are related. -/
inductive ResultsRelated {α β : Type} (R : α → β → Prop) :
    Except CallFailure α → Except CallFailure β → Prop
  | failed (e : CallFailure) : ResultsRelated R (.error e) (.error e)
  | answered {a : α} {b : β} (h : R a b) : ResultsRelated R (.ok a) (.ok b)

theorem ResultsRelated.refl {α : Type} {R : α → α → Prop} (hR : ∀ a, R a a)
    (r : Except CallFailure α) : ResultsRelated R r r := by
  cases r with
  | error e => exact .failed e
  | ok a => exact .answered (hR a)

namespace Call

/-- The call with another longest wait, if it has parameters. -/
def withAsyncMax (wait : Option Duration) : Call → Call
  | .deleteNamespace id p => .deleteNamespace id (p.withAsyncMax wait)
  | .createVolume ns spec p => .createVolume ns spec (p.withAsyncMax wait)
  | .resizeVolume ns id sizeBytes p => .resizeVolume ns id sizeBytes (p.withAsyncMax wait)
  | .setReplicas ns id count p => .setReplicas ns id count (p.withAsyncMax wait)
  | .setDescription ns id text p => .setDescription ns id text (p.withAsyncMax wait)
  | .updateNfsExports ns id exports p => .updateNfsExports ns id exports (p.withAsyncMax wait)
  | .attachVolume ns id node p => .attachVolume ns id node (p.withAsyncMax wait)
  | .detachVolume ns id p => .detachVolume ns id (p.withAsyncMax wait)
  | .deleteVolume ns id p => .deleteVolume ns id (p.withAsyncMax wait)
  | .setNodeCordoned id cordoned p => .setNodeCordoned id cordoned (p.withAsyncMax wait)
  | c => c

@[simp] theorem withAsyncMax_method (wait : Option Duration) (c : Call) :
    (c.withAsyncMax wait).method = c.method := by
  cases c <;> rfl

end Call

namespace Inventory

/-- Two submissions acknowledge one outcome, each for its longest wait. -/
def Acknowledge {α : Type} (wait wait' : Option Duration) (a b : Submission α) : Prop :=
  ∃ value, a = submission value ⟨none, wait⟩ ∧ b = submission value ⟨none, wait'⟩

/-- Two answers to a call acknowledge one outcome, each for its longest wait, or are the same where the
call is not answered by a submission. They have one type only once the call is known. -/
def AnswersAlike (wait wait' : Option Duration) :
    (c : Call) → (c.withAsyncMax wait).Answer → (c.withAsyncMax wait').Answer → Prop
  | .createVolume .., a, b => Acknowledge wait wait' a b
  | .resizeVolume .., a, b => Acknowledge wait wait' a b
  | .setReplicas .., a, b => Acknowledge wait wait' a b
  | .updateNfsExports .., a, b => Acknowledge wait wait' a b
  | .attachVolume .., a, b => Acknowledge wait wait' a b
  | .detachVolume .., a, b => Acknowledge wait wait' a b
  | .deleteVolume .., a, b => Acknowledge wait wait' a b
  | _, a, b => HEq a b

variable {wait wait' : Option Duration}

@[simp] theorem checkVersion_withAsyncMax (current : Version) (params : RequestParams)
    (wait : Option Duration) :
    checkVersion current (params.withAsyncMax wait) = checkVersion current params := rfl

/-- A step that is submitted for two waits leaves one inventory, and both answers acknowledge it. -/
theorem submitted_alike {α : Type} (params : RequestParams) (answer : Volume → α)
    (step : Except ClientError Volume × Inventory) :
    ResultsRelated (Acknowledge wait wait')
        (ofClient (submitted (params.withAsyncMax wait) answer step)).1
        (ofClient (submitted (params.withAsyncMax wait') answer step)).1 := by
  obtain ⟨result, after⟩ := step
  cases result with
  | error e => exact .failed _
  | ok v => exact .answered ⟨answer v, rfl, rfl⟩

/-- A call does the same whatever the longest wait is, and is answered alike. -/
theorem perform_withAsyncMax (inv : Inventory) (now : Timestamp) (c : Call)
    (wait wait' : Option Duration) :
    ResultsRelated (AnswersAlike wait wait' c) (inv.perform now (c.withAsyncMax wait)).1
        (inv.perform now (c.withAsyncMax wait')).1 ∧
      (inv.perform now (c.withAsyncMax wait)).2 = (inv.perform now (c.withAsyncMax wait')).2 := by
  cases c with
  | setReplicas ns id count params => exact ⟨submitted_alike params _ _, rfl⟩
  | updateNfsExports ns id exports params => exact ⟨submitted_alike params _ _, rfl⟩
  | detachVolume ns id params => exact ⟨submitted_alike params _ _, rfl⟩
  | createVolume ns spec params =>
    simp only [Call.withAsyncMax, perform, createVolume]
    split
    · exact ⟨.failed _, rfl⟩
    · split
      · exact ⟨.failed _, rfl⟩
      · split
        · exact ⟨.failed _, rfl⟩
        · exact ⟨submitted_alike params _ _, rfl⟩
  | resizeVolume ns id sizeBytes params =>
    simp only [Call.withAsyncMax, perform, resizeVolume]
    split
    · exact ⟨.failed _, rfl⟩
    · split
      · exact ⟨.failed _, rfl⟩
      · split
        · exact ⟨.failed _, rfl⟩
        · exact ⟨submitted_alike params _ _, rfl⟩
  | attachVolume ns id node params =>
    simp only [Call.withAsyncMax, perform, attachVolume]
    split
    · exact ⟨submitted_alike params _ _, rfl⟩
    · exact ⟨.failed _, rfl⟩
  | deleteVolume ns id params =>
    simp only [Call.withAsyncMax, perform, deleteVolume, checkVersion_withAsyncMax]
    split
    · exact ⟨.failed _, rfl⟩
    · split
      · exact ⟨.failed _, rfl⟩
      · exact ⟨.answered ⟨(), rfl, rfl⟩, rfl⟩
  | _ => exact ⟨.refl (fun _ => HEq.rfl) _, rfl⟩

end Inventory

end BlockStorage
