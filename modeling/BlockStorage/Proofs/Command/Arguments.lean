import BlockStorage.Proofs.Command.Handler

/-!
Errors of the arguments.

A command is typed with literals, and each of them has a reader: sizes, numbers of replicas, exports,
requirements and labels. Everything else in a command is a text that is taken as it is. A run ends with an
error of the arguments exactly if a reader rejects its literal, and the first one that does decides the error.
That comes before everything else: the settings, the context and the cluster have no part in it, and nothing
is done.
-/

namespace BlockStorage

/-! ### Literals -/

/-- A literal, by what it is read as. -/
inductive Literal where
  | selector (text : String)
  | label (text : String)
  | size (text : String)
  | replicas (text : String)
  | share (text : String)

/-- The error of a literal that is rejected by its reader. -/
def Literal.fault? : Literal → Option CommandError
  | .selector text => faultOf ((Selector.parse text).mapError .ofParse)
  | .label text => faultOf (Plan.labelsOf [text])
  | .size text => faultOf (Plan.bytesOf text)
  | .replicas text => faultOf (Plan.replicasOf text)
  | .share text => faultOf ((Export.parse text).mapError .ofParse)

/-- The requirements of a listing: those between the commas of its expressions. -/
def Listing.literals (listing : Listing) : List Literal :=
  (listing.selectors.flatMap fun expr => Text.splitAt ',' expr.toList).map fun part =>
    .selector (String.ofList part)

/-- The literals of a command, in the order in which they are read. -/
def Command.literals : Command → List Literal
  | .getNamespaces listing => listing.literals
  | .getVolumes listing => listing.literals
  | .getNodes listing => listing.literals
  | .describeVolumes listing => listing.literals
  | .describeNodes listing => listing.literals
  | .createNamespace _ labels => labels.map .label
  | .createVolume _ draft _ => draft.labels.map .label ++ [.size draft.size]
  | .resizeVolume _ size _ _ => [.size size]
  | .setReplicas _ replicas _ _ => [.replicas replicas]
  | .updateExports _ exports _ _ => exports.map .share
  | _ => []

/-- A literal that is rejected is the fault of the arguments. -/
theorem Literal.kind_of_fault? {l : Literal} {e : CommandError} (h : l.fault? = some e) :
    e.kind = .invalidArguments := by
  cases l with
  | replicas text =>
    rw [fault?, Plan.replicasOf] at h
    split at h
    · split at h
      · cases h
      · cases h
        rfl
    · cases h
      rfl
  | _ =>
    simp only [fault?, Plan.labelsOf, Plan.bytesOf, faultOf_mapError, Option.map_eq_some_iff] at h
    obtain ⟨_, -, rfl⟩ := h
    rfl

theorem CommandError.asInvalidArguments_eq {e : CommandError} (h : e.kind = .invalidArguments) :
    e.asInvalidArguments = e := by
  cases e with
  | invalidArguments reason => rfl
  | _ => cases h

/-! ### Readers of lists -/

namespace Literal

theorem findSome?_cons (l : Literal) (ls : List Literal) :
    (l :: ls).findSome? fault? = l.fault?.or (ls.findSome? fault?) := by
  rw [List.findSome?_cons]
  cases l.fault? <;> rfl

theorem findSome?_selector (parts : List (List Char)) :
    (parts.map fun part => selector (String.ofList part)).findSome? fault? =
      faultOf ((SelectorSet.parseParts parts).mapError .ofParse) := by
  induction parts with
  | nil => rfl
  | cons part parts ih =>
    rw [List.map_cons, findSome?_cons, ih, SelectorSet.parseParts, faultOf_mapError, faultOf_mapError,
      fault?, faultOf_mapError, Selector.parse, String.toList_ofList]
    cases Selector.ofChars (Text.trim part) with
    | error e => rfl
    | ok selector => exact congrArg (Option.map _) (faultOf_bind_pure _ _).symm

theorem findSome?_listing (listing : Listing) :
    listing.literals.findSome? fault? = faultOf (Plan.selectorsOf listing) := by
  rw [Listing.literals, findSome?_selector, Plan.selectorsOf, SelectorSet.parse, faultOf_mapError,
    faultOf_mapError]
  exact congrArg (Option.map _) (faultOf_bind_pure _ _).symm

theorem findSome?_label (pairs : List String) :
    (pairs.map label).findSome? fault? = faultOf (Plan.labelsOf pairs) := by
  have hinto (labels : Labels) : (pairs.map label).findSome? fault? =
      faultOf ((Labels.parseInto labels pairs).mapError .ofParse) := by
    induction pairs generalizing labels with
    | nil => rfl
    | cons pair pairs ih =>
      rw [List.map_cons, findSome?_cons, fault?, Plan.labelsOf, Labels.parse, Labels.parseInto,
        Labels.parseInto]
      cases Labels.entryOfText? pair with
      | none => rfl
      | some entry => exact ih _
  exact hinto .empty

theorem findSome?_share (texts : List String) :
    (texts.map share).findSome? fault? = faultOf (Plan.exportsOf texts) := by
  induction texts with
  | nil => rfl
  | cons text texts ih =>
    rw [List.map_cons, findSome?_cons, ih, Plan.exportsOf]
    exact (faultOf_bind fun _ _ => faultOf_bind_pure _ _).symm

end Literal

namespace Command

variable {s : Settings} {c : Command}

/-- A command that is read by one reader fails as that does. -/
theorem faultOf_plan {α : Type} {read : Except CommandError α} {make : α → Plan}
    (hplan : c.plan s = read >>= fun a => .ok (make a)) (hcheck : ∀ a, (make a).check = .ok ()) :
    faultOf (c.plan s >>= fun plan => plan.check.mapError CommandError.asInvalidArguments) =
      faultOf read := by
  rw [hplan]
  cases read with
  | error e => rfl
  | ok a =>
    change faultOf ((make a).check.mapError CommandError.asInvalidArguments) = none
    rw [hcheck]
    rfl

/-- The check of a command with one literal fails as the reader of that does. -/
theorem faultOf_check {α : Type} {l : Literal} {read : Except CommandError α}
    (hread : l.fault? = faultOf read) :
    [l].findSome? Literal.fault? =
      faultOf ((read.map fun _ => ()).mapError CommandError.asInvalidArguments) := by
  rw [Literal.findSome?_cons, List.findSome?_nil, Option.or_none, faultOf_mapError, faultOf_map, ← hread]
  cases hfault : l.fault? with
  | none => rfl
  | some e =>
    exact congrArg some (CommandError.asInvalidArguments_eq (Literal.kind_of_fault? hfault)).symm

/-- The labels of a new volume are read before its size. -/
theorem faultOf_volumeSpecOf (name : String) (draft : VolumeDraft) :
    faultOf (Plan.volumeSpecOf name draft) =
      (faultOf (Plan.labelsOf draft.labels)).or (faultOf (Plan.bytesOf draft.size)) := by
  rw [Plan.volumeSpecOf]
  exact faultOf_bind fun _ _ => faultOf_bind_pure _ _

/-- Reading a command, and the check of what was read, fail with the fault of the first literal that is
rejected. -/
theorem findSome?_literals (s : Settings) (c : Command) :
    c.literals.findSome? Literal.fault? =
      faultOf (c.plan s >>= fun plan => plan.check.mapError CommandError.asInvalidArguments) := by
  cases c with
  | getNamespaces listing => rw [literals, Literal.findSome?_listing, faultOf_plan rfl fun _ => rfl]
  | getVolumes listing => rw [literals, Literal.findSome?_listing, faultOf_plan rfl fun _ => rfl]
  | getNodes listing => rw [literals, Literal.findSome?_listing, faultOf_plan rfl fun _ => rfl]
  | describeVolumes listing => rw [literals, Literal.findSome?_listing, faultOf_plan rfl fun _ => rfl]
  | describeNodes listing => rw [literals, Literal.findSome?_listing, faultOf_plan rfl fun _ => rfl]
  | createNamespace name labels => rw [literals, Literal.findSome?_label, faultOf_plan rfl fun _ => rfl]
  | createVolume name draft isAsync =>
    rw [literals, List.findSome?_append, Literal.findSome?_label, faultOf_plan rfl fun _ => rfl,
      faultOf_volumeSpecOf, Literal.findSome?_cons, List.findSome?_nil, Option.or_none, Literal.fault?]
  | updateExports volume exports cas isAsync =>
    rw [literals, Literal.findSome?_share, faultOf_plan rfl fun _ => rfl]
  | resizeVolume volume size cas isAsync => exact faultOf_check rfl
  | setReplicas volume replicas cas isAsync => exact faultOf_check rfl
  | _ => rfl

/-- A command with good literals is read, and passes its check. -/
theorem exists_plan_of_literals (s : Settings) (h : c.literals.findSome? Literal.fault? = none) :
    ∃ plan, c.plan s = .ok plan ∧ plan.check = .ok () := by
  rw [findSome?_literals s] at h
  cases hplan : c.plan s with
  | error e =>
    rw [hplan] at h
    cases h
  | ok plan =>
    rw [hplan] at h
    cases hcheck : plan.check with
    | error e =>
      replace h : faultOf (plan.check.mapError CommandError.asInvalidArguments) = none := h
      rw [hcheck] at h
      cases h
    | ok _ => exact ⟨plan, rfl, hcheck⟩

/-! ### The faults of others -/

end Command

/-- The failure is none of the arguments. -/
def Failure.IsBlameless (r : Except Failure Unit) : Prop :=
  ∀ e, r = .error (.command e) → e.kind ≠ .invalidArguments

/-- A handler that never blames the arguments. -/
def Handler.Blameless {σ : Type} (next : Handler σ) : Prop :=
  ∀ ctx args w, Failure.IsBlameless (next ctx args w).1

theorem Failure.isBlameless_command {e : CommandError} (h : e.kind ≠ .invalidArguments) :
    IsBlameless (.error (.command e)) := by
  intro e' h'
  obtain rfl : e = e' := Failure.command.inj (Except.error.inj h')
  exact h

theorem Failure.isBlameless_brokenOff : IsBlameless (.error .brokenOff) := by
  intro e h
  cases h

theorem Failure.isBlameless_ofCall (failure : CallFailure) :
    IsBlameless (.error (.ofCall failure)) := by
  intro e h
  rw [Program.kind_of_ofCall h]
  decide

section

variable {σ : Type} [Cluster.Callable σ] {s : Settings} {next : Handler σ}

/-- No stage blames the arguments for what it finds wrong. -/
theorem Stage.respects_blameless (s : Settings) :
    Respects s fun (next : Handler σ) (_ : Handler σ) => next.Blameless := by
  constructor
  case barred =>
    intro bars error hkind next _ h ctx args w
    rw [barring]
    split
    · exact Failure.isBlameless_command (by simp [hkind])
    · exact h ctx args w
  case session =>
    intro next _ h ctx args w
    simp only [withSession]
    split
    · exact Failure.isBlameless_command (by simp [CommandError.kind])
    · split
      · exact Failure.isBlameless_ofCall _
      · exact h ctx args _
  case explained =>
    intro next _ h ctx args w
    rw [withExplanation]
    split
    · split
      · exact Failure.isBlameless_command (by simp [CommandError.kind, explained])
      · exact Failure.isBlameless_command (by simp [CommandError.kind])
      · exact Failure.isBlameless_brokenOff
    · exact h ctx args w

theorem Stage.blameless_chain (h : next.Blameless) (stages : List Stage) :
    Handler.Blameless (chain (stages.map (middleware s)) next) := by
  refine (respects_blameless s).chain_one (fun fallback _ inner hinner ctx args w => ?_) h
  simp only [middleware, underDeadline]
  split
  · exact hinner _ args _
  · exact Failure.isBlameless_brokenOff

/-- A program takes some answers, wherever it runs. -/
theorem Program.exists_takes {α : Type} (p : Program α) (ctx : Nat) (w : World σ) :
    ∃ xs, p.Takes xs (p.run ctx w).1 := by
  induction p generalizing w with
  | done result => exact ⟨[], .done result⟩
  | note event next ih =>
    obtain ⟨xs, h⟩ := ih (w.log [event])
    exact ⟨xs, .note h⟩
  | call c next ih =>
    rw [run]
    split
    · rename_i answer v _
      obtain ⟨xs, h⟩ := ih answer v
      exact ⟨_, .answered h⟩
    · rename_i failure v _
      exact ⟨_, .failed failure⟩

/-- The handler of a command whose literals are good does not blame them. -/
theorem Command.blameless_handler {c : Command} {plan : Plan} (hplan : c.plan s = .ok plan)
    (hcheck : plan.check = .ok ()) : Handler.Blameless (plan.handler s : Handler σ) := by
  intro ctx args w
  obtain ⟨xs, htakes⟩ := plan.body.exists_takes ctx w
  obtain ⟨-, hclient⟩ := (planned_of_plan hplan).phased hcheck xs _ htakes
  rw [Plan.handler]
  split
  · rename_i view v _
    intro e h
    rcases World.display_error h with ⟨_, -, hconfig, -⟩ | ⟨e', he', hdisplay⟩
    · obtain rfl := Failure.command.inj hconfig
      simp [CommandError.kind]
    · obtain rfl := Failure.command.inj he'
      simp [hdisplay]
  · rename_i failure v hrun
    intro e h
    obtain rfl : failure = .command e := Except.error.inj h
    simp [hclient e (congrArg Prod.fst hrun)]

/-- A run of a command with a literal that is rejected has done nothing at all. -/
theorem Command.run_rejected {c : Command} {e : CommandError}
    (h : c.literals.findSome? Literal.fault? = some e) (ctx : Nat) (w : World σ) :
    c.run s ctx w = (.error (.command e), w) := by
  rw [findSome?_literals s] at h
  cases hplan : c.plan s with
  | error error =>
    rw [hplan] at h
    cases h
    exact run_of_plan_error ctx w hplan
  | ok plan =>
    replace h : faultOf (plan.check.mapError CommandError.asInvalidArguments) = some e := by
      rw [hplan] at h
      exact h
    cases hcheck : plan.check with
    | error error =>
      rw [hcheck] at h
      cases h
      exact run_of_check_error ctx w hplan hcheck
    | ok _ =>
      rw [hcheck] at h
      cases h

/-- A run ends with an error of the arguments exactly if one of the literals is rejected by its reader. Then
the error is that of the first such literal, and the run has done nothing at all, whatever the settings, the
context and the cluster. -/
theorem Command.arguments_come_first (s : Settings) (c : Command) (ctx : Nat) (w : World σ) :
    ((∃ e, (c.run s ctx w).1 = .error (.command e) ∧ e.kind = .invalidArguments) ↔
      ∃ l ∈ c.literals, l.fault?.isSome) ∧
    ((∃ l ∈ c.literals, l.fault?.isSome) →
      ∃ e, c.literals.findSome? Literal.fault? = some e ∧ c.run s ctx w = (.error (.command e), w)) := by
  rw [← List.findSome?_isSome_iff, Option.isSome_iff_exists]
  refine ⟨⟨?_, ?_⟩, fun ⟨e, he⟩ => ⟨e, he, run_rejected he ctx w⟩⟩
  · rintro ⟨e, herror, hkind⟩
    rw [← Option.isSome_iff_exists, ← Option.ne_none_iff_isSome]
    intro hnone
    obtain ⟨plan, hplan, hcheck⟩ := exists_plan_of_literals s hnone
    rw [run_eq_chain ctx w hplan hcheck] at herror
    exact Stage.blameless_chain (blameless_handler hplan hcheck) plan.stages ctx plan.args w e herror hkind
  · rintro ⟨e, he⟩
    obtain ⟨l, -, hl⟩ := List.exists_of_findSome?_eq_some he
    exact ⟨e, congrArg Prod.fst (run_rejected he ctx w), Literal.kind_of_fault? hl⟩

end

/-- Settings with identifiers, but neither with that of a namespace nor with a password. -/
def Command.hopeless : Settings := { knownUser with options := { Options.empty with useIds := true } }

/-- A label that is none comes before a size that is none, a missing namespace, a missing password and a
context that has no time. -/
theorem Command.arguments_come_first_label :
    let w := { oneVolumeWorld with contexts := (Contexts.start.derive 0 .zero).1 }
    run hopeless (.createVolume "v" ⟨"many", none, "", "", ["a"]⟩ false) 1 w =
      (.error (.command (.ofParse (.invalidLabel "a"))), w) := by
  intro w
  have hbad : (Literal.label "a").fault?.isSome := rfl
  obtain ⟨e, he, hrun⟩ := (arguments_come_first hopeless
    (.createVolume "v" ⟨"many", none, "", "", ["a"]⟩ false) 1 w).2 ⟨.label "a", List.mem_cons_self, hbad⟩
  obtain rfl : .ofParse (.invalidLabel "a") = e := Option.some.inj he
  exact hrun

end BlockStorage
