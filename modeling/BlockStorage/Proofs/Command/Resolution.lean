import BlockStorage.Proofs.Command.Comparison
import BlockStorage.Proofs.Inventory.Names

/-!
What looking references up comes to.

A reference is resolved to the identifier of the first resource that has the name, or taken as an
identifier itself. Fetching what it was resolved to gives what picking gives out of the listing, since no
two resources of a kind have one identifier.
-/

namespace BlockStorage

/-- The failure of a run that an error of the cluster ends. -/
abbrev Failure.client (e : ClientError) : Failure := .command (.client e)

/-- What the cluster answered, as what came of a program. -/
def Failure.lift {α : Type} : Except ClientError α → Except Failure α := Except.mapError Failure.client

@[simp] theorem Failure.lift_ok {α : Type} (a : α) : Failure.lift (.ok a) = .ok a := rfl

@[simp] theorem Failure.lift_error {α : Type} (e : ClientError) :
    Failure.lift (.error e : Except ClientError α) = .error (.client e) := rfl

/-! ### Finding in listings -/

section

variable {α : Type} [Named α] {useIds : Bool} {items : List α} {reference : String}

theorem pickOne_eq_ok {item : α} :
    pickOne useIds items reference = .ok item ↔
      items.find? (fun item => referenceKey useIds item = reference) = some item := by
  rw [pickOne]
  split
  next found hfind => rw [hfind, Except.ok.injEq, Option.some.injEq]
  next hfind =>
    rw [hfind]
    simp only [reduceCtorEq]

theorem pickOne_eq_error {e : ClientError} :
    pickOne useIds items reference = .error e ↔
      (∀ item ∈ items, referenceKey useIds item ≠ reference) ∧
        e = .notFound (Named.kind α) reference := by
  rw [pickOne]
  split
  next item hfind =>
    simp only [reduceCtorEq, false_iff, not_and]
    intro hnone
    exact absurd (by simpa using List.find?_some hfind)
      (hnone item (List.mem_of_find?_eq_some hfind))
  next hfind =>
    simp only [List.find?_eq_none, decide_eq_true_eq] at hfind
    simp only [Except.error.injEq]
    exact ⟨fun h => ⟨hfind, h.symm⟩, fun h => h.2.symm⟩

/-- Where identifiers are unique, so are their texts. -/
theorem nodup_texts {kind : IdKind} {id : α → Ident kind} (hid : ∀ a, Named.id a = (id a).text)
    (hids : (items.map id).Nodup) : (items.map Named.id).Nodup := by
  have hmap : items.map Named.id = (items.map id).map Ident.text := by
    rw [List.map_map]
    exact List.map_congr_left fun a _ => hid a
  rw [hmap]
  refine hids.map fun a b hab => ?_
  cases a
  cases b
  exact congrArg Ident.mk hab

/-- A resource that is found by its name is found by its identifier. -/
theorem pickOne_id (hids : (items.map Named.id).Nodup) {item : α}
    (h : pickOne false items reference = .ok item) : pickOne true items (Named.id item) = .ok item := by
  have hmem : item ∈ items := List.mem_of_find?_eq_some (pickOne_eq_ok.1 h)
  rw [pickOne_eq_ok]
  cases hfind : items.find? fun other => referenceKey true other = Named.id item with
  | none =>
    have hne := List.find?_eq_none.1 hfind item hmem
    exact absurd (decide_eq_true rfl) hne
  | some other =>
    have hkey : Named.id other = Named.id item := by
      simpa [referenceKey] using List.find?_some hfind
    rw [Inventory.eq_of_key_eq hids (List.mem_of_find?_eq_some hfind) hmem hkey]

end

namespace Inventory

theorem find?_volumesOf (inv : Inventory) (ns : NamespaceId) (p : Volume → Bool) :
    (inv.volumesOf ns).find? p = inv.volumes.find? fun v => v.namespaceId = ns && p v := by
  rw [volumesOf, List.find?_filter]
  refine congrArg (inv.volumes.find? ·) (funext fun v => ?_)
  rw [Bool.decide_and, Bool.decide_coe, Bool.decide_coe]

theorem volumeNamed_eq_pickOne (inv : Inventory) (ns : NamespaceId) (name : String) :
    findOr .volume name (fun v => v.namespaceId = ns && v.name = name) inv.volumes =
      pickOne false (inv.volumesOf ns) name := by
  rw [findOr, pickOne, find?_volumesOf]
  rfl

theorem decide_id_eq {kind : IdKind} (a b : Ident kind) : decide (a = b) = decide (a.text = b.text) := by
  cases a
  cases b
  simp only [Ident.mk.injEq]

/-- Finding by an identifier is picking by its text. -/
theorem findOr_id_eq_pickOne {α : Type} [Named α] {kind : IdKind} {id : α → Ident kind}
    (hid : ∀ a, Named.id a = (id a).text) (items : List α) (i : Ident kind) :
    findOr (Named.kind α) i.text (fun a => id a = i) items = pickOne true items i.text := by
  rw [findOr, pickOne]
  simp only [decide_id_eq, ← hid]
  rfl

theorem volumeIn_eq_pickOne (inv : Inventory) (ns : NamespaceId) (id : VolumeId) :
    inv.volumeIn ns id = pickOne true (inv.volumesOf ns) id.text := by
  rw [volumeIn, findOr, pickOne, find?_volumesOf]
  simp only [decide_id_eq]
  rfl

/-- A volume that is picked in a namespace is the one of its identifier there. -/
theorem volumeIn_of_pickOne {inv : Inventory} (hids : (inv.volumes.map Volume.id).Nodup) {ns : NamespaceId}
    {useIds : Bool} {reference : String} {v : Volume}
    (h : pickOne useIds (inv.volumesOf ns) reference = .ok v) : inv.volumeIn ns v.id = .ok v := by
  rw [volumeIn_eq_pickOne]
  cases useIds with
  | true =>
    have hkey : v.id.text = reference := by
      simpa [referenceKey, Named.id] using List.find?_some (pickOne_eq_ok.1 h)
    rw [hkey, h]
  | false => exact pickOne_id (nodup_texts (fun _ => rfl) (nodup_map_filter hids)) h

end Inventory

/-! ### Looking references up -/

section

variable {s : Settings} {now : Timestamp} {inv : Inventory} {reference : String}

/-- What a reference is resolved to: the identifier of the first item with the name, or the reference
itself. -/
def resolved {α : Type} [Named α] {kind : IdKind} (s : Settings) (items : List α)
    (id : α → Ident kind) (reference : String) : Except Failure (Ident kind) :=
  if s.useIds then .ok ⟨reference⟩
  else Failure.lift ((pickOne false items reference).map id)

/-- A name is resolved unless nothing has it. -/
theorem resolved_eq_error {α : Type} [Named α] {kind : IdKind} {items : List α}
    {id : α → Ident kind} {f : Failure} :
    resolved s items id reference = .error f ↔ s.useIds = false ∧
      (∀ item ∈ items, Named.name item ≠ reference) ∧
        f = .client (.notFound (Named.kind α) reference) := by
  rw [resolved]
  cases s.useIds with
  | true => simp
  | false =>
    cases hfind : pickOne false items reference with
    | ok item =>
      simp only [Bool.false_eq_true, if_false, Except.map, Failure.lift_ok, reduceCtorEq, true_and,
        false_iff, not_and]
      intro hnone
      rw [pickOne_eq_error.2 ⟨hnone, rfl⟩] at hfind
      cases hfind
    | error e =>
      obtain ⟨hnone, rfl⟩ := pickOne_eq_error.1 hfind
      simp only [Bool.false_eq_true, if_false, Except.map, Failure.lift_error, Except.error.injEq,
        true_and]
      exact ⟨fun hf => ⟨hnone, hf.symm⟩, fun hf => hf.2.symm⟩

/-- A reference for which an item is picked is resolved to the identifier of that item. -/
theorem resolved_of_pickOne {α : Type} [Named α] {kind : IdKind} {items : List α} {id : α → Ident kind}
    (hid : ∀ a, Named.id a = (id a).text) {item : α} (h : pickOne s.useIds items reference = .ok item) :
    resolved s items id reference = .ok (id item) := by
  rw [resolved]
  cases hids : s.useIds with
  | true =>
    rw [hids] at h
    have hkey : Named.id item = reference := by
      simpa [referenceKey] using List.find?_some (pickOne_eq_ok.1 h)
    rw [if_pos rfl, ← hkey, hid]
  | false =>
    rw [hids] at h
    rw [h]
    rfl

/-- A look-up by one call that answers with the item of that name resolves the reference. -/
theorem eval_resolve {α : Type} [Named α] {kind : IdKind} {items : List α} {id : α → Ident kind}
    {byName : String → Program (Ident kind)}
    (h : (byName reference).eval now inv =
      (Failure.lift ((pickOne false items reference).map id), inv)) :
    (Lookup.resolve s reference byName).eval now inv = (resolved s items id reference, inv) := by
  rw [Lookup.resolve, Reference.parse, resolved]
  cases s.useIds with
  | true => rfl
  | false => exact h

theorem eval_reading (c : Call) (answer : Except ClientError c.Answer)
    (h : inv.perform now c = Inventory.ofClient (answer, inv)) :
    (Program.ask c).eval now inv = (Failure.lift answer, inv) := by
  rw [Program.eval_ask, h]
  cases answer <;> rfl

/-- A call that reads, and what is read off its answer. -/
theorem eval_reading_map {β : Type} (c : Call) (answer : Except ClientError c.Answer)
    (f : c.Answer → β) (h : inv.perform now c = Inventory.ofClient (answer, inv)) :
    (Program.ask c >>= fun a => pure (f a)).eval now inv = (Failure.lift (answer.map f), inv) := by
  rw [Program.eval_bind, eval_reading c answer h]
  cases answer <;> rfl

theorem eval_namespaceId :
    (Lookup.namespaceId s reference).eval now inv =
      (resolved s inv.namespaces Namespace.id reference, inv) :=
  eval_resolve
    (eval_reading_map (.getNamespaceByName reference) (pickOne false inv.namespaces reference) _ rfl)

theorem eval_volumeId {ns : NamespaceId} :
    (Lookup.volumeId s ns reference).eval now inv =
      (resolved s (inv.volumesOf ns) Volume.id reference, inv) := by
  refine eval_resolve
    (eval_reading_map (.getVolumeByName ns reference) (pickOne false (inv.volumesOf ns) reference) _ ?_)
  rw [← inv.volumeNamed_eq_pickOne]
  rfl

theorem eval_nodeId :
    (Lookup.nodeId s reference).eval now inv = (resolved s inv.nodes Node.id reference, inv) :=
  eval_resolve (eval_reading_map (.getNodeByName reference) (pickOne false inv.nodes reference) _ rfl)

theorem eval_userId :
    (Lookup.userId s reference).eval now inv = (resolved s inv.users User.id reference, inv) :=
  eval_resolve (eval_reading_map (.getUserByName reference) (pickOne false inv.users reference) _ rfl)

theorem eval_policyGroupId :
    (Lookup.policyGroupId s reference).eval now inv =
      (resolved s inv.policyGroups PolicyGroup.id reference, inv) :=
  eval_resolve
    (eval_reading_map (.getPolicyGroupByName reference) (pickOne false inv.policyGroups reference) _ rfl)

/-! ### Fetching what was looked up -/

section

variable {α : Type} [Named α] {kind : IdKind} {lookup : String → Program (Ident kind)}
  {fetch : Ident kind → Program α} {items : List α} {id : α → Ident kind}

/-- A reference that is looked up and fetched gives what is picked for it. -/
theorem eval_fetchOne (hid : ∀ a, Named.id a = (id a).text) (hids : (items.map id).Nodup)
    (hlookup : ∀ reference, (lookup reference).eval now inv = (resolved s items id reference, inv))
    (hfetch : ∀ i, (fetch i).eval now inv = (Failure.lift (pickOne true items i.text), inv))
    (reference : String) :
    (lookup reference >>= fetch).eval now inv =
      (Failure.lift (pickOne s.useIds items reference), inv) := by
  rw [Program.eval_bind, hlookup, resolved]
  cases s.useIds with
  | true => exact hfetch ⟨reference⟩
  | false =>
    cases hfind : pickOne false items reference with
    | error e => rfl
    | ok item =>
      have hfetched := pickOne_id (nodup_texts hid hids) hfind
      rw [hid] at hfetched
      exact (hfetch (id item)).trans (by rw [hfetched])

/-- References that are looked up and fetched one by one give what is picked for them. -/
theorem eval_fetchEach
    (hone : ∀ reference, (lookup reference >>= fetch).eval now inv =
      (Failure.lift (pickOne s.useIds items reference), inv)) (references : List String) :
    (Plan.fetchEach lookup fetch references).eval now inv =
      (Failure.lift (pickEach s.useIds items references), inv) := by
  induction references with
  | nil => rfl
  | cons reference references ih =>
    rw [Plan.fetchEach, Program.eval_bind_bind, hone, pickEach]
    cases pickOne s.useIds items reference with
    | error e => rfl
    | ok item =>
      rw [Failure.lift_ok]
      dsimp only
      rw [Program.eval_bind, ih]
      cases pickEach s.useIds items references <;> rfl

/-- What goes on with everything, or with what is referred to, goes on with what is picked out of
everything. -/
theorem eval_listOrFetch {β : Type} {listAll : Program (List α)}
    (hlist : listAll.eval now inv = (.ok items, inv))
    (hone : ∀ reference, (lookup reference >>= fetch).eval now inv =
      (Failure.lift (pickOne s.useIds items reference), inv))
    (references : List String) (next : List α → Program β) :
    (if references.isEmpty then listAll >>= next
        else Plan.fetchEach lookup fetch references >>= next).eval now inv =
      match pick s.useIds references items with
      | .ok picked => (next picked).eval now inv
      | .error e => (.error (.client e), inv) := by
  rw [pick]
  split
  · rw [Program.eval_bind, hlist]
  · rw [Program.eval_bind, eval_fetchEach hone references]
    cases pickEach s.useIds items references <;> rfl

end

end

end BlockStorage
