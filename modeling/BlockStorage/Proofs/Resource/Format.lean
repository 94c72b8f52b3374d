import BlockStorage.Proofs.Document.Json
import BlockStorage.Proofs.Document.Shape
import BlockStorage.Proofs.Time.Timestamp
import BlockStorage.Resource.Format

/-!
Resources and their documents are the same thing twice.

A format loses nothing if the document of every value is read as itself and gives the value back, and if
whatever else is read comes out as the document of some value. Leaves have this by inspection, lists by
induction, and records from their fields: one line a field.
-/

namespace BlockStorage

/-! ### Labels -/

theorem insertEntry_append {key value : String} {entries : List (String × String)}
    (h : ∀ entry ∈ entries, entry.1 < key) : insertEntry key value entries = entries ++ [(key, value)] := by
  induction entries with
  | nil => rfl
  | cons entry entries ih =>
    obtain ⟨hfirst, hrest⟩ := List.forall_mem_cons.1 h
    have hne : key ≠ entry.1 := by
      rintro rfl
      exact String.lt_irrefl _ hfirst
    rw [insertEntry, if_neg (String.lt_asymm hfirst), if_neg hne, ih hrest, List.cons_append]

/-- Entries in order are put one behind the other. -/
theorem Labels.entries_foldl {rest : List (String × String)} (start : Labels)
    (h : (start.entries ++ rest).Pairwise (·.1 < ·.1)) :
    (rest.foldl (fun labels entry => labels.insert entry.1 entry.2) start).entries =
      start.entries ++ rest := by
  induction rest generalizing start with
  | nil => exact (List.append_nil _).symm
  | cons entry rest ih =>
    have hinsert : (start.insert entry.1 entry.2).entries = start.entries ++ [entry] :=
      insertEntry_append fun other hother =>
        (List.pairwise_append.1 h).2.2 other hother entry List.mem_cons_self
    rw [List.append_cons, ← hinsert] at h ⊢
    exact ih _ h

theorem Labels.ofList_entries (labels : Labels) : Labels.ofList labels.entries = labels :=
  Labels.ext (Labels.entries_foldl .empty labels.ascending)

namespace DocumentFormat

variable {α β : Type} {format : DocumentFormat α}

/-- A format that loses nothing. -/
structure Lossless (format : DocumentFormat α) : Prop where
  reads : ∀ a, format.shape.read (Draft.ofDocument (format.write a)) = .ok (format.write a)
  recovers : ∀ a, format.ofDocument? (format.write a) = some a
  ne_null : ∀ a, format.write a ≠ .null
  inRange : ∀ a, (format.write a).InRange
  written : ∀ {d doc}, format.shape.read d = .ok doc → ∃ a, doc = format.write a

namespace Lossless

theorem settled (h : format.Lossless) (a : α) : format.shape.Settled (format.write a) :=
  ⟨h.reads a, h.ne_null a⟩

theorem text : DocumentFormat.text.Lossless where
  reads _ := rfl
  recovers _ := rfl
  ne_null _ := nofun
  inRange _ := trivial
  written h := by
    cases Shape.gives_of_read h with
    | text s => exact ⟨s, rfl⟩

theorem bool : DocumentFormat.bool.Lossless where
  reads _ := rfl
  recovers _ := rfl
  ne_null _ := nofun
  inRange _ := trivial
  written h := by
    cases Shape.gives_of_read h with
    | bool b => exact ⟨b, rfl⟩

theorem word : DocumentFormat.word.Lossless where
  reads n := by
    have hread : Shape.read .word (Draft.ofDocument (.number n.toNat)) =
        if n.toNat < UInt64.size then .ok (.number n.toNat) else .error .data := rfl
    exact hread.trans (if_pos n.toNat_lt)
  recovers n := by simp [DocumentFormat.word]
  ne_null _ := nofun
  inRange n := n.toNat_lt
  written h := by
    cases Shape.gives_of_read h with
    | word hn =>
      have hword := UInt64.toNat_ofNat_of_lt' hn
      exact ⟨UInt64.ofNat _, (congrArg Document.number hword).symm⟩

theorem time : DocumentFormat.time.Lossless where
  reads t := by
    simp only [DocumentFormat.time, Draft.ofDocument, Shape.read, Shape.read.readLeaf, Shape.readTime,
      Shape.readText, Draft.goodLeaf, bind, Except.bind, t.parse?_text]
    rfl
  recovers _ := rfl
  ne_null _ := nofun
  inRange _ := trivial
  written h := by
    cases Shape.gives_of_read h with
    | time t => exact ⟨t, rfl⟩

theorem ident (kind : IdKind) : (DocumentFormat.ident kind).Lossless where
  reads _ := rfl
  recovers _ := rfl
  ne_null _ := nofun
  inRange _ := trivial
  written h := by
    cases Shape.gives_of_read h with
    | text s => exact ⟨⟨s⟩, rfl⟩

/-- A type whose values have names; a name that is not known must stand for one of them. -/
theorem choice {names : List String} {other : Option String} {text : α → String}
    {ofText? : String → Option α} (hname : ∀ a, text a ∈ names) (hread : ∀ a, ofText? (text a) = some a)
    (hknown : ∀ name ∈ names ++ other.toList, (ofText? name).map text = some name) :
    (DocumentFormat.choice names other text ofText?).Lossless where
  reads a := by
    have hchosen : Shape.read (.choice names other) (Draft.ofDocument (.text (text a))) =
        Shape.chosen names other (text a) := rfl
    refine hchosen.trans ?_
    unfold Shape.chosen
    exact if_pos (by simpa using hname a)
  recovers a := hread a
  ne_null _ := nofun
  inRange _ := trivial
  written h := by
    cases Shape.gives_of_read h with
    | choice hmem =>
      obtain ⟨a, -, rfl⟩ := Option.map_eq_some_iff.1 (hknown _ (by simpa using hmem))
      exact ⟨a, rfl⟩

theorem readEntries_ofFields (entries : List (String × String)) :
    Shape.readEntries (Draft.ofFields (entries.map fun (key, value) => (key, .text value))) =
      .ok entries := by
  induction entries with
  | nil => rfl
  | cons entry entries ih =>
    rw [List.map_cons, Draft.ofFields, Shape.readEntries]
    simp only [ih, Shape.readKey, Draft.ofDocument, Shape.readText, Draft.goodLeaf, bind, Except.bind]
    rfl

theorem textEntries?_map (entries : List (String × String)) :
    textEntries? (entries.map fun (key, value) => (key, .text value)) = some entries := by
  induction entries with
  | nil => rfl
  | cons entry entries ih => rw [List.map_cons, textEntries?, ih, Option.map_some]

theorem fieldsInRange_texts (entries : List (String × String)) :
    Document.FieldsInRange (entries.map fun (key, value) => (key, .text value)) := by
  induction entries with
  | nil => exact trivial
  | cons entry entries ih => exact ⟨trivial, ih⟩

theorem labels : DocumentFormat.labels.Lossless where
  reads l := by
    simp only [DocumentFormat.labels, Draft.ofDocument, Shape.read, Shape.readLabels,
      readEntries_ofFields, bind, Except.bind, Labels.ofList_entries]
    rfl
  recovers l := by
    simp only [DocumentFormat.labels, textEntries?_map, Option.map_some, Labels.ofList_entries]
  ne_null _ := nofun
  inRange l := fieldsInRange_texts l.entries
  written h := by
    cases Shape.gives_of_read h with
    | labels l => exact ⟨l, rfl⟩

/-! ### Lists -/

theorem readItems_ofItems (h : format.Lossless) (as : List α) :
    Shape.readItems format.shape (Draft.ofItems (as.map format.write)) = .ok (as.map format.write) := by
  induction as with
  | nil => rfl
  | cons a as ih =>
    rw [List.map_cons, Draft.ofItems, Shape.readItems]
    simp only [h.reads, ih, bind, Except.bind]
    rfl

theorem allOf?_map (h : format.Lossless) (as : List α) :
    allOf? format.ofDocument? (as.map format.write) = some as := by
  induction as with
  | nil => rfl
  | cons a as ih =>
    rw [List.map_cons, allOf?, h.recovers, ih]
    rfl

theorem itemsInRange (h : format.Lossless) (as : List α) :
    Document.ItemsInRange (as.map format.write) := by
  induction as with
  | nil => exact trivial
  | cons a as ih => exact ⟨h.inRange a, ih⟩

theorem written_of_readItems (h : format.Lossless) :
    (items : Draft.Items) → {docs : List Document} → Shape.readItems format.shape items = .ok docs →
      ∃ as : List α, docs = as.map format.write
  | .closed, _, hread => by
    rw [Shape.readItems] at hread
    exact ⟨[], (Except.ok.inj hread).symm⟩
  | .broken _, _, hread => by
    rw [Shape.readItems] at hread
    cases hread
  | .item d rest, _, hread => by
    rw [Shape.readItems] at hread
    obtain ⟨doc, hdoc, hread⟩ := bind_eq_ok hread
    obtain ⟨docs, hdocs, hread⟩ := bind_eq_ok hread
    obtain rfl := Except.ok.inj hread
    obtain ⟨a, rfl⟩ := h.written hdoc
    obtain ⟨as, rfl⟩ := h.written_of_readItems rest hdocs
    exact ⟨a :: as, rfl⟩

theorem list (h : format.Lossless) : format.list.Lossless where
  reads as := by
    simp only [DocumentFormat.list, Draft.ofDocument, Shape.read, h.readItems_ofItems]
    rfl
  recovers as := h.allOf?_map as
  ne_null _ := nofun
  inRange as := h.itemsInRange as
  written hread := by
    cases Shape.gives_of_read hread with
    | list hdocs =>
      obtain ⟨as, rfl⟩ := h.written_of_readItems _ hdocs
      exact ⟨as, rfl⟩

end Lossless

/-! ### Records -/

variable {fields rest : Shape.Fields} {write : β → List (String × Document)}

/-- The records with given fields are exactly those that are written for the values of a type. -/
structure Describes (fields : Shape.Fields) (write : β → List (String × Document)) : Prop where
  written : ∀ b, Shape.Written fields (write b)
  inRange : ∀ b, Document.FieldsInRange (write b)
  complete : ∀ {entries}, Shape.Filled Shape.Outcome fields entries → ∃ b, entries = write b

namespace Describes

theorem nil : Describes .nil fun _ : Unit => [] where
  written _ := .nil
  inRange _ := trivial
  complete h := by
    cases h
    exact ⟨(), rfl⟩

/-- A field that is always written. -/
theorem field (name : String) (hformat : format.Lossless) {absent : Absent}
    (hvalue : absent ≠ .noValue) (hdefault : ∀ value, absent = .default value → ∃ a, value = format.write a)
    (h : Describes rest write) :
    Describes (.field name format.shape absent rest) fun p : α × β => (name, format.write p.1) :: write p.2 where
  written p := .present name (hformat.settled p.1) (h.written p.2)
  inRange p := ⟨hformat.inRange p.1, h.inRange p.2⟩
  complete hfilled := by
    cases hfilled with
    | left => exact absurd rfl hvalue
    | present _ houtcome hrest =>
      obtain ⟨b, rfl⟩ := h.complete hrest
      obtain ⟨-, d, hread⟩ | hdefaulted := houtcome
      · obtain ⟨a, rfl⟩ := hformat.written hread
        exact ⟨(a, b), rfl⟩
      · obtain ⟨a, rfl⟩ := hdefault _ hdefaulted
        exact ⟨(a, b), rfl⟩

theorem required (name : String) (hformat : format.Lossless) (h : Describes rest write) :
    Describes (format.required name rest) fun p : α × β => (name, format.write p.1) :: write p.2 :=
  h.field name hformat nofun nofun

theorem defaulted (name : String) (value : α) (hformat : format.Lossless) (h : Describes rest write) :
    Describes (format.defaulted name value rest) fun p : α × β =>
      (name, format.write p.1) :: write p.2 :=
  h.field name hformat nofun fun _ hvalue => ⟨value, (Absent.default.inj hvalue).symm⟩

theorem optional (name : String) (hformat : format.Lossless) (h : Describes rest write) :
    Describes (format.optional name rest) fun p : Option α × β =>
      Document.optionalField name format.write p.1 ++ write p.2 where
  written
    | (none, b) => .left name format.shape (h.written b)
    | (some a, b) => .present name (hformat.settled a) (h.written b)
  inRange
    | (none, b) => h.inRange b
    | (some a, b) => ⟨hformat.inRange a, h.inRange b⟩
  complete hfilled := by
    cases hfilled with
    | left _ _ hrest =>
      obtain ⟨b, rfl⟩ := h.complete hrest
      exact ⟨(none, b), rfl⟩
    | present _ houtcome hrest =>
      obtain ⟨b, rfl⟩ := h.complete hrest
      obtain ⟨-, d, hread⟩ | hdefaulted := houtcome
      · obtain ⟨a, rfl⟩ := hformat.written hread
        exact ⟨(some a, b), rfl⟩
      · cases hdefaulted

/-- A format of records loses nothing if its fields describe its values and can be taken out again. -/
theorem lossless (h : Describes fields write) (hnodup : fields.names.Nodup)
    (hshape : format.shape = .record fields) (parts : α → β)
    (hwrite : ∀ a, format.write a = .record (write (parts a))) (hparts : ∀ b, ∃ a, parts a = b)
    (hrecovers : ∀ a, format.ofDocument? (format.write a) = some a) : format.Lossless where
  reads a := by
    rw [hshape, hwrite]
    exact Shape.read_record (h.written (parts a)) hnodup
  recovers := hrecovers
  ne_null a := by
    rw [hwrite]
    nofun
  inRange a := by
    rw [hwrite]
    exact h.inRange (parts a)
  written hread := by
    rw [hshape] at hread
    obtain ⟨entries, rfl, hfilled⟩ := Shape.filled_of_read hnodup hread
    obtain ⟨b, rfl⟩ := h.complete hfilled
    obtain ⟨a, rfl⟩ := hparts b
    exact ⟨a, (hwrite a).symm⟩

end Describes

/-! ### Formats of resources -/

namespace Lossless

/-- A field that is found is taken out of its record. -/
theorem field? (h : format.Lossless) {name : String} {fields : List (String × Document)} {a : α}
    (hlookup : Document.lookup? name fields = some (format.write a)) :
    format.field? name (.record fields) = some a := by
  rw [DocumentFormat.field?, Document.field?, hlookup, Option.bind_some, h.recovers]

/-- A field that may be left out is taken out of its record. -/
theorem optionalField? (h : format.Lossless) {name : String} {fields : List (String × Document)}
    {value : Option α} (hlookup : Document.lookup? name fields = value.map format.write) :
    format.optionalField? name (.record fields) = some value := by
  rw [DocumentFormat.optionalField?, Document.field?, hlookup]
  cases value with
  | none => rfl
  | some a => exact congrArg (Option.map some) (h.recovers a)

theorem health : DocumentFormat.health.Lossless :=
  choice (by rintro ⟨⟩ <;> decide) Health.ofText?_text (by decide)

theorem attachmentType : DocumentFormat.attachmentType.Lossless :=
  choice (by rintro ⟨⟩ <;> decide) AttachmentType.ofText?_text (by decide)

theorem identityType : DocumentFormat.identityType.Lossless :=
  choice (by rintro ⟨⟩ <;> decide) (by rintro ⟨⟩ <;> rfl) (by decide)

theorem squash : DocumentFormat.squash.Lossless :=
  choice (by rintro ⟨⟩ <;> decide) (by rintro ⟨⟩ <;> rfl) (by decide)

theorem access : DocumentFormat.access.Lossless :=
  choice (by rintro ⟨⟩ <;> decide) (by rintro ⟨⟩ <;> rfl) (by decide)

theorem accessRule : DocumentFormat.accessRule.Lossless :=
  (Describes.required "identityType" identityType <| .required "matcher" text <|
    .required "uid" word <| .required "gid" word <| .required "squash" squash <|
    .required "access" access .nil).lossless (by decide) rfl
    (fun r => (r.identityType, r.matcher, r.uid, r.gid, r.squash, r.access, ())) (fun _ => rfl)
    (fun ⟨a, b, c, d, e, f, _⟩ => ⟨⟨a, b, c, d, e, f⟩, rfl⟩) fun _ =>
      bind_of_some (identityType.field? rfl) <| bind_of_some (text.field? rfl) <|
      bind_of_some (word.field? rfl) <| bind_of_some (word.field? rfl) <|
      bind_of_some (squash.field? rfl) <| bind_of_some (access.field? rfl) rfl

theorem «export» : DocumentFormat.export.Lossless :=
  (Describes.required "exportId" word <| .required "path" text <| .required "pseudoPath" text <|
    .required "acls" accessRule.list .nil).lossless (by decide) rfl
    (fun e => (e.exportId, e.path, e.pseudoPath, e.acls, ())) (fun _ => rfl)
    (fun ⟨a, b, c, d, _⟩ => ⟨⟨a, b, c, d⟩, rfl⟩) fun _ =>
      bind_of_some (word.field? rfl) <| bind_of_some (text.field? rfl) <|
      bind_of_some (text.field? rfl) <| bind_of_some (accessRule.list.field? rfl) rfl

theorem nfsConfig : DocumentFormat.nfsConfig.Lossless :=
  (Describes.defaulted "exports" [] Lossless.export.list <|
    .optional "serviceEndpoint" text .nil).lossless (by decide) rfl
    (fun c => (c.exports, c.serviceEndpoint, ())) (fun ⟨_, endpoint⟩ => by cases endpoint <;> rfl)
    (fun ⟨a, b, _⟩ => ⟨⟨a, b⟩, rfl⟩) fun ⟨_, endpoint⟩ => by
      cases endpoint <;>
        exact bind_of_some (Lossless.export.list.field? rfl) <|
          bind_of_some (text.optionalField? rfl) rfl

theorem «namespace» : DocumentFormat.namespace.Lossless :=
  (Describes.required "id" (ident .namespace) <| .required "name" text <|
    .defaulted "labels" .empty labels <| .required "createdAt" time <| .required "updatedAt" time <|
    .required "version" (ident .version) .nil).lossless (by decide) rfl
    (fun n => (n.id, n.name, n.labels, n.createdAt, n.updatedAt, n.version, ())) (fun _ => rfl)
    (fun ⟨a, b, c, d, e, f, _⟩ => ⟨⟨a, b, c, d, e, f⟩, rfl⟩) fun _ =>
      bind_of_some ((ident _).field? rfl) <| bind_of_some (text.field? rfl) <|
      bind_of_some (labels.field? rfl) <| bind_of_some (time.field? rfl) <|
      bind_of_some (time.field? rfl) <| bind_of_some ((ident _).field? rfl) rfl

theorem deployment : DocumentFormat.deployment.Lossless :=
  (Describes.required "id" text <| .required "nodeId" (ident .node) <|
    .defaulted "health" .unknown health <| .defaulted "syncing" false bool .nil).lossless
    (by decide) rfl (fun x => (x.id, x.nodeId, x.health, x.syncing, ())) (fun _ => rfl)
    (fun ⟨a, b, c, d, _⟩ => ⟨⟨a, b, c, d⟩, rfl⟩) fun _ =>
      bind_of_some (text.field? rfl) <| bind_of_some ((ident _).field? rfl) <|
      bind_of_some (health.field? rfl) <| bind_of_some (bool.field? rfl) rfl

theorem volume : DocumentFormat.volume.Lossless :=
  (Describes.required "id" (ident .volume) <| .required "name" text <|
    .defaulted "description" "" text <| .required "namespaceId" (ident .namespace) <|
    .defaulted "labels" .empty labels <| .defaulted "filesystem" "" text <|
    .required "sizeBytes" word <| .optional "attachedOn" (ident .node) <|
    .defaulted "attachmentType" .detached attachmentType <| .defaulted "nfs" .empty nfsConfig <|
    .optional "master" deployment <| .defaulted "replicas" [] deployment.list <|
    .required "createdAt" time <| .required "updatedAt" time <|
    .required "version" (ident .version) .nil).lossless (by decide) rfl
    (fun v => (v.id, v.name, v.description, v.namespaceId, v.labels, v.filesystem, v.sizeBytes,
      v.attachedOn, v.attachmentType, v.nfs, v.master, v.replicas, v.createdAt, v.updatedAt, v.version,
      ()))
    (fun ⟨_, _, _, _, _, _, _, attachedOn, _, _, master, _, _, _, _⟩ => by
      cases attachedOn <;> cases master <;> rfl)
    (fun ⟨a, b, c, d, e, f, g, h, i, j, k, l, m, n, o, _⟩ =>
      ⟨⟨a, b, c, d, e, f, g, h, i, j, k, l, m, n, o⟩, rfl⟩)
    fun ⟨_, _, _, _, _, _, _, attachedOn, _, _, master, _, _, _, _⟩ => by
      cases attachedOn <;> cases master <;>
        exact bind_of_some ((ident _).field? rfl) <| bind_of_some (text.field? rfl) <|
          bind_of_some (text.field? rfl) <| bind_of_some ((ident _).field? rfl) <|
          bind_of_some (labels.field? rfl) <| bind_of_some (text.field? rfl) <|
          bind_of_some (word.field? rfl) <| bind_of_some ((ident _).optionalField? rfl) <|
          bind_of_some (attachmentType.field? rfl) <| bind_of_some (nfsConfig.field? rfl) <|
          bind_of_some (deployment.optionalField? rfl) <|
          bind_of_some (deployment.list.field? rfl) <| bind_of_some (time.field? rfl) <|
          bind_of_some (time.field? rfl) <| bind_of_some ((ident _).field? rfl) rfl

theorem node : DocumentFormat.node.Lossless :=
  (Describes.required "id" (ident .node) <| .required "name" text <|
    .defaulted "health" .unknown health <| .defaulted "labels" .empty labels <|
    .defaulted "cordoned" false bool <| .defaulted "ioEndpoint" "" text <|
    .required "createdAt" time <| .required "updatedAt" time <|
    .required "version" (ident .version) .nil).lossless (by decide) rfl
    (fun n => (n.id, n.name, n.health, n.labels, n.cordoned, n.ioEndpoint, n.createdAt, n.updatedAt,
      n.version, ())) (fun _ => rfl)
    (fun ⟨a, b, c, d, e, f, g, h, i, _⟩ => ⟨⟨a, b, c, d, e, f, g, h, i⟩, rfl⟩) fun _ =>
      bind_of_some ((ident _).field? rfl) <| bind_of_some (text.field? rfl) <|
      bind_of_some (health.field? rfl) <| bind_of_some (labels.field? rfl) <|
      bind_of_some (bool.field? rfl) <| bind_of_some (text.field? rfl) <|
      bind_of_some (time.field? rfl) <| bind_of_some (time.field? rfl) <|
      bind_of_some ((ident _).field? rfl) rfl

theorem user : DocumentFormat.user.Lossless :=
  (Describes.required "id" (ident .user) <| .required "username" text <|
    .defaulted "isAdmin" false bool <| .defaulted "groups" [] (ident .policyGroup).list <|
    .required "createdAt" time <| .required "updatedAt" time <|
    .required "version" (ident .version) .nil).lossless (by decide) rfl
    (fun u => (u.id, u.username, u.isAdmin, u.groups, u.createdAt, u.updatedAt, u.version, ()))
    (fun _ => rfl) (fun ⟨a, b, c, d, e, f, g, _⟩ => ⟨⟨a, b, c, d, e, f, g⟩, rfl⟩) fun _ =>
      bind_of_some ((ident _).field? rfl) <| bind_of_some (text.field? rfl) <|
      bind_of_some (bool.field? rfl) <| bind_of_some ((ident _).list.field? rfl) <|
      bind_of_some (time.field? rfl) <| bind_of_some (time.field? rfl) <|
      bind_of_some ((ident _).field? rfl) rfl

theorem policySpec : DocumentFormat.policySpec.Lossless :=
  (Describes.required "namespaceId" (ident .namespace) <|
    .defaulted "readOnly" false bool .nil).lossless (by decide) rfl
    (fun s => (s.namespaceId, s.readOnly, ())) (fun _ => rfl) (fun ⟨a, b, _⟩ => ⟨⟨a, b⟩, rfl⟩)
    fun _ => bind_of_some ((ident _).field? rfl) <| bind_of_some (bool.field? rfl) rfl

theorem policyGroup : DocumentFormat.policyGroup.Lossless :=
  (Describes.required "id" (ident .policyGroup) <| .required "name" text <|
    .defaulted "users" [] (ident .user).list <| .defaulted "specs" [] policySpec.list <|
    .required "createdAt" time <| .required "updatedAt" time <|
    .required "version" (ident .version) .nil).lossless (by decide) rfl
    (fun g => (g.id, g.name, g.users, g.specs, g.createdAt, g.updatedAt, g.version, ()))
    (fun _ => rfl) (fun ⟨a, b, c, d, e, f, g, _⟩ => ⟨⟨a, b, c, d, e, f, g⟩, rfl⟩) fun _ =>
      bind_of_some ((ident _).field? rfl) <| bind_of_some (text.field? rfl) <|
      bind_of_some ((ident _).list.field? rfl) <| bind_of_some (policySpec.list.field? rfl) <|
      bind_of_some (time.field? rfl) <| bind_of_some (time.field? rfl) <|
      bind_of_some ((ident _).field? rfl) rfl

theorem licence : DocumentFormat.licence.Lossless :=
  (Describes.required "clusterId" (ident .cluster) <| .required "expiresAt" time <|
    .required "clusterCapacityBytes" word <| .defaulted "usedBytes" 0 word <|
    .required "kind" text <| .defaulted "customerName" "" text <|
    .defaulted "features" [] text.list <| .required "version" (ident .version) .nil).lossless
    (by decide) rfl
    (fun l => (l.clusterId, l.expiresAt, l.clusterCapacityBytes, l.usedBytes, l.kind, l.customerName,
      l.features, l.version, ())) (fun _ => rfl)
    (fun ⟨a, b, c, d, e, f, g, h, _⟩ => ⟨⟨a, b, c, d, e, f, g, h⟩, rfl⟩) fun _ =>
      bind_of_some ((ident _).field? rfl) <| bind_of_some (time.field? rfl) <|
      bind_of_some (word.field? rfl) <| bind_of_some (word.field? rfl) <|
      bind_of_some (text.field? rfl) <| bind_of_some (text.field? rfl) <|
      bind_of_some (text.list.field? rfl) <| bind_of_some ((ident _).field? rfl) rfl

theorem session : DocumentFormat.session.Lossless :=
  (Describes.required "userId" (ident .user) <| .required "username" text <|
    .optional "expiresAt" time .nil).lossless (by decide) rfl
    (fun s => (s.userId, s.username, s.expiresAt, ()))
    (fun ⟨_, _, expiresAt⟩ => by cases expiresAt <;> rfl) (fun ⟨a, b, c, _⟩ => ⟨⟨a, b, c⟩, rfl⟩)
    fun ⟨_, _, expiresAt⟩ => by
      cases expiresAt <;>
        exact bind_of_some ((ident _).field? rfl) <| bind_of_some (text.field? rfl) <|
          bind_of_some (time.optionalField? rfl) rfl

end Lossless

end DocumentFormat

end BlockStorage
