import BlockStorage.Output.Display
import BlockStorage.Proofs.Document.Form
import BlockStorage.Proofs.Output.Sink
import BlockStorage.Proofs.Resource.Format

/-!
Resources survive JSON.

A resource that is written is read back as it was, a text that is read settles at the document of what was
read, and the lists that are shown in JSON are read back item by item. The last is also true of a sink with
a limit, as long as everything fits.
-/

namespace BlockStorage

open Document.Json (compactChars joined)

/-- A text is read by the draft of it. -/
theorem Shape.read_of_readText? {shape : Shape} {s : List Char} {doc : Document}
    (h : shape.readText? s = .ok doc) : shape.read (Draft.ofText s).1 = .ok doc := by
  rw [Shape.readText?] at h
  generalize Draft.ofText s = drafted at h ⊢
  obtain ⟨draft, hasMore⟩ := drafted
  obtain ⟨value, hvalue, h⟩ := bind_eq_ok h
  cases hasMore with
  | true => cases h
  | false => exact Except.ok.inj h ▸ hvalue

namespace DocumentFormat

variable {α : Type} {format : DocumentFormat α}

/-- What is asked of a format: values survive their JSON text, and a text that is read for a value settles
at the document of the value, whatever it left out, repeated or named otherwise. -/
structure Faithful (format : DocumentFormat α) : Prop where
  decodes : ∀ a, format.readText (compactChars (format.write a)) = .ok a
  settles : ∀ s a, format.readText s = .ok a →
    format.shape.readText? s = .ok (format.write a) ∧
      format.readText (compactChars (format.write a)) = .ok a

namespace Lossless

/-- A text that holds the document of a value is read as the value. -/
theorem readText (h : format.Lossless) {s : List Char} {a : α}
    (hdraft : Draft.ofText s = (Draft.ofDocument (format.write a), false)) :
    format.readText s = .ok a := by
  have hdocument : format.shape.readText? s = .ok (format.write a) := by
    simp only [Shape.readText?, hdraft, h.reads, bind, Except.bind]
    rfl
  simp only [DocumentFormat.readText, hdocument, bind, Except.bind, h.recovers]
  rfl

theorem readText_compactChars (h : format.Lossless) (a : α) :
    format.readText (compactChars (format.write a)) = .ok a := by
  have hdraft := Draft.ofText_chars .compact (h.inRange a) (List.forall_mem_nil _)
  rw [List.append_nil, ← Document.Json.compactChars_eq] at hdraft
  exact h.readText hdraft

/-- The lines of the pretty form are read back, with the line break at the end. -/
theorem readText_pretty (h : format.Lossless) (a : α) :
    format.readText (joined (Document.Json.pretty (format.write a) ++ ["\n"])) = .ok a := by
  have hdraft := Draft.ofText_chars .pretty (h.inRange a)
    (by simp [Draft.isSpace] : ∀ c ∈ ['\n'], Draft.isSpace c = true)
  rw [← Document.Json.joined_pieces] at hdraft
  refine h.readText ?_
  rw [Document.Json.joined_append]
  exact hdraft

/-- What is read is the document of the value, and no other. -/
theorem readText?_eq (h : format.Lossless) {s : List Char} {a : α} (hread : format.readText s = .ok a) :
    format.shape.readText? s = .ok (format.write a) := by
  obtain ⟨doc, hdoc, hvalue⟩ := bind_eq_ok hread
  obtain ⟨b, rfl⟩ := h.written (Shape.read_of_readText? hdoc)
  rw [h.recovers] at hvalue
  rw [hdoc, Except.ok.inj hvalue]

theorem faithful (h : format.Lossless) : format.Faithful where
  decodes := h.readText_compactChars
  settles _ a hread := ⟨h.readText?_eq hread, h.readText_compactChars a⟩

end Lossless

end DocumentFormat

/-! ### What is shown -/

namespace Output.View

/-- Whatever is written of a view in JSON is read as a value, unless the sink has a limit and is full. -/
def ReadBack {α : Type} (view : View) (format : DocumentFormat α) (value : α) : Prop :=
  ∀ now limit, match (Sink.withLimit limit).writeAll (view.pieces .json now) with
    | (.ok (), sink) => format.readText sink.written.toList = .ok value
    | (.error _, _) => limit.isSome

theorem readBack {α : Type} {format : DocumentFormat α} (h : format.Lossless) {view : View} {value : α}
    (hdocument : view.document = format.write value) : view.ReadBack format value := by
  intro now limit
  rcases (Sink.withLimit limit).writeAll_cases (view.pieces .json now) with
    ⟨room, hall⟩ | ⟨hlimit, taken, hfull⟩
  · rw [hall]
    have hwritten : ("" ++ String.join (view.pieces .json now)).toList =
        joined (Document.Json.pretty (format.write value) ++ ["\n"]) := by
      rw [View.pieces, hdocument]
      simp [joined, String.toList_join]
    simp only [Sink.withLimit, hwritten]
    exact h.readText_pretty value
  · rw [hfull]
    exact hlimit

end Output.View

open Output DocumentFormat in
/-- **JSON loses nothing.** Every resource is read back from its JSON text; a text that is read for a
resource settles at the document of the resource; and a list of resources that is shown in JSON is read
back as the same list in the same order. -/
theorem resources_survive_json :
    (DocumentFormat.namespace.Faithful ∧ volume.Faithful ∧ node.Faithful ∧ user.Faithful ∧
      policyGroup.Faithful ∧ licence.Faithful ∧ nfsConfig.Faithful ∧ session.Faithful) ∧
    (∀ items, (View.namespaces items).ReadBack DocumentFormat.namespace.list items) ∧
    (∀ items, (View.volumes items).ReadBack volume.list items) ∧
    (∀ items, (View.nodes items).ReadBack node.list items) ∧
    (∀ items, (View.users items).ReadBack user.list items) ∧
    (∀ items, (View.policyGroups items).ReadBack policyGroup.list items) ∧
    (∀ items, (View.describeVolumes items).ReadBack volume.list items) ∧
    ∀ items, (View.describeNodes items).ReadBack node.list items :=
  ⟨⟨Lossless.namespace.faithful, Lossless.volume.faithful, Lossless.node.faithful,
      Lossless.user.faithful, Lossless.policyGroup.faithful, Lossless.licence.faithful,
      Lossless.nfsConfig.faithful, Lossless.session.faithful⟩,
    fun _ => View.readBack Lossless.namespace.list rfl, fun _ => View.readBack Lossless.volume.list rfl,
    fun _ => View.readBack Lossless.node.list rfl, fun _ => View.readBack Lossless.user.list rfl,
    fun _ => View.readBack Lossless.policyGroup.list rfl,
    fun _ => View.readBack Lossless.volume.list rfl, fun _ => View.readBack Lossless.node.list rfl⟩

open DocumentFormat in
/-- A node with a health that is not known, a label given twice, a field that no node has and others left
out settles at once. -/
theorem resources_survive_json_settled :
    ∃ (s : List Char) (n : Node),
      s = ("\x7b\"health\": \"melting\", \"labels\": \x7b\"zone\": \"b\", \"rack\": \"7\", \"zone\": \"c\"\x7d,\n" ++
        "\"extra\": [1, null], \"id\": \"n-1\", \"name\": \"alpha\", \"version\": \"3\",\n" ++
        "\"createdAt\": \"2024-02-28T23:30:00+02:00\", \"updatedAt\": \"2024-02-29T12:00:00.5Z\"\x7d").toList ∧
      n.health = .unknown ∧ n.labels.entries = [("rack", "7"), ("zone", "c")] ∧ n.cordoned = false ∧
      node.shape.readText? s = .ok (node.write n) ∧ node.readText (compactChars (node.write n)) = .ok n :=
  ⟨_, ⟨⟨"n-1"⟩, "alpha", .unknown, ⟨[("rack", "7"), ("zone", "c")], by decide⟩, false, "",
      ⟨⟨2024, 2, 28, by decide⟩, 77400, 0, by decide⟩,
      ⟨⟨2024, 2, 29, by decide⟩, 43200, 500000000, by decide⟩, ⟨"3"⟩⟩, rfl, rfl, rfl, rfl,
    resources_survive_json.1.2.2.1.settles _ _ (by decide +kernel)⟩

end BlockStorage
