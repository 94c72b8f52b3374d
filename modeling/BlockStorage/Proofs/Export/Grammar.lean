import BlockStorage.Export
import BlockStorage.Proofs.Failure
import BlockStorage.Proofs.Text.Grammar

/-!
Which texts are exports.

A text spells an export if its fields between commas are a number, two paths from the root and at least one
rule, and the fields of each rule between semicolons are the six that a rule has. Reading finds the export that
a text spells, and a text that spells none is refused with the whole text in the error, whichever of its fields
is bad.
-/

namespace BlockStorage

open Text

theorem IdentityType.ofText?_eq_some_iff {s : String} {t : IdentityType} :
    ofText? s = some t ↔ s = t.text := by
  constructor
  · intro h
    unfold ofText? at h
    split_ifs at h <;> cases h <;> assumption
  · rintro rfl
    exact ofText?_text t

theorem Squash.ofText?_eq_some_iff {s : String} {t : Squash} : ofText? s = some t ↔ s = t.text := by
  constructor
  · intro h
    unfold ofText? at h
    split_ifs at h <;> cases h <;> assumption
  · rintro rfl
    exact ofText?_text t

theorem Access.ofText?_eq_some_iff {s : String} {t : Access} : ofText? s = some t ↔ s = t.text := by
  constructor
  · intro h
    unfold ofText? at h
    split_ifs at h <;> cases h <;> assumption
  · rintro rfl
    exact ofText?_text t

namespace AccessRule

/-- The text spells the rule: an identity type, a matcher that is not empty, two numbers, a squash and an
access, between semicolons. -/
def IsSpelled (s : List Char) (r : AccessRule) : Prop :=
  ∃ uid gid,
    HasFields ';' s [r.identityType.text.toList, r.matcher.toList, uid, gid, r.squash.text.toList,
      r.access.text.toList] ∧
    r.matcher ≠ "" ∧ IsUnsigned uid r.uid.toNat ∧ IsUnsigned gid r.gid.toNat

theorem fieldOr_eq_ok_iff {α : Type} {value : Option α} {reason : String} {a : α} :
    fieldOr value reason = .ok a ↔ value = some a := by
  cases value <;> simp [fieldOr]

variable {s : List Char} {r : AccessRule}

theorem isSpelled_of_parse (h : parse s = .ok r) : r.IsSpelled s := by
  rw [parse] at h
  split at h
  next identity matcher uid gid squash access hparts =>
    obtain ⟨identityType, hidentity, h⟩ := bind_eq_ok h
    split at h
    · cases h
    next hmatcher =>
    obtain ⟨-, -, h⟩ := bind_eq_ok h
    obtain ⟨uidValue, huid, h⟩ := bind_eq_ok h
    obtain ⟨gidValue, hgid, h⟩ := bind_eq_ok h
    obtain ⟨squashValue, hsquash, h⟩ := bind_eq_ok h
    obtain ⟨accessValue, haccess, h⟩ := bind_eq_ok h
    obtain rfl := Except.ok.inj h
    obtain rfl := IdentityType.ofText?_eq_some_iff.1 (fieldOr_eq_ok_iff.1 hidentity)
    obtain rfl := Squash.ofText?_eq_some_iff.1 (fieldOr_eq_ok_iff.1 hsquash)
    obtain rfl := Access.ofText?_eq_some_iff.1 (fieldOr_eq_ok_iff.1 haccess)
    refine ⟨uid.toList, gid.toList, hasFields_iff.2 ?_, by simpa using hmatcher,
      wordOfText?_eq_some_iff.1 (fieldOr_eq_ok_iff.1 huid),
      wordOfText?_eq_some_iff.1 (fieldOr_eq_ok_iff.1 hgid)⟩
    have hfields := congrArg (List.map String.toList) hparts
    simpa [Function.comp_def] using hfields
  next => cases h

theorem parse_of_isSpelled (h : r.IsSpelled s) : parse s = .ok r := by
  obtain ⟨uid, gid, hfields, hmatcher, huid, hgid⟩ := h
  have hparts := congrArg (List.map String.ofList) (hasFields_iff.1 hfields)
  rw [List.map_map] at hparts
  rw [parse]
  simp only [Function.comp_def] at hparts
  rw [hparts]
  simp [fieldOr, hmatcher, wordOfText?_eq_some_iff.2 huid, wordOfText?_eq_some_iff.2 hgid]
  rfl

/-- The rule that a text spells is read, and no other one. -/
theorem parse_eq_ok_iff : parse s = .ok r ↔ r.IsSpelled s := ⟨isSpelled_of_parse, parse_of_isSpelled⟩

/-- Rules are read one by one. -/
theorem parseAll_eq_ok_iff {rules : List (List Char)} {rs : List AccessRule} :
    parseAll rules = .ok rs ↔ List.Forall₂ (fun rule r => r.IsSpelled rule) rules rs := by
  induction rules generalizing rs with
  | nil =>
    rw [parseAll, List.forall₂_nil_left_iff, Except.ok.injEq]
    exact eq_comm
  | cons rule rules ih =>
    rw [parseAll, List.forall₂_cons_left_iff]
    constructor
    · intro h
      obtain ⟨first, hfirst, h⟩ := bind_eq_ok h
      obtain ⟨rest, hrest, h⟩ := bind_eq_ok h
      exact ⟨first, rest, parse_eq_ok_iff.1 hfirst, ih.1 hrest, (Except.ok.inj h).symm⟩
    · rintro ⟨first, rest, hfirst, hrest, rfl⟩
      rw [parse_eq_ok_iff.2 hfirst, ih.2 hrest]
      rfl

end AccessRule

namespace Export

/-- The text spells the export: a number, two paths from the root and one or more rules, between commas. -/
def IsSpelled (s : String) (e : Export) : Prop :=
  ∃ id rules,
    HasFields ',' s.toList (id :: e.path.toList :: e.pseudoPath.toList :: rules) ∧
    IsUnsigned id e.exportId.toNat ∧ e.path.toList.head? = some '/' ∧
    e.pseudoPath.toList.head? = some '/' ∧ rules ≠ [] ∧
    List.Forall₂ (fun rule r => r.IsSpelled rule) rules e.acls

theorem absolute_eq_ok_iff {field : List Char} {path : String} :
    absolute field = .ok path ↔ field = path.toList ∧ path.toList.head? = some '/' := by
  constructor
  · intro h
    unfold absolute at h
    split at h
    next rest =>
      obtain rfl := Except.ok.inj h
      simp
    next => cases h
  · rintro ⟨rfl, hhead⟩
    obtain ⟨rest, hrest⟩ := List.head?_eq_some_iff.1 hhead
    rw [hrest, absolute, ← hrest, String.ofList_toList]

variable {s : String} {e : Export}

theorem ofFields_eq_ok_iff {fields : List (List Char)} :
    ofFields fields = .ok e ↔
      ∃ id rules, fields = id :: e.path.toList :: e.pseudoPath.toList :: rules ∧
        IsUnsigned id e.exportId.toNat ∧ e.path.toList.head? = some '/' ∧
        e.pseudoPath.toList.head? = some '/' ∧ rules ≠ [] ∧
        List.Forall₂ (fun rule r => r.IsSpelled rule) rules e.acls := by
  constructor
  · intro h
    match fields with
    | [] | [_] | [_, _] | [_, _, _] => cases h
    | id :: path :: pseudoPath :: rule :: rules =>
      obtain ⟨exportId, hid, h⟩ := bind_eq_ok h
      obtain ⟨pathValue, hpath, h⟩ := bind_eq_ok h
      obtain ⟨pseudoPathValue, hpseudoPath, h⟩ := bind_eq_ok h
      obtain ⟨acls, hacls, h⟩ := bind_eq_ok h
      obtain rfl := Except.ok.inj h
      obtain ⟨rfl, hhead⟩ := absolute_eq_ok_iff.1 hpath
      obtain ⟨rfl, hpseudoHead⟩ := absolute_eq_ok_iff.1 hpseudoPath
      exact ⟨id, rule :: rules, rfl, wordOfText?_eq_some_iff.1 (AccessRule.fieldOr_eq_ok_iff.1 hid), hhead,
        hpseudoHead, List.cons_ne_nil _ _, AccessRule.parseAll_eq_ok_iff.1 hacls⟩
  · rintro ⟨id, rules, rfl, hid, hpath, hpseudoPath, hne, hrules⟩
    obtain ⟨rule, rules, rfl⟩ := List.exists_cons_of_ne_nil hne
    rw [ofFields, AccessRule.fieldOr_eq_ok_iff.2 (wordOfText?_eq_some_iff.2 hid),
      absolute_eq_ok_iff.2 ⟨rfl, hpath⟩, absolute_eq_ok_iff.2 ⟨rfl, hpseudoPath⟩,
      AccessRule.parseAll_eq_ok_iff.2 hrules]
    rfl

theorem parse_eq_ok_iff : parse s = .ok e ↔ e.IsSpelled s := by
  have hread : parse s = .ok e ↔ ofFields ((splitAt ',' s.toList).map trim) = .ok e := by
    rw [parse]
    split <;> simp [*]
  rw [hread, ofFields_eq_ok_iff, IsSpelled]
  simp only [hasFields_iff]

/-- Whatever is wrong, the error has the whole text. -/
theorem exists_of_parse_error {error : ParseError} (h : parse s = .error error) :
    ∃ reason, error = .invalidExport s reason := by
  rw [parse] at h
  split at h
  · cases h
  next reason hreason => exact ⟨reason, (Except.error.inj h).symm⟩

/-- Reading gives the export that a text spells, and where it spells none an error with the text as it was
given. -/
theorem read_exactly_if_spelled (s : String) :
    (∀ e, parse s = .ok e ↔ e.IsSpelled s) ∧
      ((∃ reason, parse s = .error (.invalidExport s reason)) ↔ ∀ e : Export, ¬ e.IsSpelled s) := by
  refine ⟨fun e => parse_eq_ok_iff, ?_, fun hnone => ?_⟩
  · rintro ⟨reason, hreason⟩ e he
    rw [parse_eq_ok_iff.2 he] at hreason
    cases hreason
  · cases hparse : parse s with
    | ok e => exact absurd (parse_eq_ok_iff.1 hparse) (hnone e)
    | error error =>
      obtain ⟨reason, rfl⟩ := exists_of_parse_error hparse
      exact ⟨reason, rfl⟩

/-- A comma at the end begins a rule, which is empty. -/
example : parse "1,/,/data,cidr;10.0.0.0/8;0;0;root;rw," =
    .error (.invalidExport "1,/,/data,cidr;10.0.0.0/8;0;0;root;rw," "acl \"\" has 1 fields, expected 6") := by
  decide

end Export

end BlockStorage
