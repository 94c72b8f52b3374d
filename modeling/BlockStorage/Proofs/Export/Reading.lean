import BlockStorage.Export
import BlockStorage.Proofs.Failure
import BlockStorage.Proofs.Text.Blank
import BlockStorage.Proofs.Text.Numeral
import BlockStorage.Proofs.Text.Split

/-!
Exports and their texts.

Commas are between the fields of an export and semicolons between those of its rules, and blanks around a
field are dropped. So an export is read back from its text exactly if its paths and matchers have none of
these where they would be taken for something else; and what was read is always such an export.
-/

namespace BlockStorage

open Text

/-- A text that is read back as a field of a rule: no separator is in it and no blank at its ends. -/
structure IsField (s : List Char) : Prop where
  commaFree : ',' ∉ s
  semicolonFree : ';' ∉ s
  isTrimmed : IsTrimmed s

theorem isField_of_forall {s : List Char} (h : ∀ c ∈ s, isBlank c = false ∧ c ≠ ',' ∧ c ≠ ';') :
    IsField s :=
  ⟨fun hc => (h _ hc).2.1 rfl, fun hc => (h _ hc).2.2 rfl, isTrimmed_of_forall fun c hc => (h c hc).1⟩

theorem isField_of_all {s : List Char}
    (h : (s.all fun c => !isBlank c && (c != ',' && c != ';')) = true) : IsField s :=
  isField_of_forall (by simpa using h)

theorem isField_toDigits (n : Nat) : IsField (Nat.toDigits 10 n) := by
  refine isField_of_forall fun c hc => ?_
  have hdigit := isDigit_of_mem_toDigits hc
  simp only [isDigit, Bool.and_eq_true, decide_eq_true_eq] at hdigit
  refine ⟨?_, ?_, ?_⟩
  · simp only [isBlank, Bool.or_eq_false_iff, Bool.and_eq_false_iff, decide_eq_false_iff_not,
      beq_eq_false_iff_ne]
    omega
  · rintro rfl
    simp at hdigit
  · rintro rfl
    simp at hdigit

namespace AccessRule

/-- Whether a rule is read back from its text. -/
structure WellFormed (r : AccessRule) : Prop where
  nonempty : r.matcher ≠ ""
  isField : IsField r.matcher.toList

/-- The texts of the fields. -/
def fields (r : AccessRule) : List (List Char) :=
  [r.identityType.text.toList, r.matcher.toList, Nat.toDigits 10 r.uid.toNat,
    Nat.toDigits 10 r.gid.toNat, r.squash.text.toList, r.access.text.toList]

theorem toList_text (r : AccessRule) : r.text.toList = [';'].intercalate r.fields := by
  simp [text, fields]

variable {r : AccessRule}

theorem WellFormed.isField_of_mem (h : r.WellFormed) {field : List Char} (hf : field ∈ r.fields) :
    IsField field := by
  have hidentity : IsField r.identityType.text.toList :=
    isField_of_all (by cases r.identityType <;> decide)
  have hsquash : IsField r.squash.text.toList := isField_of_all (by cases r.squash <;> decide)
  have haccess : IsField r.access.text.toList := isField_of_all (by cases r.access <;> decide)
  simp only [fields, List.mem_cons, List.not_mem_nil, or_false] at hf
  rcases hf with rfl | rfl | rfl | rfl | rfl | rfl
  · exact hidentity
  · exact h.isField
  · exact isField_toDigits _
  · exact isField_toDigits _
  · exact hsquash
  · exact haccess

theorem WellFormed.isTrimmed_text (h : r.WellFormed) : IsTrimmed r.text.toList := by
  rw [toList_text]
  exact isTrimmed_intercalate (isTrimmed_of_all (by decide)) fun _ hf => (h.isField_of_mem hf).isTrimmed

theorem WellFormed.comma_not_mem_text (h : r.WellFormed) : ',' ∉ r.text.toList := by
  rw [toList_text]
  exact not_mem_intercalate (by decide) fun _ hf => (h.isField_of_mem hf).commaFree

/-- A rule is read back from its text. -/
theorem WellFormed.parse_text (h : r.WellFormed) : parse r.text.toList = .ok r := by
  have hsplit : splitAt ';' r.text.toList = r.fields := by
    rw [toList_text]
    exact splitAt_intercalate (List.cons_ne_nil _ _) fun _ hf => (h.isField_of_mem hf).semicolonFree
  have htrim : r.fields.map (fun part => String.ofList (trim part)) = r.fields.map String.ofList :=
    List.map_congr_left fun part hpart => by rw [(h.isField_of_mem hpart).isTrimmed.trim_eq]
  rw [parse, hsplit, htrim]
  simp [fields, fieldOr, h.nonempty, wordOfText?_toDigits]
  rfl

/-- What is read between commas is such a rule. -/
theorem wellFormed_of_parse {rule : List Char} (hcomma : ',' ∉ rule) (h : parse rule = .ok r) :
    r.WellFormed := by
  rw [parse] at h
  split at h
  next identity matcher uid gid squash access hparts =>
    have hmem : matcher ∈ (splitAt ';' rule).map fun part => String.ofList (trim part) := by
      rw [hparts]
      simp
    obtain ⟨part, hpart, rfl⟩ := List.mem_map.1 hmem
    obtain ⟨identityType, -, h⟩ := bind_eq_ok h
    split at h
    · cases h
    next hnonempty =>
    obtain ⟨-, -, h⟩ := bind_eq_ok h
    obtain ⟨uidValue, -, h⟩ := bind_eq_ok h
    obtain ⟨gidValue, -, h⟩ := bind_eq_ok h
    obtain ⟨squashValue, -, h⟩ := bind_eq_ok h
    obtain ⟨accessValue, -, h⟩ := bind_eq_ok h
    obtain rfl := Except.ok.inj h
    refine ⟨by simpa using hnonempty, ?_⟩
    rw [String.toList_ofList]
    exact ⟨fun hc => hcomma (mem_of_mem_splitAt hpart (mem_of_mem_trim hc)),
      fun hc => not_mem_of_mem_splitAt hpart (mem_of_mem_trim hc), isTrimmed_trim part⟩
  next => cases h

theorem parseAll_texts {rs : List AccessRule} (h : ∀ r ∈ rs, r.WellFormed) :
    parseAll (rs.map fun r => r.text.toList) = .ok rs := by
  induction rs with
  | nil => rfl
  | cons r rs ih =>
    obtain ⟨hr, hrs⟩ := List.forall_mem_cons.1 h
    rw [List.map_cons, parseAll, hr.parse_text, ih hrs]
    rfl

theorem exists_of_mem_parseAll {rules : List (List Char)} {rs : List AccessRule}
    (h : parseAll rules = .ok rs) (hr : r ∈ rs) : ∃ rule ∈ rules, parse rule = .ok r := by
  induction rules generalizing rs with
  | nil =>
    obtain rfl := Except.ok.inj h
    cases hr
  | cons rule rules ih =>
    obtain ⟨first, hfirst, h⟩ := bind_eq_ok h
    obtain ⟨rest, hrest, h⟩ := bind_eq_ok h
    obtain rfl := Except.ok.inj h
    rcases List.mem_cons.1 hr with rfl | hr
    · exact ⟨rule, List.mem_cons_self, hfirst⟩
    · obtain ⟨other, hother, hparse⟩ := ih hrest hr
      exact ⟨other, List.mem_cons_of_mem _ hother, hparse⟩

end AccessRule

namespace Export

/-- Whether a path is read back as a field of an export. -/
structure IsPath (path : String) : Prop where
  head : path.toList.head? = some '/'
  commaFree : ',' ∉ path.toList
  last : ∀ c ∈ path.toList.getLast?, isBlank c = false

/-- What an export has to be to be read back from its text. -/
structure WellFormed (e : Export) : Prop where
  path : IsPath e.path
  pseudoPath : IsPath e.pseudoPath
  acls : e.acls ≠ []
  rules : ∀ r ∈ e.acls, r.WellFormed

theorem IsPath.isTrimmed {path : String} (h : IsPath path) : IsTrimmed path.toList := by
  refine ⟨fun c hc => ?_, h.last⟩
  rw [Option.mem_unique hc h.head]
  rfl

theorem IsPath.absolute_eq {path : String} (h : IsPath path) : absolute path.toList = .ok path := by
  obtain ⟨rest, hrest⟩ := List.head?_eq_some_iff.1 h.head
  rw [hrest, absolute, ← hrest, String.ofList_toList]

theorem isPath_of_absolute {field : List Char} {path : String} (hcomma : ',' ∉ field)
    (h : absolute (trim field) = .ok path) : IsPath path := by
  unfold absolute at h
  split at h
  next rest hrest =>
    obtain rfl := Except.ok.inj h
    refine ⟨by simp [hrest], ?_, ?_⟩
    · rw [String.toList_ofList]
      exact fun hc => hcomma (mem_of_mem_trim hc)
    · rw [String.toList_ofList]
      exact (isTrimmed_trim field).last
  next => cases h

/-- The texts of the fields. -/
def fields (e : Export) : List (List Char) :=
  Nat.toDigits 10 e.exportId.toNat :: e.path.toList :: e.pseudoPath.toList ::
    e.acls.map fun r => r.text.toList

theorem toList_text (e : Export) : e.text.toList = [','].intercalate e.fields := by
  simp [text, fields, Function.comp_def]

variable {e : Export}

theorem WellFormed.field_of_mem (h : e.WellFormed) {field : List Char} (hf : field ∈ e.fields) :
    ',' ∉ field ∧ IsTrimmed field := by
  simp only [fields, List.mem_cons, List.mem_map] at hf
  rcases hf with rfl | rfl | rfl | ⟨r, hr, rfl⟩
  · exact ⟨(isField_toDigits _).commaFree, (isField_toDigits _).isTrimmed⟩
  · exact ⟨h.path.commaFree, h.path.isTrimmed⟩
  · exact ⟨h.pseudoPath.commaFree, h.pseudoPath.isTrimmed⟩
  · exact ⟨(h.rules r hr).comma_not_mem_text, (h.rules r hr).isTrimmed_text⟩

/-- An export of this kind is read back from its text. -/
theorem WellFormed.parse_text (h : e.WellFormed) : parse e.text = .ok e := by
  have hsplit : splitAt ',' e.text.toList = e.fields := by
    rw [toList_text]
    exact splitAt_intercalate (List.cons_ne_nil _ _) fun _ hf => (h.field_of_mem hf).1
  have htrim : e.fields.map trim = e.fields :=
    (List.map_congr_left fun _ hf => (h.field_of_mem hf).2.trim_eq).trans (List.map_id _)
  have hrules := AccessRule.parseAll_texts h.rules
  rw [parse, hsplit, htrim]
  obtain ⟨r, rs, hacls⟩ := List.exists_cons_of_ne_nil h.acls
  rw [hacls, List.map_cons] at hrules
  simp only [fields, hacls, List.map_cons, ofFields, wordOfText?_toDigits, AccessRule.fieldOr,
    h.path.absolute_eq, h.pseudoPath.absolute_eq, hrules]
  rw [← hacls]
  rfl

/-- What is read is such an export. -/
theorem wellFormed_of_parse {s : String} (h : parse s = .ok e) : e.WellFormed := by
  rw [parse] at h
  split at h
  next hread =>
    obtain rfl := Except.ok.inj h
    have hcomma : ∀ field ∈ splitAt ',' s.toList, ',' ∉ field := fun _ => not_mem_of_mem_splitAt
    generalize splitAt ',' s.toList = parts at hread hcomma
    match parts with
    | [] | [_] | [_, _] | [_, _, _] => cases hread
    | id :: path :: pseudoPath :: rule :: rules =>
      rw [List.map_cons, List.map_cons, List.map_cons, List.map_cons] at hread
      obtain ⟨exportId, -, hread⟩ := bind_eq_ok hread
      obtain ⟨pathValue, hpath, hread⟩ := bind_eq_ok hread
      obtain ⟨pseudoPathValue, hpseudoPath, hread⟩ := bind_eq_ok hread
      obtain ⟨acls, hacls, hread⟩ := bind_eq_ok hread
      obtain rfl := Except.ok.inj hread
      obtain ⟨-, hcomma⟩ := List.forall_mem_cons.1 hcomma
      obtain ⟨hpathComma, hcomma⟩ := List.forall_mem_cons.1 hcomma
      obtain ⟨hpseudoPathComma, hrulesComma⟩ := List.forall_mem_cons.1 hcomma
      refine ⟨isPath_of_absolute hpathComma hpath, isPath_of_absolute hpseudoPathComma hpseudoPath,
        ?_, ?_⟩
      · rintro rfl
        obtain ⟨first, -, hacls⟩ := bind_eq_ok hacls
        obtain ⟨rest, -, hacls⟩ := bind_eq_ok hacls
        cases Except.ok.inj hacls
      · intro r hr
        obtain ⟨field, hfield, hparse⟩ := AccessRule.exists_of_mem_parseAll hacls hr
        rw [← List.map_cons] at hfield
        obtain ⟨part, hpart, rfl⟩ := List.mem_map.1 hfield
        exact AccessRule.wellFormed_of_parse (fun hc => hrulesComma part hpart (mem_of_mem_trim hc))
          hparse
  next => cases h

/-- An export is read back from its text exactly if it is of this kind, and whatever was read is. -/
theorem text_parsed_back :
    (∀ e : Export, parse e.text = .ok e ↔ e.WellFormed) ∧
      ∀ (s : String) (e : Export), parse s = .ok e → parse e.text = .ok e :=
  ⟨fun _ => ⟨wellFormed_of_parse, WellFormed.parse_text⟩,
    fun _ _ h => (wellFormed_of_parse h).parse_text⟩

/-- A text with blanks, a sign and zeros in front is read as an export that is written without them. -/
theorem text_parsed_back_blanks :
    let s := " 7 , /data,/a b ,cidr; 10.0.0.0/8 ;+0;007;root;rw"
    let e : Export := ⟨7, "/data", "/a b", [⟨.cidr, "10.0.0.0/8", 0, 7, .root, .readWrite⟩]⟩
    parse s = .ok e ∧ e.text = "7,/data,/a b,cidr;10.0.0.0/8;0;7;root;rw" ∧ e.WellFormed ∧
      parse e.text = .ok e := by
  intro s e
  have hread : parse s = .ok e := by decide
  have hback : parse e.text = .ok e := text_parsed_back.2 s e hread
  exact ⟨hread, by decide, (text_parsed_back.1 e).1 hback, hback⟩

end Export

end BlockStorage
