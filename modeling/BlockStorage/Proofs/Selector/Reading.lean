import BlockStorage.Proofs.Labels.Text
import BlockStorage.Selector

/-!
Reading back what a selector is written as.

A selector that was read has a key and a trimmed value, and its text starts with the key. Nothing in the
key can be taken for an operator, so the text of each form but one is read back as the selector. The
exception is an equality: it is written with one `=`, and together with a value in which, behind that `=`,
stand two in a row, the text has a `==`, which is looked for first.
-/

namespace BlockStorage.Selector

open Text
open Labels (isTrimmed_of_isKey ne_nil_of_isKey not_mem_of_isKey)

/-! ### Keys -/

variable {key value : List Char}

theorem keyOf_eq_ok_iff {expr : List Char} {k : String} :
    keyOf expr key = .ok k ↔ Labels.isKey (trim key) = true ∧ k = String.ofList (trim key) := by
  rw [keyOf]
  split
  next h => simp [h, eq_comm]
  next h => simp [h]

theorem keyOf_of_isKey (h : Labels.isKey key = true) (expr : List Char) :
    keyOf expr key = .ok (String.ofList key) := by
  have htrim := (isTrimmed_of_isKey h).trim_eq
  exact keyOf_eq_ok_iff.2 ⟨by rwa [htrim], by rw [htrim]⟩

/-- A key with an equals sign in it is none, and trimming does not help. -/
theorem keyOf_append_equals (expr front : List Char) (k : String) :
    keyOf expr (key ++ '=' :: front) ≠ .ok k := fun h => by
  have hmem : '=' ∈ trim (key ++ '=' :: front) := mem_trim_of_mem (by simp) (by decide)
  exact not_mem_of_isKey (keyOf_eq_ok_iff.1 h).1 (by decide) hmem

/-! ### What is read -/

/-- What reading makes of a text: a key that is one and a trimmed value, which in an equality has no
operator for the opposite in it. -/
def IsRead : Selector → Prop
  | equals key value =>
    Labels.isKey key.toList = true ∧ IsTrimmed value.toList ∧ ¬ ['!', '='] <:+: value.toList
  | notEquals key value => Labels.isKey key.toList = true ∧ IsTrimmed value.toList
  | present key => Labels.isKey key.toList = true
  | absent key => Labels.isKey key.toList = true

theorem isRead_equals {expr before after : List Char} {word : List Char} {x : Selector}
    (hnone : cut? ['!', '='] expr = none) (hcut : cut? word expr = some (before, after))
    (h : (do let key ← keyOf expr before; return equals key (String.ofList (trim after))) =
      Except.ok x) : x.IsRead := by
  obtain ⟨k, hk, h⟩ := bind_eq_ok h
  obtain rfl := Except.ok.inj h
  obtain ⟨hkey, rfl⟩ := keyOf_eq_ok_iff.1 hk
  have hvalue : ¬ ['!', '='] <:+: trim after := fun hin =>
    (cut?_eq_none_iff (by simp)).1 hnone <| by
      rw [eq_append_of_cut? hcut]
      exact (hin.trans (trim_isInfix after)).trans (List.suffix_append _ after).isInfix
  simpa [IsRead] using ⟨hkey, isTrimmed_trim after, hvalue⟩

theorem isRead_of_parse {s : String} {x : Selector} (h : parse s = .ok x) : x.IsRead := by
  rw [parse] at h
  generalize trim s.toList = expr at h
  rw [ofChars] at h
  split at h
  next => cases h
  next =>
    split at h
    next key value hcut =>
      obtain ⟨k, hk, h⟩ := bind_eq_ok h
      obtain rfl := Except.ok.inj h
      obtain ⟨hkey, rfl⟩ := keyOf_eq_ok_iff.1 hk
      simpa [IsRead] using ⟨hkey, isTrimmed_trim value⟩
    next hnone =>
      split at h
      next key value hcut => exact isRead_equals hnone hcut h
      next =>
        split at h
        next key value hcut => exact isRead_equals hnone hcut h
        next =>
          split at h <;>
          · obtain ⟨k, hk, h⟩ := bind_eq_ok h
            obtain rfl := Except.ok.inj h
            obtain ⟨hkey, rfl⟩ := keyOf_eq_ok_iff.1 hk
            simpa [IsRead] using hkey

/-! ### Reading it again -/

theorem ofChars_equals (hkey : Labels.isKey key = true) (hvalue : ¬ ['!', '='] <:+: value) :
    ofChars (key ++ '=' :: value) =
      match cut? ['=', '='] ('=' :: value) with
      | some (front, back) => do
        let key ← keyOf (key ++ '=' :: value) (key ++ front)
        return equals key (String.ofList (trim back))
      | none => .ok (equals (String.ofList key) (String.ofList (trim value))) := by
  have hequals : '=' ∉ key := not_mem_of_isKey hkey (by decide)
  have hopposite : cut? ['!', '='] (key ++ '=' :: value) = none := by
    rw [cut?_append (not_mem_of_isKey hkey (by decide)), Option.map_eq_none_iff,
      cut?_eq_none_iff (by simp)]
    simpa [List.infix_cons_iff] using hvalue
  have hsingle : cut? ['='] (key ++ '=' :: value) = some (key, value) := by
    simpa using cut?_append_word hequals [] value
  rw [ofChars, if_neg (by simp), hopposite, hsingle, cut?_append hequals]
  cases cut? ['=', '='] ('=' :: value) with
  | some cut => rfl
  | none =>
    simp only [Option.map_none, keyOf_of_isKey hkey]
    rfl

theorem ofChars_notEquals (hkey : Labels.isKey key = true) (value : List Char) :
    ofChars (key ++ '!' :: '=' :: value) =
      .ok (notEquals (String.ofList key) (String.ofList (trim value))) := by
  have hcut : cut? ['!', '='] (key ++ '!' :: '=' :: value) = some (key, value) := by
    simpa using cut?_append_word (not_mem_of_isKey hkey (by decide)) ['='] value
  rw [ofChars, if_neg (by simp), hcut]
  simp only [keyOf_of_isKey hkey]
  rfl

/-- A text is cut nowhere where no operator begins in it. -/
theorem ofChars_of_not_mem {expr : List Char} (hne : expr ≠ []) (hequals : '=' ∉ expr) :
    ofChars expr = match afterWord? ['!'] expr with
      | some key => do
        let key ← keyOf expr key
        return absent key
      | none => do
        let key ← keyOf expr expr
        return present key := by
  have hnone {word : List Char} (hmem : '=' ∈ word) (hword : word ≠ []) : cut? word expr = none :=
    (cut?_eq_none_iff hword).2 fun h => hequals (h.subset hmem)
  have hshown : ¬ expr.isEmpty = true := by simpa using hne
  have hdouble : cut? ['=', '='] expr = none := hnone (by simp) (by simp)
  have hnot : cut? ['!', '='] expr = none := hnone (by simp) (by simp)
  have hsingle : cut? ['='] expr = none := hnone (by simp) (by simp)
  cases hword : afterWord? ['!'] expr with
  | none => simp only [ofChars, if_neg hshown, hdouble, hnot, hsingle, hword]
  | some key => simp only [ofChars, if_neg hshown, hdouble, hnot, hsingle, hword]

theorem ofChars_present (hkey : Labels.isKey key = true) :
    ofChars key = .ok (present (String.ofList key)) := by
  have hmark : '!' ∉ key := not_mem_of_isKey hkey (by decide)
  have hafter : afterWord? ['!'] key = none := by
    rw [Option.eq_none_iff_forall_ne_some]
    exact fun rest h => hmark (by simp [eq_append_of_afterWord? h])
  rw [ofChars_of_not_mem (ne_nil_of_isKey hkey) (not_mem_of_isKey hkey (by decide)), hafter]
  simp only [keyOf_of_isKey hkey]
  rfl

theorem ofChars_absent (hkey : Labels.isKey key = true) :
    ofChars ('!' :: key) = .ok (absent (String.ofList key)) := by
  have hequals : '=' ∉ '!' :: key := by simpa using not_mem_of_isKey hkey (by decide)
  have hafter : afterWord? ['!'] ('!' :: key) = some key := afterWord?_append ['!'] key
  rw [ofChars_of_not_mem (List.cons_ne_nil _ _) hequals, hafter]
  simp only [keyOf_of_isKey hkey]
  rfl

/-! ### Written and read -/

/-- The text has the operator `=` and no `==` that it could be cut at instead. -/
def IsPlain : Selector → Prop
  | equals _ value => ¬ ['=', '='] <:+: '=' :: value.toList
  | _ => True

theorem isTrimmed_text {x : Selector} (h : x.IsRead) : IsTrimmed x.text.toList := by
  have operator (word : List Char) (hword : (word.all fun c => !isBlank c) = true) :=
    isTrimmed_of_all hword
  cases x with
  | equals key value =>
    obtain ⟨hkey, hvalue, -⟩ := h
    simpa [text] using (isTrimmed_of_isKey hkey).append ((operator ['='] (by decide)).append hvalue)
  | notEquals key value =>
    obtain ⟨hkey, hvalue⟩ := h
    simpa [text] using
      (isTrimmed_of_isKey hkey).append ((operator ['!', '='] (by decide)).append hvalue)
  | present key => exact isTrimmed_of_isKey h
  | absent key => simpa [text] using (operator ['!'] (by decide)).append (isTrimmed_of_isKey h)

theorem parse_text {x : Selector} (h : x.IsRead) : parse x.text = ofChars x.text.toList := by
  rw [parse, (isTrimmed_text h).trim_eq]

theorem parse_text_of_isPlain {x : Selector} (h : x.IsRead) (hplain : x.IsPlain) :
    parse x.text = .ok x := by
  rw [parse_text h]
  cases x with
  | equals key value =>
    obtain ⟨hkey, htrimmed, hvalue⟩ := h
    have hcut : cut? ['=', '='] ('=' :: value.toList) = none := (cut?_eq_none_iff (by simp)).2 hplain
    have hread := ofChars_equals hkey hvalue
    rw [hcut, htrimmed.trim_eq] at hread
    simpa [text] using hread
  | notEquals key value =>
    have hread := ofChars_notEquals h.1 value.toList
    rw [h.2.trim_eq] at hread
    simpa [text] using hread
  | present key => simpa [text] using ofChars_present h
  | absent key => simpa [text] using ofChars_absent h

/-- Where the text can be cut at `==`, it is read as another equality for the key, or not at all. -/
theorem parse_text_of_not_isPlain {x y : Selector} (h : x.IsRead) (hplain : ¬ x.IsPlain)
    (hy : parse x.text = .ok y) :
    ∃ key value other, x = equals key value ∧ y = equals key other ∧ value ≠ other := by
  rw [parse_text h] at hy
  cases x with
  | equals key value =>
    obtain ⟨hkey, -, hvalue⟩ := h
    have hread := ofChars_equals hkey hvalue
    cases hcut : cut? ['=', '='] ('=' :: value.toList) with
    | none => exact absurd ((cut?_eq_none_iff (by simp)).1 hcut) hplain
    | some cut =>
      obtain ⟨front, back⟩ := cut
      have hsplit := eq_append_of_cut? hcut
      rw [text, String.toList_append, String.toList_append, List.append_assoc] at hy
      obtain ⟨k, hk, hequals⟩ := bind_eq_ok ((hread.symm.trans hy).symm.trans (by rw [hcut])).symm
      cases front with
      | nil =>
        refine ⟨key, value, String.ofList (trim back), rfl, ?_, ?_⟩
        · rw [List.append_nil, keyOf_of_isKey hkey] at hk
          obtain rfl := Except.ok.inj hk
          simpa using (Except.ok.inj hequals).symm
        · rintro rfl
          -- the new value is shorter by the second sign
          have hlength := (trim_isInfix back).length_le
          have := congrArg List.length hsplit
          simp at this hlength
          omega
      | cons c front =>
        obtain rfl : '=' = c := by simpa using (List.cons.inj hsplit).1
        exact absurd hk (keyOf_append_equals _ front k)
  | notEquals key value => exact absurd trivial hplain
  | present key => exact absurd trivial hplain
  | absent key => exact absurd trivial hplain

/-- What was read is written as a text that is read as the same requirement, or as one that holds of the
same labels, exactly if it is plain; only an equality can be otherwise. -/
theorem text_read_back {s : String} {x : Selector} (h : parse s = .ok x) :
    (parse x.text = .ok x ↔ x.IsPlain) ∧
      ((∃ y, parse x.text = .ok y ∧ ∀ labels, y.holds labels = x.holds labels) ↔ x.IsPlain) := by
  have hread := isRead_of_parse h
  have hback := parse_text_of_isPlain hread
  have hsame : (∃ y, parse x.text = .ok y ∧ ∀ labels, y.holds labels = x.holds labels) →
      x.IsPlain := by
    rintro ⟨y, hy, hlabels⟩
    by_contra hplain
    obtain ⟨key, value, other, rfl, rfl, hne⟩ := parse_text_of_not_isPlain hread hplain hy
    -- labels with the value that was asked for show the difference
    have hdiffer := hlabels (Labels.empty.insert key value)
    simp [holds, hne] at hdiffer
  exact ⟨⟨fun hx => hsame ⟨x, hx, fun _ => rfl⟩, hback⟩,
    hsame, fun hplain => ⟨x, hback hplain, fun _ => rfl⟩⟩

theorem text_read_back_opposite :
    parse " tier !== gold" = .ok (notEquals "tier" "= gold") ∧
      (parse (notEquals "tier" "= gold").text = .ok (notEquals "tier" "= gold") ↔
        (notEquals "tier" "= gold").IsPlain) ∧
      ((∃ y, parse (notEquals "tier" "= gold").text = .ok y ∧
        ∀ labels, y.holds labels = (notEquals "tier" "= gold").holds labels) ↔
          (notEquals "tier" "= gold").IsPlain) :=
  have h : parse " tier !== gold" = .ok (notEquals "tier" "= gold") := by decide
  ⟨h, text_read_back h⟩

/-- An equality that is typed with three signs is written with two, and these are read as one. -/
theorem three_signs_not_read_back :
    parse "a===b" = .ok (equals "a" "=b") ∧ (equals "a" "=b").text = "a==b" ∧
      parse "a==b" = .ok (equals "a" "b") ∧
      (equals "a" "=b").holds (Labels.empty.insert "a" "=b") = true ∧
      (equals "a" "b").holds (Labels.empty.insert "a" "=b") = false := by
  decide

end BlockStorage.Selector
