import BlockStorage.Labels
import BlockStorage.Proofs.Failure
import BlockStorage.Proofs.Text.Blank
import BlockStorage.Proofs.Text.Split
import Mathlib.Data.List.Sort

/-!
Labels and the texts for them.

A list of texts is read if each of them gives some key a value, and then every key has the value of the last
text that gives it one. The text of a map lists its entries in the order of their keys, and where no value
has a comma or blanks at its ends, the parts between the commas are read as the map again.
-/

namespace BlockStorage.Labels

open Text

/-! ### Keys -/

theorem isBlank_of_isKeyChar {c : Char} (h : isKeyChar c = true) : isBlank c = false := by
  have hrange : 45 ≤ c.toNat ∧ c.toNat ≤ 122 := by
    unfold isKeyChar Char.isAlphanum Char.isAlpha Char.isUpper Char.isLower Char.isDigit at h
    simp only [UInt32.le_iff_toNat_le, ge_iff_le, Bool.or_eq_true, Bool.and_eq_true,
      decide_eq_true_eq, Char.toNat_val] at h
    obtain ((((h | h) | h) | rfl) | rfl) | rfl := h <;> simp_all <;> omega
  simp only [isBlank, Bool.or_eq_false_iff, Bool.and_eq_false_iff, decide_eq_false_iff_not,
    beq_eq_false_iff_ne]
  omega

variable {key : List Char}

theorem isKeyChar_of_mem (h : isKey key = true) {c : Char} (hc : c ∈ key) : isKeyChar c = true :=
  List.all_eq_true.1 (Bool.and_eq_true_iff.1 h).2 c hc

theorem not_mem_of_isKey (h : isKey key = true) {c : Char} (hc : isKeyChar c = false) :
    c ∉ key := fun hmem => by
  rw [isKeyChar_of_mem h hmem] at hc
  cases hc

theorem isTrimmed_of_isKey (h : isKey key = true) : IsTrimmed key :=
  isTrimmed_of_forall fun _ hc => isBlank_of_isKeyChar (isKeyChar_of_mem h hc)

theorem ne_nil_of_isKey (h : isKey key = true) : key ≠ [] := by
  rintro rfl
  cases h

/-! ### Maps -/

theorem lookupEntry_eq_some_iff {entries : List (String × String)} (h : entries.Pairwise (·.1 < ·.1))
    {key value : String} : lookupEntry key entries = some value ↔ (key, value) ∈ entries := by
  induction entries with
  | nil => simp [lookupEntry]
  | cons entry entries ih =>
    obtain ⟨k, v⟩ := entry
    obtain ⟨hfirst, hrest⟩ := List.pairwise_cons.1 h
    rw [lookupEntry, List.mem_cons]
    split
    next hk =>
      subst hk
      have hnot : (k, value) ∉ entries := fun hmem => String.lt_irrefl k (hfirst _ hmem)
      simp [hnot, eq_comm]
    next hk => simp [ih hrest, Ne.symm hk]

/-- The entries of a map are the values of its keys. -/
theorem mem_entries_iff {labels : Labels} {key value : String} :
    (key, value) ∈ labels.entries ↔ labels.get? key = some value :=
  (lookupEntry_eq_some_iff labels.ascending).symm

/-- A map is known by the values of its keys. -/
theorem ext_get? {a b : Labels} (h : ∀ key, a.get? key = b.get? key) : a = b := by
  have hmem : ∀ entry, entry ∈ a.entries ↔ entry ∈ b.entries := fun ⟨key, value⟩ => by
    rw [mem_entries_iff, mem_entries_iff, h]
  have hne {x y : String × String} (hxy : x.1 < y.1) : x ≠ y := fun heq =>
    String.lt_irrefl _ (heq ▸ hxy)
  refine ext (List.Perm.eq_of_pairwise (fun x y _ _ hxy hyx => ?_) a.ascending b.ascending ?_)
  · exact absurd hyx (String.lt_asymm hxy)
  · exact (List.perm_ext_iff_of_nodup (a.ascending.imp hne) (b.ascending.imp hne)).2 hmem

/-! ### Texts of entries -/

/-- The text gives a key a value: the key stands before the first equals sign and the value behind it, both
perhaps between blanks. -/
def Gives (pair key value : String) : Prop :=
  ∃ before after, pair.toList = before ++ '=' :: after ∧ '=' ∉ before ∧ isKey (trim before) = true ∧
    key = String.ofList (trim before) ∧ value = String.ofList (trim after)

theorem entryOfText?_eq_some_iff {pair key value : String} :
    entryOfText? pair = some (key, value) ↔ Gives pair key value := by
  rw [entryOfText?, Option.bind_eq_bind, Option.bind_eq_some_iff]
  constructor
  · rintro ⟨⟨before, after⟩, hcut, h⟩
    obtain ⟨hpair, hbefore⟩ := cut?_eq_some_iff.1 hcut
    simp only [Option.ite_none_right_eq_some, Option.some.injEq, Prod.mk.injEq] at h
    exact ⟨before, after, hpair, hbefore, h.1, h.2.1.symm, h.2.2.symm⟩
  · rintro ⟨before, after, hpair, hbefore, hkey, rfl, rfl⟩
    exact ⟨(before, after), cut?_eq_some_iff.2 ⟨hpair, hbefore⟩, if_pos hkey⟩

theorem entryOfText?_eq_none_iff {pair : String} :
    entryOfText? pair = none ↔ ∀ key value, ¬ Gives pair key value := by
  simp only [Option.eq_none_iff_forall_ne_some, Prod.forall, ne_eq, entryOfText?_eq_some_iff]

theorem Gives.iff_eq {pair key value : String} (h : Gives pair key value) {k v : String} :
    Gives pair k v ↔ k = key ∧ v = value := by
  rw [← entryOfText?_eq_some_iff, entryOfText?_eq_some_iff.2 h]
  simp [eq_comm]

/-- An entry is written as a text that gives its key its value, if the key is one and the value is trimmed. -/
theorem gives_text {key value : String} (hkey : isKey key.toList = true) (hvalue : IsTrimmed value.toList) :
    Gives (key ++ "=" ++ value) key value := by
  have htrim := (isTrimmed_of_isKey hkey).trim_eq
  refine ⟨key.toList, value.toList, by simp, not_mem_of_isKey hkey (by decide), ?_, ?_, ?_⟩
  · rwa [htrim]
  · rw [htrim, String.ofList_toList]
  · rw [hvalue.trim_eq, String.ofList_toList]

/-! ### Lists of texts -/

/-- The last of the texts that give the key a value gives it this one. -/
def LastGives (pairs : List String) (key value : String) : Prop :=
  ∃ front pair back, pairs = front ++ pair :: back ∧ Gives pair key value ∧
    ∀ other ∈ back, ∀ v, ¬ Gives other key v

variable {pairs : List String} {labels result : Labels} {k v : String}

theorem not_lastGives_nil : ¬ LastGives [] k v := by
  rintro ⟨front, pair, back, h, -⟩
  simp at h

theorem lastGives_cons_iff {pair : String} :
    LastGives (pair :: pairs) k v ↔
      LastGives pairs k v ∨ Gives pair k v ∧ ∀ other ∈ pairs, ∀ v, ¬ Gives other k v := by
  rw [LastGives, exists_split_cons_iff, or_comm, LastGives]

/-- Texts are read if each gives a key a value. -/
theorem exists_parseInto_iff :
    (∃ result, parseInto labels pairs = .ok result) ↔ ∀ pair ∈ pairs, ∃ k v, Gives pair k v := by
  induction pairs generalizing labels with
  | nil => simp [parseInto]
  | cons pair pairs ih =>
    rw [parseInto, List.forall_mem_cons]
    cases hpair : entryOfText? pair with
    | none => simp [entryOfText?_eq_none_iff.1 hpair]
    | some entry =>
      have hgives : ∃ k v, Gives pair k v := ⟨_, _, entryOfText?_eq_some_iff.1 hpair⟩
      simp only [ih, hgives, true_and]

/-- A key has the value of the last text that gives it one, or else the one that it had. -/
theorem get?_of_parseInto (h : parseInto labels pairs = .ok result) :
    result.get? k = some v ↔
      LastGives pairs k v ∨ labels.get? k = some v ∧ ∀ pair ∈ pairs, ∀ v, ¬ Gives pair k v := by
  induction pairs generalizing labels with
  | nil =>
    obtain rfl := Except.ok.inj h
    simp [not_lastGives_nil]
  | cons pair pairs ih =>
    rw [parseInto] at h
    cases hpair : entryOfText? pair with
    | none =>
      rw [hpair] at h
      cases h
    | some entry =>
      obtain ⟨key, value⟩ := entry
      rw [hpair] at h
      have hgives := entryOfText?_eq_some_iff.1 hpair
      rw [ih h, lastGives_cons_iff, List.forall_mem_cons, get?_insert]
      simp only [hgives.iff_eq]
      by_cases hk : key = k
      · subst hk
        simp [eq_comm]
      · simp [hk, Ne.symm hk]

/-- A key that is read has the value of the last text that gives it one, and no other key has a value. -/
theorem get?_of_parse (h : parse pairs = .ok result) : result.get? k = some v ↔ LastGives pairs k v := by
  rw [get?_of_parseInto h]
  simp [get?, empty, lookupEntry]

/-- The first text that gives no key a value is the one that a failure names. -/
theorem parseInto_eq_error_iff {error : ParseError} :
    parseInto labels pairs = .error error ↔
      ∃ front pair back, pairs = front ++ pair :: back ∧ (∀ p ∈ front, ∃ k v, Gives p k v) ∧
        (∀ k v, ¬ Gives pair k v) ∧ error = .invalidLabel pair := by
  induction pairs generalizing labels with
  | nil => simp [parseInto]
  | cons pair pairs ih =>
    rw [parseInto, exists_split_cons_iff]
    cases hpair : entryOfText? pair with
    | none => simp [entryOfText?_eq_none_iff.1 hpair, eq_comm]
    | some entry =>
      have hgives : ∃ k v, Gives pair k v := ⟨_, _, entryOfText?_eq_some_iff.1 hpair⟩
      simp [ih, hgives]

/-! ### Texts with different keys -/

/-- No two of the texts give one key a value. -/
def Distinct (pairs : List String) : Prop :=
  pairs.Pairwise fun pair other => ∀ k v w, Gives pair k v → ¬ Gives other k w

/-- Where keys are different, the last text with a key is the only one. -/
theorem lastGives_iff_of_distinct (h : Distinct pairs) : LastGives pairs k v ↔ ∃ pair ∈ pairs, Gives pair k v := by
  constructor
  · rintro ⟨front, pair, back, rfl, hgives, -⟩
    exact ⟨pair, by simp, hgives⟩
  · rintro ⟨pair, hpair, hgives⟩
    obtain ⟨front, back, rfl⟩ := List.mem_iff_append.1 hpair
    have hback := (List.pairwise_cons.1 (List.pairwise_append.1 h).2.1).1
    exact ⟨front, pair, back, rfl, hgives, fun other hother w => hback other hother k v w hgives⟩

theorem Distinct.perm {pairs' : List String} (h : Distinct pairs) (hperm : pairs.Perm pairs') :
    Distinct pairs' :=
  (hperm.pairwise_iff fun hxy k v w hx hy => hxy k w v hy hx).1 h

/-- Texts with different keys give the map with their entries, whatever their order is. -/
theorem parse_eq_ok_of_distinct (h : Distinct pairs)
    (hlabels : ∀ k v, labels.get? k = some v ↔ ∃ pair ∈ pairs, Gives pair k v)
    (hread : ∀ pair ∈ pairs, ∃ k v, Gives pair k v) : parse pairs = .ok labels := by
  obtain ⟨result, hresult⟩ := exists_parseInto_iff.2 hread
  rw [parse, hresult]
  refine congrArg _ (ext_get? fun k => Option.ext fun v => ?_)
  rw [get?_of_parse hresult, lastGives_iff_of_distinct h, hlabels]

/-! ### The text of a map -/

/-- The texts of the entries of a map. -/
def entryTexts (labels : Labels) : List String := labels.entries.map fun entry => entry.1 ++ "=" ++ entry.2

/-- The values of a map can stand between commas: its keys are keys, and its values have no comma and no blank
at their ends. -/
def IsPlain (labels : Labels) : Prop :=
  ∀ k v, labels.get? k = some v → isKey k.toList = true ∧ ',' ∉ v.toList ∧ IsTrimmed v.toList

theorem IsPlain.gives (h : labels.IsPlain) {entry : String × String} (hentry : entry ∈ labels.entries) :
    Gives (entry.1 ++ "=" ++ entry.2) entry.1 entry.2 := by
  obtain ⟨hkey, -, hvalue⟩ := h _ _ (mem_entries_iff.1 hentry)
  exact gives_text hkey hvalue

/-- What stands between the commas of the text of a map is the texts of its entries. -/
theorem IsPlain.splitAt_text (h : labels.IsPlain) (hne : labels ≠ empty) :
    (splitAt ',' labels.text.toList).map String.ofList = labels.entryTexts := by
  have htexts : labels.entryTexts.map String.toList ≠ [] := by
    rw [entryTexts, Ne, List.map_eq_nil_iff, List.map_eq_nil_iff]
    exact fun hnil => hne (ext hnil)
  have hcomma : ∀ text ∈ labels.entryTexts.map String.toList, ',' ∉ text := by
    intro text htext
    simp only [entryTexts, List.map_map, List.mem_map] at htext
    obtain ⟨entry, hentry, rfl⟩ := htext
    obtain ⟨hkey, hvalue, -⟩ := h _ _ (mem_entries_iff.1 hentry)
    simpa using ⟨not_mem_of_isKey hkey (by decide), hvalue⟩
  have htext : labels.text.toList = [','].intercalate (labels.entryTexts.map String.toList) := by
    rw [text, String.toList_intercalate]
    rfl
  rw [htext, splitAt_intercalate htexts hcomma, List.map_map]
  simp

theorem IsPlain.distinct (h : labels.IsPlain) : Distinct labels.entryTexts := by
  refine List.pairwise_map.2 (labels.ascending.imp_of_mem fun {x y} hx hy hxy k v w hk hk' => ?_)
  obtain ⟨rfl, -⟩ := (h.gives hx).iff_eq.1 hk
  obtain ⟨heq, -⟩ := (h.gives hy).iff_eq.1 hk'
  exact String.lt_irrefl _ (heq ▸ hxy)

/-- The texts of the entries of a map are read as the map. -/
theorem IsPlain.parse_entryTexts (h : labels.IsPlain) : parse labels.entryTexts = .ok labels := by
  refine parse_eq_ok_of_distinct h.distinct (fun k v => ?_) fun pair hpair => ?_
  · rw [← mem_entries_iff]
    constructor
    · exact fun hmem => ⟨_, List.mem_map_of_mem hmem, h.gives hmem⟩
    · rintro ⟨pair, hpair, hgives⟩
      obtain ⟨entry, hentry, rfl⟩ := List.mem_map.1 hpair
      obtain ⟨rfl, rfl⟩ := (h.gives hentry).iff_eq.1 hgives
      exact hentry
  · obtain ⟨entry, hentry, rfl⟩ := List.mem_map.1 hpair
    exact ⟨_, _, h.gives hentry⟩

/-- A list of texts is read if each of them has an equals sign behind a key; then each key has the value
behind the first equals sign of the last text that has the key, so that texts with different keys may stand
in any order; and a failure names the first text that is none, as it is. The text of a map lists its entries
in the order of their keys, and what stands between its commas is read as the map, if there is something in
the map and no value has a comma or blanks at its ends. -/
theorem texts_and_maps_correspond :
    (∀ pairs : List String,
      ((∃ labels, parse pairs = .ok labels) ↔ ∀ pair ∈ pairs, ∃ k v, Gives pair k v) ∧
      (∀ labels, parse pairs = .ok labels → ∀ k v, labels.get? k = some v ↔ LastGives pairs k v) ∧
      (∀ labels, parse pairs = .ok labels → Distinct pairs → ∀ pairs', pairs.Perm pairs' →
        parse pairs' = .ok labels) ∧
      ∀ error, parse pairs = .error error ↔
        ∃ front pair back, pairs = front ++ pair :: back ∧ (∀ p ∈ front, ∃ k v, Gives p k v) ∧
          (∀ k v, ¬ Gives pair k v) ∧ error = .invalidLabel pair) ∧
    ∀ labels : Labels, labels ≠ empty → labels.IsPlain →
      (∃ entries : List (String × String), entries.Pairwise (·.1 < ·.1) ∧
        (∀ k v, (k, v) ∈ entries ↔ labels.get? k = some v) ∧
        labels.text = ",".intercalate (entries.map fun entry => entry.1 ++ "=" ++ entry.2)) ∧
      parse ((splitAt ',' labels.text.toList).map String.ofList) = .ok labels := by
  refine ⟨fun pairs => ⟨exists_parseInto_iff, fun labels h k v => ?_, fun labels h hdistinct pairs' hperm => ?_,
    fun error => parseInto_eq_error_iff⟩, fun labels hne hplain => ⟨?_, ?_⟩⟩
  · exact get?_of_parse h
  · have hread := exists_parseInto_iff.1 ⟨labels, h⟩
    refine parse_eq_ok_of_distinct (hdistinct.perm hperm) (fun k v => ?_) fun pair hpair =>
      hread pair (hperm.mem_iff.2 hpair)
    simp only [get?_of_parse h, lastGives_iff_of_distinct hdistinct, hperm.mem_iff]
  · exact ⟨labels.entries, labels.ascending, fun k v => mem_entries_iff, rfl⟩
  · rw [hplain.splitAt_text hne, hplain.parse_entryTexts]

/-- The last of two values counts, two texts with different keys can change places, and a value may have equals
signs. -/
theorem texts_and_maps_correspond_equals :
    (∃ labels, parse ["env=prod", "tier = gold", "env=a=b"] = .ok labels ∧ labels.get? "env" = some "a=b") ∧
      parse ["env=a=b", "tier = gold"] = .ok ((empty.insert "tier" "gold").insert "env" "a=b") ∧
      parse ((splitAt ',' ((empty.insert "tier" "gold").insert "env" "a=b").text.toList).map String.ofList) =
        .ok ((empty.insert "tier" "gold").insert "env" "a=b") := by
  have htier : Gives "tier = gold" "tier" "gold" := entryOfText?_eq_some_iff.1 (by decide)
  have henv : Gives "env=a=b" "env" "a=b" := entryOfText?_eq_some_iff.1 (by decide)
  have hread : parse ["env=prod", "tier = gold", "env=a=b"] =
      .ok ((empty.insert "tier" "gold").insert "env" "a=b") := by decide
  have hdistinct : Distinct ["tier = gold", "env=a=b"] := by
    refine List.pairwise_pair.2 fun k v w h h' => ?_
    obtain ⟨rfl, -⟩ := htier.iff_eq.1 h
    exact absurd (henv.iff_eq.1 h').1 (by decide)
  have hplain : ((empty.insert "tier" "gold").insert "env" "a=b").IsPlain := by
    intro k v h
    simp only [get?_insert] at h
    split at h
    next hk =>
      obtain rfl := Option.some.inj h
      subst hk
      exact ⟨by decide, by decide, isTrimmed_of_all (by decide)⟩
    next =>
      split at h
      next hk =>
        obtain rfl := Option.some.inj h
        subst hk
        exact ⟨by decide, by decide, isTrimmed_of_all (by decide)⟩
      next => cases h
  obtain ⟨hpairs, hmaps⟩ := texts_and_maps_correspond
  refine ⟨⟨_, hread, ((hpairs _).2.1 _ hread _ _).2 ⟨["env=prod", "tier = gold"], _, [], rfl, henv, by simp⟩⟩,
    (hpairs ["tier = gold", "env=a=b"]).2.2.1 _ (by decide) hdistinct _ (List.Perm.swap ..), ?_⟩
  exact (hmaps _ (by decide) hplain).2

end BlockStorage.Labels
