import BlockStorage.Text.Split
import Mathlib.Data.List.Infix

/-!
Where texts are cut.

The parts between separators have no separator in them, and parts without separators are found again
after they were joined. A text is cut at a word exactly if the word is in it, and then at the first
place: what stands before cannot move the cut unless the word begins in it.
-/

namespace BlockStorage.Text

/-- Where a list is split, that is at its first item or behind it. -/
theorem exists_split_cons_iff {α : Type} {first : α} {items : List α} {p : List α → α → List α → Prop} :
    (∃ front item back, first :: items = front ++ item :: back ∧ p front item back) ↔
      p [] first items ∨ ∃ front item back, items = front ++ item :: back ∧ p (first :: front) item back := by
  constructor
  · rintro ⟨_ | ⟨other, front⟩, item, back, h, hp⟩
    · obtain ⟨rfl, rfl⟩ := List.cons.inj h
      exact .inl hp
    · obtain ⟨rfl, rfl⟩ := List.cons.inj h
      exact .inr ⟨front, item, back, rfl, hp⟩
  · rintro (hp | ⟨front, item, back, rfl, hp⟩)
    · exact ⟨[], first, items, rfl, hp⟩
    · exact ⟨first :: front, item, back, rfl, hp⟩

/-! ### At every separator -/

/-- No part has a separator in it. -/
theorem not_mem_of_mem_splitAt {sep : Char} {s part : List Char} (h : part ∈ splitAt sep s) :
    sep ∉ part := by
  induction s generalizing part with
  | nil =>
    rw [splitAt, List.mem_singleton] at h
    simp [h]
  | cons c r ih =>
    rw [splitAt] at h
    split at h
    next =>
      rcases List.mem_cons.1 h with rfl | h
      · simp
      · exact ih h
    next hne =>
      split at h
      next hnil => exact absurd hnil (splitAt_ne_nil sep r)
      next first parts hparts =>
        rw [hparts] at ih
        rcases List.mem_cons.1 h with rfl | h
        · have hfirst : sep ∉ first := ih List.mem_cons_self
          simp [hfirst, Ne.symm hne]
        · exact ih (List.mem_cons_of_mem _ h)

theorem mem_of_mem_splitAt {sep c : Char} {s part : List Char} (h : part ∈ splitAt sep s)
    (hc : c ∈ part) : c ∈ s := by
  rw [← joinWith_splitAt sep s]
  generalize splitAt sep s = parts at h
  induction parts with
  | nil => cases h
  | cons first parts ih =>
    cases parts with
    | nil =>
      rw [List.mem_singleton] at h
      rwa [joinWith, ← h]
    | cons second parts =>
      change c ∈ first ++ [sep] ++ joinWith [sep] (second :: parts)
      rw [List.mem_append, List.mem_append]
      rcases List.mem_cons.1 h with rfl | h
      · exact .inl (.inl hc)
      · exact .inr (ih h)

/-- A separator ends a part wherever it stands. -/
theorem splitAt_append (sep : Char) (s t : List Char) :
    splitAt sep (s ++ sep :: t) = splitAt sep s ++ splitAt sep t := by
  induction s with
  | nil => simp [splitAt]
  | cons c r ih =>
    rw [List.cons_append, splitAt, splitAt, ih]
    split
    next => rfl
    next =>
      cases hr : splitAt sep r with
      | nil => exact absurd hr (splitAt_ne_nil sep r)
      | cons part parts => rfl

/-- Joining texts with separators joins their parts. -/
theorem splitAt_intercalate_flatMap (sep : Char) {texts : List (List Char)} (hne : texts ≠ []) :
    splitAt sep ([sep].intercalate texts) = texts.flatMap (splitAt sep) := by
  induction texts with
  | nil => exact absurd rfl hne
  | cons first texts ih =>
    cases texts with
    | nil => rw [List.intercalate_singleton, List.flatMap_singleton]
    | cons second texts =>
      rw [List.intercalate_cons_cons, List.append_assoc, List.singleton_append, splitAt_append,
        ih (List.cons_ne_nil _ _), List.flatMap_cons (x := first)]

/-- Parts without separators are found again after they were joined. -/
theorem splitAt_intercalate {sep : Char} {parts : List (List Char)} (hne : parts ≠ [])
    (h : ∀ part ∈ parts, sep ∉ part) : splitAt sep ([sep].intercalate parts) = parts := by
  rw [splitAt_intercalate_flatMap sep hne, List.flatMap_congr fun part hpart => splitAt_of_not_mem (h part hpart),
    List.flatMap_singleton']

theorem not_mem_intercalate {c : Char} {sep : List Char} (hsep : c ∉ sep) {parts : List (List Char)}
    (h : ∀ part ∈ parts, c ∉ part) : c ∉ sep.intercalate parts := by
  induction parts with
  | nil => exact List.not_mem_nil
  | cons first parts ih =>
    obtain ⟨hfirst, hrest⟩ := List.forall_mem_cons.1 h
    cases parts with
    | nil => rwa [List.intercalate_singleton]
    | cons second parts =>
      rw [List.intercalate_cons_cons, List.mem_append, List.mem_append]
      exact not_or.2 ⟨not_or.2 ⟨hfirst, hsep⟩, ih hrest⟩

/-! ### At the first occurrence of a word -/

theorem eq_append_of_afterWord? {word s rest : List Char} (h : afterWord? word s = some rest) :
    s = word ++ rest := by
  induction word generalizing s with
  | nil => exact Option.some.inj h
  | cons w word ih =>
    cases s with
    | nil => cases h
    | cons c s =>
      rw [afterWord?] at h
      split at h
      next hwc => rw [hwc, ih h, List.cons_append]
      next => cases h

@[simp] theorem afterWord?_append (word rest : List Char) :
    afterWord? word (word ++ rest) = some rest := by
  induction word with
  | nil => rfl
  | cons w word ih => rw [List.cons_append, afterWord?, if_pos rfl, ih]

theorem eq_append_of_cut? {word s before after : List Char} (h : cut? word s = some (before, after)) :
    s = before ++ word ++ after := by
  induction s generalizing before with
  | nil =>
    obtain ⟨rest, hrest, heq⟩ := Option.map_eq_some_iff.1 h
    obtain ⟨rfl, rfl⟩ := Prod.mk.inj heq
    exact eq_append_of_afterWord? hrest
  | cons c s ih =>
    rw [cut?] at h
    split at h
    next rest hrest =>
      obtain ⟨rfl, rfl⟩ := Prod.mk.inj (Option.some.inj h)
      exact eq_append_of_afterWord? hrest
    next =>
      obtain ⟨⟨front, back⟩, hcut, heq⟩ := Option.map_eq_some_iff.1 h
      obtain ⟨rfl, rfl⟩ := Prod.mk.inj heq
      rw [ih hcut, List.cons_append, List.cons_append]

/-- A text is cut at a word exactly if the word is in it. -/
theorem cut?_eq_none_iff {word s : List Char} (hword : word ≠ []) :
    cut? word s = none ↔ ¬ word <:+: s := by
  induction s with
  | nil =>
    obtain ⟨w, word, rfl⟩ := List.exists_cons_of_ne_nil hword
    simp [cut?, afterWord?]
  | cons c s ih =>
    rw [List.infix_cons_iff, not_or, ← ih, cut?]
    cases hafter : afterWord? word (c :: s) with
    | some rest =>
      have hstart : word <+: c :: s := ⟨rest, (eq_append_of_afterWord? hafter).symm⟩
      simp [hstart]
    | none =>
      have hstart : ¬ word <+: c :: s := by
        rintro ⟨rest, hrest⟩
        rw [← hrest, afterWord?_append] at hafter
        cases hafter
      simp [hstart]

/-- What stands before does not move the cut, if the word cannot begin in it. -/
theorem cut?_append {w : Char} {word before : List Char} (h : w ∉ before) (s : List Char) :
    cut? (w :: word) (before ++ s) =
      (cut? (w :: word) s).map fun (front, back) => (before ++ front, back) := by
  induction before with
  | nil => simp
  | cons c before ih =>
    obtain ⟨hc, hbefore⟩ := not_or.1 (mt List.mem_cons.2 h)
    rw [List.cons_append, cut?, afterWord?, if_neg hc, ih hbefore, Option.map_map]
    rfl

theorem cut?_word_append {word : List Char} (hword : word ≠ []) (s : List Char) :
    cut? word (word ++ s) = some ([], s) := by
  obtain ⟨w, word, rfl⟩ := List.exists_cons_of_ne_nil hword
  have hafter := afterWord?_append (w :: word) s
  rw [List.cons_append] at hafter ⊢
  rw [cut?, hafter]

theorem cut?_append_word {w : Char} {before : List Char} (h : w ∉ before) (word s : List Char) :
    cut? (w :: word) (before ++ (w :: word) ++ s) = some (before, s) := by
  rw [List.append_assoc, cut?_append h, cut?_word_append (List.cons_ne_nil w word)]
  simp

/-- A text is cut at a character exactly if the character stands there for the first time. -/
theorem cut?_eq_some_iff {w : Char} {s before after : List Char} :
    cut? [w] s = some (before, after) ↔ s = before ++ w :: after ∧ w ∉ before := by
  constructor
  · intro h
    have hs : s = before ++ w :: after := by simpa using eq_append_of_cut? h
    refine ⟨hs, fun hmem => ?_⟩
    -- an occurrence further to the front would be where the text is cut
    obtain ⟨front, back, rfl, hfront⟩ := List.eq_append_cons_of_mem hmem
    have hcut := cut?_append_word hfront [] (back ++ w :: after)
    rw [hs, List.append_assoc, List.cons_append] at h
    rw [List.append_assoc, List.singleton_append, h, Option.some.injEq, Prod.mk.injEq] at hcut
    simpa using congrArg List.length hcut.1
  · rintro ⟨rfl, hbefore⟩
    simpa using cut?_append_word hbefore [] after

end BlockStorage.Text
