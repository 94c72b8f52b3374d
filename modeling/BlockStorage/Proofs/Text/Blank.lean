import BlockStorage.Text.Blank
import Mathlib.Data.List.DropRight
import Mathlib.Data.List.TakeWhile

/-!
What trimming leaves.

A trimmed text is a piece of the text, it has no blank at either end, and trimming it again changes
nothing.
-/

namespace BlockStorage.Text

/-- A text has no blank at its ends. -/
structure IsTrimmed (s : List Char) : Prop where
  head : ∀ c ∈ s.head?, isBlank c = false
  last : ∀ c ∈ s.getLast?, isBlank c = false

theorem IsTrimmed.trim_eq {s : List Char} (h : IsTrimmed s) : trim s = s := trim_eq_self h.head h.last

theorem isTrimmed_of_forall {s : List Char} (h : ∀ c ∈ s, isBlank c = false) : IsTrimmed s :=
  ⟨fun c hc => h c (List.mem_of_mem_head? hc), fun c hc => h c (List.mem_of_mem_getLast? hc)⟩

theorem isTrimmed_of_all {s : List Char} (h : (s.all fun c => !isBlank c) = true) : IsTrimmed s :=
  isTrimmed_of_forall (by simpa using h)

theorem IsTrimmed.append {a b : List Char} (ha : IsTrimmed a) (hb : IsTrimmed b) : IsTrimmed (a ++ b) := by
  constructor
  · intro c hc
    rw [List.head?_append] at hc
    rcases Option.or_eq_some_iff.1 hc with hc | ⟨-, hc⟩
    · exact ha.head c hc
    · exact hb.head c hc
  · intro c hc
    rw [List.getLast?_append] at hc
    rcases Option.or_eq_some_iff.1 hc with hc | ⟨-, hc⟩
    · exact hb.last c hc
    · exact ha.last c hc

theorem isTrimmed_intercalate {sep : List Char} (hsep : IsTrimmed sep) {parts : List (List Char)}
    (h : ∀ part ∈ parts, IsTrimmed part) : IsTrimmed (sep.intercalate parts) := by
  induction parts with
  | nil => exact isTrimmed_of_forall (by simp)
  | cons first parts ih =>
    obtain ⟨hfirst, hrest⟩ := List.forall_mem_cons.1 h
    cases parts with
    | nil => rwa [List.intercalate_singleton]
    | cons second parts =>
      rw [List.intercalate_cons_cons]
      exact (hfirst.append hsep).append (ih hrest)

theorem trimEnd_isPrefix (s : List Char) : trimEnd s <+: s := List.rdropWhile_prefix isBlank s

theorem trim_isInfix (s : List Char) : trim s <:+: s :=
  (trimEnd_isPrefix _).isInfix.trans (List.dropWhile_suffix isBlank).isInfix

theorem mem_of_mem_trim {c : Char} {s : List Char} (h : c ∈ trim s) : c ∈ s := (trim_isInfix s).subset h

/-- Only blanks are lost. -/
theorem mem_trim_of_mem {c : Char} {s : List Char} (h : c ∈ s) (hc : isBlank c = false) : c ∈ trim s := by
  have keep {s : List Char} (h : c ∈ s) : c ∈ s.dropWhile isBlank := by
    rw [← List.takeWhile_append_dropWhile (p := isBlank) (l := s)] at h
    refine (List.mem_append.1 h).resolve_left fun hblank => ?_
    rw [List.mem_takeWhile_imp hblank] at hc
    cases hc
  exact List.mem_reverse.2 (keep (List.mem_reverse.2 (keep h)))

theorem isBlank_of_mem_getLast?_trimEnd {s : List Char} : ∀ c ∈ (trimEnd s).getLast?, isBlank c = false := by
  intro c hc
  obtain ⟨hne, rfl⟩ := List.mem_getLast?_eq_getLast hc
  exact eq_false_of_ne_true (List.rdropWhile_last_not isBlank s hne)

/-- What trimming leaves has no blank at its ends. -/
theorem isTrimmed_trim (s : List Char) : IsTrimmed (trim s) := by
  constructor
  · intro c hc
    -- dropping blanks at the end leaves the first character, if any is left
    obtain ⟨dropped, hdropped⟩ := trimEnd_isPrefix (trimStart s)
    have hhead : (s.dropWhile isBlank).head? = some c := by
      rw [← trimStart, ← hdropped, ← trim, List.head?_append, Option.mem_def.1 hc, Option.some_or]
    have hnot := List.head?_dropWhile_not isBlank s
    rw [hhead] at hnot
    exact hnot
  · exact isBlank_of_mem_getLast?_trimEnd

end BlockStorage.Text
