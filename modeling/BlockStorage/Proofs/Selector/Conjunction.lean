import BlockStorage.Command.Reference
import BlockStorage.Proofs.Failure
import BlockStorage.Proofs.Text.Split

/-!
Requirements in several expressions.

Expressions are read as one text with commas between them is, down to the error of the first bad
requirement. What is read of one list of expressions followed by another holds where both do, so choosing by
it is choosing by either and then by the other.
-/

namespace BlockStorage

open Text

namespace SelectorSet

/-! ### Reading -/

/-- The requirements that expressions hold, as they stand between commas. -/
def partsOf (exprs : List String) : List (List Char) := exprs.flatMap fun expr => splitAt ',' expr.toList

/-- The requirements of a text with commas between expressions are those of the expressions. -/
theorem partsOf_intercalate {exprs : List String} (hne : exprs ≠ []) :
    splitAt ',' (",".intercalate exprs).toList = partsOf exprs := by
  have hparts : exprs.map String.toList ≠ [] := by simpa using hne
  have hsplit := splitAt_intercalate_flatMap ',' hparts
  rw [List.flatMap_map] at hsplit
  simpa [partsOf] using hsplit

theorem partsOf_append (xs ys : List String) : partsOf (xs ++ ys) = partsOf xs ++ partsOf ys :=
  List.flatMap_append

theorem parse_eq (exprs : List String) : parse exprs = (parseParts (partsOf exprs)).map (⟨·⟩) := by
  rw [parse, partsOf]
  cases parseParts (exprs.flatMap fun expr => splitAt ',' expr.toList) <;> rfl

theorem parseParts_cons (part : List Char) (parts : List (List Char)) :
    parseParts (part :: parts) =
      (Selector.parse (String.ofList part) >>= fun x => (parseParts parts).map (x :: ·)) := by
  rw [parseParts, Selector.parse, String.toList_ofList]
  cases Selector.ofChars (trim part) with
  | error e => rfl
  | ok x => cases parseParts parts <;> rfl

/-- Requirements are read one after the other. -/
theorem parseParts_append {front back : List (List Char)} {xs : List Selector}
    (h : parseParts front = .ok xs) :
    parseParts (front ++ back) = (parseParts back).map (xs ++ ·) := by
  induction front generalizing xs with
  | nil =>
    obtain rfl := Except.ok.inj h
    cases hback : parseParts back <;> simp [hback, Except.map]
  | cons part front ih =>
    rw [parseParts_cons] at h
    obtain ⟨x, hx, h⟩ := bind_eq_ok h
    obtain ⟨rest, hrest, rfl⟩ := eq_of_map_eq_ok h
    rw [List.cons_append, parseParts_cons, hx, ih hrest]
    cases parseParts back <;> rfl

theorem parse_append {xs ys : List String} {X Y : SelectorSet} (hx : parse xs = .ok X)
    (hy : parse ys = .ok Y) : parse (xs ++ ys) = .ok ⟨X.selectors ++ Y.selectors⟩ := by
  rw [parse_eq] at hx hy
  obtain ⟨front, hfront, rfl⟩ := eq_of_map_eq_ok hx
  obtain ⟨back, hback, rfl⟩ := eq_of_map_eq_ok hy
  rw [parse_eq, partsOf_append, parseParts_append hfront, hback]
  rfl

/-- The error is that of the first requirement that is none. -/
theorem parseParts_eq_error_iff {parts : List (List Char)} {error : ParseError} :
    parseParts parts = .error error ↔
      ∃ front part back, parts = front ++ part :: back ∧
        (∀ p ∈ front, ∃ x, Selector.parse (String.ofList p) = .ok x) ∧
        Selector.parse (String.ofList part) = .error error := by
  induction parts with
  | nil => simp [parseParts]
  | cons part parts ih =>
    rw [parseParts_cons, exists_split_cons_iff]
    cases hpart : Selector.parse (String.ofList part) with
    | error e => simp [hpart, bind, Except.bind]
    | ok x =>
      have hrest : (Except.ok x >>= fun x => (parseParts parts).map (x :: ·)) = .error error ↔
          parseParts parts = .error error := by
        cases parseParts parts <;> simp [bind, Except.bind, Except.map]
      simp [hrest, ih, hpart]

theorem parse_eq_error_iff {exprs : List String} {error : ParseError} :
    parse exprs = .error error ↔ parseParts (partsOf exprs) = .error error := by
  rw [parse_eq]
  cases parseParts (partsOf exprs) <;> simp [Except.map]

/-! ### Choosing -/

variable {α : Type} (labelsOf : α → Labels) (xs ys : List Selector) (items : List α)

theorem filter_append :
    filter ⟨xs ++ ys⟩ labelsOf items = filter ⟨ys⟩ labelsOf (filter ⟨xs⟩ labelsOf items) := by
  simp only [filter, holds_append, List.filter_filter, Bool.and_comm]

/-- The order in which requirements are given does not matter to what they choose. -/
theorem filter_append_comm :
    filter ⟨xs ++ ys⟩ labelsOf items = filter ⟨ys ++ xs⟩ labelsOf items := by
  simp only [filter, holds_append, Bool.and_comm]

/-- Expressions are read as the text that joins them with commas, down to the error, which is that of the
first requirement that is none; and what is read of expressions followed by others holds where both sets
do, so that it chooses the items on whose labels both hold, which is what either set chooses of the choice of the
other, in the order of the items. -/
theorem expressions_join_and_conjoin :
    (∀ exprs : List String, exprs ≠ [] →
      parse exprs = parse [",".intercalate exprs] ∧
        ∀ error, parse exprs = .error error ↔
          ∃ front part back, splitAt ',' (",".intercalate exprs).toList = front ++ part :: back ∧
            (∀ p ∈ front, ∃ x, Selector.parse (String.ofList p) = .ok x) ∧
            Selector.parse (String.ofList part) = .error error) ∧
    ∀ (xs ys : List String) (X Y : SelectorSet), parse xs = .ok X → parse ys = .ok Y →
      ∃ Z, parse (xs ++ ys) = .ok Z ∧
        (∀ labels, Z.holds labels = true ↔ X.holds labels = true ∧ Y.holds labels = true) ∧
        ∀ (α : Type) [Labelled α] (items : List α),
          filterSelected Z items =
              items.filter (fun item => X.holds (Labelled.labels item) && Y.holds (Labelled.labels item)) ∧
            filterSelected Z items = filterSelected Y (filterSelected X items) ∧
            filterSelected Z items = filterSelected X (filterSelected Y items) ∧
            (filterSelected Z items).Sublist items := by
  refine ⟨fun exprs hne => ⟨?_, fun error => ?_⟩, fun xs ys X Y hx hy => ⟨_, parse_append hx hy, ?_, ?_⟩⟩
  · have hparts : partsOf [",".intercalate exprs] = partsOf exprs := by
      rw [partsOf, List.flatMap_singleton, partsOf_intercalate hne]
    rw [parse_eq, parse_eq, hparts]
  · rw [parse_eq_error_iff, parseParts_eq_error_iff, partsOf_intercalate hne]
  · intro labels
    rw [holds_append, Bool.and_eq_true]
  · intro α _ items
    refine ⟨?_, filter_append _ _ _ items, ?_, List.filter_sublist⟩
    · simp only [filterSelected, filter, holds_append]
    · exact (filter_append_comm _ _ _ items).trans (filter_append _ _ _ items)

/-- A namespace of a tier of production. -/
def inTier (tier : String) : Namespace :=
  ⟨⟨"ns-" ++ tier⟩, tier, (Labels.empty.insert "env" "prod").insert "tier" tier, .epoch, .epoch, ⟨"v-1"⟩⟩

/-- An empty flag is the error that a comma at the end is, and two flags choose what both ask for. -/
theorem expressions_join_and_conjoin_flags :
    parse ["env=prod", ""] = .error (.invalidSelector "" "empty requirement") ∧
      ∃ Z, parse ["env=prod,!legacy", "tier != bronze"] = .ok Z ∧
        Z.holds (inTier "gold").labels = true ∧ Z.holds (inTier "bronze").labels = false ∧
        filterSelected Z [inTier "bronze", inTier "gold", inTier "silver"] = [inTier "gold", inTier "silver"] := by
  have hjoined : parse ["env=prod,"] = .error (.invalidSelector "" "empty requirement") := by decide
  have hfirst : parse ["env=prod,!legacy"] = .ok ⟨[.equals "env" "prod", .absent "legacy"]⟩ := by decide
  have hsecond : parse ["tier != bronze"] = .ok ⟨[.notEquals "tier" "bronze"]⟩ := by decide
  obtain ⟨Z, hZ, hholds, hchosen⟩ := expressions_join_and_conjoin.2 _ _ _ _ hfirst hsecond
  refine ⟨(expressions_join_and_conjoin.1 ["env=prod", ""] (by decide)).1.trans hjoined, Z, hZ, ?_, ?_, ?_⟩
  · exact (hholds _).2 ⟨by decide, by decide⟩
  · rw [← Bool.not_eq_true, hholds]
    decide
  · rw [(hchosen Namespace _).1]
    decide

end SelectorSet

end BlockStorage
