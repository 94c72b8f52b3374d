import BlockStorage.Proofs.Document.Json
import BlockStorage.Proofs.Time.Timestamp

/-!
The compact and the pretty form of a document.

Each is the form with a layout: the compact one has no blanks, and the pretty one has a line for every
item and field, indented by two blanks a level. The pieces of the pretty form join to it, wherever the
pieces are cut.
-/

namespace BlockStorage.Document.Json

open Text

/-- The characters of pieces one behind the other. -/
def joined (pieces : List String) : List Char := pieces.flatMap String.toList

@[simp] theorem joined_nil : joined [] = [] := rfl

@[simp] theorem joined_cons (piece : String) (pieces : List String) :
    joined (piece :: pieces) = piece.toList ++ joined pieces := rfl

@[simp] theorem joined_append (xs ys : List String) : joined (xs ++ ys) = joined xs ++ joined ys :=
  List.flatMap_append

@[simp] theorem joined_charPieces (s : List Char) : joined (charPieces s) = s := by
  induction s with
  | nil => rfl
  | cons c s ih =>
    rw [charPieces] at ih
    simp [charPieces, ih]

/-! ### Texts -/

theorem joined_flush (run : List Char) : joined (textPieces.flush run) = run.reverse := by
  rw [textPieces.flush]
  split
  next hempty => rw [List.isEmpty_iff.1 hempty]; rfl
  next => simp

theorem joined_textPieces (run s : List Char) : joined (textPieces run s) = run.reverse ++ escaped s := by
  induction s generalizing run with
  | nil => rw [textPieces, joined_flush]; simp [escaped]
  | cons c s ih =>
    rw [textPieces]
    cases hescape : escape? c with
    | none => simp [ih, escaped, hescape]
    | some e => simp [ih, escaped, hescape, joined_flush]

theorem joined_quotedPieces (s : String) : joined (quotedPieces s) = textChars s := by
  simp [quotedPieces, joined_textPieces, textChars]

/-! ### Points in time -/

theorem joined_paddedPieces (digits : List Char) : joined (paddedPieces digits) = digits := by
  have hsplit := List.takeWhile_append_dropWhile (p := (· = '0')) (l := digits)
  rw [paddedPieces]
  split
  next hempty =>
    rw [List.isEmpty_iff] at hempty
    simp only [hempty] at hsplit ⊢
    simpa using hsplit
  next => simp

theorem joined_yearPieces (year : Int) : joined (yearPieces year) = Date.yearText year := by
  rw [yearPieces]
  split
  next digits heq => simp [joined_paddedPieces, heq]
  next digits heq => simp [joined_paddedPieces, heq]
  next => simp

theorem joined_timePieces (t : Timestamp) : joined (timePieces t) = '"' :: t.chars ++ ['"'] := by
  have hfraction : joined (if t.fractionDigits.isEmpty then []
      else "." :: paddedPieces t.fractionDigits) = t.fractionText := by
    rw [Timestamp.fractionText]
    split <;> simp [joined_paddedPieces]
  simp [timePieces, joined_yearPieces, hfraction, Timestamp.chars, Date.text, -List.isEmpty_iff]

/-- No character of a text is escaped. -/
def Plain (s : List Char) : Prop := ∀ c ∈ s, escape? c = none

theorem Plain.append {s t : List Char} (hs : Plain s) (ht : Plain t) : Plain (s ++ t) :=
  List.forall_mem_append.2 ⟨hs, ht⟩

theorem Plain.cons {c : Char} {s : List Char} (hc : escape? c = none) (hs : Plain s) : Plain (c :: s) :=
  List.forall_mem_cons.2 ⟨hc, hs⟩

theorem Plain.escaped_eq {s : List Char} (h : Plain s) : escaped s = s := by
  induction s with
  | nil => rfl
  | cons c s ih =>
    obtain ⟨hc, hs⟩ := List.forall_mem_cons.1 h
    have hrest := ih hs
    rw [escaped] at hrest
    rw [escaped, List.flatMap_cons, hc, hrest]
    rfl

theorem escape?_of_isDigit {c : Char} (h : isDigit c = true) : escape? c = none := by
  simp only [isDigit, Bool.and_eq_true, decide_eq_true_eq] at h
  have other {special : Char} (hspecial : ¬ (48 ≤ special.toNat ∧ special.toNat ≤ 57)) : c ≠ special := by
    rintro rfl
    exact hspecial h
  rw [escape?, if_neg (other (by decide)), if_neg (other (by decide)), if_neg (other (by decide)),
    if_neg (other (by decide)), if_neg (other (by decide)), if_neg (by omega), if_neg (by omega),
    if_neg (by omega)]

theorem plain_natPadded (width n : Nat) : Plain (natPadded width n) :=
  fun _ hc => escape?_of_isDigit (isDigit_of_mem_natPadded hc)

theorem plain_yearText (year : Int) : Plain (Date.yearText year) := by
  rw [Date.yearText]
  split_ifs
  · exact plain_natPadded _ _
  · exact .cons (by decide) (plain_natPadded _ _)
  · exact .cons (by decide) (plain_natPadded _ _)

theorem plain_fractionText (t : Timestamp) : Plain t.fractionText := by
  rw [Timestamp.fractionText]
  rcases t.fractionDigits_cases with ⟨-, hdigits⟩ | ⟨width, n, -, -, -, -, hdigits⟩
  · rw [hdigits]
    exact fun _ hc => by cases hc
  · have hshown : (natPadded width n).isEmpty = false := by simp [natPadded_ne_nil]
    rw [hdigits, hshown, if_neg Bool.false_ne_true]
    exact .cons (by decide) (plain_natPadded _ _)

/-- A point in time has no character that is escaped. -/
theorem plain_chars (t : Timestamp) : Plain t.chars := by
  have mark {c : Char} (hc : escape? c = none) : Plain [c] := .cons hc fun _ hmem => by cases hmem
  have hdate : Plain t.date.text :=
    ((((plain_yearText _).append (mark (by decide))).append (plain_natPadded _ _)).append
      (mark (by decide))).append (plain_natPadded _ _)
  have hclock : Plain t.clockText :=
    ((((plain_natPadded _ _).append (mark (by decide))).append (plain_natPadded _ _)).append
      (mark (by decide))).append (plain_natPadded _ _)
  exact (((hdate.append (mark (by decide))).append hclock).append (plain_fractionText t)).append
    (mark (by decide))

theorem textChars_text (t : Timestamp) : textChars t.text = '"' :: t.chars ++ ['"'] := by
  rw [textChars, Timestamp.text, String.toList_ofList, (plain_chars t).escaped_eq]
  rfl

/-! ### Two layouts -/

/-- No blanks at all. -/
def Layout.compact : Layout where
  lineBreak _ := []
  gap := []
  isSpace_lineBreak := by simp
  isSpace_gap := by simp

/-- A line for every item, indented by two blanks a level. -/
def Layout.pretty : Layout where
  lineBreak level := '\n' :: List.replicate (2 * level) ' '
  gap := [' ']
  isSpace_lineBreak level c hc := by
    rcases List.mem_cons.1 hc with rfl | hc
    · decide
    · rw [List.eq_of_mem_replicate hc]
      decide
  isSpace_gap := by simp [Draft.isSpace]

theorem compact_closing (level : Nat) (isEmpty : Bool) : Layout.compact.closing level isEmpty = [] := by
  cases isEmpty <;> rfl

mutual

/-- The compact form is the form without blanks. -/
theorem compactChars_eq (level : Nat) : (d : Document) → compactChars d = Layout.compact.chars level d
  | .null => rfl
  | .bool _ => rfl
  | .number _ => rfl
  | .text _ => rfl
  | .time t => (textChars_text t).symm
  | .list items => by
    rw [compactChars, Layout.chars, compact_closing, compactItems_eq level items, List.append_nil]
    rfl
  | .record fields => by
    rw [compactChars, Layout.chars, compact_closing, compactFields_eq level fields, List.append_nil]
    rfl

theorem compactItems_eq (level : Nat) : (items : List Document) →
    compactItems items = Layout.compact.itemChars level [] items
  | [] => rfl
  | [item] => by
    simp [compactItems, Layout.itemChars, Layout.compact, compactChars_eq (level + 1) item]
  | item :: next :: items => by
    rw [compactItems, Layout.itemChars, Draft.itemChars_comma, compactChars_eq (level + 1) item,
      compactItems_eq level (next :: items)]
    · simp [Layout.compact]
    · nofun

theorem compactFields_eq (level : Nat) : (fields : List (String × Document)) →
    compactFields fields = Layout.compact.fieldChars level [] fields
  | [] => rfl
  | [(name, value)] => by
    simp [compactFields, Layout.fieldChars, Layout.compact, compactChars_eq (level + 1) value]
  | (name, value) :: next :: fields => by
    rw [compactFields, Layout.fieldChars, Draft.fieldChars_comma, compactChars_eq (level + 1) value,
      compactFields_eq level (next :: fields)]
    · simp [Layout.compact]
    · nofun

end

theorem joined_indent (level : Nat) : joined (indent level) = List.replicate (2 * level) ' ' := by
  induction level with
  | zero => rfl
  | succ level ih =>
    rw [indent] at ih
    rw [indent, List.replicate_succ, joined_cons, ih, Nat.mul_succ, Nat.add_comm, List.replicate_add]
    rfl

theorem joined_closing (level : Nat) (isEmpty : Bool) :
    joined (if isEmpty then [] else ["\n"] ++ indent level) = Layout.pretty.closing level isEmpty := by
  cases isEmpty with
  | true => rfl
  | false => simp [joined_indent, Layout.closing, Layout.pretty]

mutual

/-- The pieces of the pretty form join to the form with lines and indentation. -/
theorem joined_pieces (level : Nat) : (d : Document) → joined (pieces level d) = Layout.pretty.chars level d
  | .null => rfl
  | .bool _ => by simp [pieces, Layout.chars]
  | .number _ => by simp [pieces, Layout.chars]
  | .text s => by rw [pieces, joined_quotedPieces, Layout.chars]
  | .time t => by rw [pieces, joined_timePieces, Layout.chars, textChars_text]
  | .list items => by
    rw [pieces, Layout.chars, joined_append, joined_append, joined_append, joined_closing,
      joined_itemPieces level "\n" [] rfl items]
    rfl
  | .record fields => by
    rw [pieces, Layout.chars, joined_append, joined_append, joined_append, joined_closing,
      joined_fieldPieces level "\n" [] rfl fields]
    rfl

theorem joined_itemPieces (level : Nat) (lineBreak : String) (comma : List Char)
    (hbreak : lineBreak.toList = comma ++ ['\n']) : (items : List Document) →
    joined (itemPieces level lineBreak items) = Layout.pretty.itemChars level comma items
  | [] => rfl
  | item :: items => by
    have hrest := joined_itemPieces level ",\n" [','] rfl items
    simp [itemPieces, Layout.itemChars, joined_pieces (level + 1) item, joined_indent, hbreak, hrest,
      Layout.pretty]

theorem joined_fieldPieces (level : Nat) (lineBreak : String) (comma : List Char)
    (hbreak : lineBreak.toList = comma ++ ['\n']) : (fields : List (String × Document)) →
    joined (fieldPieces level lineBreak fields) = Layout.pretty.fieldChars level comma fields
  | [] => rfl
  | (name, value) :: fields => by
    have hrest := joined_fieldPieces level ",\n" [','] rfl fields
    simp [fieldPieces, Layout.fieldChars, joined_pieces (level + 1) value, joined_indent,
      joined_quotedPieces, hbreak, hrest, Layout.pretty]

end

end BlockStorage.Document.Json
