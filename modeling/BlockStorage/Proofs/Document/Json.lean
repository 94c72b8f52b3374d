import BlockStorage.Proofs.Document.Leaf
import Mathlib.Data.List.DropRight

/-!
Documents are read as they are written in JSON.

The compact and the pretty form differ in the blanks between their parts and in nothing else. So both are
one form with a layout, and the reader is proved for every layout, by induction along the document. The
fuel of the reader is never short, because each step of it is paid by a character of the text.
-/

namespace BlockStorage

open Text

/-! ### Blanks -/

namespace Draft

/-- The characters that may stand between the parts of a text. -/
def isSpace (c : Char) : Bool := c = ' ' || c = '\n' || c = '\t' || c = '\r'

theorem skipBlanks_append {blanks : List Char} (h : ∀ c ∈ blanks, isSpace c = true) (s : List Char) :
    skipBlanks (blanks ++ s) = skipBlanks s := List.dropWhile_append_of_pos h

theorem skipBlanks_cons {c : Char} (h : isSpace c = false) (s : List Char) :
    skipBlanks (c :: s) = c :: s :=
  List.dropWhile_cons_of_neg (p := isSpace) (Bool.eq_false_iff.1 h)

@[simp] theorem skipBlanks_skipBlanks (s : List Char) : skipBlanks (skipBlanks s) = skipBlanks s :=
  List.dropWhile_idempotent _ s

/-- Blanks in front of a value are passed over. -/
theorem ofChars_skipBlanks (fuel : Nat) (s : List Char) : ofChars fuel (skipBlanks s) = ofChars fuel s := by
  cases fuel with
  | zero => rfl
  | succ fuel => rw [ofChars, ofChars, skipBlanks_skipBlanks]

theorem ofChars_append {blanks : List Char} (h : ∀ c ∈ blanks, isSpace c = true) (fuel : Nat)
    (s : List Char) : ofChars fuel (blanks ++ s) = ofChars fuel s := by
  rw [← ofChars_skipBlanks, skipBlanks_append h, ofChars_skipBlanks]

theorem itemsOfChars_skipBlanks (fuel : Nat) (s : List Char) :
    itemsOfChars fuel (skipBlanks s) = itemsOfChars fuel s := by
  cases fuel with
  | zero => rfl
  | succ fuel => rw [itemsOfChars, itemsOfChars, ofChars_skipBlanks]

theorem entriesOfChars_skipBlanks (fuel : Nat) (s : List Char) :
    entriesOfChars fuel (skipBlanks s) = entriesOfChars fuel s := by
  cases fuel with
  | zero => rfl
  | succ fuel => rw [entriesOfChars, entriesOfChars, ofChars_skipBlanks]

end Draft

namespace Document

/-! ### Numbers of 64 bits -/

mutual

/-- Every number in a document fits a word of 64 bits. -/
def InRange : Document → Prop
  | .number n => n < UInt64.size
  | .list items => ItemsInRange items
  | .record fields => FieldsInRange fields
  | _ => True

/-- Every number in a list of documents fits a word of 64 bits. -/
def ItemsInRange : List Document → Prop
  | [] => True
  | item :: items => InRange item ∧ ItemsInRange items

/-- Every number in a list of fields fits a word of 64 bits. -/
def FieldsInRange : List (String × Document) → Prop
  | [] => True
  | (_, value) :: fields => InRange value ∧ FieldsInRange fields

end

namespace Json

open Draft (isSpace)

/-! ### Layouts -/

/-- The blanks in front of an item at a level, and those between a name and its value. -/
structure Layout where
  lineBreak : Nat → List Char
  gap : List Char
  isSpace_lineBreak : ∀ level, ∀ c ∈ lineBreak level, isSpace c = true
  isSpace_gap : ∀ c ∈ gap, isSpace c = true

namespace Layout

variable (layout : Layout)

/-- The blanks in front of the end of a list or a record, which has none if it is empty. -/
def closing (level : Nat) (isEmpty : Bool) : List Char := if isEmpty then [] else layout.lineBreak level

mutual

/-- The form of a document with a layout. -/
def chars (level : Nat) : Document → List Char
  | .list items => '[' :: itemChars level [] items ++ layout.closing level items.isEmpty ++ [']']
  | .record fields =>
    '\x7b' :: fieldChars level [] fields ++ layout.closing level fields.isEmpty ++ ['\x7d']
  | .null => "null".toList
  | .bool value => (toString value).toList
  | .number value => Nat.toDigits 10 value
  | .text value => textChars value
  | .time value => textChars value.text

/-- The items of a list; the comma is empty in front of the first. -/
def itemChars (level : Nat) (comma : List Char) : List Document → List Char
  | [] => []
  | item :: items =>
    comma ++ layout.lineBreak (level + 1) ++ chars (level + 1) item ++ itemChars level [','] items

/-- The fields of a record; the comma is empty in front of the first. -/
def fieldChars (level : Nat) (comma : List Char) : List (String × Document) → List Char
  | [] => []
  | (name, value) :: fields =>
    comma ++ layout.lineBreak (level + 1) ++ textChars name ++ [':'] ++ layout.gap ++
      chars (level + 1) value ++ fieldChars level [','] fields

end

end Layout

end Json

end Document

namespace Draft

open Document.Json Document

/-! ### Reading -/

theorem toDigits_eq_cons (n : Nat) :
    ∃ c digits, Nat.toDigits 10 n = c :: digits ∧ isDigit c = true := by
  obtain ⟨c, digits, heq⟩ := List.exists_cons_of_ne_nil (Nat.toDigits_ne_nil (n := n) (b := 10))
  exact ⟨c, digits, heq, isDigit_of_mem_toDigits (heq ▸ List.mem_cons_self)⟩

theorem isSpace_of_isDigit {c : Char} (h : isDigit c = true) : isSpace c = false := by
  rw [Bool.eq_false_iff]
  intro hspace
  simp only [isSpace, Bool.or_eq_true, decide_eq_true_eq] at hspace
  rcases hspace with ((rfl | rfl) | rfl) | rfl <;> cases h

/-- The first character of a value tells what the value is; it is no blank and ends nothing. -/
theorem chars_eq_cons (layout : Layout) (level : Nat) (d : Document) :
    ∃ c s, layout.chars level d = c :: s ∧ isSpace c = false ∧ c ≠ ']' := by
  cases d with
  | null => exact ⟨'n', _, rfl, by decide, by decide⟩
  | bool value => cases value with
    | true => exact ⟨'t', _, rfl, by decide, by decide⟩
    | false => exact ⟨'f', _, rfl, by decide, by decide⟩
  | number n =>
    obtain ⟨c, digits, heq, hdigit⟩ := toDigits_eq_cons n
    refine ⟨c, digits, heq, isSpace_of_isDigit hdigit, ?_⟩
    rintro rfl
    cases hdigit
  | text s => exact ⟨'"', _, rfl, by decide, by decide⟩
  | time t => exact ⟨'"', _, rfl, by decide, by decide⟩
  | list items => exact ⟨'[', _, rfl, by decide, by decide⟩
  | record fields => exact ⟨'\x7b', _, rfl, by decide, by decide⟩

theorem ofChars_text (s : String) (fuel : Nat) (rest : List Char) :
    ofChars (fuel + 1) (textChars s ++ rest) = (.text (goodLeaf s), some rest) := by
  have hquoted : textChars s ++ rest = '"' :: (escaped s.toList ++ '"' :: rest) := by simp [textChars]
  rw [hquoted, ofChars, skipBlanks_cons (by decide)]
  exact textLeaf_escaped s rest

theorem ofChars_number {n : Nat} (hn : n < UInt64.size) (fuel : Nat) {rest : List Char}
    (hrest : Ends rest) :
    ofChars (fuel + 1) (Nat.toDigits 10 n ++ rest) = (.scalar (goodLeaf (.natural n)), some rest) := by
  have hleaf := numberLeaf_toDigits hn hrest
  obtain ⟨c, digits, heq, hdigit⟩ := toDigits_eq_cons n
  have other {special : Char} (hspecial : isDigit special = false) : c ≠ special := by
    rintro rfl
    rw [hdigit] at hspecial
    cases hspecial
  rw [heq, List.cons_append] at hleaf ⊢
  rw [ofChars, skipBlanks_cons (isSpace_of_isDigit hdigit)]
  simp [hdigit, other (by decide : isDigit '"' = false), other (by decide : isDigit 'n' = false),
    other (by decide : isDigit 't' = false), other (by decide : isDigit 'f' = false),
    other (by decide : isDigit '-' = false), other (by decide : isDigit '[' = false),
    other (by decide : isDigit '\x7b' = false), hleaf]

theorem expectWord_append (word rest : List Char) : expectWord word (word ++ rest) = .ok rest := by
  induction word with
  | nil => cases rest <;> rfl
  | cons c word ih => rw [List.cons_append, expectWord, if_pos rfl, ih]

/-! One step of the reader -/

theorem ofChars_list {fuel : Nat} {s rest : List Char} {items : Items} {c : Char} {t : List Char}
    (hstart : skipBlanks s = c :: t) (hc : c ≠ ']') (hitems : itemsOfChars fuel s = (items, some rest)) :
    ofChars (fuel + 1) ('[' :: s) = (.list items, some rest) := by
  rw [← itemsOfChars_skipBlanks, hstart] at hitems
  rw [ofChars, skipBlanks_cons (by decide)]
  simp [hstart, hc, hitems]

theorem ofChars_record {fuel : Nat} {s rest : List Char} {entries : Entries} {c : Char} {t : List Char}
    (hstart : skipBlanks s = c :: t) (hc : c ≠ '\x7d')
    (hentries : entriesOfChars fuel s = (entries, some rest)) :
    ofChars (fuel + 1) ('\x7b' :: s) = (.record entries, some rest) := by
  rw [← entriesOfChars_skipBlanks, hstart] at hentries
  rw [ofChars, skipBlanks_cons (by decide)]
  simp [hstart, hc, hentries]

variable {fuel : Nat} {s after after' rest : List Char} {value : Draft}

theorem itemsOfChars_last (hvalue : ofChars fuel s = (value, some after))
    (hend : skipBlanks after = ']' :: rest) :
    itemsOfChars (fuel + 1) s = (.item value .closed, some rest) := by
  simp [itemsOfChars, hvalue, hend]

theorem itemsOfChars_next {items : Items} (hvalue : ofChars fuel s = (value, some after))
    (hcomma : skipBlanks after = ',' :: after') (hrest : itemsOfChars fuel after' = (items, some rest)) :
    itemsOfChars (fuel + 1) s = (.item value items, some rest) := by
  simp [itemsOfChars, hvalue, hcomma, hrest]

variable {key : Leaf String} {afterKey beforeValue : List Char}

theorem entriesOfChars_last (hkey : ofChars fuel s = (.text key, some afterKey))
    (hcolon : skipBlanks afterKey = ':' :: beforeValue)
    (hvalue : ofChars fuel beforeValue = (value, some after)) (hend : skipBlanks after = '\x7d' :: rest) :
    entriesOfChars (fuel + 1) s = (.entry (.text key) value .closed, some rest) := by
  simp [entriesOfChars, hkey, hcolon, hvalue, hend]

theorem entriesOfChars_next {entries : Entries} (hkey : ofChars fuel s = (.text key, some afterKey))
    (hcolon : skipBlanks afterKey = ':' :: beforeValue)
    (hvalue : ofChars fuel beforeValue = (value, some after)) (hcomma : skipBlanks after = ',' :: after')
    (hrest : entriesOfChars fuel after' = (entries, some rest)) :
    entriesOfChars (fuel + 1) s = (.entry (.text key) value entries, some rest) := by
  simp [entriesOfChars, hkey, hcolon, hvalue, hcomma, hrest]

/-- No blank carries a number on. -/
theorem ends_of_isSpace {rest : List Char} (h : ∀ c ∈ rest.head?, isSpace c = true) : Ends rest := by
  intro c hc
  have hspace := h c hc
  simp only [isSpace, Bool.or_eq_true, decide_eq_true_eq] at hspace
  rcases hspace with ((rfl | rfl) | rfl) | rfl <;> decide

/-- No mark of a list or a record carries a number on. -/
theorem ends_cons {mark : Char} (hmark : mark = ',' ∨ mark = ']' ∨ mark = '\x7d') (rest : List Char) :
    Ends (mark :: rest) := by
  intro c hc
  obtain rfl : mark = c := by simpa using hc
  rcases hmark with rfl | rfl | rfl <;> decide

theorem ends_append {blanks : List Char} (h : ∀ c ∈ blanks, isSpace c = true) {rest : List Char}
    (hrest : Ends rest) : Ends (blanks ++ rest) := by
  cases blanks with
  | nil => exact hrest
  | cons blank blanks => exact ends_of_isSpace (by simpa using h blank List.mem_cons_self)

theorem skipBlanks_lineBreak (layout : Layout) (level : Nat) {c : Char} (hc : isSpace c = false)
    (s : List Char) : skipBlanks (layout.lineBreak level ++ c :: s) = c :: s := by
  rw [skipBlanks_append (layout.isSpace_lineBreak level), skipBlanks_cons hc]

/-- The items of a list start with the first character of the first item. -/
theorem skipBlanks_itemChars (layout : Layout) (level : Nat) (item : Document) (items : List Document)
    (rest : List Char) :
    ∃ c t, skipBlanks (layout.itemChars level [] (item :: items) ++ rest) = c :: t ∧ c ≠ ']' := by
  obtain ⟨c, s, hchars, hspace, hc⟩ := chars_eq_cons layout (level + 1) item
  refine ⟨c, s ++ layout.itemChars level [','] items ++ rest, ?_, hc⟩
  simp only [Layout.itemChars, hchars, List.nil_append, List.append_assoc, List.cons_append]
  exact skipBlanks_lineBreak layout (level + 1) hspace _

/-- The fields of a record start with the quote of the first name. -/
theorem skipBlanks_fieldChars (layout : Layout) (level : Nat) (field : String × Document)
    (fields : List (String × Document)) (rest : List Char) :
    ∃ t, skipBlanks (layout.fieldChars level [] (field :: fields) ++ rest) = '"' :: t := by
  obtain ⟨name, value⟩ := field
  refine ⟨escaped name.toList ++ '"' :: ':' :: layout.gap ++ layout.chars (level + 1) value ++
    layout.fieldChars level [','] fields ++ rest, ?_⟩
  simp only [Layout.fieldChars, textChars, List.nil_append, List.append_assoc, List.cons_append]
  exact skipBlanks_lineBreak layout (level + 1) (by decide) _

/-- The rest of the items stand behind a comma. -/
theorem itemChars_comma (layout : Layout) (level : Nat) (item : Document) (items : List Document) :
    layout.itemChars level [','] (item :: items) = ',' :: layout.itemChars level [] (item :: items) := by
  simp [Layout.itemChars]

theorem fieldChars_comma (layout : Layout) (level : Nat) (field : String × Document)
    (fields : List (String × Document)) :
    layout.fieldChars level [','] (field :: fields) =
      ',' :: layout.fieldChars level [] (field :: fields) := by
  simp [Layout.fieldChars]

/-- The name of a field with the blanks in front of it. -/
def fieldStart (layout : Layout) (level : Nat) (name : String) : List Char :=
  layout.lineBreak (level + 1) ++ textChars name

theorem ofChars_fieldStart (layout : Layout) (level : Nat) (name : String) (hfuel : 0 < fuel)
    (rest : List Char) :
    ofChars fuel (fieldStart layout level name ++ rest) = (.text (goodLeaf name), some rest) := by
  obtain ⟨fuel, rfl⟩ := Nat.exists_eq_add_one.2 hfuel
  rw [fieldStart, List.append_assoc, ofChars_append (layout.isSpace_lineBreak (level + 1)), ofChars_text]

mutual

/-- **A document is read as it is written**, up to its last character. -/
theorem ofChars_chars (layout : Layout) : (d : Document) → (level : Nat) → d.InRange → {fuel : Nat} →
    (layout.chars level d).length ≤ fuel → {rest : List Char} → Ends rest →
      ofChars fuel (layout.chars level d ++ rest) = (ofDocument d, some rest)
  | .null, _, _, fuel + 1, _, rest, _ => by
    have hword : "null".toList ++ rest = 'n' :: (['u', 'l', 'l'] ++ rest) := rfl
    rw [Layout.chars, hword, ofChars, skipBlanks_cons (by decide)]
    simp only [wordLeaf, expectWord_append]
    rfl
  | .bool true, _, _, fuel + 1, _, rest, _ => by
    have hword : (toString true).toList ++ rest = 't' :: (['r', 'u', 'e'] ++ rest) := rfl
    rw [Layout.chars, hword, ofChars, skipBlanks_cons (by decide)]
    simp only [wordLeaf, expectWord_append]
    rfl
  | .bool false, _, _, fuel + 1, _, rest, _ => by
    have hword : (toString false).toList ++ rest = 'f' :: (['a', 'l', 's', 'e'] ++ rest) := rfl
    rw [Layout.chars, hword, ofChars, skipBlanks_cons (by decide)]
    simp only [wordLeaf, expectWord_append]
    rfl
  | .number n, _, hn, fuel + 1, _, rest, hrest => ofChars_number hn fuel hrest
  | .text s, _, _, fuel + 1, _, rest, _ => ofChars_text s fuel rest
  | .time t, _, _, fuel + 1, _, rest, _ => ofChars_text t.text fuel rest
  | .list [], level, _, fuel + 1, _, rest, _ => by
    have hlayout : layout.chars level (.list []) ++ rest = '[' :: ']' :: rest := rfl
    rw [hlayout, ofChars, skipBlanks_cons (by decide)]
    simp only [skipBlanks_cons (by decide : isSpace ']' = false)]
    rfl
  | .list (item :: items), level, hrange, fuel + 1, hfuel, rest, _ => by
    have hlayout : layout.chars level (.list (item :: items)) ++ rest =
        '[' :: (layout.itemChars level [] (item :: items) ++ (layout.lineBreak level ++ ']' :: rest)) := by
      simp [Layout.chars, Layout.closing]
    have hlength : (layout.itemChars level [] (item :: items)).length < fuel := by
      simp only [Layout.chars, List.length_append, List.length_cons, List.length_nil] at hfuel
      omega
    obtain ⟨c, t, hstart, hc⟩ := skipBlanks_itemChars layout level item items
      (layout.lineBreak level ++ ']' :: rest)
    rw [hlayout]
    exact ofChars_list hstart hc
      (itemsOfChars_itemChars layout (item :: items) level (by simp) hrange hlength rest)
  | .record [], level, _, fuel + 1, _, rest, _ => by
    have hlayout : layout.chars level (.record []) ++ rest = '\x7b' :: '\x7d' :: rest := rfl
    rw [hlayout, ofChars, skipBlanks_cons (by decide)]
    simp only [skipBlanks_cons (by decide : isSpace '\x7d' = false)]
    rfl
  | .record (field :: fields), level, hrange, fuel + 1, hfuel, rest, _ => by
    have hlayout : layout.chars level (.record (field :: fields)) ++ rest =
        '\x7b' :: (layout.fieldChars level [] (field :: fields) ++
          (layout.lineBreak level ++ '\x7d' :: rest)) := by
      simp [Layout.chars, Layout.closing]
    have hlength : (layout.fieldChars level [] (field :: fields)).length < fuel := by
      simp only [Layout.chars, List.length_append, List.length_cons, List.length_nil] at hfuel
      omega
    obtain ⟨t, hstart⟩ := skipBlanks_fieldChars layout level field fields
      (layout.lineBreak level ++ '\x7d' :: rest)
    rw [hlayout]
    exact ofChars_record hstart (by decide)
      (entriesOfChars_fieldChars layout (field :: fields) level (by simp) hrange hlength rest)
  | d, level, _, 0, hfuel, _, _ => by
    obtain ⟨c, s, hchars, -⟩ := chars_eq_cons layout level d
    simp [hchars] at hfuel

/-- The items of a list are read as they are written, up to the end of the list. -/
theorem itemsOfChars_itemChars (layout : Layout) : (items : List Document) → (level : Nat) →
    items ≠ [] → ItemsInRange items → {fuel : Nat} → (layout.itemChars level [] items).length < fuel →
    (rest : List Char) →
      itemsOfChars fuel (layout.itemChars level [] items ++ (layout.lineBreak level ++ ']' :: rest)) =
        (ofItems items, some rest)
  | [item], level, _, hrange, fuel + 1, hfuel, rest => by
    have hlayout : layout.itemChars level [] [item] ++ (layout.lineBreak level ++ ']' :: rest) =
        layout.lineBreak (level + 1) ++ (layout.chars (level + 1) item ++
          (layout.lineBreak level ++ ']' :: rest)) := by simp [Layout.itemChars]
    have hlength : (layout.chars (level + 1) item).length ≤ fuel := by
      simp only [Layout.itemChars, List.length_append, List.length_nil] at hfuel
      omega
    have hitem := ofChars_chars layout item (level + 1) hrange.1 hlength
      (ends_append (layout.isSpace_lineBreak level) (ends_cons (.inr (.inl rfl)) rest))
    rw [← ofChars_append (layout.isSpace_lineBreak (level + 1)), ← hlayout] at hitem
    exact itemsOfChars_last hitem (skipBlanks_lineBreak layout level (by decide) rest)
  | item :: next :: items, level, _, hrange, fuel + 1, hfuel, rest => by
    have hlayout (tail : List Char) : layout.itemChars level [] (item :: next :: items) ++ tail =
        layout.lineBreak (level + 1) ++ (layout.chars (level + 1) item ++
          (',' :: (layout.itemChars level [] (next :: items) ++ tail))) := by
      rw [Layout.itemChars, itemChars_comma]
      simp
    have hlengths : (layout.chars (level + 1) item).length ≤ fuel ∧
        (layout.itemChars level [] (next :: items)).length < fuel := by
      rw [Layout.itemChars, itemChars_comma] at hfuel
      simp only [List.length_append, List.length_cons, List.length_nil] at hfuel
      omega
    have hitem := ofChars_chars layout item (level + 1) hrange.1 hlengths.1
      (ends_cons (.inl rfl) (layout.itemChars level [] (next :: items) ++
        (layout.lineBreak level ++ ']' :: rest)))
    have hitems := itemsOfChars_itemChars layout (next :: items) level (by simp) hrange.2 hlengths.2 rest
    rw [← ofChars_append (layout.isSpace_lineBreak (level + 1)), ← hlayout] at hitem
    exact itemsOfChars_next hitem (skipBlanks_cons (by decide) _) hitems

/-- The fields of a record are read as they are written, up to the end of the record. -/
theorem entriesOfChars_fieldChars (layout : Layout) : (fields : List (String × Document)) →
    (level : Nat) → fields ≠ [] → FieldsInRange fields → {fuel : Nat} →
    (layout.fieldChars level [] fields).length < fuel → (rest : List Char) →
      entriesOfChars fuel (layout.fieldChars level [] fields ++ (layout.lineBreak level ++ '\x7d' :: rest)) =
        (ofFields fields, some rest)
  | [(name, value)], level, _, hrange, fuel + 1, hfuel, rest => by
    have hlayout : layout.fieldChars level [] [(name, value)] ++ (layout.lineBreak level ++ '\x7d' :: rest) =
        fieldStart layout level name ++ ':' :: (layout.gap ++ (layout.chars (level + 1) value ++
          (layout.lineBreak level ++ '\x7d' :: rest))) := by
      simp [Layout.fieldChars, fieldStart]
    have hlengths : 0 < fuel ∧ (layout.chars (level + 1) value).length ≤ fuel := by
      simp only [Layout.fieldChars, textChars, List.length_append, List.length_cons,
        List.length_nil] at hfuel
      omega
    have hvalue := ofChars_chars layout value (level + 1) hrange.1 hlengths.2
      (ends_append (layout.isSpace_lineBreak level) (ends_cons (.inr (.inr rfl)) rest))
    rw [← ofChars_append layout.isSpace_gap] at hvalue
    rw [hlayout]
    exact entriesOfChars_last (ofChars_fieldStart layout level name hlengths.1 _)
      (skipBlanks_cons (by decide) _) hvalue (skipBlanks_lineBreak layout level (by decide) rest)
  | (name, value) :: next :: fields, level, _, hrange, fuel + 1, hfuel, rest => by
    have hlayout (tail : List Char) : layout.fieldChars level [] ((name, value) :: next :: fields) ++ tail =
        fieldStart layout level name ++ ':' :: (layout.gap ++ (layout.chars (level + 1) value ++
          (',' :: (layout.fieldChars level [] (next :: fields) ++ tail)))) := by
      rw [Layout.fieldChars, fieldChars_comma]
      simp [fieldStart]
    have hlengths : 0 < fuel ∧ (layout.chars (level + 1) value).length ≤ fuel ∧
        (layout.fieldChars level [] (next :: fields)).length < fuel := by
      rw [Layout.fieldChars, fieldChars_comma] at hfuel
      simp only [textChars, List.length_append, List.length_cons, List.length_nil] at hfuel
      omega
    have hvalue := ofChars_chars layout value (level + 1) hrange.1 hlengths.2.1
      (ends_cons (.inl rfl) (layout.fieldChars level [] (next :: fields) ++
        (layout.lineBreak level ++ '\x7d' :: rest)))
    have hfields := entriesOfChars_fieldChars layout (next :: fields) level (by simp) hrange.2
      hlengths.2.2 rest
    rw [← ofChars_append layout.isSpace_gap] at hvalue
    rw [hlayout]
    exact entriesOfChars_next (ofChars_fieldStart layout level name hlengths.1 _)
      (skipBlanks_cons (by decide) _) hvalue (skipBlanks_cons (by decide) _) hfields

end

/-- **The text of a document is read as the document**, also with blanks behind it. -/
theorem ofText_chars (layout : Layout) {d : Document} (hrange : d.InRange) {blanks : List Char}
    (hblanks : ∀ c ∈ blanks, isSpace c = true) :
    ofText (layout.chars 0 d ++ blanks) = (ofDocument d, false) := by
  have hends : Ends blanks := ends_of_isSpace fun c hc => hblanks c (List.mem_of_mem_head? hc)
  have hfuel : (layout.chars 0 d).length ≤ 2 * (layout.chars 0 d ++ blanks).length + 2 := by
    rw [List.length_append]
    omega
  have hnothing : skipBlanks blanks = [] := by
    rw [← List.append_nil blanks, skipBlanks_append hblanks]
    rfl
  rw [ofText, ofChars_chars layout d 0 hrange hfuel hends]
  simp [hnothing]

end Draft

end BlockStorage
