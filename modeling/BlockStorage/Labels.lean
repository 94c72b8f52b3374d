import BlockStorage.Error.Parse
import BlockStorage.Text.Blank
import BlockStorage.Text.Split

/-!
Labels: a map from keys to values in ascending order of the keys.

A list of `key=value` texts gives a map in which the last text with a key wins; the text of a map
lists its entries in order with commas between them. A key that was inserted is found with its value
and no other key is touched (`get?_insert`).
-/

namespace BlockStorage

open Text

/-- The entries after a key has got a value, in the place that the order of the keys asks for. -/
def insertEntry (key value : String) : List (String × String) → List (String × String)
  | [] => [(key, value)]
  | (k, v) :: rest =>
    if key < k then (key, value) :: (k, v) :: rest
    else if key = k then (key, value) :: rest
    else (k, v) :: insertEntry key value rest

/-- The value of the first entry with a key. -/
def lookupEntry (key : String) : List (String × String) → Option String
  | [] => none
  | (k, v) :: rest => if k = key then some v else lookupEntry key rest

/-- An entry of the result is the new one, or an old one with another key. -/
theorem mem_insertEntry {key value : String} {e : String × String} {es : List (String × String)}
    (h : e ∈ insertEntry key value es) : e = (key, value) ∨ e ∈ es := by
  induction es with
  | nil => simpa [insertEntry] using h
  | cons x xs ih =>
    obtain ⟨k, v⟩ := x
    rw [insertEntry] at h
    split at h
    · simpa using h
    · split at h
      · rcases List.mem_cons.1 h with h | h
        · exact .inl h
        · exact .inr (List.mem_cons_of_mem _ h)
      · rcases List.mem_cons.1 h with h | h
        · exact .inr (by simp [h])
        · exact (ih h).imp_right (List.mem_cons_of_mem _)

/-- Putting an entry in its place keeps the order of the keys. -/
theorem pairwise_insertEntry {key value : String} {es : List (String × String)}
    (h : es.Pairwise (·.1 < ·.1)) : (insertEntry key value es).Pairwise (·.1 < ·.1) := by
  induction es with
  | nil => simp [insertEntry]
  | cons x xs ih =>
    obtain ⟨k, v⟩ := x
    rw [List.pairwise_cons] at h
    rw [insertEntry]
    split
    · next hlt =>
      refine List.pairwise_cons.2 ⟨fun e he => ?_, List.pairwise_cons.2 h⟩
      rcases List.mem_cons.1 he with rfl | he
      · exact hlt
      · exact String.lt_trans hlt (h.1 e he)
    · next hlt =>
      split
      · next heq => subst heq; exact List.pairwise_cons.2 ⟨h.1, h.2⟩
      · next hne =>
        refine List.pairwise_cons.2 ⟨fun e he => ?_, ih h.2⟩
        rcases mem_insertEntry he with rfl | he
        · exact String.not_le.1 fun hle => hne (String.le_antisymm hle (String.not_lt.1 hlt))
        · exact h.1 e he

/-- A map from label keys to label values. -/
structure Labels where
  entries : List (String × String)
  ascending : entries.Pairwise (·.1 < ·.1)

namespace Labels

@[ext] theorem ext {a b : Labels} (h : a.entries = b.entries) : a = b := by
  cases a; cases b; simpa using h

instance : DecidableEq Labels := fun a b =>
  if h : a.entries = b.entries then .isTrue (ext h) else .isFalse fun e => h (by rw [e])

/-- No labels at all. -/
def empty : Labels := ⟨[], .nil⟩

instance : Inhabited Labels := ⟨empty⟩

/-- The map with a key set to a value. -/
def insert (labels : Labels) (key value : String) : Labels :=
  ⟨insertEntry key value labels.entries, pairwise_insertEntry labels.ascending⟩

/-- The value of a key. -/
def get? (labels : Labels) (key : String) : Option String := lookupEntry key labels.entries

/-- Whether the key has a value. -/
def contains (labels : Labels) (key : String) : Bool := (labels.get? key).isSome

/-- The map of a list of entries, in which later entries win. -/
def ofList (entries : List (String × String)) : Labels :=
  entries.foldl (fun labels (key, value) => labels.insert key value) empty

@[simp] theorem get?_insert (labels : Labels) (key value other : String) :
    (labels.insert key value).get? other = if key = other then some value else labels.get? other := by
  obtain ⟨es, hs⟩ := labels
  simp only [get?, insert]
  induction es with
  | nil => simp [insertEntry, lookupEntry]
  | cons x xs ih =>
    obtain ⟨k, v⟩ := x
    rw [insertEntry]
    split
    · simp [lookupEntry]
    · split
      · next heq => subst heq; simp only [lookupEntry]; split <;> rfl
      · next hne =>
        simp only [lookupEntry, ih (List.pairwise_cons.1 hs).2]
        by_cases hk : k = other
        · subst hk; simp [hne]
        · simp [hk]

/-- The characters that a label key may hold. -/
def isKeyChar (c : Char) : Bool :=
  c.isAlphanum || c = '-' || c = '_' || c = '.' || c = '/'

/-- Whether a text can be a label key. -/
def isKey (key : List Char) : Bool := !key.isEmpty && key.all isKeyChar

/-- Reads a `key=value` text. -/
def entryOfText? (pair : String) : Option (String × String) := do
  let (key, value) ← cut? ['='] pair.toList
  if isKey (trim key) then some (String.ofList (trim key), String.ofList (trim value)) else none

/-- Adds the entries of a list of texts to a map. -/
def parseInto (labels : Labels) : List String → Except ParseError Labels
  | [] => .ok labels
  | pair :: pairs =>
    match entryOfText? pair with
    | some (key, value) => parseInto (labels.insert key value) pairs
    | none => .error (.invalidLabel pair)

/-- Reads a list of `key=value` texts; a failure names the first bad one. -/
def parse (pairs : List String) : Except ParseError Labels := parseInto empty pairs

/-- The entries in order, as `key=value` with commas between them. -/
def text (labels : Labels) : String :=
  ",".intercalate (labels.entries.map fun (key, value) => key ++ "=" ++ value)

end Labels

end BlockStorage
