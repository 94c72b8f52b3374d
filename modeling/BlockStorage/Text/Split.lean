/-!
Cutting texts at separators.

`splitAt` cuts at every occurrence of a separator and always yields at least one part; joining the
parts with the separator gives the text back. `cut?` cuts once, at the first occurrence of a word, and
`cutAtByte?` at an offset.
-/

namespace BlockStorage.Text

/-- The parts of a text between the occurrences of a separator. -/
def splitAt (sep : Char) : List Char → List (List Char)
  | [] => [[]]
  | c :: r =>
    if c = sep then [] :: splitAt sep r
    else match splitAt sep r with
      | [] => [[c]]
      | part :: parts => (c :: part) :: parts

/-- Joins parts with a separator between neighbours. -/
def joinWith (sep : List Char) : List (List Char) → List Char
  | [] => []
  | [part] => part
  | part :: parts => part ++ sep ++ joinWith sep parts

/-- What follows a word at the start of a text, if the text starts with the word. -/
def afterWord? : List Char → List Char → Option (List Char)
  | [], s => some s
  | _ :: _, [] => none
  | w :: word, c :: s => if w = c then afterWord? word s else none

/-- The texts before and after the first occurrence of a word. -/
def cut? (word : List Char) : List Char → Option (List Char × List Char)
  | [] => (afterWord? word []).map ([], ·)
  | c :: s =>
    match afterWord? word (c :: s) with
    | some rest => some ([], rest)
    | none => (cut? word s).map fun (before, after) => (c :: before, after)

/-- The texts before and after a byte offset, if it stands between characters. -/
def cutAtByte? : Nat → List Char → Option (List Char × List Char)
  | 0, s => some ([], s)
  | _ + 1, [] => none
  | n + 1, c :: s =>
    if c.utf8Size ≤ n + 1 then
      (cutAtByte? (n + 1 - c.utf8Size) s).map fun (before, after) => (c :: before, after)
    else none

/-- There is always a part, an empty one if need be. -/
theorem splitAt_ne_nil (sep : Char) (s : List Char) : splitAt sep s ≠ [] := by
  cases s with
  | nil => simp [splitAt]
  | cons c r =>
    rw [splitAt]
    split
    · simp
    · split <;> simp

/-- Joining undoes splitting. -/
theorem joinWith_splitAt (sep : Char) (s : List Char) :
    joinWith [sep] (splitAt sep s) = s := by
  induction s with
  | nil => rfl
  | cons c r ih =>
    rw [splitAt]
    split
    · next h =>
      subst h
      cases hr : splitAt c r with
      | nil => exact absurd hr (splitAt_ne_nil c r)
      | cons part parts => rw [hr] at ih; simp [joinWith, ih]
    · cases hr : splitAt sep r with
      | nil => exact absurd hr (splitAt_ne_nil sep r)
      | cons part parts =>
        rw [hr] at ih
        cases parts with
        | nil => simpa [joinWith] using ih
        | cons q qs => simpa [joinWith] using ih

/-- A text without the separator is its only part. -/
theorem splitAt_of_not_mem {sep : Char} {s : List Char} (h : sep ∉ s) : splitAt sep s = [s] := by
  induction s with
  | nil => rfl
  | cons c r ih =>
    have hc : c ≠ sep := fun e => h (by simp [e])
    have hr : sep ∉ r := fun m => h (by simp [m])
    simp [splitAt, hc, ih hr]

end BlockStorage.Text
