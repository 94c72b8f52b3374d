import BlockStorage.Labels
import BlockStorage.Text.Quoted

/-!
Selectors: requirements on labels.

| Form          | Meaning                              |
|---------------|--------------------------------------|
| `key=value`   | the label is there with this value   |
| `key==value`  | the same                             |
| `key!=value`  | the label has not this value         |
| `key`         | the label is there                   |
| `!key`        | the label is not there               |

Several requirements stand in one expression with commas between them. A set of requirements matches
when all of them do (`holds_append`).
-/

namespace BlockStorage

open Text

/-- A requirement on one label. -/
inductive Selector where
  | equals (key value : String)
  | notEquals (key value : String)
  | present (key : String)
  | absent (key : String)
deriving DecidableEq, Repr

namespace Selector

/-- A trimmed key, or the error of the expression that it stands in. -/
def keyOf (expr key : List Char) : Except ParseError String :=
  let key := trim key
  if Labels.isKey key then .ok (String.ofList key)
  else .error (.invalidSelector (String.ofList expr)
    ("invalid label key \"" ++ String.ofList key ++ "\""))

/-- Reads a trimmed requirement. -/
def ofChars (expr : List Char) : Except ParseError Selector :=
  if expr.isEmpty then .error (.invalidSelector "" "empty requirement")
  else match cut? ['!', '='] expr with
  | some (key, value) => do
    let key ← keyOf expr key
    return .notEquals key (String.ofList (trim value))
  | none => match cut? ['=', '='] expr with
    | some (key, value) => do
      let key ← keyOf expr key
      return .equals key (String.ofList (trim value))
    | none => match cut? ['='] expr with
      | some (key, value) => do
        let key ← keyOf expr key
        return .equals key (String.ofList (trim value))
      | none => match afterWord? ['!'] expr with
        | some key => do
          let key ← keyOf expr key
          return .absent key
        | none => do
          let key ← keyOf expr expr
          return .present key

/-- Reads one requirement; blanks around it mean nothing. -/
def parse (expr : String) : Except ParseError Selector := ofChars (trim expr.toList)

/-- Whether labels meet the requirement. -/
def holds (labels : Labels) : Selector → Bool
  | .equals key value => labels.get? key == some value
  | .notEquals key value => labels.get? key != some value
  | .present key => labels.contains key
  | .absent key => !labels.contains key

/-- The requirement as a user writes it. -/
def text : Selector → String
  | .equals key value => key ++ "=" ++ value
  | .notEquals key value => key ++ "!=" ++ value
  | .present key => key
  | .absent key => "!" ++ key

/-- The requirement as logs show it. -/
def logText : Selector → String
  | .equals key value => "Equals(" ++ quoted key ++ ", " ++ quoted value ++ ")"
  | .notEquals key value => "NotEquals(" ++ quoted key ++ ", " ++ quoted value ++ ")"
  | .present key => "Exists(" ++ quoted key ++ ")"
  | .absent key => "NotExists(" ++ quoted key ++ ")"

end Selector

/-- Requirements that must all hold. -/
structure SelectorSet where
  selectors : List Selector
deriving DecidableEq, Repr

namespace SelectorSet

/-- No conditions: all labels meet them. -/
def empty : SelectorSet := ⟨[]⟩

/-- Whether there are no conditions. -/
def isEmpty (set : SelectorSet) : Bool := set.selectors.isEmpty

/-- Reads requirements in order; the first bad one decides the error. -/
def parseParts : List (List Char) → Except ParseError (List Selector)
  | [] => .ok []
  | part :: parts => do
    let selector ← Selector.ofChars (trim part)
    let rest ← parseParts parts
    return selector :: rest

/-- Reads expressions, each of which may hold several requirements with commas between them. -/
def parse (exprs : List String) : Except ParseError SelectorSet := do
  let selectors ← parseParts (exprs.flatMap fun expr => splitAt ',' expr.toList)
  return ⟨selectors⟩

/-- Whether labels meet every requirement. -/
def holds (labels : Labels) (set : SelectorSet) : Bool :=
  set.selectors.all (Selector.holds labels)

/-- The items whose labels meet every requirement, in order. -/
def filter {α : Type} (set : SelectorSet) (labelsOf : α → Labels) (items : List α) : List α :=
  items.filter fun item => set.holds (labelsOf item)

/-- Requirements together hold when both parts do. -/
theorem holds_append (labels : Labels) (xs ys : List Selector) :
    holds labels ⟨xs ++ ys⟩ = (holds labels ⟨xs⟩ && holds labels ⟨ys⟩) := by
  simp [holds]

end SelectorSet

end BlockStorage
