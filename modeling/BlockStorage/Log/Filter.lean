import BlockStorage.Log.Directive

/-!
Filters of the log: which events are told.

A filter is a list of directives, written with commas between them. Of the directives about an event
the one that says most about it decides, and of equal ones the last.
-/

namespace BlockStorage.Log

open Text

/-- The directives in the order in which they were given. -/
abbrev Filter := List Directive

namespace Filter

/-- The filter that tells errors only. -/
def errorsOnly : Filter := [⟨none, none, none, some .error⟩]

/-- The parts of a text between commas that are not empty. -/
def parts (s : String) : List (List Char) :=
  (splitAt ',' s.toList).filter fun part => !part.isEmpty

/-- The filter of directives; without any it tells errors only. -/
def ofDirectives (directives : List Directive) : Filter :=
  if directives.isEmpty then errorsOnly else directives

/-- Reads a filter if all its directives are good. -/
def parse (s : String) : Except DirectiveError Filter :=
  ((parts s).mapM Directive.parse).map ofDirectives

/-- Reads a filter of the directives that are good. -/
def ofGood (s : String) : Filter :=
  ofDirectives ((parts s).filterMap fun part => (Directive.parse part).toOption)

/-- What is said of a part that is no directive. -/
def warning? (part : List Char) : Option String :=
  match Directive.parse part with
  | .ok _ => none
  | .error error => some ("ignoring `" ++ String.ofList part ++ "`: " ++ error.message)

/-- What is said of the directives that are not good. -/
def warnings (s : String) : List String := (parts s).filterMap warning?

/-- The filter of a run, and what is said of it: the one that the environment asks for if it is good,
or else the good directives of the settings. -/
def choose (asked : Option String) (fallback : String) : Filter × List String :=
  match asked.map parse with
  | some (.ok filter) => (filter, [])
  | _ => (ofGood fallback, warnings fallback)

/-- The directive that decides about an event. -/
def deciding (filter : Filter) (event : Event) : Option Directive :=
  (filter.filter fun d => d.covers event).foldl
    (fun best d =>
      match best with
      | some other => if other.yieldsTo d then some d else some other
      | none => some d)
    none

/-- Whether an event is told. -/
def tells (filter : Filter) (event : Event) : Bool :=
  (filter.deciding event).any fun d => d.admits event

end Filter

end BlockStorage.Log
