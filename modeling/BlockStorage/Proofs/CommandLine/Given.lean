import BlockStorage.CommandLine.Parser
import BlockStorage.Proofs.Failure

/-!
What a command line gives by itself.

The environment decides whether a command line is accepted, and stands in for what it does not give. What it
gives does not depend on the environment. Every slot that it gives has a value, but for the flags that have
none to take.
-/

namespace BlockStorage.CommandLine

open Level (Environment)

/-! ### Reading -/

/-- The word of a command that an argument is, with what is behind it. -/
def wordAt? (g : Grammar) (level : Level) (argument : String) : Option (String × Grammar) :=
  if !level.isTrailing && !level.isWaiting then g.step? argument else none

/-- An argument asks for help on the words behind it. -/
def AsksHelp (g : Grammar) (level : Level) (argument : String) : Prop :=
  (∃ branches, g = .group branches) ∧ (!level.isTrailing && !level.isWaiting && argument = "help") = true

section

variable {environment : Environment} {atRoot hasWord : Bool} {g : Grammar} {level : Level} {given : Given}
  {argument : String} {arguments : List String} {result : List String × Given × Form}

/-- Arguments are read when the first is a word and the others are read behind it, or when the first is taken
and the others are read then. -/
theorem read_cons_iff : read environment atRoot g level (argument :: arguments) = .ok result ↔
    (∃ name behind words inner form given, wordAt? g level argument = some (name, behind) ∧
      read environment false behind (.start behind) arguments = .ok (words, inner, form) ∧
      finish g environment true level = .ok given ∧ result = (name :: words, inner ++ given, form)) ∨
    (wordAt? g level argument = none ∧ ¬AsksHelp g level argument ∧
      ∃ level', takeArgument g atRoot level argument = .ok level' ∧
        read environment atRoot g level' arguments = .ok result) := by
  conv =>
    lhs
    unfold read
  simp only
  rw [← wordAt?]
  cases hword : wordAt? g level argument with
  | some word =>
    obtain ⟨name, behind⟩ := word
    simp only [Option.some.injEq, reduceCtorEq, false_and, or_false]
    constructor
    · intro h
      obtain ⟨⟨words, inner, form⟩, hread, h⟩ := bind_eq_ok h
      obtain ⟨given, hgiven, h⟩ := bind_eq_ok h
      exact ⟨name, behind, words, inner, form, given, rfl, hread, hgiven, (Except.ok.inj h).symm⟩
    · rintro ⟨_, _, words, inner, form, given, ⟨rfl, rfl⟩, hread, hgiven, rfl⟩
      rw [hread]
      simp only [bind, Except.bind]
      rw [hgiven]
      rfl
  | none =>
    simp only [reduceCtorEq, false_and, exists_false, false_or, true_and]
    cases g with
    | group branches =>
      simp only [AsksHelp, Grammar.group.injEq, exists_eq', true_and]
      split
      · rename_i hhelp
        exact iff_of_false nofun fun h => h.1 hhelp
      · rename_i hhelp
        exact bind_eq_ok_iff.trans ⟨fun h => ⟨hhelp, h⟩, And.right⟩
    | leaf form =>
      simp only [AsksHelp, reduceCtorEq, exists_false, false_and, not_false_eq_true, true_and]
      exact bind_eq_ok_iff

/-- Where nothing is left to read, the words have led to a form, whose level is finished. -/
theorem read_nil_iff : read environment atRoot g level [] = .ok result ↔
    ∃ form given, g = .leaf form ∧ finish g environment false level = .ok given ∧
      result = ([], given, form) := by
  rw [read, bind_eq_ok_iff]
  cases g with
  | group branches => exact iff_of_false (fun ⟨_, _, h⟩ => nomatch h) fun ⟨_, _, h, _⟩ => nomatch h
  | leaf form =>
    constructor
    · rintro ⟨given, hgiven, h⟩
      exact ⟨form, given, rfl, hgiven, (Except.ok.inj h).symm⟩
    · rintro ⟨_, given, ⟨rfl⟩, hgiven, rfl⟩
      exact ⟨given, hgiven, rfl⟩

/-- A level that is finished was settled. -/
theorem exists_settled_of_finish (h : finish g environment hasWord level = .ok given) :
    ∃ settled, level.settlePending = .ok settled ∧ given = settled.given := by
  obtain ⟨settled, hsettled, h⟩ := bind_eq_ok h
  obtain ⟨_, -, h⟩ := bind_eq_ok h
  refine ⟨settled, hsettled, ?_⟩
  cases g with
  | group branches =>
    simp only at h
    split at h
    · exact (Except.ok.inj h).symm
    · split at h <;> cases h
  | leaf form =>
    simp only at h
    split at h
    · exact (Except.ok.inj h).symm
    · cases h

/-! ### The part of the environment -/

/-- Where there are no variables, none can be wrong. -/
theorem checkEnvironment_nil (level : Level) (flags : List Flag) :
    level.checkEnvironment [] flags = .ok () := by
  induction flags with
  | nil => rfl
  | cons flag flags ih =>
    have hnone : Level.standIn? [] flag = none := by
      rw [Level.standIn?]
      cases flag.standIn <;> rfl
    rw [Level.checkEnvironment, hnone]
    split
    · exact ih
    · exact ih

/-- With variables, a level is finished with no other result than without. -/
theorem finish_without (h : finish g environment hasWord level = .ok given) :
    finish g [] hasWord level = .ok given := by
  obtain ⟨settled, hsettled, h⟩ := bind_eq_ok h
  obtain ⟨_, -, h⟩ := bind_eq_ok h
  rw [finish, hsettled]
  simp only [bind, Except.bind, checkEnvironment_nil]
  cases g with
  | group branches =>
    simp only at h
    split at h
    · rename_i hhas
      rw [if_pos hhas]
      exact h
    · split at h <;> cases h
  | leaf form => exact h

/-- With variables, arguments are read with no other result than without. -/
theorem read_without (h : read environment atRoot g level arguments = .ok result) :
    read [] atRoot g level arguments = .ok result := by
  induction arguments generalizing atRoot g level result with
  | nil =>
    obtain ⟨form, given, hg, hgiven, hresult⟩ := read_nil_iff.mp h
    exact read_nil_iff.mpr ⟨form, given, hg, finish_without hgiven, hresult⟩
  | cons argument arguments ih =>
    rcases read_cons_iff.mp h with
      ⟨name, behind, words, inner, form, given, hword, hread, hgiven, hresult⟩ |
        ⟨hword, hhelp, level', hlevel, hread⟩
    · exact read_cons_iff.mpr (.inl
        ⟨name, behind, words, inner, form, given, hword, ih hread, finish_without hgiven, hresult⟩)
    · exact read_cons_iff.mpr (.inr ⟨hword, hhelp, level', hlevel, ih hread⟩)

end

/-- What arguments give by themselves. -/
def givenOf (arguments : List String) : Given :=
  match read [] true .root (.start .root) arguments with
  | .ok (_, given, _) => given
  | .error _ => []

/-- The options of a line are those that its arguments give, and where they give none, those of the
environment. -/
theorem options_of_parse {environment : Environment} {arguments : List String} {line : Line}
    (h : parse environment arguments = .ok line) :
    line.options =
      layered (optionsOfGiven (givenOf arguments)) (optionsOfEnvironment environment) := by
  obtain ⟨⟨path, given, form⟩, hread, h⟩ := bind_eq_ok h
  obtain rfl := Except.ok.inj h
  rw [givenOf, read_without hread]

/-! ### Values -/

/-- Whether the slot of a flag that takes no value. -/
def Slot.isSwitch : Slot → Bool
  | .useIds => true
  | .verbose => true
  | .isAsync => true
  | _ => false

/-- Only switches are given without a value. -/
def Given.Filled (given : Given) : Prop := ∀ g ∈ given, g.2 = [] → g.1.isSwitch = true

/-- Only switches have been given, or wait, without asking for a value. -/
structure Level.Filled (level : Level) : Prop where
  given : level.given.Filled
  pending : ∀ p ∈ level.pending, p.takes = .nothing → p.slot.isSwitch = true

theorem Grammar.isSwitch_of_mem_flags {g : Grammar} {flag : Flag} (hmem : flag ∈ g.flags)
    (htakes : flag.takes = .nothing) : flag.slot.isSwitch = true := by
  have hglobal : ∀ flag ∈ globalFlags, flag.takes = .nothing → flag.slot.isSwitch = true := by decide
  cases g with
  | group branches => exact hglobal flag hmem htakes
  | leaf form =>
    have hown : ∀ flag ∈ form.ownFlags, flag.takes = .nothing → flag.slot.isSwitch = true := by
      cases form <;> decide
    rcases List.mem_append.mp hmem with hmem | hmem
    · exact hown flag hmem htakes
    · exact hglobal flag (List.mem_filter.mp hmem).1 htakes

theorem Given.Filled.append {given : Given} (h : given.Filled) {slot : Slot} {values : List String}
    (hvalues : values = [] → slot.isSwitch = true) : (given.append slot values).Filled := by
  induction given with
  | nil =>
    rintro g hg hnil
    obtain rfl := List.mem_singleton.mp hg
    exact hvalues hnil
  | cons first rest ih =>
    obtain ⟨other, old⟩ := first
    obtain ⟨hfirst, hrest⟩ := List.forall_mem_cons.mp h
    rw [Given.append]
    split
    · rename_i hslot
      refine List.forall_mem_cons.mpr ⟨fun hnil => ?_, hrest⟩
      exact hslot ▸ hvalues (List.append_eq_nil_iff.mp hnil).2
    · exact List.forall_mem_cons.mpr ⟨hfirst, ih hrest⟩

theorem Takes.parts_ne_nil (takes : Takes) (value : String) : takes.parts value ≠ [] := by
  unfold Takes.parts
  split
  · simp [Text.splitAt_ne_nil]
  · exact List.cons_ne_nil _ _

/-- Where something else is told, nothing is taken. -/
theorem tell_ne_ok {α : Type} (level : Level) (answer : UsageError) {a : α} :
    tell level answer ≠ .ok a := bind_error_ne_ok level.settlePending answer a

namespace Level.Filled

variable {level after : Level} {slot : Slot} {takes : Takes} {values : List String} {g : Grammar}
  {atRoot : Bool}

theorem start (g : Grammar) : (Level.start g).Filled := ⟨nofun, nofun⟩

theorem settle (h : level.Filled) (hswitch : takes = .nothing → slot.isSwitch = true)
    (hafter : level.settle slot takes values = .ok after) : after.Filled := by
  rw [Level.settle] at hafter
  split at hafter
  · cases hafter
  · rename_i hvalues
    split at hafter
    · cases hafter
    · obtain ⟨_, -, hafter⟩ := bind_eq_ok hafter
      obtain rfl := Except.ok.inj hafter
      refine ⟨h.given.append fun hnil => hswitch ?_, h.pending⟩
      have hnone : values = [] := by
        rw [List.flatMap_eq_nil_iff] at hnil
        exact List.eq_nil_iff_forall_not_mem.mpr fun value hvalue =>
          takes.parts_ne_nil value (hnil value hvalue)
      simpa [hnone] using hvalues

theorem settlePending (h : level.Filled) (hafter : level.settlePending = .ok after) : after.Filled := by
  rw [Level.settlePending] at hafter
  cases hpending : level.pending with
  | none =>
    simp only [hpending] at hafter
    obtain rfl := Except.ok.inj hafter
    exact h
  | some p =>
    simp only [hpending] at hafter
    have hempty : Level.Filled { level with pending := none } := ⟨h.given, nofun⟩
    exact hempty.settle (h.pending p hpending) hafter

theorem takeFlag (h : level.Filled) {flag : Flag} (hflag : flag ∈ g.flags) {attached : Option String}
    (hafter : level.takeFlag flag attached = .ok after) : after.Filled := by
  have hswitch := Grammar.isSwitch_of_mem_flags hflag
  obtain ⟨settled, hsettled, htaken⟩ := bind_eq_ok hafter
  have hfilled := h.settlePending hsettled
  clear hafter
  split at htaken
  · rename_i htakes
    exact hfilled.settle (fun _ => hswitch htakes) htaken
  · exact hfilled.settle hswitch htaken
  · obtain rfl := Except.ok.inj htaken
    refine ⟨hfilled.given, ?_⟩
    rintro _ ⟨rfl⟩ htakes
    exact hswitch htakes

theorem takeValue (h : level.Filled) (value : String) : (level.takeValue value).Filled := by
  refine ⟨h.given, fun p hp => ?_⟩
  obtain ⟨old, hold, rfl⟩ := Option.map_eq_some_iff.mp hp
  exact h.pending old hold

/-- An operand takes texts. -/
theorem awaitOperand (h : level.Filled) (htakes : takes ≠ .nothing) :
    Level.Filled { level with pending := some ⟨slot, takes, values⟩ } := by
  refine ⟨h.given, ?_⟩
  rintro _ ⟨rfl⟩ hnothing
  exact absurd hnothing htakes

theorem takeOperand (h : level.Filled) {value : String}
    (hafter : level.takeOperand? value = some (.ok after)) : after.Filled := by
  rw [Level.takeOperand?] at hafter
  split at hafter
  · cases hafter
  · rename_i operand operands _
    have hafter := Option.some.inj hafter
    split at hafter
    · split at hafter
      · rename_i p hpending
        split at hafter
        · obtain rfl := Except.ok.inj hafter
          refine ⟨h.given, ?_⟩
          rintro _ ⟨rfl⟩ hnothing
          exact h.pending p hpending hnothing
        · obtain ⟨settled, hsettled, htaken⟩ := bind_eq_ok hafter
          obtain rfl := Except.ok.inj htaken
          exact (h.settlePending hsettled).awaitOperand nofun
      · obtain rfl := Except.ok.inj hafter
        exact h.awaitOperand nofun
    · obtain ⟨settled, hsettled, htaken⟩ := bind_eq_ok hafter
      obtain rfl := Except.ok.inj htaken
      have hfilled := h.settlePending hsettled
      exact ⟨hfilled.given, by rintro _ ⟨rfl⟩ ⟨⟩⟩

/-- What is asked for by a name is one of the flags, unless the name asks for help or the version. -/
theorem mem_flags_of_named {flags : List Flag} {flag : Flag} {isNamed : Flag → Bool} {isHelp isVersion : Prop}
    [Decidable isHelp] [Decidable isVersion]
    (h : (match flags.find? isNamed with
      | some flag => some (.flag flag)
      | none => if isHelp then some .help else if isVersion then some .version else none) =
        some (Asked.flag flag)) : flag ∈ flags := by
  split at h
  · rename_i found hfound
    cases h
    exact List.mem_of_find?_eq_some hfound
  · split at h
    · cases h
    · split at h <;> cases h

theorem takeShort (h : level.Filled) {text : List Char}
    (hafter : CommandLine.takeShort g.flags atRoot level text = .ok after) : after.Filled := by
  induction text generalizing level with
  | nil =>
    obtain rfl := Except.ok.inj hafter
    exact h
  | cons c rest ih =>
    rw [CommandLine.takeShort] at hafter
    split at hafter
    · cases hafter
    · rename_i flag hflag
      have hmem : flag ∈ g.flags := mem_flags_of_named hflag
      split at hafter
      · obtain ⟨taken, htaken, hrest⟩ := bind_eq_ok hafter
        exact ih (h.takeFlag hmem htaken) hrest
      · exact h.takeFlag hmem hafter
    · exact absurd hafter (tell_ne_ok level _)
    · exact absurd hafter (tell_ne_ok level _)

theorem takeLong (h : level.Filled) {text : List Char}
    (hafter : CommandLine.takeLong g.flags atRoot level text = .ok after) : after.Filled := by
  unfold CommandLine.takeLong at hafter
  extract_lets name attached at hafter
  split at hafter
  · cases hafter
  · rename_i flag hflag
    split at hafter
    · cases hafter
    · exact h.takeFlag (mem_flags_of_named hflag) hafter
  · split at hafter
    · cases hafter
    · exact absurd hafter (tell_ne_ok level _)
  · split at hafter
    · cases hafter
    · exact absurd hafter (tell_ne_ok level _)

theorem takeArgument (h : level.Filled) {argument : String}
    (hafter : CommandLine.takeArgument g atRoot level argument = .ok after) : after.Filled := by
  have hoperand (hafter : (if level.isWaiting then .ok (level.takeValue argument)
      else (level.takeOperand? argument).getD (.error (misplaced g level argument))) = .ok after) :
      after.Filled := by
    split at hafter
    · obtain rfl := Except.ok.inj hafter
      exact h.takeValue argument
    · cases htaken : level.takeOperand? argument with
      | none =>
        rw [htaken] at hafter
        cases hafter
      | some taken =>
        rw [htaken, Option.getD_some] at hafter
        exact h.takeOperand (hafter ▸ htaken)
  rw [CommandLine.takeArgument] at hafter
  split at hafter
  · exact hoperand hafter
  · split at hafter
    · obtain rfl := Except.ok.inj hafter
      exact ⟨h.given, h.pending⟩
    · exact h.takeLong hafter
    · exact h.takeShort hafter
    · exact hoperand hafter

end Level.Filled

/-- What arguments give is given with values, but for the switches. -/
theorem filled_of_read {environment : Environment} {atRoot : Bool} {g : Grammar} {level : Level}
    {arguments : List String} {result : List String × Given × Form} (h : level.Filled)
    (hread : read environment atRoot g level arguments = .ok result) : result.2.1.Filled := by
  have hfinish {g : Grammar} {hasWord : Bool} {level : Level} {given : Given} (h : level.Filled)
      (hgiven : finish g environment hasWord level = .ok given) : given.Filled := by
    obtain ⟨settled, hsettled, rfl⟩ := exists_settled_of_finish hgiven
    exact (h.settlePending hsettled).given
  induction arguments generalizing atRoot g level result with
  | nil =>
    obtain ⟨form, given, -, hgiven, rfl⟩ := read_nil_iff.mp hread
    exact hfinish h hgiven
  | cons argument arguments ih =>
    rcases read_cons_iff.mp hread with
      ⟨name, behind, words, inner, form, given, -, hinner, hgiven, rfl⟩ | ⟨-, -, level', hlevel, hread⟩
    · exact List.forall_mem_append.mpr ⟨ih (.start behind) hinner, hfinish h hgiven⟩
    · exact ih (h.takeArgument hlevel) hread

theorem filled_givenOf (arguments : List String) : (givenOf arguments).Filled := by
  rw [givenOf]
  split
  · rename_i hread
    exact filled_of_read (.start _) hread
  · exact nofun

/-- A slot that is given is so with a value, unless it is a switch. -/
theorem exists_values_of_has {arguments : List String} {slot : Slot}
    (h : (givenOf arguments).has slot = true) (hslot : slot.isSwitch = false) :
    ∃ value values, (givenOf arguments).values? slot = some (value :: values) := by
  rw [Given.has, Given.values?, Option.isSome_map] at h
  obtain ⟨g, hg⟩ := Option.isSome_iff_exists.mp h
  have hsame : g.1 = slot := by simpa using List.find?_some hg
  rw [Given.values?, hg, Option.map_some]
  cases hvalues : g.2 with
  | nil =>
    have hswitch := filled_givenOf arguments g (List.mem_of_find?_eq_some hg) hvalues
    rw [hsame, hslot] at hswitch
    cases hswitch
  | cons value values => exact ⟨value, values, rfl⟩

section

variable {given : Given} {arguments : List String} {slot : Slot}

theorem Given.values?_of_not_has (h : given.has slot = false) : given.values? slot = none := by
  rwa [Given.has, Option.isSome_eq_false_iff, Option.isNone_iff_eq_none] at h

/-- Only a slot that is not given has no texts. -/
theorem texts_eq_nil_iff (hslot : slot.isSwitch = false) :
    (givenOf arguments).texts slot = [] ↔ (givenOf arguments).has slot = false := by
  refine ⟨fun hnone => ?_, fun hhas => ?_⟩
  · rw [← Bool.not_eq_true]
    intro hhas
    obtain ⟨value, values, hvalues⟩ := exists_values_of_has hhas hslot
    rw [Given.texts, hvalues] at hnone
    cases hnone
  · rw [Given.texts, Given.values?_of_not_has hhas, Option.getD_none]

/-- Only a slot that is not given has no text. -/
theorem text?_eq_none_iff (hslot : slot.isSwitch = false) :
    (givenOf arguments).text? slot = none ↔ (givenOf arguments).has slot = false := by
  have hhead : (givenOf arguments).text? slot = ((givenOf arguments).texts slot).head? := by
    rw [Given.text?, Given.texts]
    cases (givenOf arguments).values? slot <;> rfl
  rw [hhead, List.head?_eq_none_iff, texts_eq_nil_iff hslot]

end

end BlockStorage.CommandLine
