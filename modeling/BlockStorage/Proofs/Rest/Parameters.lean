import BlockStorage.Proofs.Text.Percent
import BlockStorage.Proofs.Text.Split
import BlockStorage.Rest.Url

/-!
The parameters in the query of a URL.

A server reads a query as a form: parameters between ampersands, the name of each up to an equals sign,
blanks as plus signs and all other bytes in their codes. Read so, a URL to which parameters are added has
those that it had and then these, byte by byte.
-/

namespace BlockStorage.Rest

open Text

/-! ### One name or value -/

/-- The bytes that a name or a value of a form stands for. -/
def formBytes (s : List Char) : List UInt8 := Percent.decode (s.map fun c => if c = '+' then ' ' else c)

namespace Url

/-- No character that means something in a form is left in a name or a value. -/
theorem not_mem_parameterText {c : Char} (hc : isParameterEncoded c = true) (hplus : c ≠ '+')
    (hpercent : c ≠ '%') (hdigit : ∀ n < 16, c ≠ Percent.hexDigit n) (s : String) :
    c ∉ (parameterText s).toList := by
  rw [parameterText, String.toList_ofList]
  intro hmem
  obtain ⟨d, hd, hdc⟩ := List.mem_map.1 hmem
  split at hdc
  next => exact hplus hdc.symm
  next =>
    subst hdc
    exact Percent.not_mem_encode hc hpercent hdigit _ hd

theorem ampersand_not_mem_parameterText (s : String) : '&' ∉ (parameterText s).toList :=
  not_mem_parameterText (by decide) (by decide) (by decide) (by decide) s

theorem equals_not_mem_parameterText (s : String) : '=' ∉ (parameterText s).toList :=
  not_mem_parameterText (by decide) (by decide) (by decide) (by decide) s

/-- A name or a value stands for its bytes. -/
theorem formBytes_parameterText (s : String) :
    formBytes (parameterText s).toList = Percent.bytes s.toList := by
  have hplus : '+' ∉ Percent.encode isParameterEncoded s.toList :=
    Percent.not_mem_encode (by decide) (by decide) (by decide) _
  have hback : (parameterText s).toList.map (fun c => if c = '+' then ' ' else c) =
      Percent.encode isParameterEncoded s.toList := by
    rw [parameterText, String.toList_ofList, List.map_map]
    refine (List.map_congr_left fun c hc => ?_).trans (List.map_id _)
    by_cases hblank : c = ' '
    · simp [hblank]
    · have hne : c ≠ '+' := fun h => hplus (h ▸ hc)
      simp [hblank, hne]
  rw [formBytes, hback, Percent.decode_encode (by decide)]

end Url

/-! ### All of them -/

/-- A parameter as its bytes. -/
abbrev Parameter := List UInt8 × List UInt8

/-- The parameter that a part of a query stands for. -/
def parameterOf (part : List Char) : Parameter :=
  match cut? ['='] part with
  | some (name, value) => (formBytes name, formBytes value)
  | none => (formBytes part, [])

/-- The parameters of a query; empty parts stand for none. -/
def parametersOf (query : List Char) : List Parameter :=
  ((splitAt '&' query).filter fun part => !part.isEmpty).map parameterOf

/-- A name and a value as their bytes. -/
def parameterBytes (parameter : String × String) : Parameter :=
  (Percent.bytes parameter.1.toList, Percent.bytes parameter.2.toList)

namespace Url

/-- The parameters that a URL carries. -/
def parameters (url : Url) : List Parameter := url.query.elim [] fun query => parametersOf query.toList

/-- A parameter as it is written. -/
def written (parameter : String × String) : String :=
  parameterText parameter.1 ++ "=" ++ parameterText parameter.2

theorem ampersand_not_mem_written (parameter : String × String) : '&' ∉ (written parameter).toList := by
  simp [written, ampersand_not_mem_parameterText]

theorem parameterOf_written (parameter : String × String) :
    parameterOf (written parameter).toList = parameterBytes parameter := by
  have hcut : cut? ['='] (written parameter).toList =
      some ((parameterText parameter.1).toList, (parameterText parameter.2).toList) := by
    have h := cut?_append_word (equals_not_mem_parameterText parameter.1) []
      (parameterText parameter.2).toList
    simpa [written] using h
  rw [parameterOf, hcut]
  simp only [formBytes_parameterText, parameterBytes]

theorem parametersOf_written (parameter : String × String) :
    parametersOf (written parameter).toList = [parameterBytes parameter] := by
  have hne : (written parameter).toList ≠ [] := by simp [written]
  rw [parametersOf, splitAt_of_not_mem (ampersand_not_mem_written parameter)]
  simp [hne, parameterOf_written]

theorem parametersOf_intercalate (parts : List (List Char)) :
    parametersOf (['&'].intercalate parts) = parts.flatMap parametersOf := by
  induction parts with
  | nil => rfl
  | cons part parts ih =>
    cases parts with
    | nil => simp
    | cons next parts =>
      rw [List.intercalate_cons_cons, List.append_assoc, List.singleton_append, List.flatMap_cons, ← ih]
      rw [parametersOf, splitAt_append, List.filter_append, List.map_append]
      rfl

/-- A URL with parameters added has those that it had, and then these. -/
theorem parameters_withParameters (url : Url) (ps : List (String × String)) :
    (url.withParameters ps).parameters = url.parameters ++ ps.map parameterBytes := by
  have hquery (parts : List String) :
      (if parts.isEmpty then none else some ("&".intercalate parts)).elim []
        (fun query => parametersOf query.toList) = parts.flatMap fun part => parametersOf part.toList := by
    cases parts with
    | nil => rfl
    | cons part parts =>
      rw [if_neg (by simp), Option.elim_some, String.toList_intercalate]
      exact (parametersOf_intercalate _).trans (List.flatMap_map ..)
  have hown : (url.query.toList.filter fun q => !q.isEmpty).flatMap
      (fun part => parametersOf part.toList) = url.parameters := by
    rw [parameters]
    cases url.query with
    | none => rfl
    | some query =>
      by_cases hempty : query = ""
      · subst hempty
        rfl
      · simp [hempty]
  have hadded : (ps.map written).flatMap (fun part => parametersOf part.toList) =
      ps.map parameterBytes := by
    rw [List.flatMap_map, List.map_eq_flatMap]
    simp only [parametersOf_written]
  rw [← hown, ← hadded, ← List.flatMap_append]
  exact hquery _

theorem parameters_extend (url : Url) (path : List String) :
    (url.extend path).parameters = url.parameters := rfl

theorem parameters_withoutUser (url : Url) : url.withoutUser.parameters = url.parameters := rfl

end Url

end BlockStorage.Rest
