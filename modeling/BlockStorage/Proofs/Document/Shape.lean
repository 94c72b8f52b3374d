import BlockStorage.Document.Shape
import BlockStorage.Proofs.Failure
import Mathlib.Data.List.Basic

/-!
Records are read field by field.

What is written for the fields of a shape is read as itself, and whatever else is read comes out in the
same form: the fields in the order of the shape, each with a value that was read or with its default, and
those that may have no value possibly left out.
-/

namespace BlockStorage

namespace Document

theorem lookup?_append (name : String) (xs ys : List (String × Document)) :
    lookup? name (xs ++ ys) = (lookup? name xs).or (lookup? name ys) := by
  induction xs with
  | nil => rfl
  | cons x xs ih =>
    simp only [List.cons_append, lookup?]
    split
    · rfl
    · exact ih

theorem lookup?_eq_none {name : String} {xs : List (String × Document)} (h : name ∉ xs.map Prod.fst) :
    lookup? name xs = none := by
  induction xs with
  | nil => rfl
  | cons x xs ih =>
    obtain ⟨hne, hrest⟩ := List.ne_and_not_mem_of_not_mem_cons h
    rw [lookup?, if_neg (Ne.symm hne), ih hrest]

end Document

namespace Shape

open Document (lookup?_append lookup?_eq_none)

variable {shape : Shape} {absent : Absent} {name : String} {value doc : Document} {rest fields : Fields}
  {written found : List (String × Document)}

/-! ### Fields by name -/

/-- The names of the fields. -/
def Fields.names : Fields → List String
  | .nil => []
  | .field name _ _ rest => name :: rest.names

theorem Fields.find?_eq_none {fields : Fields} (h : name ∉ fields.names) : fields.find? name = none := by
  fun_induction Fields.find? with
  | case1 => rfl
  | case2 => simp [Fields.names] at h
  | case3 key shape absent rest hne ih => exact ih fun hmem => h (List.mem_cons_of_mem _ hmem)

/-! ### Records in the form of a shape -/

/-- The fields of a record that has the form of a shape. `Fits` says which values a field may have. -/
inductive Filled (Fits : Shape → Absent → Document → Prop) :
    Fields → List (String × Document) → Prop where
  | nil : Filled Fits .nil []
  | present (name : String) {shape : Shape} {absent : Absent} {value : Document} {rest : Fields}
      {written : List (String × Document)} (hvalue : Fits shape absent value)
      (hrest : Filled Fits rest written) :
      Filled Fits (.field name shape absent rest) ((name, value) :: written)
  | left (name : String) (shape : Shape) {rest : Fields} {written : List (String × Document)}
      (hrest : Filled Fits rest written) : Filled Fits (.field name shape .noValue rest) written

/-- A value that is read as itself. -/
structure Settled (shape : Shape) (value : Document) : Prop where
  reads : shape.read (.ofDocument value) = .ok value
  ne_null : value ≠ .null

/-- A value that a field can get by reading: one that was read, or the default. -/
def Outcome (shape : Shape) (absent : Absent) (value : Document) : Prop :=
  (value ≠ .null ∧ ∃ d, shape.read d = .ok value) ∨ absent = .default value

/-- The fields of a record whose values are read as themselves. -/
abbrev Written : Fields → List (String × Document) → Prop :=
  Filled fun shape _ value => shape.Settled value

variable {Fits : Shape → Absent → Document → Prop}

theorem Filled.names_sublist (h : Filled Fits fields written) :
    (written.map Prod.fst).Sublist fields.names := by
  induction h with
  | nil => exact .slnil
  | present _ _ _ ih => exact ih.cons_cons _
  | left _ _ _ ih => exact ih.cons _

theorem Filled.ne_of_mem (h : Filled Fits rest written) {key : String} (hkey : key ∉ rest.names)
    (hmem : (name, value) ∈ written) : key ≠ name := by
  rintro rfl
  exact hkey (h.names_sublist.subset (List.mem_map_of_mem hmem))

theorem Filled.find? (h : Filled Fits fields written) (hnodup : fields.names.Nodup)
    (hmem : (name, value) ∈ written) :
    ∃ shape absent, fields.find? name = some (shape, absent) ∧ Fits shape absent value := by
  induction h with
  | nil => cases hmem
  | @present key shape absent _ rest written hvalue hrest ih =>
    obtain ⟨hkey, hnodup⟩ := List.nodup_cons.1 hnodup
    rcases List.mem_cons.1 hmem with heq | hmem
    · obtain ⟨rfl, rfl⟩ := Prod.mk.inj heq
      exact ⟨shape, absent, by rw [Fields.find?, if_pos rfl], hvalue⟩
    · rw [Fields.find?, if_neg (hrest.ne_of_mem hkey hmem)]
      exact ih hnodup hmem
  | @left key shape rest written hrest ih =>
    obtain ⟨hkey, hnodup⟩ := List.nodup_cons.1 hnodup
    rw [Fields.find?, if_neg (hrest.ne_of_mem hkey hmem)]
    exact ih hnodup hmem

/-! ### What is written is read as itself -/

theorem isNull_ofDocument (h : value ≠ .null) : isNull (.ofDocument value) = false := by
  cases value with
  | null => exact absurd rfl h
  | _ => rfl

/-- Entries with fitting values and different names are all found. -/
theorem readFields_ofFields
    (hfind : ∀ entry ∈ written, ∃ shape absent,
      fields.find? entry.1 = some (shape, absent) ∧ shape.Settled entry.2)
    (hnodup : ((found ++ written).map Prod.fst).Nodup) :
    readFields fields found (Draft.ofFields written) = .ok (found ++ written) := by
  induction written generalizing found with
  | nil => rw [Draft.ofFields, readFields, List.append_nil]
  | cons entry written ih =>
    obtain ⟨⟨shape, absent, hshape, hsettled⟩, hothers⟩ := List.forall_mem_cons.1 hfind
    have hnew : Document.lookup? entry.1 found = none := by
      refine lookup?_eq_none fun hmem => ?_
      rw [List.map_append, List.nodup_append] at hnodup
      exact hnodup.2.2 _ hmem _ (List.mem_map_of_mem List.mem_cons_self) rfl
    rw [List.append_cons] at hnodup ⊢
    rw [Draft.ofFields, readFields]
    simp only [readKey, Draft.goodLeaf, bind, Except.bind, hshape, hnew, Option.isSome_none,
      Bool.false_eq_true, if_false, isNull_ofDocument hsettled.ne_null, Bool.and_false, hsettled.reads]
    exact ih hothers hnodup

/-- Fields that were found as they are written are arranged as they are written. -/
theorem Filled.arrange (h : Written fields written) (hnodup : fields.names.Nodup)
    (hfound : ∀ name ∈ fields.names,
      Document.lookup? name found = Document.lookup? name written) :
    Shape.arrange found fields = .ok written := by
  induction h with
  | nil => rfl
  | @present name shape absent value rest written hvalue hrest ih =>
    obtain ⟨hname, hnodup⟩ := List.nodup_cons.1 hnodup
    obtain ⟨hfirst, hothers⟩ := List.forall_mem_cons.1 hfound
    rw [Document.lookup?, if_pos rfl] at hfirst
    have hrest := ih hnodup fun other hother => by
      have hne : name ≠ other := by
        rintro rfl
        exact hname hother
      rw [hothers other hother, Document.lookup?, if_neg hne]
    simp only [Shape.arrange, hfirst, hrest]
    cases value with
    | null => exact absurd rfl hvalue.ne_null
    | _ => rfl
  | @left name shape rest written hrest ih =>
    obtain ⟨hname, hnodup⟩ := List.nodup_cons.1 hnodup
    obtain ⟨hfirst, hothers⟩ := List.forall_mem_cons.1 hfound
    have hnone : Document.lookup? name written = none :=
      lookup?_eq_none fun hmem => hname (hrest.names_sublist.subset hmem)
    rw [hnone] at hfirst
    simp only [Shape.arrange, hfirst, ih hnodup hothers, absentField]
    rfl

/-- **A record in the form of its shape is read as itself.** -/
theorem read_record (h : Written fields written) (hnodup : fields.names.Nodup) :
    read (.record fields) (.ofDocument (.record written)) = .ok (.record written) := by
  have hkeys : (written.map Prod.fst).Nodup := hnodup.sublist h.names_sublist
  have hfound : readFields fields [] (Draft.ofFields written) = .ok ([] ++ written) :=
    readFields_ofFields (fun _ hmem => h.find? hnodup hmem) hkeys
  have harranged : Shape.arrange written fields = .ok written := h.arrange hnodup fun _ _ => rfl
  rw [Draft.ofDocument, read]
  simp only [hfound, List.nil_append, harranged, bind, Except.bind]
  rfl

/-! ### What is read has the form of the shape -/

/-- What reading by a shape can give. A record is read from its entries, or from a list of its fields in
order. -/
inductive Gives : Shape → Document → Prop where
  | text (s : String) : Gives .text (.text s)
  | word {n : Nat} (h : n < UInt64.size) : Gives .word (.number n)
  | bool (b : Bool) : Gives .bool (.bool b)
  | time (t : Timestamp) : Gives .time (.time t)
  | labels (labels : Labels) :
      Gives .labels (.record (labels.entries.map fun (key, value) => (key, .text value)))
  | choice {names : List String} {other : Option String} {name : String}
      (h : name ∈ names ∨ other = some name) : Gives (.choice names other) (.text name)
  | list {item : Shape} {items : Draft.Items} {docs : List Document}
      (h : readItems item items = .ok docs) : Gives (.list item) (.list docs)
  | record {fields : Fields} {entries : Draft.Entries} {found written : List (String × Document)}
      (hfound : readFields fields [] entries = .ok found) (h : Shape.arrange found fields = .ok written) :
      Gives (.record fields) (.record written)
  | row {fields : Fields} {items : Draft.Items} {written : List (String × Document)}
      (h : readRow fields items = .ok written) : Gives (.record fields) (.record written)

theorem gives_of_chosen {names : List String} {other : Option String} {name : String}
    (h : chosen names other name = .ok doc) : Gives (.choice names other) doc := by
  unfold chosen at h
  split at h
  next hmem => exact Except.ok.inj h ▸ .choice (.inl (by simpa using hmem))
  next =>
    split at h
    next text => exact Except.ok.inj h ▸ .choice (.inr rfl)
    next => cases h

theorem gives_of_readChoice {names : List String} {other : Option String} {d : Draft}
    (h : readChoice names other d = .ok doc) : Gives (.choice names other) doc := by
  unfold readChoice at h
  split at h
  next => cases h
  next leaf =>
    obtain ⟨name, -, h⟩ := bind_eq_ok h
    exact gives_of_chosen h
  next => cases h
  next => cases h
  next => cases h
  next => cases h
  next key value rest =>
    obtain ⟨name, -, h⟩ := bind_eq_ok h
    obtain ⟨choice, hchoice, h⟩ := bind_eq_ok h
    obtain ⟨leaf, -, h⟩ := bind_eq_ok h
    split at h
    next =>
      split at h
      next => exact Except.ok.inj h ▸ gives_of_chosen hchoice
      next => cases h
      next => cases h
    next => cases h

/-- A leaf gives what its shape says; lists, records and labels are no leaves. -/
theorem gives_of_readLeaf {d : Draft} (h : read.readLeaf shape d = .ok doc) : Gives shape doc := by
  unfold read.readLeaf at h
  split at h
  next =>
    obtain ⟨s, -, hs⟩ := eq_of_map_eq_ok h
    exact hs ▸ .text s
  next =>
    obtain ⟨leaf, -, h⟩ := bind_eq_ok h
    split at h
    next n =>
      split at h
      next hn => exact Except.ok.inj h ▸ .word hn
      next => cases h
    next => cases h
  next =>
    obtain ⟨leaf, -, h⟩ := bind_eq_ok h
    split at h
    next b => exact Except.ok.inj h ▸ .bool b
    next => cases h
  next =>
    obtain ⟨s, -, h⟩ := bind_eq_ok h
    split at h
    next t _ => exact Except.ok.inj h ▸ .time t
    next => cases h
  next => exact gives_of_readChoice h
  next =>
    split at h
    next => exact absurd h (bind_error_ne_ok _ _ _)
    next => exact absurd h (bind_error_ne_ok _ _ _)

/-- **What is read is what the shape can give.** -/
theorem gives_of_read {d : Draft} (h : shape.read d = .ok doc) : Gives shape doc := by
  unfold read at h
  split at h
  next items =>
    split at h
    next item =>
      obtain ⟨docs, hdocs, hdoc⟩ := eq_of_map_eq_ok h
      exact hdoc ▸ .list hdocs
    next fields =>
      obtain ⟨written, hwritten, hdoc⟩ := eq_of_map_eq_ok h
      exact hdoc ▸ .row hwritten
    next => cases h
    next => cases h
  next entries =>
    split at h
    next fields =>
      obtain ⟨found, hfound, h⟩ := bind_eq_ok h
      obtain ⟨written, hwritten, h⟩ := bind_eq_ok h
      exact Except.ok.inj h ▸ .record hfound hwritten
    next =>
      obtain ⟨pairs, -, h⟩ := bind_eq_ok h
      exact Except.ok.inj h ▸ .labels (Labels.ofList pairs)
    next => exact gives_of_readChoice h
    next => cases h
  next => exact gives_of_readLeaf h

/-- Reading never gives null. -/
theorem read_ne_null (shape : Shape) (d : Draft) : shape.read d ≠ .ok .null := fun h => by
  cases gives_of_read h

/-- The fields that were found hold what was read for them; null says that there is no value. -/
def Found (fields : Fields) (found : List (String × Document)) : Prop :=
  ∀ name shape absent value, fields.find? name = some (shape, absent) →
    Document.lookup? name found = some value →
      (value = .null ∧ absent = .noValue) ∨ (value ≠ .null ∧ ∃ d, shape.read d = .ok value)

/-- A field is null only if it may be without a value. -/
theorem field_cases {d : Draft}
    (h : (if admitsNull absent && isNull d then .ok .null else read shape d) = .ok value) :
    (value = .null ∧ absent = .noValue) ∨ (value ≠ .null ∧ ∃ d, shape.read d = .ok value) := by
  split at h
  next hnull =>
    cases absent with
    | noValue => exact .inl ⟨(Except.ok.inj h).symm, rfl⟩
    | refused | default => cases hnull
  next =>
    refine .inr ⟨?_, d, h⟩
    rintro rfl
    exact read_ne_null shape d h

theorem found_nil (fields : Fields) : Found fields [] := by
  intro _ _ _ _ _ hlookup
  cases hlookup

theorem found_of_readFields {fields : Fields} {found result : List (String × Document)}
    (hfound : Found fields found) :
    (entries : Draft.Entries) → readFields fields found entries = .ok result → Found fields result
  | .closed, h => by
    rw [readFields] at h
    exact Except.ok.inj h ▸ hfound
  | .broken fault, h => by
    rw [readFields] at h
    cases h
  | .entry key d rest, h => by
    rw [readFields] at h
    obtain ⟨name, hname, h⟩ := bind_eq_ok h
    split at h
    next shape absent hfind =>
      split at h
      next => cases h
      next hnew =>
        dsimp only at h
        rw [ite_bind] at h
        obtain ⟨value, hvalue, h⟩ := bind_eq_ok h
        refine found_of_readFields (fun other shape' absent' value' hfind' hlookup => ?_) rest h
        rw [lookup?_append] at hlookup
        rcases Option.or_eq_some_iff.1 hlookup with hold | ⟨-, hnew⟩
        · exact hfound other shape' absent' value' hfind' hold
        · simp only [Document.lookup?] at hnew
          split at hnew
          next heq =>
            subst heq
            rw [hfind] at hfind'
            obtain ⟨rfl, rfl⟩ := Prod.mk.inj (Option.some.inj hfind')
            exact Option.some.inj hnew ▸ field_cases hvalue
          next => cases hnew
    next =>
      split at h
      next => cases h
      next => exact found_of_readFields hfound rest h

theorem Found.tail (h : Found (.field name shape absent rest) found) (hname : name ∉ rest.names) :
    Found rest found := fun other shape' absent' value hfind hlookup => by
  refine h other shape' absent' value ?_ hlookup
  have hne : name ≠ other := by
    rintro rfl
    rw [Fields.find?_eq_none hname] at hfind
    cases hfind
  rw [Fields.find?, if_neg hne, hfind]

/-- An absent field has its default, or it may be absent. -/
theorem filled_of_absentField {first : List (String × Document)}
    (hfirst : absentField name absent = .ok first) (hrest : Filled Outcome rest written) :
    Filled Outcome (.field name shape absent rest) (first ++ written) := by
  cases absent with
  | refused => cases hfirst
  | default value => exact Except.ok.inj hfirst ▸ .present name (.inr rfl) hrest
  | noValue => exact Except.ok.inj hfirst ▸ .left name shape hrest

/-- What stands for a field among those that were found. -/
def arrangedField (found : List (String × Document)) (name : String) (absent : Absent) :
    Except Fault (List (String × Document)) :=
  match Document.lookup? name found with
  | some .null => .ok []
  | some value => .ok [(name, value)]
  | none => absentField name absent

theorem arrange_field (found : List (String × Document)) (name : String) (shape : Shape)
    (absent : Absent) (rest : Fields) :
    Shape.arrange found (.field name shape absent rest) =
      arrangedField found name absent >>= fun first =>
        Shape.arrange found rest >>= fun others => .ok (first ++ others) := by
  rw [Shape.arrange, arrangedField]
  cases Document.lookup? name found with
  | none => rfl
  | some value => cases value <;> rfl

theorem filled_of_arrange :
    (fields : Fields) → {written : List (String × Document)} → fields.names.Nodup → Found fields found →
      Shape.arrange found fields = .ok written → Filled Outcome fields written
  | .nil, _, _, _, h => Except.ok.inj h ▸ .nil
  | .field name shape absent rest, _, hnodup, hfound, h => by
    obtain ⟨hname, hnodup⟩ := List.nodup_cons.1 hnodup
    have hfield := hfound name shape absent
    rw [arrange_field] at h
    obtain ⟨first, hfirst, h⟩ := bind_eq_ok h
    obtain ⟨others, hothers, h⟩ := bind_eq_ok h
    obtain rfl := Except.ok.inj h
    have hrest := filled_of_arrange rest hnodup (hfound.tail hname) hothers
    rw [Fields.find?, if_pos rfl] at hfield
    rw [arrangedField] at hfirst
    split at hfirst
    next hnull =>
      obtain ⟨-, rfl⟩ | ⟨hne, -⟩ := hfield _ rfl hnull
      · exact Except.ok.inj hfirst ▸ .left name shape hrest
      · exact absurd rfl hne
    next value hne hvalue =>
      obtain ⟨rfl, -⟩ | hread := hfield _ rfl hvalue
      · exact absurd rfl hne
      · exact Except.ok.inj hfirst ▸ .present name (.inl hread) hrest
    next => exact filled_of_absentField hfirst hrest

theorem filled_of_readRow :
    (fields : Fields) → {written : List (String × Document)} → fields.names.Nodup →
      (items : Draft.Items) → readRow fields items = .ok written → Filled Outcome fields written
  | .nil, _, _, .closed, h => by
    rw [readRow] at h
    exact Except.ok.inj h ▸ .nil
  | .nil, _, _, .item d items, h => by
    rw [readRow] at h
    cases h
  | fields, _, _, .broken fault, h => by
    rw [readRow] at h
    cases h
  | .field name shape absent rest, _, hnodup, .closed, h => by
    obtain ⟨-, hnodup⟩ := List.nodup_cons.1 hnodup
    rw [readRow] at h
    obtain ⟨first, hfirst, h⟩ := bind_eq_ok h
    obtain ⟨others, hothers, h⟩ := bind_eq_ok h
    obtain rfl := Except.ok.inj h
    exact filled_of_absentField hfirst (filled_of_arrange rest hnodup (found_nil rest) hothers)
  | .field name shape absent rest, _, hnodup, .item d items, h => by
    obtain ⟨-, hnodup⟩ := List.nodup_cons.1 hnodup
    rw [readRow] at h
    dsimp only at h
    rw [ite_bind] at h
    obtain ⟨value, hvalue, h⟩ := bind_eq_ok h
    obtain ⟨others, hothers, h⟩ := bind_eq_ok h
    obtain rfl := Except.ok.inj h
    have hrest := filled_of_readRow rest hnodup items hothers
    rcases field_cases hvalue with ⟨rfl, rfl⟩ | hread
    · exact .left name shape hrest
    · split
      next => exact absurd rfl hread.1
      next => exact .present name (.inl hread) hrest

/-- **A record that was read has the form of its shape.** -/
theorem filled_of_read {d : Draft} (hnodup : fields.names.Nodup) (h : read (.record fields) d = .ok doc) :
    ∃ written, doc = .record written ∧ Filled Outcome fields written := by
  cases gives_of_read h with
  | record hfound harranged =>
    have hread := found_of_readFields (found_nil fields) _ hfound
    exact ⟨_, rfl, filled_of_arrange fields hnodup hread harranged⟩
  | row hrow => exact ⟨_, rfl, filled_of_readRow fields hnodup _ hrow⟩

end Shape

end BlockStorage
