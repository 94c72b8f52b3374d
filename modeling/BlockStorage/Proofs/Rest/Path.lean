import BlockStorage.Rest.Client
import BlockStorage.Proofs.Text.Grammar
import BlockStorage.Proofs.Text.Percent
import Mathlib.Data.List.Forall2

/-!
Where identifiers lead.

An identifier becomes an element of a path. A plain one, which is no dot segment and has no tab and no
line break, adds one segment that decodes to it, and nothing else of the URL changes; so two paths of
plain elements never have one URL. All other elements lead elsewhere: the segments that they add are too
few or decode to something else.
-/

namespace BlockStorage.Rest

open Text

namespace Url

/-- Whether an element adds a segment that stands for it. -/
def IsPlain (element : String) : Prop :=
  element ≠ "." ∧ element ≠ ".." ∧ ∀ c ∈ element.toList, isDropped c = false

instance : DecidablePred IsPlain := fun element =>
  -- the characters of the element are checked, not all that there are
  letI := element.toList.decidableBAll fun c => isDropped c = false
  inferInstanceAs
    (Decidable (element ≠ "." ∧ element ≠ ".." ∧ ∀ c ∈ element.toList, isDropped c = false))

/-- The segments that stay before one that is added; a path of one empty segment has none. -/
def entries (segments : List String) : List String := if segments = [""] then [] else segments

/-- The segments of an endpoint that stand before the elements of a path: a slash at the end does not
count. -/
def own (endpoint : Url) : List String := entries (base endpoint.segments)

/-- Whether the path of a URL is that of an endpoint and then one segment for each element, which decodes
to it. -/
def Spells (url endpoint : Url) (elements : List String) : Prop :=
  ∃ added, url.segments = endpoint.own ++ added ∧
    added.Forall₂ (fun segment element =>
      Percent.decode segment.toList = Percent.bytes element.toList) elements

/-- Whether elements make a path behind an endpoint: where the endpoint has no segments there has to be a
first element, and it is not empty. -/
def IsRooted (endpoint : Url) (elements : List String) : Prop :=
  endpoint.own = [] → ∃ first rest, elements = first :: rest ∧ first ≠ ""

/-! ### Dots -/

/-- A dot that is encoded has its digit in either case. -/
theorem isSingleDot_cases {s : List Char} (h : isSingleDot s = true) :
    s = ['.'] ∨ s = ['%', '2', 'e'] ∨ s = ['%', '2', 'E'] := by
  rcases Bool.or_eq_true_iff.1 h with hdot | hcode
  · exact .inl (of_decide_eq_true hdot)
  · have hlower : s.map Char.toLower = ['%', '2', 'e'] := of_decide_eq_true hcode
    obtain ⟨a, s, rfl, ha, hlower⟩ := List.map_eq_cons_iff.1 hlower
    obtain ⟨b, s, rfl, hb, hlower⟩ := List.map_eq_cons_iff.1 hlower
    obtain ⟨c, s, rfl, hc, hlower⟩ := List.map_eq_cons_iff.1 hlower
    obtain rfl := List.map_eq_nil_iff.1 hlower
    obtain rfl : a = '%' := (eq_of_toLower_eq ha).resolve_right (by simp)
    obtain rfl : b = '2' := (eq_of_toLower_eq hb).resolve_right (by simp)
    rcases eq_of_toLower_eq hc with rfl | ⟨-, rfl⟩
    · exact .inr (.inl rfl)
    · exact .inr (.inr rfl)

theorem isSingleDot_of_toLower {s dot : List Char} (h : s.map Char.toLower = dot)
    (hdot : dot = ['.'] ∨ dot = ['%', '2', 'e']) : isSingleDot s = true := by
  rcases hdot with rfl | rfl
  · obtain ⟨a, s, rfl, ha, hs⟩ := List.map_eq_cons_iff.1 h
    obtain rfl := List.map_eq_nil_iff.1 hs
    obtain rfl : a = '.' := (eq_of_toLower_eq ha).resolve_right (by simp)
    rfl
  · exact Bool.or_eq_true_iff.2 (.inr (decide_eq_true h))

/-- A double dot is two dots, each of them written in any way. -/
theorem isDoubleDot_cases {s : List Char} (h : isDoubleDot s = true) :
    ∃ a b, s = a ++ b ∧ isSingleDot a = true ∧ isSingleDot b = true := by
  have hparts : ∃ x y, (x = ['.'] ∨ x = ['%', '2', 'e']) ∧ (y = ['.'] ∨ y = ['%', '2', 'e']) ∧
      s.map Char.toLower = x ++ y := by
    simp only [isDoubleDot, List.any_cons, List.any_nil, Bool.or_false, Bool.or_eq_true,
      decide_eq_true_eq] at h
    rcases h with h | h | h | h
    · exact ⟨_, _, .inl rfl, .inl rfl, h⟩
    · exact ⟨_, _, .inl rfl, .inr rfl, h⟩
    · exact ⟨_, _, .inr rfl, .inl rfl, h⟩
    · exact ⟨_, _, .inr rfl, .inr rfl, h⟩
  obtain ⟨x, y, hx, hy, hxy⟩ := hparts
  obtain ⟨a, b, rfl, ha, hb⟩ := List.map_eq_append_iff.1 hxy
  exact ⟨a, b, rfl, isSingleDot_of_toLower ha hx, isSingleDot_of_toLower hb hy⟩

theorem decode_dot_append {dot : List Char} (h : isSingleDot dot = true) (s : List Char) :
    Percent.decode (dot ++ s) = 46 :: Percent.decode s := by
  rcases isSingleDot_cases h with rfl | rfl | rfl
  · exact Percent.decode_cons (by decide) s
  · exact Percent.decode_encodeByte 46 s
  · exact Percent.decode_encodeByte 46 s

/-! ### Segments -/

/-- An element as it is added. -/
def code (element : String) : List Char :=
  Percent.encode isSegmentEncoded (element.toList.filter fun c => !isDropped c)

/-- The segment that an element adds. -/
def segment (element : String) : String :=
  if isDoubleDot (code element) || isSingleDot (code element) then "" else String.ofList (code element)

theorem decode_code (element : String) :
    Percent.decode (code element) =
      Percent.bytes (element.toList.filter fun c => !isDropped c) :=
  Percent.decode_encode (by decide) _

theorem decode_code_of_isPlain {element : String} (h : IsPlain element) :
    Percent.decode (code element) = Percent.bytes element.toList := by
  rw [decode_code, Percent.bytes_filter.2]
  intro c hc
  rw [h.2.2 c hc, Bool.not_false]

/-- A plain element is not taken for dots. -/
theorem segment_of_isPlain {element : String} (h : IsPlain element) :
    isDoubleDot (code element) = false ∧ isSingleDot (code element) = false ∧
      segment element = String.ofList (code element) := by
  have hdouble : isDoubleDot (code element) = false := by
    by_contra hdots
    obtain ⟨a, b, hcode, ha, hb⟩ := isDoubleDot_cases (Bool.of_not_eq_false hdots)
    have hbytes : Percent.bytes element.toList = Percent.bytes "..".toList := by
      rw [← decode_code_of_isPlain h, hcode, decode_dot_append ha, ← b.append_nil,
        decode_dot_append hb]
      rfl
    exact h.2.1 (String.toList_injective (Percent.bytes_injective hbytes))
  have hsingle : isSingleDot (code element) = false := by
    by_contra hdot
    have hbytes : Percent.bytes element.toList = Percent.bytes ".".toList := by
      rw [← decode_code_of_isPlain h, ← (code element).append_nil,
        decode_dot_append (Bool.of_not_eq_false hdot)]
      rfl
    exact h.1 (String.toList_injective (Percent.bytes_injective hbytes))
  refine ⟨hdouble, hsingle, ?_⟩
  rw [segment, hdouble, hsingle]
  rfl

theorem decode_segment_of_isPlain {element : String} (h : IsPlain element) :
    Percent.decode (segment element).toList = Percent.bytes element.toList := by
  rw [(segment_of_isPlain h).2.2, String.toList_ofList, decode_code_of_isPlain h]

/-- An element that is no dot segment and whose segment decodes to it is plain. -/
theorem isPlain_of_decode_segment {element : String} (hdot : element ≠ "." ∧ element ≠ "..")
    (h : Percent.decode (segment element).toList = Percent.bytes element.toList) :
    IsPlain element := by
  refine ⟨hdot.1, hdot.2, ?_⟩
  unfold segment at h
  split at h
  · have hnil : element.toList = [] := Percent.bytes_injective h.symm
    simp [hnil]
  · rw [String.toList_ofList, decode_code, Percent.bytes_filter] at h
    intro c hc
    simpa using h c hc

theorem slash_not_mem_code (element : String) : '/' ∉ code element :=
  Percent.not_mem_encode (by decide) (by decide) (by decide) _

/-! ### Adding elements -/

theorem length_entries_le (segments : List String) : (entries segments).length ≤ segments.length := by
  unfold entries
  split
  · exact Nat.zero_le _
  · exact Nat.le_refl _

theorem entries_eq_self {segments : List String} (h : entries segments ≠ []) :
    entries segments = segments := by
  unfold entries at h ⊢
  split at h
  next => exact absurd rfl h
  next hne => rw [if_neg hne]

theorem entries_ne_blank (segments : List String) : entries segments ≠ [""] := by
  unfold entries
  split
  next => simp
  next hne => exact hne

theorem entries_append_singleton {front : List String} {last : String} (h : front ≠ [] ∨ last ≠ "") :
    entries (front ++ [last]) = front ++ [last] := by
  refine if_neg fun heq => ?_
  obtain ⟨rfl, hlast⟩ : front = [] ∧ [last] = [""] := by
    simpa [List.append_eq_singleton_iff] using heq
  rcases h with h | h
  · exact h rfl
  · exact h (List.head_eq_of_cons_eq hlast)

theorem above_cases (segments : List String) :
    above segments = segments ∨ (above segments).length < segments.length := by
  unfold above
  cases hlast : segments.getLast? with
  | none => exact .inl (List.getLast?_eq_none_iff.1 hlast).symm
  | some last =>
    have hne : segments ≠ [] := by
      rintro rfl
      cases hlast
    dsimp only
    split
    · exact .inl rfl
    · rw [List.length_dropLast]
      exact .inr (Nat.sub_lt (List.length_pos_iff.2 hne) Nat.one_pos)

theorem push_eq_finish {element : String} (hdot : element ≠ "." ∧ element ≠ "..")
    (segments : List String) : push segments element = finish (entries segments) (code element) :=
  if_neg (by simp [hdot])

/-- What one element does: a dot segment nothing, and any other adds its segment, behind the path as it is
or behind a shorter one. -/
theorem push_cases (segments : List String) (element : String) :
    (element = "." ∨ element = "..") ∧ push segments element = segments ∨
    (element ≠ "." ∧ element ≠ "..") ∧ ∃ front, push segments element = front ++ [segment element] ∧
      (front = entries segments ∨ front.length < (entries segments).length) := by
  by_cases hdot : element = "." ∨ element = ".."
  · exact .inl ⟨hdot, if_pos (by simpa using hdot)⟩
  · refine .inr ⟨not_or.1 hdot, ?_⟩
    rw [push_eq_finish (not_or.1 hdot), finish, segment]
    cases isDoubleDot (code element) with
    | true => exact ⟨_, rfl, above_cases _⟩
    | false =>
      cases isSingleDot (code element) with
      | true => exact ⟨_, rfl, .inl rfl⟩
      | false => exact ⟨_, rfl, .inl rfl⟩

theorem push_isPlain {element : String} (h : IsPlain element) (segments : List String) :
    push segments element = entries segments ++ [segment element] := by
  obtain ⟨hdouble, hsingle, hsegment⟩ := segment_of_isPlain h
  rw [push_eq_finish ⟨h.1, h.2.1⟩, finish, hdouble, hsingle, hsegment]
  rfl

theorem length_entries_push_le (segments : List String) (element : String) :
    (entries (push segments element)).length ≤ (entries segments).length + 1 := by
  rcases push_cases segments element with ⟨-, h⟩ | ⟨-, front, h, hfront⟩
  · rw [h]
    exact Nat.le_succ _
  · have hle := length_entries_le (front ++ [segment element])
    rw [List.length_append, List.length_singleton] at hle
    rw [h]
    rcases hfront with rfl | hlt
    · exact hle
    · omega

/-- Only an element that is no dot segment makes a path longer, and it leaves the path before it. -/
theorem push_of_length {segments : List String} {element : String}
    (h : (entries (push segments element)).length = (entries segments).length + 1) :
    (element ≠ "." ∧ element ≠ "..") ∧
      entries (push segments element) = entries segments ++ [segment element] := by
  rcases push_cases segments element with ⟨-, hpush⟩ | ⟨hdot, front, hpush, hfront⟩
  · rw [hpush] at h
    omega
  · refine ⟨hdot, ?_⟩
    have hself : entries (push segments element) = push segments element :=
      entries_eq_self (List.ne_nil_of_length_eq_add_one h)
    rw [hself, hpush, List.length_append, List.length_singleton] at h
    rcases hfront with rfl | hlt
    · rw [hself, hpush]
    · omega

theorem length_entries_foldl_push_le (elements segments : List String) :
    (entries (elements.foldl push segments)).length ≤ (entries segments).length + elements.length := by
  induction elements generalizing segments with
  | nil => exact Nat.le_refl _
  | cons element rest ih =>
    have hstep := length_entries_push_le segments element
    have hrest := ih (push segments element)
    rw [List.foldl_cons, List.length_cons]
    omega

/-- Where elements add one segment each, none of them is a dot segment, and the path before them stays. -/
theorem foldl_push_of_length {elements segments : List String}
    (h : (entries (elements.foldl push segments)).length =
      (entries segments).length + elements.length) :
    (∀ e ∈ elements, e ≠ "." ∧ e ≠ "..") ∧
      entries (elements.foldl push segments) = entries segments ++ elements.map segment := by
  induction elements generalizing segments with
  | nil => exact ⟨by simp, (List.append_nil _).symm⟩
  | cons element rest ih =>
    rw [List.foldl_cons, List.length_cons] at h
    have hstep := length_entries_push_le segments element
    have hrest := length_entries_foldl_push_le rest (push segments element)
    have hlength : (entries (push segments element)).length = (entries segments).length + 1 := by
      omega
    have hlengths : (entries (rest.foldl push (push segments element))).length =
        (entries (push segments element)).length + rest.length := by
      omega
    obtain ⟨hdot, hpush⟩ := push_of_length hlength
    obtain ⟨hdots, hfold⟩ := ih hlengths
    refine ⟨List.forall_mem_cons.2 ⟨hdot, hdots⟩, ?_⟩
    rw [List.foldl_cons, hfold, hpush, List.map_cons, List.append_assoc, List.singleton_append]

/-- Plain elements add their segments to a path that is not empty. -/
theorem foldl_push_isPlain {elements : List String} (h : ∀ e ∈ elements, IsPlain e)
    {segments : List String} (hne : entries segments ≠ []) :
    elements.foldl push segments = segments ++ elements.map segment := by
  induction elements generalizing segments with
  | nil => rw [List.foldl_nil, List.map_nil, List.append_nil]
  | cons element rest ih =>
    have hself := entries_eq_self hne
    have hpush : push segments element = segments ++ [segment element] := by
      rw [push_isPlain (h element List.mem_cons_self), hself]
    have hne' : entries (segments ++ [segment element]) ≠ [] := by
      rw [entries_append_singleton (.inl (hself ▸ hne))]
      simp
    rw [List.foldl_cons, hpush, ih (fun e he => h e (List.mem_cons_of_mem _ he)) hne', List.map_cons,
      List.append_assoc, List.singleton_append]

/-! ### Paths behind endpoints -/

/-- The segments of an endpoint are those that are there when the first element comes. -/
theorem entries_start (endpoint : Url) :
    entries (if endpoint.segments.length ≤ 1 then endpoint.segments else base endpoint.segments) =
      endpoint.own := by
  unfold own
  split
  next hshort =>
    by_cases hlast : endpoint.segments.getLast? = some ""
    · obtain ⟨front, hfront⟩ := List.getLast?_eq_some_iff.1 hlast
      rw [hfront, List.length_append, List.length_singleton] at hshort
      obtain rfl := List.length_eq_zero_iff.1 (Nat.le_zero.1 (Nat.le_of_succ_le_succ hshort))
      rw [hfront]
      rfl
    · rw [base, if_neg hlast]
  next => rfl

theorem extend_isPlain {endpoint : Url} {elements : List String} (hrooted : endpoint.IsRooted elements)
    (h : ∀ e ∈ elements, IsPlain e) :
    (endpoint.extend elements).segments = endpoint.own ++ elements.map segment := by
  have hstart := entries_start endpoint
  simp only [extend]
  generalize (if endpoint.segments.length ≤ 1 then endpoint.segments else base endpoint.segments) =
    start at hstart ⊢
  by_cases hown : endpoint.own = []
  · obtain ⟨first, rest, rfl, hfirst⟩ := hrooted hown
    have hplain := h first List.mem_cons_self
    have hsegment : segment first ≠ "" := by
      intro hempty
      have hbytes := decode_segment_of_isPlain hplain
      rw [hempty] at hbytes
      exact hfirst (String.toList_injective (Percent.bytes_injective hbytes.symm))
    have hne : entries [segment first] ≠ [] := by
      rw [← List.nil_append [segment first], entries_append_singleton (.inr hsegment)]
      simp
    rw [List.foldl_cons, push_isPlain hplain, hstart, hown, List.nil_append,
      foldl_push_isPlain (fun e he => h e (List.mem_cons_of_mem _ he)) hne]
    rfl
  · rw [foldl_push_isPlain h (hstart.symm ▸ hown), ← hstart, entries_eq_self (hstart.symm ▸ hown)]

/-- A path that spells elements is not the empty one. -/
theorem ne_blank_of_decode {endpoint : Url} {elements added : List String}
    (hrooted : endpoint.IsRooted elements)
    (h : added.Forall₂ (fun segment element =>
      Percent.decode segment.toList = Percent.bytes element.toList) elements) :
    endpoint.own ++ added ≠ [""] := by
  intro hblank
  rcases List.append_eq_singleton_iff.1 hblank with ⟨hown, rfl⟩ | ⟨hown, -⟩
  · obtain ⟨first, rest, rfl, hfirst⟩ := hrooted hown
    obtain ⟨hbytes, -⟩ := List.forall₂_cons.1 h
    exact hfirst (String.toList_injective (Percent.bytes_injective hbytes.symm))
  · exact entries_ne_blank _ hown

/-- The path is spelt by plain elements and by no others. -/
theorem spells_extend_iff {endpoint : Url} {elements : List String}
    (hrooted : endpoint.IsRooted elements) :
    (endpoint.extend elements).Spells endpoint elements ↔ ∀ e ∈ elements, IsPlain e := by
  constructor
  · rintro ⟨added, hsegments, hadded⟩
    have hne := ne_blank_of_decode hrooted hadded
    have hself : entries (endpoint.own ++ added) = endpoint.own ++ added := if_neg hne
    have hfold : elements.foldl push (if endpoint.segments.length ≤ 1 then endpoint.segments
        else base endpoint.segments) = endpoint.own ++ added := hsegments
    have hlength : (entries (elements.foldl push (if endpoint.segments.length ≤ 1 then
        endpoint.segments else base endpoint.segments))).length =
          (entries (if endpoint.segments.length ≤ 1 then endpoint.segments
            else base endpoint.segments)).length + elements.length := by
      rw [hfold, hself, entries_start, List.length_append, hadded.length_eq]
    obtain ⟨hdots, hadds⟩ := foldl_push_of_length hlength
    rw [hfold, hself, entries_start] at hadds
    obtain rfl := List.append_cancel_left hadds
    rw [List.forall₂_map_left_iff, List.forall₂_same] at hadded
    exact fun e he => isPlain_of_decode_segment (hdots e he) (hadded e he)
  · intro h
    refine ⟨elements.map segment, extend_isPlain hrooted h, ?_⟩
    rw [List.forall₂_map_left_iff, List.forall₂_same]
    exact fun e he => decode_segment_of_isPlain (h e he)

/-! ### Texts of paths -/

/-- Segments as they are written. -/
def joined (segments : List String) : List Char := segments.flatMap fun s => '/' :: s.toList

theorem joined_eq {segments : List String} (h : segments ≠ []) :
    joined segments = '/' :: ['/'].intercalate (segments.map String.toList) := by
  induction segments with
  | nil => exact absurd rfl h
  | cons s rest ih =>
    cases rest with
    | nil => simp [joined]
    | cons t rest =>
      have hrest := ih (List.cons_ne_nil _ _)
      rw [joined, List.flatMap_cons, ← joined, hrest]
      simp only [List.map_cons, List.intercalate_cons_cons, List.cons_append, List.append_assoc,
        List.nil_append]

theorem toList_path {url : Url} (h : url.segments ≠ []) : url.path.toList = joined url.segments := by
  rw [joined_eq h, path, String.toList_append, String.toList_intercalate]
  rfl

/-- Segments without slashes can be told from what is written. -/
theorem joined_injective {s t : List String} (hs : ∀ x ∈ s, '/' ∉ x.toList)
    (ht : ∀ x ∈ t, '/' ∉ x.toList) (h : joined s = joined t) : s = t := by
  have hsplit : ∀ {l : List String}, (∀ x ∈ l, '/' ∉ x.toList) → l ≠ [] →
      (['/'].intercalate (l.map String.toList)).splitOn '/' = l.map String.toList := by
    intro l hl hne
    refine List.splitOn_intercalate '/' ?_ (by simpa using hne)
    rintro _ hx
    obtain ⟨x, hmem, rfl⟩ := List.mem_map.1 hx
    exact hl x hmem
  by_cases hsnil : s = [] <;> by_cases htnil : t = []
  · rw [hsnil, htnil]
  · rw [hsnil, joined_eq htnil] at h
    cases h
  · rw [htnil, joined_eq hsnil] at h
    cases h
  · rw [joined_eq hsnil, joined_eq htnil] at h
    have hmap := congrArg (List.splitOn '/') (List.tail_eq_of_cons_eq h)
    rw [hsplit hs hsnil, hsplit ht htnil] at hmap
    exact List.map_injective_iff.2 (fun _ _ => String.toList_injective) hmap

/-- URLs that differ in their segments only differ in their paths only. -/
theorem path_eq_of_text_eq (url : Url) {s t : List String}
    (h : { url with segments := s }.text = { url with segments := t }.text) :
    { url with segments := s }.path = { url with segments := t }.path := by
  simpa only [text, String.append_left_inj, String.append_right_inj] using h

/-- The path of plain elements as it is written. -/
theorem toList_path_extend {endpoint : Url} {elements : List String}
    (hrooted : endpoint.IsRooted elements) (h : ∀ e ∈ elements, IsPlain e) :
    (endpoint.extend elements).path.toList =
      joined endpoint.own ++ joined (elements.map segment) := by
  have hsegments := extend_isPlain hrooted h
  have hne : endpoint.own ++ elements.map segment ≠ [] := by
    intro hnil
    obtain ⟨hown, helements⟩ := List.append_eq_nil_iff.1 hnil
    obtain ⟨first, rest, rfl, -⟩ := hrooted hown
    cases helements
  rw [toList_path (hsegments ▸ hne), hsegments]
  exact List.flatMap_append

/-- Plain elements can be told from the segments that they add. -/
theorem segment_injOn {elements others : List String} (h : ∀ e ∈ elements, IsPlain e)
    (h' : ∀ e ∈ others, IsPlain e) (hmap : elements.map segment = others.map segment) :
    elements = others := by
  have hbytes : ∀ {l : List String}, (∀ e ∈ l, IsPlain e) →
      (l.map segment).map (fun s => Percent.decode s.toList) =
        l.map fun e => Percent.bytes e.toList := by
    intro l hl
    rw [List.map_map]
    exact List.map_congr_left fun e he => decode_segment_of_isPlain (hl e he)
  refine List.map_injective_iff.2 (fun _ _ heq => ?_) ((hbytes h).symm.trans (hmap ▸ hbytes h'))
  exact String.toList_injective (Percent.bytes_injective heq)

/-- Two lists of plain elements have different URLs behind one endpoint. -/
theorem elements_eq_of_text_eq {endpoint : Url} {elements others : List String}
    (hrooted : endpoint.IsRooted elements) (hothers : endpoint.IsRooted others)
    (h : ∀ e ∈ elements, IsPlain e) (h' : ∀ e ∈ others, IsPlain e)
    (htext : (endpoint.extend elements).text = (endpoint.extend others).text) : elements = others := by
  have hslash : ∀ {l : List String}, (∀ e ∈ l, IsPlain e) → ∀ x ∈ l.map segment, '/' ∉ x.toList := by
    intro l hl x hx
    obtain ⟨e, he, rfl⟩ := List.mem_map.1 hx
    rw [(segment_of_isPlain (hl e he)).2.2, String.toList_ofList]
    exact slash_not_mem_code e
  have hpath := congrArg String.toList (path_eq_of_text_eq endpoint htext)
  have hjoined : joined (elements.map segment) = joined (others.map segment) :=
    List.append_cancel_left
      ((toList_path_extend hrooted h).symm.trans (hpath.trans (toList_path_extend hothers h')))
  exact segment_injOn h h' (joined_injective (hslash h) (hslash h') hjoined)

end Url

namespace Client

open Url

/-- All messages go behind the version of the protocol. -/
theorem isRooted_path (endpoint : Url) (call : Call) : endpoint.IsRooted (Message.ofCall call).path :=
  fun _ => ⟨"v2", (Message.ofCall call).path.tail, by cases call <;> rfl, by decide⟩

/-- Identifiers and the path of a request: nothing but the path of an endpoint depends on the elements that
are added to it; the path is that of the endpoint with one segment for each element exactly if all elements
are plain; and two paths of plain elements never have one URL. -/
theorem identifiers_in_path {endpoint : String} {base : Url}
    (hbase : Url.ofEndpoint endpoint = .ok base) :
    (∀ call, base.IsRooted (Message.ofCall call).path) ∧
    ∀ elements, base.IsRooted elements →
      ∃ url, urlAt endpoint elements = .ok url ∧ url = { base with segments := url.segments } ∧
        (url.Spells base elements ↔ ∀ e ∈ elements, IsPlain e) ∧
        ((∀ e ∈ elements, IsPlain e) →
          ∀ others other, base.IsRooted others → (∀ e ∈ others, IsPlain e) →
            urlAt endpoint others = .ok other → other.text = url.text → others = elements) := by
  have hurl : ∀ elements, urlAt endpoint elements = .ok (base.extend elements) := by
    intro elements
    rw [urlAt, hbase]
  refine ⟨isRooted_path base, fun elements hrooted => ?_⟩
  refine ⟨base.extend elements, hurl elements, rfl, spells_extend_iff hrooted, ?_⟩
  intro h others other hothers h' hother htext
  obtain rfl := Except.ok.inj ((hurl others).symm.trans hother)
  exact elements_eq_of_text_eq hothers hrooted h' h htext

/-- A volume with a slash and a percent sign in its identifier. -/
theorem identifiers_in_path_slash : ∃ base url, Url.ofEndpoint "http://h/api/" = .ok base ∧
    urlAt "http://h/api/" (Message.volumePath ⟨"ns-1"⟩ ⟨"a/%2E"⟩) = .ok url ∧
    url.Spells base (Message.volumePath ⟨"ns-1"⟩ ⟨"a/%2E"⟩) ∧
    ∀ id other, IsPlain id → urlAt "http://h/api/" (Message.volumePath ⟨"ns-1"⟩ ⟨id⟩) = .ok other →
      other.text = url.text → id = "a/%2E" := by
  have hbase : Url.ofEndpoint "http://h/api/" =
      .ok ⟨false, none, .domain "h", none, ["api"], none, none⟩ := rfl
  obtain ⟨url, hurl, -, hspells, hother⟩ :=
    (identifiers_in_path hbase).2 (Message.volumePath ⟨"ns-1"⟩ ⟨"a/%2E"⟩) (fun h => by cases h)
  have hplain : ∀ e ∈ Message.volumePath ⟨"ns-1"⟩ ⟨"a/%2E"⟩, IsPlain e := by decide
  refine ⟨_, url, hbase, hurl, hspells.2 hplain, fun id other hid hat htext => ?_⟩
  have hids : ∀ e ∈ Message.volumePath ⟨"ns-1"⟩ ⟨id⟩, IsPlain e :=
    List.forall_mem_append.2 ⟨by decide, List.forall_mem_singleton.2 hid⟩
  have heq := hother hplain _ other (fun h => by cases h) hids hat htext
  exact List.singleton_injective (List.append_cancel_left heq)

/-- Elements that are not plain: the volume with two dots for an identifier has the URL of all volumes of
its namespace, and an identifier with a tab has that of the identifier without it. -/
theorem identifiers_change_path :
    urlAt "http://h" (Message.volumePath ⟨"ns-1"⟩ ⟨".."⟩) = urlAt "http://h" (Message.volumes ⟨"ns-1"⟩) ∧
    urlAt "http://h" (Message.nodePath ⟨"a\tb"⟩) = urlAt "http://h" (Message.nodePath ⟨"ab"⟩) :=
  ⟨rfl, rfl⟩

end Client

end BlockStorage.Rest
