import BlockStorage.Output.Sink

/-!
Output that may not fit.

Pieces are written in order until one does not fit. A sink refuses such a piece as a whole; another writer may
take a start of it before it fails. Whatever it does, what it took is a start of what was to be written,
writing succeeds exactly if everything fits, and a failure is told as one of the output (`Writer.tells`).
-/

namespace BlockStorage

/-! ### Sinks -/

namespace Sink

variable {sink : Sink} {pieces : List String}

theorem kind_of_writeAll {e : CommandError} (h : (sink.writeAll pieces).1 = .error e) : e.kind = .display := by
  induction pieces generalizing sink with
  | nil => cases h
  | cons piece pieces ih =>
    rw [writeAll] at h
    split at h
    · exact ih h
    · cases h
      rfl

/-- A sink without a limit takes everything. -/
theorem writeAll_of_room_eq_none (h : sink.room = none) :
    sink.writeAll pieces = (.ok (), ⟨none, sink.written ++ String.join pieces⟩) := by
  induction pieces generalizing sink with
  | nil =>
    obtain ⟨room, written⟩ := sink
    subst h
    simp [writeAll]
  | cons piece pieces ih =>
    have hfits : sink.fits piece.utf8ByteSize = true := by rw [fits, h, Option.all_none]
    have htake : (sink.take piece).room = none := by rw [take, h, Option.map_none]
    rw [writeAll, if_pos hfits, ih htake, take, String.join_cons, String.append_assoc]

/-- A sink takes all pieces in order, or it has a limit. -/
theorem writeAll_cases (sink : Sink) (pieces : List String) :
    (∃ room, sink.writeAll pieces = (.ok (), ⟨room, sink.written ++ String.join pieces⟩)) ∨
      (sink.room.isSome ∧ ∃ taken, sink.writeAll pieces = (.error full, taken)) := by
  induction pieces generalizing sink with
  | nil => exact .inl ⟨sink.room, by simp [writeAll]⟩
  | cons piece pieces ih =>
    rw [writeAll]
    split
    next =>
      rcases ih (sink.take piece) with ⟨room, hall⟩ | ⟨hlimit, taken, hfull⟩
      · refine .inl ⟨room, ?_⟩
        rw [hall]
        simp [take, String.append_assoc]
      · refine .inr ⟨?_, taken, hfull⟩
        simpa [take] using hlimit
    next hfits =>
      refine .inr ⟨?_, sink, rfl⟩
      cases hroom : sink.room with
      | none => simp [fits, hroom] at hfits
      | some room => rfl

end Sink

/-! ### Writers -/

/-- The bytes of a text in UTF-8. -/
def utf8Of (s : String) : List UInt8 := s.toByteArray.data.toList

theorem utf8Of_append (s t : String) : utf8Of (s ++ t) = utf8Of s ++ utf8Of t := by simp [utf8Of]

/-- Something that takes bytes as long as there is room and then fails. A piece that there is room for is taken
whole; of any other one some start is, perhaps nothing, and writing it fails with some text. -/
structure Writer where
  State : Type
  /-- The number of bytes that there is still room for, if there is a limit. -/
  room : State → Option Nat
  taken : State → List UInt8
  write : State → String → Except String Unit × State
  write_of_fits : ∀ (s : State) (piece : String), ((room s).all fun n => piece.utf8ByteSize ≤ n) = true →
    (write s piece).1 = .ok () ∧ taken (write s piece).2 = taken s ++ utf8Of piece ∧
      room (write s piece).2 = (room s).map (· - piece.utf8ByteSize)
  write_of_not_fits : ∀ (s : State) (piece : String), ((room s).all fun n => piece.utf8ByteSize ≤ n) = false →
    (∃ text, (write s piece).1 = .error text) ∧
      ∃ begun, begun <+: utf8Of piece ∧ taken (write s piece).2 = taken s ++ begun

namespace Writer

/-- Writes pieces in order, up to the first one that fails. -/
def writeAll (W : Writer) : W.State → List String → Except CommandError Unit × W.State
  | s, [] => (.ok (), s)
  | s, piece :: pieces =>
    match W.write s piece with
    | (.ok (), s) => W.writeAll s pieces
    | (.error text, s) => (.error (.display text), s)

section

variable {W : Writer} {s t : W.State} {piece : String}

theorem writeAll_of_ok (h : W.write s piece = (.ok (), t)) (pieces : List String) :
    W.writeAll s (piece :: pieces) = W.writeAll t pieces := by rw [writeAll, h]

theorem writeAll_of_error {text : String} (h : W.write s piece = (.error text, t)) (pieces : List String) :
    W.writeAll s (piece :: pieces) = (.error (.display text), t) := by rw [writeAll, h]

end

/-- A sink is a writer that takes nothing of a piece that does not fit. -/
def sink : Writer where
  State := Sink
  room := Sink.room
  taken s := utf8Of s.written
  write s piece := if s.fits piece.utf8ByteSize then (.ok (), s.take piece) else (.error "sink full", s)
  write_of_fits s piece h := by
    rw [if_pos (show s.fits piece.utf8ByteSize = true from h)]
    exact ⟨rfl, utf8Of_append _ _, rfl⟩
  write_of_not_fits s piece h := by
    rw [if_neg (Bool.eq_false_iff.1 (show s.fits piece.utf8ByteSize = false from h))]
    exact ⟨⟨_, rfl⟩, [], List.nil_prefix, (List.append_nil _).symm⟩

theorem writeAll_sink (s : Sink) (pieces : List String) : sink.writeAll s pieces = s.writeAll pieces := by
  induction pieces generalizing s with
  | nil => rfl
  | cons piece pieces ih =>
    by_cases h : s.fits piece.utf8ByteSize = true
    · rw [writeAll_of_ok (W := sink) (if_pos h), Sink.writeAll, if_pos h]
      exact ih _
    · rw [writeAll_of_error (W := sink) (if_neg h), Sink.writeAll, if_neg h]
      rfl

/-- A writer that fills up to the last byte before it fails. -/
def filling : Writer where
  State := Nat × List UInt8
  room s := some s.1
  taken s := s.2
  write s piece :=
    if piece.utf8ByteSize ≤ s.1 then (.ok (), (s.1 - piece.utf8ByteSize, s.2 ++ utf8Of piece))
    else (.error "no space left", (0, s.2 ++ (utf8Of piece).take s.1))
  write_of_fits s piece h := by
    rw [if_pos (by simpa using h)]
    exact ⟨rfl, rfl, rfl⟩
  write_of_not_fits s piece h := by
    rw [if_neg (by simpa using h)]
    exact ⟨⟨_, rfl⟩, _, List.take_prefix _ _, rfl⟩

/-- How a writer fares with a whole: what it takes is a start of the whole, it succeeds exactly if there is
room for the whole, and otherwise it fails as output does. -/
structure Tells (W : Writer) (s : W.State) (whole : String) (outcome : Except CommandError Unit × W.State) :
    Prop where
  isStart : ∃ begun, begun <+: utf8Of whole ∧ W.taken outcome.2 = W.taken s ++ begun
  ok_iff : outcome.1 = .ok () ↔ ((W.room s).all fun n => whole.utf8ByteSize ≤ n) = true
  kind : ∀ e, outcome.1 = .error e → e.kind = .display

/-- There is room for two pieces if there is for the first and then still for the second. -/
theorem room_append {room : Option Nat} {a b : Nat} :
    (room.all fun n => a + b ≤ n) = true ↔
      (room.all fun n => a ≤ n) = true ∧ ((room.map (· - a)).all fun n => b ≤ n) = true := by
  cases room with
  | none => simp
  | some n =>
    simp only [Option.map_some, Option.all_some, decide_eq_true_eq]
    omega

/-- Whatever is written in pieces, a writer that does not take the whole of it tells so. -/
theorem tells (W : Writer) (s : W.State) (pieces : List String) :
    W.Tells s (String.join pieces) (W.writeAll s pieces) := by
  induction pieces generalizing s with
  | nil =>
    refine ⟨⟨[], List.nil_prefix, (List.append_nil _).symm⟩, ⟨fun _ => ?_, fun _ => rfl⟩, fun e he => ?_⟩
    · cases W.room s <;> simp
    · cases he
  | cons piece pieces ih =>
    have hsize : (String.join (piece :: pieces)).utf8ByteSize =
        piece.utf8ByteSize + (String.join pieces).utf8ByteSize := by
      rw [String.join_cons, String.utf8ByteSize_append]
    by_cases hfits : ((W.room s).all fun n => piece.utf8ByteSize ≤ n) = true
    case pos =>
      obtain ⟨hok, htaken, hroom⟩ := W.write_of_fits s piece hfits
      obtain ⟨⟨begun, hbegun, hrest⟩, hiff, hkind⟩ := ih (W.write s piece).2
      rw [writeAll_of_ok (Prod.ext hok rfl)]
      refine ⟨⟨utf8Of piece ++ begun, ?_, ?_⟩, ?_, hkind⟩
      · rw [String.join_cons, utf8Of_append, List.prefix_append_right_inj]
        exact hbegun
      · rw [hrest, htaken, List.append_assoc]
      · rw [hiff, hroom, hsize, room_append]
        simp [hfits]
    case neg =>
      rw [Bool.not_eq_true] at hfits
      obtain ⟨⟨text, htext⟩, begun, hbegun, htaken⟩ := W.write_of_not_fits s piece hfits
      rw [writeAll_of_error (Prod.ext htext rfl)]
      refine ⟨⟨begun, ?_, htaken⟩, ?_, fun e he => ?_⟩
      · rw [String.join_cons, utf8Of_append]
        exact hbegun.trans (List.prefix_append _ _)
      · rw [hsize, room_append, hfits]
        simp
      · obtain rfl := Except.error.inj he
        rfl

end Writer

end BlockStorage
