import BlockStorage.Error.Command

/-!
Where output goes: a sink takes pieces of text until one does not fit.

A sink has a limit of bytes or none. A piece that would pass the limit is refused, and nothing of it
is written. What was written is always a start of what was to be written, and writing succeeds exactly
when everything fits.
-/

namespace BlockStorage

/-- A sink with the bytes that it can still take, if it is limited, and what it took. -/
structure Sink where
  room : Option Nat
  written : String
deriving DecidableEq, Repr

namespace Sink

/-- A sink that has taken nothing. -/
def withLimit (limit : Option Nat) : Sink := ⟨limit, ""⟩

/-- Whether a piece of a number of bytes fits. -/
def fits (sink : Sink) (bytes : Nat) : Bool := sink.room.all fun room => bytes ≤ room

/-- Takes a piece that fits. -/
def take (sink : Sink) (piece : String) : Sink :=
  ⟨sink.room.map (· - piece.utf8ByteSize), sink.written ++ piece⟩

/-- The error of a sink that is full. -/
def full : CommandError := .display "sink full"

/-- Writes pieces in order, up to the first one that does not fit. -/
def writeAll (sink : Sink) : List String → Except CommandError Unit × Sink
  | [] => (.ok (), sink)
  | piece :: pieces =>
    if sink.fits piece.utf8ByteSize then (sink.take piece).writeAll pieces
    else (.error full, sink)

end Sink

end BlockStorage
