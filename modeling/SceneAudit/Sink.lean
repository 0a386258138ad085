/-!
# Writing to a place of limited room

A sink takes bytes until its room is used up; a piece that does not fit is taken as far as it goes, and nothing after
it is taken at all.
-/

namespace SceneAudit

structure Sink where
  /-- The number of bytes that still fit. -/
  room : Nat
  /-- The bytes that were taken. -/
  taken : ByteArray

namespace Sink

/-- A sink that takes `room` bytes. -/
def ofRoom (room : Nat) : Sink := ⟨room, .empty⟩

/-- The sink after a piece, and whether the piece fit. -/
def write (sink : Sink) (piece : ByteArray) : Sink × Bool :=
  if piece.size ≤ sink.room then
    (⟨sink.room - piece.size, sink.taken ++ piece⟩, true)
  else
    (⟨0, sink.taken ++ piece.extract 0 sink.room⟩, false)

/-- The sink after the pieces up to the first that does not fit, and whether all of them did. -/
def writeAll (sink : Sink) : List String → Sink × Bool
  | [] => (sink, true)
  | piece :: pieces =>
    match sink.write piece.toUTF8 with
    | (sink, true) => sink.writeAll pieces
    | (sink, false) => (sink, false)

end Sink

end SceneAudit
