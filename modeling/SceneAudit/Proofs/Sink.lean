import SceneAudit.Finding.Report
import SceneAudit.Hierarchy
import SceneAudit.Sink

/-!
# Output that is cut off

A sink takes the first bytes of what is offered to it, as many as it has room for, and the
pieces in which they come make no difference (`taken_writeBuffered`, `fits_writeBuffered`).
So what is left of a dump or of a report that did not fit is a beginning of it, which may end
inside an indentation, inside a name or before a line feed (`isCut_outputs`).

A dump is written in the pieces that `Hierarchy.dumpPieces` lists.  Those of a report depend
on how its rows fill the buffer of the writer, so here they are any pieces that make up the
report (`Division`).
-/

namespace SceneAudit

namespace Sink

/-! ## One piece -/

theorem extract_of_size_le {bytes : ByteArray} {room : Nat} (h : bytes.size ≤ room) :
    bytes.extract 0 room = bytes := by
  have hmax : max room bytes.size = room := Nat.max_eq_left h
  rw [← hmax, ByteArray.extract_zero_max_size]

theorem extract_min_size (bytes : ByteArray) (room : Nat) :
    bytes.extract 0 (min room bytes.size) = bytes.extract 0 room := by
  rcases Nat.le_total room bytes.size with hsmall | hlarge
  · rw [Nat.min_eq_left hsmall]
  · rw [Nat.min_eq_right hlarge, ByteArray.extract_zero_size, extract_of_size_le hlarge]

/-- What a piece does to a sink, whether it fits or not. -/
theorem write_eq (sink : Sink) (piece : ByteArray) :
    sink.write piece =
      (⟨sink.room - piece.size, sink.taken ++ piece.extract 0 sink.room⟩,
        decide (piece.size ≤ sink.room)) := by
  unfold write
  split
  · rename_i hfits
    rw [extract_of_size_le hfits, decide_eq_true hfits]
  · rename_i hlarge
    rw [Nat.sub_eq_zero_of_le (by omega), decide_eq_false hlarge]

/-- A sink without room does not change any more. -/
theorem write_of_full {sink : Sink} (hfull : sink.room = 0) (piece : ByteArray) :
    (sink.write piece).1 = sink := by
  obtain ⟨room, taken⟩ := sink
  obtain rfl : room = 0 := hfull
  rw [write_eq, Nat.zero_sub, ByteArray.extract_same, ByteArray.append_empty]

/-! ## Any number of pieces -/

/-- The bytes of the pieces, one piece after the other. -/
def joined (pieces : List ByteArray) : ByteArray :=
  pieces.foldr (· ++ ·) .empty

theorem joined_nil : joined [] = .empty := rfl

theorem joined_cons (piece : ByteArray) (pieces : List ByteArray) :
    joined (piece :: pieces) = piece ++ joined pieces := rfl

/-- The sink after the pieces that a buffered writer hands on, and whether all of them fit.
Nothing is handed on after a piece that does not fit; only that piece is offered once more,
since the writer empties its buffer before it goes. -/
def writeBuffered (sink : Sink) : List ByteArray → Sink × Bool
  | [] => (sink, true)
  | piece :: pieces =>
    match sink.write piece with
    | (sink, true) => sink.writeBuffered pieces
    | (sink, false) => ((sink.write piece).1, false)

section

variable (sink : Sink)

theorem writeBuffered_cons_of_fits {piece : ByteArray} (hfits : piece.size ≤ sink.room)
    (pieces : List ByteArray) :
    sink.writeBuffered (piece :: pieces) =
      writeBuffered ⟨sink.room - piece.size, sink.taken ++ piece.extract 0 sink.room⟩ pieces := by
  rw [writeBuffered, write_eq, decide_eq_true hfits]

/-- Offering the piece again adds nothing, as there is no room left. -/
theorem writeBuffered_cons_of_large {piece : ByteArray} (hlarge : sink.room < piece.size)
    (pieces : List ByteArray) :
    sink.writeBuffered (piece :: pieces) =
      (⟨0, sink.taken ++ piece.extract 0 sink.room⟩, false) := by
  rw [writeBuffered, write_eq, decide_eq_false (by omega), Nat.sub_eq_zero_of_le (by omega)]
  show ((write ⟨0, _⟩ piece).1, false) = _
  rw [write_of_full rfl]

/-- The sink takes the first bytes, whatever the pieces they come in. -/
theorem taken_writeBuffered (pieces : List ByteArray) :
    (sink.writeBuffered pieces).1.taken = sink.taken ++ (joined pieces).extract 0 sink.room := by
  induction pieces generalizing sink with
  | nil =>
      have hnothing : ByteArray.empty.extract 0 sink.room = .empty := by simp
      rw [joined_nil, hnothing, ByteArray.append_empty]
      rfl
  | cons piece pieces ih =>
      rw [joined_cons, ByteArray.extract_append, Nat.zero_sub, ← ByteArray.append_assoc]
      rcases Nat.lt_or_ge sink.room piece.size with hlarge | hfits
      · rw [writeBuffered_cons_of_large sink hlarge, Nat.sub_eq_zero_of_le (by omega),
          ByteArray.extract_same, ByteArray.append_empty]
      · rw [writeBuffered_cons_of_fits sink hfits, ih]

theorem fits_writeBuffered (pieces : List ByteArray) :
    (sink.writeBuffered pieces).2 = true ↔ (joined pieces).size ≤ sink.room := by
  induction pieces generalizing sink with
  | nil => simp [writeBuffered, joined_nil]
  | cons piece pieces ih =>
      rw [joined_cons, ByteArray.size_append]
      rcases Nat.lt_or_ge sink.room piece.size with hlarge | hfits
      · rw [writeBuffered_cons_of_large sink hlarge]
        simp only [Bool.false_eq_true, false_iff]
        omega
      · rw [writeBuffered_cons_of_fits sink hfits, ih]
        show (joined pieces).size ≤ sink.room - piece.size ↔ _
        omega

/-- Texts are written as their bytes are. -/
theorem writeAll_eq (pieces : List String) :
    sink.writeAll pieces = sink.writeBuffered (pieces.map String.toUTF8) := by
  induction pieces generalizing sink with
  | nil => rfl
  | cons piece pieces ih =>
      rw [writeAll, write_eq, List.map_cons]
      rcases Nat.lt_or_ge sink.room piece.toUTF8.size with hlarge | hfits
      · rw [writeBuffered_cons_of_large sink hlarge, decide_eq_false (by omega),
          Nat.sub_eq_zero_of_le (by omega)]
      · rw [writeBuffered_cons_of_fits sink hfits, decide_eq_true hfits]
        exact ih _

end

theorem joined_map_toUTF8 (pieces : List String) :
    joined (pieces.map String.toUTF8) = (String.join pieces).toUTF8 := by
  induction pieces with
  | nil => rfl
  | cons piece pieces ih =>
      rw [List.map_cons, joined_cons, ih, String.join_cons]
      exact String.toByteArray_append.symm

/-! ## What is left -/

/-- Of these bytes the sink has taken the first ones, as many as it had room for, and it has
refused some if and only if there were more. -/
structure IsCut (room : Nat) (bytes : ByteArray) (result : Sink × Bool) : Prop where
  taken_eq : result.1.taken = bytes.extract 0 (min room bytes.size)
  refused_iff : result.2 = false ↔ room < bytes.size

theorem isCut_writeBuffered (room : Nat) (pieces : List ByteArray) :
    IsCut room (joined pieces) ((ofRoom room).writeBuffered pieces) where
  taken_eq := by
    rw [taken_writeBuffered, extract_min_size]
    exact ByteArray.empty_append
  refused_iff := by
    rw [← Bool.not_eq_true, fits_writeBuffered, Nat.not_le]
    rfl

theorem isCut_writeAll (room : Nat) (pieces : List String) :
    IsCut room (String.join pieces).toUTF8 ((ofRoom room).writeAll pieces) := by
  rw [writeAll_eq, ← joined_map_toUTF8]
  exact isCut_writeBuffered room _

end Sink

/-! ## Dumps and reports -/

theorem Hierarchy.join_dumpPieces (hierarchy : Hierarchy) :
    String.join hierarchy.dumpPieces = hierarchy.dump := by
  unfold dumpPieces dump
  induction hierarchy.entries with
  | nil => rfl
  | cons entry entries ih =>
      obtain ⟨depth, name⟩ := entry
      rw [List.flatMap_cons, String.join_append, ih, List.map_cons, String.join_cons]
      simp [dumpLine, String.append_assoc]

/-- The pieces in which a buffered writer hands bytes on.  They may end anywhere, also inside
a character. -/
structure Division (bytes : ByteArray) where
  pieces : List ByteArray
  joined_eq : Sink.joined pieces = bytes

/-- **Output that is cut off loses its end only**: the first bytes of a dump or a report, as
many as there is room for, are there, and the writer fails if and only if there are more. -/
theorem isCut_outputs (room : Nat) :
    (∀ hierarchy : Hierarchy, Sink.IsCut room hierarchy.dump.toUTF8
        ((Sink.ofRoom room).writeAll hierarchy.dumpPieces)) ∧
      ∀ findings : List Finding,
        Sink.IsCut room (reportText findings).toUTF8
            ((Sink.ofRoom room).writeAll [reportText findings]) ∧
          ∀ division : Division (reportText findings).toUTF8,
            Sink.IsCut room (reportText findings).toUTF8
              ((Sink.ofRoom room).writeBuffered division.pieces) := by
  refine ⟨fun hierarchy => ?_, fun findings => ⟨?_, fun division => ?_⟩⟩
  · rw [← hierarchy.join_dumpPieces]
    exact Sink.isCut_writeAll room _
  · have hcut := Sink.isCut_writeAll room [reportText findings]
    rwa [String.join_cons, String.join_nil, String.append_empty] at hcut
  · have hcut := Sink.isCut_writeBuffered room division.pieces
    rwa [division.joined_eq] at hcut

end SceneAudit
