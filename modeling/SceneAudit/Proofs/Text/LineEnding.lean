import SceneAudit.Proofs.Text.Line
import SceneAudit.Proofs.Text.Trim
import Mathlib.Data.List.Basic
import Mathlib.Data.List.TakeWhile

/-!
# Line ends

A carriage return directly before a line feed belongs to the line end, so a text
without any has the same lines when one is put before every line feed
(`lines_withReturns`).

Behind the last line a line feed ends what is a line already, and nothing else comes
of it than that this line gives up a carriage return at its end
(`lines_append_lineFeed`).  Trimming and indentation do not show that a carriage
return was there, but for the indentation of a line that has nothing but blanks.
-/

namespace SceneAudit.Text

/-! ## A carriage return before every line feed -/

/-- The character, with a carriage return before it if it is a line feed. -/
def withReturn (c : Char) : List Char :=
  if c = '\n' then ['\r', '\n'] else [c]

/-- The text with a carriage return before every line feed. -/
def withReturns (text : String) : String :=
  String.ofList (text.toList.flatMap withReturn)

theorem flatMap_withReturn_of_not_mem {cs : List Char} (h : '\n' ∉ cs) : cs.flatMap withReturn = cs := by
  have hsame : ∀ c ∈ cs, withReturn c = [c] := fun c hc => if_neg (ne_of_mem_of_not_mem hc h)
  rw [List.flatMap_congr hsame]
  exact List.flatMap_singleton' cs

theorem dropReturn_concat (line : List Char) : dropReturn (line ++ ['\r']) = line := by
  rw [dropReturn, List.reverse_append, List.reverse_singleton, List.singleton_append]
  exact List.reverse_reverse line

theorem linesOfPieces_withReturn {cs : List Char} (h : '\r' ∉ cs) :
    linesOfPieces (pieces (cs.flatMap withReturn)) = linesOfPieces (pieces cs) := by
  by_cases hfeed : '\n' ∈ cs
  · -- the first line is the same, and there is less behind it
    obtain ⟨line, rest, rfl, hline⟩ := List.eq_append_cons_of_mem hfeed
    rw [List.mem_append, not_or] at h
    have hrest : '\r' ∉ rest := fun hmem => h.2 (List.mem_cons_of_mem _ hmem)
    have hreturned : '\n' ∉ line ++ ['\r'] := by simpa using hline
    have hlast : line.getLast? ≠ some '\r' := fun hlast => h.1 (List.mem_of_getLast? hlast)
    have htext : (line ++ '\n' :: rest).flatMap withReturn =
        (line ++ ['\r']) ++ '\n' :: rest.flatMap withReturn := by
      rw [List.flatMap_append, flatMap_withReturn_of_not_mem hline, List.flatMap_cons, withReturn,
        if_pos rfl]
      simp
    rw [htext, pieces_append_newline hreturned, pieces_append_newline hline,
      linesOfPieces_cons _ (pieces_ne_nil _), linesOfPieces_cons _ (pieces_ne_nil _),
      linesOfPieces_withReturn hrest, dropReturn_concat, dropReturn_eq hlast]
  · rw [flatMap_withReturn_of_not_mem hfeed]
termination_by cs.length
decreasing_by
  rw [‹cs = _›, List.length_append, List.length_cons]
  omega

theorem lines_withReturns {text : String} (h : '\r' ∉ text.toList) :
    lines (withReturns text) = lines text := by
  rw [lines, withReturns, String.toList_ofList, linesOfPieces_withReturn h, lines]

/-! ## A line feed behind the last line -/

/-- Every text is some lines that are ended, and what stands behind the last line feed. -/
theorem exists_endsLine_append (text : String) :
    ∃ front back, text = front ++ back ∧ EndsLine front ∧ '\n' ∉ back.toList := by
  by_cases hfeed : '\n' ∈ text.toList
  · obtain ⟨reversedBack, reversedFront, hreverse, hback⟩ :=
      List.eq_append_cons_of_mem (List.mem_reverse.mpr hfeed)
    have htext : text.toList = (reversedFront.reverse ++ ['\n']) ++ reversedBack.reverse := by
      rw [← List.reverse_reverse text.toList, hreverse]
      simp
    refine ⟨String.ofList (reversedFront.reverse ++ ['\n']), String.ofList reversedBack.reverse, ?_, ?_, ?_⟩
    · apply String.toList_injective
      simp [htext]
    · exact .inr (by simp)
    · simpa using hback
  · exact ⟨"", text, by simp, .inl rfl, hfeed⟩

theorem pieces_of_not_mem {line : List Char} (h : '\n' ∉ line) : pieces line = [line] := by
  have hnothing : pieces [] = [[]] := rfl
  simpa using pieces_append_of_not_mem h hnothing

/-- A text that does not end in a line feed is empty, or it has a last line, of which a line feed
behind it takes a carriage return away. -/
theorem lines_append_lineFeed {text : String} (h : text.toList.getLast? ≠ some '\n') :
    text = "" ∨ ∃ front last, lines text = front ++ [last] ∧
      lines (text ++ "\n") = front ++ [String.ofList (dropReturn last.toList)] := by
  obtain ⟨front, back, rfl, hfront, hback⟩ := exists_endsLine_append text
  by_cases hempty : back = ""
  · left
    rw [hempty, String.append_empty] at h ⊢
    exact hfront.resolve_right h
  · right
    have hne : back.toList ≠ [] := by simpa using hempty
    have hline : lines back = [back] := by
      simp [lines, pieces_of_not_mem hback, linesOfPieces, hne]
    have hended : lines (back ++ "\n") = [String.ofList (dropReturn back.toList)] := by
      have hfeed : (back ++ "\n").toList = back.toList ++ '\n' :: [] := by simp
      have hnothing : pieces [] = [[]] := rfl
      rw [lines, hfeed, pieces_append_newline hback, hnothing]
      rfl
    refine ⟨lines front, back, ?_, ?_⟩
    · rw [lines_append hfront, hline]
    · rw [String.append_assoc, lines_append hfront, hended]

/-! ## A carriage return at the end of a line -/

theorem isBlank_return : isBlank '\r' = true := by
  decide

theorem trimEnd_concat_of_blank {c : Char} (hblank : isBlank c = true) (cs : List Char) :
    trimEnd (cs ++ [c]) = trimEnd cs := by
  simp [trimEnd, hblank]

theorem trim_concat_of_blank {c : Char} (hblank : isBlank c = true) (cs : List Char) :
    trim (cs ++ [c]) = trim cs := by
  unfold trim
  rw [trimStart, List.dropWhile_append]
  split
  · rename_i hall
    rw [trimStart, List.isEmpty_iff.mp hall]
    simp [hblank]
  · exact trimEnd_concat_of_blank hblank _

theorem allBlank_concat_of_blank {c : Char} (hblank : isBlank c = true) (cs : List Char) :
    allBlank (cs ++ [c]) = allBlank cs := by
  simp [allBlank, hblank]

/-- What stands behind a character that is not blank does not change how far a line is indented. -/
theorem indentation_append {cs : List Char} (h : allBlank cs = false) (more : List Char) :
    indentation (cs ++ more) = indentation cs := by
  have hstop : (cs.takeWhile isBlank).length ≠ cs.length := by
    intro hlength
    have hall := (List.takeWhile_prefix isBlank (l := cs)).eq_of_length hlength
    rw [List.takeWhile_eq_self_iff] at hall
    rw [allBlank, List.all_eq_false] at h
    obtain ⟨c, hc, hblank⟩ := h
    exact hblank (hall c hc)
  unfold indentation
  rw [List.takeWhile_append, if_neg hstop]

end SceneAudit.Text
