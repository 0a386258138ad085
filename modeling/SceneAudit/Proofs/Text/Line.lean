import SceneAudit.Text.Line

/-!
# Lines of a text that is put together

A text that is a list of lines, each ended by a line feed, is cut into these
lines again (`lines_endedLines`), as long as no line has a line feed in it or a
carriage return at its end.  Of two texts one behind the other each keeps its own
lines (`lines_append`), as long as the first one does not stop inside a line.
-/

namespace SceneAudit.Text

/-- The text of the lines, a line feed after each. -/
def endedLines (lines : List String) : String :=
  String.join (lines.map (· ++ "\n"))

/-- The text can be a line of its own: nothing in it ends it or is taken for its end. -/
def IsLine (line : String) : Prop :=
  '\n' ∉ line.toList ∧ line.toList.getLast? ≠ some '\r'

instance (line : String) : Decidable (IsLine line) :=
  inferInstanceAs (Decidable (_ ∧ _))

theorem IsLine.append {front back : String} (hfront : IsLine front) (hback : IsLine back) :
    IsLine (front ++ back) := by
  obtain ⟨hfrontFeed, hfrontReturn⟩ := hfront
  obtain ⟨hbackFeed, hbackReturn⟩ := hback
  refine ⟨by simp [hfrontFeed, hbackFeed], ?_⟩
  rw [String.toList_append, List.getLast?_append]
  cases hlast : back.toList.getLast? with
  | none => simpa using hfrontReturn
  | some last => simpa [hlast] using hbackReturn

theorem toList_endedLines (lines : List String) :
    (endedLines lines).toList = lines.flatMap fun line => line.toList ++ ['\n'] := by
  simp [endedLines, String.toList_join, List.flatMap_map]

/-! ## Pieces -/

theorem pieces_ne_nil (cs : List Char) : pieces cs ≠ [] := by
  cases cs with
  | nil => simp [pieces]
  | cons c cs =>
      unfold pieces
      rw [List.foldr_cons]
      split <;> simp

theorem pieces_append_of_not_mem {front : List Char} (hfront : '\n' ∉ front) {back piece : List Char}
    {more : List (List Char)} (hback : pieces back = piece :: more) :
    pieces (front ++ back) = (front ++ piece) :: more := by
  induction front with
  | nil => exact hback
  | cons c front ih =>
      have hc : c ≠ '\n' := fun heq => hfront (heq ▸ List.mem_cons_self)
      have hrest := ih fun hmem => hfront (List.mem_cons_of_mem _ hmem)
      unfold pieces at hrest ⊢
      rw [List.cons_append, List.foldr_cons, hrest]
      simp

theorem pieces_append_newline {line : List Char} (hline : '\n' ∉ line) (cs : List Char) :
    pieces (line ++ '\n' :: cs) = line :: pieces cs := by
  have hfeed : pieces ('\n' :: cs) = [] :: pieces cs := rfl
  rw [pieces_append_of_not_mem hline hfeed, List.append_nil]

theorem pieces_append_cons_newline (front back : List Char) :
    pieces (front ++ '\n' :: back) = pieces front ++ pieces back := by
  induction front with
  | nil => rfl
  | cons c front ih =>
      obtain ⟨piece, more, hpieces⟩ := List.exists_cons_of_ne_nil (pieces_ne_nil front)
      unfold pieces at ih hpieces ⊢
      rw [List.cons_append, List.foldr_cons, List.foldr_cons, ih, hpieces]
      by_cases hc : c = '\n'
      · subst hc
        rfl
      · simp

/-! ## Lines -/

theorem dropReturn_eq {line : List Char} (hline : line.getLast? ≠ some '\r') :
    dropReturn line = line := by
  unfold dropReturn
  split
  · rename_i front hreverse
    rw [← List.head?_reverse, hreverse] at hline
    exact absurd rfl hline
  · rfl

theorem linesOfPieces_cons (piece : List Char) {rest : List (List Char)} (hrest : rest ≠ []) :
    linesOfPieces (piece :: rest) = dropReturn piece :: linesOfPieces rest := by
  obtain ⟨next, rest, rfl⟩ := List.exists_cons_of_ne_nil hrest
  simp [linesOfPieces]

theorem lines_endedLines {lines : List String} (h : ∀ line ∈ lines, IsLine line) :
    Text.lines (endedLines lines) = lines := by
  rw [Text.lines, toList_endedLines]
  induction lines with
  | nil => rfl
  | cons line lines ih =>
      obtain ⟨hfeed, hreturn⟩ := h line List.mem_cons_self
      rw [List.flatMap_cons, List.append_assoc, List.singleton_append, pieces_append_newline hfeed,
        linesOfPieces_cons _ (pieces_ne_nil _), dropReturn_eq hreturn, List.map_cons,
        ih fun other hother => h other (List.mem_cons_of_mem _ hother), String.ofList_toList]

/-! ## Texts put together -/

theorem linesOfPieces_append (front : List (List Char)) {back : List (List Char)}
    (hback : back ≠ []) :
    linesOfPieces (front ++ back) = front.map dropReturn ++ linesOfPieces back := by
  induction front with
  | nil => rfl
  | cons piece front ih =>
      have hrest : front ++ back ≠ [] := by
        intro hnil
        exact hback (List.append_eq_nil_iff.mp hnil).2
      rw [List.cons_append, linesOfPieces_cons _ hrest, ih]
      rfl

/-- The text is empty, or a line feed ends its last line. -/
def EndsLine (text : String) : Prop :=
  text = "" ∨ text.toList.getLast? = some '\n'

instance (text : String) : Decidable (EndsLine text) :=
  inferInstanceAs (Decidable (_ ∨ _))

theorem lines_empty : lines "" = [] :=
  rfl

/-- Behind a text whose lines are all ended, another text keeps its own lines. -/
theorem lines_append {front : String} (hfront : EndsLine front) (back : String) :
    lines (front ++ back) = lines front ++ lines back := by
  rcases hfront with rfl | hlast
  · rw [String.empty_append, lines_empty, List.nil_append]
  · obtain ⟨ended, hended⟩ := List.getLast?_eq_some_iff.mp hlast
    have hboth : pieces (front ++ back).toList = pieces ended ++ pieces back.toList := by
      rw [String.toList_append, hended, List.append_assoc, List.singleton_append,
        pieces_append_cons_newline]
    have hfirst : pieces front.toList = pieces ended ++ [[]] := by
      rw [hended, pieces_append_cons_newline]
      rfl
    have hnothing : linesOfPieces [[]] = [] := rfl
    have hne : ([[]] : List (List Char)) ≠ [] := List.cons_ne_nil _ _
    unfold lines
    rw [hboth, hfirst, linesOfPieces_append _ (pieces_ne_nil _), linesOfPieces_append _ hne,
      hnothing, List.append_nil, List.map_append]

/-! ## The first line -/

theorem prefix_dropReturn {front line : List Char} (hfront : front <+: line)
    (hlast : front.getLast? ≠ some '\r') : front <+: dropReturn line := by
  unfold dropReturn
  split
  · rename_i reversed hreverse
    have hline : line = reversed.reverse ++ ['\r'] := by
      rw [← List.reverse_cons, ← hreverse, List.reverse_reverse]
    rw [hline] at hfront
    rcases List.prefix_concat_iff.mp hfront with rfl | hshorter
    · exact absurd (by simp) hlast
    · exact hshorter
  · exact hfront

/-- What a text starts with, its first line starts with. -/
theorem exists_lines_cons_of_prefix {front : List Char} {text : String} (hfront : front <+: text.toList)
    (hne : front ≠ []) (hfeed : '\n' ∉ front) (hreturn : front.getLast? ≠ some '\r') :
    ∃ line more, lines text = line :: more ∧ front <+: line.toList := by
  obtain ⟨back, hback⟩ := hfront
  obtain ⟨piece, more, hrest⟩ := List.exists_cons_of_ne_nil (pieces_ne_nil back)
  have hpieces := pieces_append_of_not_mem hfeed hrest
  rw [hback] at hpieces
  have hpiece : front <+: front ++ piece := List.prefix_append _ _
  cases more with
  | nil =>
      -- no line feed: the only line is the whole text
      refine ⟨String.ofList (front ++ piece), [], ?_, by simp⟩
      simp [lines, linesOfPieces, hpieces, hne]
  | cons next more =>
      refine ⟨String.ofList (dropReturn (front ++ piece)),
        (linesOfPieces (next :: more)).map String.ofList, ?_, ?_⟩
      · rw [lines, hpieces, linesOfPieces_cons _ (List.cons_ne_nil _ _), List.map_cons]
      · simpa using prefix_dropReturn hpiece hreturn

end SceneAudit.Text
