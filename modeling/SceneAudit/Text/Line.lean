/-!
# Lines of a text

A line feed ends a line, and one carriage return directly before it belongs to the line end.  The rest after the
last line feed is a line of its own unless it is empty; it keeps a trailing carriage return, since no line feed
follows.
-/

namespace SceneAudit.Text

/-- The pieces between line feeds: one more than there are line feeds, so never none. -/
def pieces (cs : List Char) : List (List Char) :=
  cs.foldr
    (fun c rest =>
      match c, rest with
      | '\n', _ => [] :: rest
      | _, [] => [[c]]
      | _, piece :: more => (c :: piece) :: more)
    [[]]

/-- A piece that a line feed ended, without the carriage return of its line end. -/
def dropReturn (piece : List Char) : List Char :=
  match piece.reverse with
  | '\r' :: front => front.reverse
  | _ => piece

/-- The lines among the pieces: all but the last one were ended by a line feed. -/
def linesOfPieces (all : List (List Char)) : List (List Char) :=
  all.dropLast.map dropReturn ++ all.getLast?.toList.filter (fun last => !last.isEmpty)

/-- The lines of a text, without their line ends. -/
def lines (text : String) : List String :=
  (linesOfPieces (pieces text.toList)).map String.ofList

end SceneAudit.Text
