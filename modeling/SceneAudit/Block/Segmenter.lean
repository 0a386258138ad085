import SceneAudit.Block
import SceneAudit.Text.Line

/-!
# Cutting a document into blocks

The segmenter reads a document line by line and gives the blocks of the wanted tags in document order.  Every
delimiter line closes the block that is open; it opens one of its own only if it is a header with a wanted tag.
At the end of the document the open block, if there is one, is given as unterminated.
-/

namespace SceneAudit

/-- A block whose end has not been seen yet. -/
structure OpenBlock where
  header : Header
  headerLine : Nat
  /-- Whether the line after the header, which names the class, has been passed. -/
  classLinePassed : Bool
  /-- The body lines so far, the last one first. -/
  reversedLines : List String
deriving DecidableEq

namespace OpenBlock

/-- The block that a header line has just opened. -/
def start (header : Header) (headerLine : Nat) : OpenBlock :=
  ⟨header, headerLine, false, []⟩

/-- The block after one more line that is no delimiter. -/
def push (block : OpenBlock) (line : String) : OpenBlock :=
  if block.classLinePassed then
    { block with reversedLines := line :: block.reversedLines }
  else
    { block with classLinePassed := true }

/-- The finished block. -/
def close (block : OpenBlock) (terminated : Bool) : Block where
  tag := block.header.tag
  fileId := block.header.fileId
  headerLine := block.headerLine
  lines := block.reversedLines.reverse
  terminated := terminated

end OpenBlock

/-- A scan of a document, stopped between two lines. -/
structure Segmenter where
  /-- The tags whose blocks are wanted. -/
  tags : List String
  /-- The lines not yet read. -/
  unread : List String
  /-- The number of the next line, counted from one. -/
  nextLine : Nat
  /-- The block that the scan is in. -/
  inside : Option OpenBlock
deriving DecidableEq

namespace Segmenter

/-- The scan before the first line of a document. -/
def ofDocument (document : String) (tags : List String) : Segmenter :=
  ⟨tags, Text.lines document, 1, none⟩

/-- The block that a delimiter line opens. -/
def opened (tags : List String) (line : String) (number : Nat) : Option OpenBlock :=
  match Header.read? line with
  | some header => if header.tag ∈ tags then some (.start header number) else none
  | none => none

/-- The block that the scan is in after a line. -/
def insideAfter (tags : List String) (inside : Option OpenBlock) (line : String) (number : Nat) :
    Option OpenBlock :=
  if Header.isDelimiter line then opened tags line number else inside.map (·.push line)

/-- The block that a line closes. -/
def closedBy (inside : Option OpenBlock) (line : String) : Option Block :=
  if Header.isDelimiter line then inside.map (·.close true) else none

/-- Reads on until a block closes; `none` at the end of the document. -/
def next? (scan : Segmenter) : Option (Block × Segmenter) :=
  go scan.tags scan.unread scan.nextLine scan.inside
where
  go (tags : List String) : List String → Nat → Option OpenBlock → Option (Block × Segmenter)
    | [], number, inside => inside.map fun block => (block.close false, ⟨tags, [], number, none⟩)
    | line :: unread, number, inside =>
      match closedBy inside line with
      | some block => some (block, ⟨tags, unread, number + 1, insideAfter tags inside line number⟩)
      | none => go tags unread (number + 1) (insideAfter tags inside line number)

/-- The scan after one more line, with the blocks that it has closed so far, the last one first. -/
def step (tags : List String) (state : List Block × Nat × Option OpenBlock) (line : String) :
    List Block × Nat × Option OpenBlock :=
  let (closed, number, inside) := state
  ((closedBy inside line).toList ++ closed, number + 1, insideAfter tags inside line number)

/-- The blocks that a scan still gives, in document order. -/
def blocks (scan : Segmenter) : List Block :=
  let (closed, _, inside) := scan.unread.foldl (step scan.tags) ([], scan.nextLine, scan.inside)
  ((inside.map (·.close false)).toList ++ closed).reverse

end Segmenter

/-- The blocks of a document that have one of the tags, in document order. -/
def segment (document : String) (tags : List String) : List Block :=
  (Segmenter.ofDocument document tags).blocks

end SceneAudit
