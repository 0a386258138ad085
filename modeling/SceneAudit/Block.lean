import SceneAudit.Reference

/-!
# Blocks of a scene document

A scene document is a sequence of blocks, one for each object.  A block opens with a header line
`--- !u!<tag> &<file id>`, where the tag is a number that says what kind of object it is.  The line after the header
names the object's class and is not part of the body.
-/

namespace SceneAudit

open Text

namespace Tag

/-- The tag of game objects. -/
def gameObject : String := "1"

/-- The tag of transforms. -/
def transform : String := "4"

/-- The tag of script components. -/
def script : String := "114"

/-- The tags whose blocks are read as records. -/
def ofRecords : List String := [gameObject, transform, script]

end Tag

/-- The contents of a header line. -/
structure Header where
  tag : String
  fileId : FileId
deriving DecidableEq

namespace Header

/-- A line that starts so closes the block before it, header or not. -/
def delimiter : List Char := "--- ".toList

/-- Whether the line closes the block before it. -/
def isDelimiter (line : String) : Bool :=
  delimiter.isPrefixOf line.toList

/-- The header that a line starts with; anything may follow the file identifier. -/
def read? (line : String) : Option Header := do
  let (tag, afterTag) ← digits? (← "--- !u!".toList.isPrefixOf? line.toList)
  let (fileId, _) ← numeral? (← " &".toList.isPrefixOf? afterTag)
  return ⟨String.ofList tag, ⟨String.ofList fileId⟩⟩

end Header

/-- One object's lines. -/
structure Block where
  tag : String
  fileId : FileId
  /-- The number of the header line, counted from one. -/
  headerLine : Nat
  /-- The body, without the header line and the class line. -/
  lines : List String
  /-- Whether a later delimiter line closed the block, rather than the end of the document. -/
  terminated : Bool
deriving DecidableEq

namespace Block

/-- The number that a line of the body has in the document. -/
def lineNumber (block : Block) (index : Nat) : Nat :=
  block.headerLine + 2 + index

end Block

end SceneAudit
