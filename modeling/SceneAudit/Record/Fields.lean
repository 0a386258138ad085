import SceneAudit.Record

/-!
# The top level of a block

Only the lines indented as far as the first line that is not blank belong to a block's top level; deeper lines are
nested data and are passed over.  A top-level line is a list item, of the component list or of the child list, or it
is `key: value`, or it says nothing that a record keeps.
-/

namespace SceneAudit

open Text

/-- What a top-level line says. -/
inductive FieldLine where
  /-- An item of the component list, as written. -/
  | component (item : String)
  /-- An item of the child list, as written. -/
  | child (item : String)
  /-- One of the keys of a record, with its value. -/
  | scalar (key : ScalarKey) (value : String)
  | other
deriving DecidableEq

namespace FieldLine

/-- The texts before and after the first colon. -/
def splitAtColon? (cs : List Char) : Option (List Char × List Char) :=
  match cs.dropWhile (· != ':') with
  | [] => none
  | _ :: after => some (cs.takeWhile (· != ':'), after)

/-- What a line says, given without its outer blanks. -/
def ofTrimmed (cs : List Char) : FieldLine :=
  if "- component".toList.isPrefixOf cs then
    component (String.ofList cs)
  else if "- \x7bfileID".toList.isPrefixOf cs then
    child (String.ofList cs)
  else
    match splitAtColon? cs with
    | none => other
    | some (key, value) =>
      match ScalarKey.ofText? (String.ofList (trim key)) with
      | none => other
      | some key => scalar key (String.ofList (trim value))

end FieldLine

/-- A value of a key, with the number of the line that gives it. -/
structure Occurrence where
  line : Nat
  key : ScalarKey
  value : String
deriving DecidableEq

namespace Block

/-- The indentation of a block's top level, if any line is not blank. -/
def indent? (block : Block) : Option Nat :=
  (block.lines.find? fun line => !allBlank line.toList).map fun line => indentation line.toList

/-- The numbered lines of the top level and what they say. -/
def fieldLines (block : Block) : List (Nat × FieldLine) :=
  match block.indent? with
  | none => []
  | some indent =>
    block.lines.zipIdx.filterMap fun (line, index) =>
      if indentation line.toList = indent then
        some (block.lineNumber index, .ofTrimmed (trim line.toList))
      else
        none

/-- The keys and values of the top level, in order. -/
def occurrences (block : Block) : List Occurrence :=
  block.fieldLines.filterMap fun
    | (line, .scalar key value) => some ⟨line, key, value⟩
    | _ => none

/-- The items of the component list, in order. -/
def componentItems (block : Block) : List String :=
  block.fieldLines.filterMap fun
    | (_, .component item) => some item
    | _ => none

/-- The items of the child list, in order. -/
def childItems (block : Block) : List String :=
  block.fieldLines.filterMap fun
    | (_, .child item) => some item
    | _ => none

/-- The value of a key. -/
def scalar? (block : Block) (key : ScalarKey) : Option String :=
  (block.occurrences.find? (·.key = key)).map Occurrence.value

end Block

/-- The first occurrence whose key stands among the earlier ones, `seen` included, after the one it repeats. -/
def repeatedKey? (seen : List Occurrence) : List Occurrence → Option (Occurrence × Occurrence)
  | [] => none
  | occurrence :: later =>
    match seen.find? (·.key = occurrence.key) with
    | some first => some (first, occurrence)
    | none => repeatedKey? (occurrence :: seen) later

end SceneAudit
