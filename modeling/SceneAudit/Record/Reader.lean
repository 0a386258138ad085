import SceneAudit.Record.Fields

/-!
# Reading a block as a record

A repeated key rejects a block whatever its tag; after that, only the tag can.  References that do not resolve are
no reason to reject.
-/

namespace SceneAudit

namespace Record

/-- The record of a block whose top-level keys are known to be distinct. -/
def ofDistinct (block : Block) : Except RecordError Record :=
  if block.tag = Tag.gameObject then
    .ok <| .gameObject {
      fileId := block.fileId
      name := block.scalar? .name
      components := block.componentItems.map fun item => Reference.fileId (some item) }
  else if block.tag = Tag.transform then
    .ok <| .transform {
      fileId := block.fileId
      gameObject := Reference.fileId (block.scalar? .gameObject)
      children := block.childItems.map fun item => Reference.fileId (some item)
      father := Reference.fileId (block.scalar? .father) }
  else if block.tag = Tag.script then
    .ok <| .script {
      fileId := block.fileId
      scriptFileId := Reference.fileId (block.scalar? .script)
      guid := Reference.guid (block.scalar? .script)
      gameObject := Reference.fileId (block.scalar? .gameObject) }
  else
    .error (.unsupportedTag block.fileId block.tag)

/-- The record of a block. -/
def ofBlock (block : Block) : Except RecordError Record :=
  match repeatedKey? [] block.occurrences with
  | some (first, second) => .error (.duplicateKey block.fileId second.key first.line second.line)
  | none => ofDistinct block

end Record

end SceneAudit
