import SceneAudit.Block.Segmenter
import SceneAudit.Hierarchy
import SceneAudit.Record.Reader

/-!
# Scenes

A scene is what one document gives: its records by kind, in document order, the blocks that were rejected, and a
notice for a block that the end of the document closed.  One bad block never costs the others.
-/

namespace SceneAudit

structure Scene where
  gameObjects : List GameObject
  transforms : List Transform
  scripts : List Script
  rejected : List RecordError
  notices : List Fault
deriving DecidableEq

namespace Scene

/-- What one block adds to a scene. -/
structure BlockOutcome where
  block : Block
  record : Except RecordError Record

namespace BlockOutcome

/-- What became of a block. -/
def ofBlock (block : Block) : BlockOutcome :=
  ⟨block, Record.ofBlock block⟩

def gameObject? (outcome : BlockOutcome) : Option GameObject :=
  match outcome.record with
  | .ok (.gameObject record) => some record
  | _ => none

def transform? (outcome : BlockOutcome) : Option Transform :=
  match outcome.record with
  | .ok (.transform record) => some record
  | _ => none

def script? (outcome : BlockOutcome) : Option Script :=
  match outcome.record with
  | .ok (.script record) => some record
  | _ => none

def rejection? (outcome : BlockOutcome) : Option RecordError :=
  match outcome.record with
  | .ok _ => none
  | .error error => some error

/-- The notice for a block that the end of the document closed, rejected or not. -/
def notice? (outcome : BlockOutcome) : Option Fault :=
  if outcome.block.terminated then
    none
  else
    some (.unterminatedBlock outcome.block.fileId outcome.block.tag outcome.block.headerLine)

end BlockOutcome

/-- The scene of a list of blocks. -/
def ofBlocks (blocks : List Block) : Scene :=
  let outcomes := blocks.map BlockOutcome.ofBlock
  { gameObjects := outcomes.filterMap (·.gameObject?)
    transforms := outcomes.filterMap (·.transform?)
    scripts := outcomes.filterMap (·.script?)
    rejected := outcomes.filterMap (·.rejection?)
    notices := outcomes.filterMap (·.notice?) }

/-- The scene of a document. -/
def ofDocument (document : String) : Scene :=
  ofBlocks (segment document Tag.ofRecords)

/-- The hierarchy of the scene; its notices come first among the faults. -/
def hierarchy (scene : Scene) : Hierarchy :=
  let rendered := render scene.gameObjects scene.transforms
  { rendered with faults := scene.notices ++ rendered.faults }

/-- The number of records that were kept. -/
def recordCount (scene : Scene) : Nat :=
  scene.gameObjects.length + scene.transforms.length + scene.scripts.length

end Scene

end SceneAudit
