import SceneAudit.Record

/-!
# Structural faults of a scene

A fault says what is odd about the structure of a scene.  None of them stops the scene from being rendered.  A block
that the end of the document closes loses nothing and is only a notice.
-/

namespace SceneAudit

inductive Fault where
  /-- Transforms that are children of one another, in ascending order. -/
  | cycle (members : List FileId)
  /-- A transform that was printed before is listed as a child once more. -/
  | revisit (parent child : FileId)
  /-- A later block of the tag has a file identifier that is taken; the first one counts. -/
  | duplicateFileId (fileId : FileId) (tag : String)
  /-- The end of the document closed the block. -/
  | unterminatedBlock (fileId : FileId) (tag : String) (headerLine : Nat)
deriving DecidableEq

namespace Fault

/-- Whether the fault is to be expected in a well-formed document. -/
def isNotice : Fault → Bool
  | unterminatedBlock .. => true
  | _ => false

def message : Fault → String
  | cycle members =>
    let ids := String.intercalate ", " (members.map FileId.text)
    s!"transform cycle through [{ids}]"
  | revisit parent child => s!"transform &{child.text} revisited from &{parent.text}"
  | duplicateFileId fileId tag => s!"duplicate fileID &{fileId.text} for tag {tag}"
  | unterminatedBlock fileId tag headerLine =>
    s!"block &{fileId.text} (tag {tag}, line {headerLine}) ends at end of file"

end Fault

end SceneAudit
