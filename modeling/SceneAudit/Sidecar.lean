import SceneAudit.Path
import SceneAudit.Reference
import SceneAudit.Text.Line

/-!
# Sidecars

Every asset of a project has a sidecar beside it that gives its guid and names its importer.  Only the lines that do
not start with a blank count, so a guid nested under the importer's settings is never taken for the asset's own.
The first `guid:` line decides, even if no guid can be read from it.
-/

namespace SceneAudit

open Text

@[ext]
structure Sidecar where
  guid : Reference Guid
  path : Path
  /-- Whether the importer is the one of scripts. -/
  isScriptAsset : Bool
deriving DecidableEq

namespace Sidecar

/-- The extension of sidecars. -/
def fileExtension : String := "meta"

/-- The line that marks the asset as a script. -/
def scriptImporter : String := "MonoImporter:"

/-- What the guid line starts with. -/
def guidKey : String := "guid:"

/-- Whether a line starts with a blank. -/
def isIndented (line : List Char) : Bool :=
  line.head?.any isBlank

/-- The sidecar when one line more has been read. -/
def readLine (sidecar : Sidecar) (line : String) : Sidecar :=
  if isIndented line.toList then
    sidecar
  else
    let line := String.ofList (trimEnd line.toList)
    if line = scriptImporter then
      { sidecar with isScriptAsset := true }
    else if guidKey.toList.isPrefixOf line.toList && sidecar.guid = .unresolved .absent then
      { sidecar with guid := Reference.guid (some line) }
    else
      sidecar

/-- The sidecar at `path` with the given text. -/
def ofText (path : Path) (text : String) : Sidecar :=
  (lines text).foldl readLine ⟨.unresolved .absent, path, false⟩

/-- The asset that the sidecar belongs to: its path without the extension of sidecars. -/
def sourcePath (sidecar : Sidecar) : Path :=
  if sidecar.path.extension? = some fileExtension then sidecar.path.withoutExtension else sidecar.path

end Sidecar

end SceneAudit
