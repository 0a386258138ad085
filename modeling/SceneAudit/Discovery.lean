import SceneAudit.Disk
import SceneAudit.Sidecar

/-!
# Finding the files of a project

Scenes lie in one directory, and sidecars in a directory or below it.  The files are given in the order of their
paths, so that results do not depend on the order in which the disk lists them.  Where there is no directory, there are
no files.
-/

namespace SceneAudit

/-- The paths that have the extension, in order. -/
def withExtension (extension : String) (paths : List Path) : List Path :=
  (paths.filter fun path => path.extension? = some extension).mergeSort fun a b => (compare a b).isLE

variable {m : Type → Type} [Monad m] [Disk m]

/-- The files with an extension in a directory, or also in those below it. -/
def discover (deep : Bool) (directory : Path) (extension : String) : m (List Path) := do
  if ← Disk.isDirectory directory then
    return withExtension extension (← Disk.files deep directory)
  else
    return []

/-- The scenes in a directory. -/
def sceneFiles (directory : Path) (extension : String) : m (List Path) :=
  discover false directory extension

/-- The sidecars in a directory and below it. -/
def metaFiles (directory : Path) : m (List Path) :=
  discover true directory Sidecar.fileExtension

end SceneAudit
