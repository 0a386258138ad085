import SceneAudit.Disk.Error
import SceneAudit.Path
import SceneAudit.Text.Utf8

/-!
# Disks

What a run asks of the disk it works on, so that it can work on a real one and on one that is a value.
-/

namespace SceneAudit

/-- A disk whose operations are actions of a monad. -/
class Disk (m : Type → Type) where
  /-- Whether there is a directory at the path. -/
  isDirectory : Path → m Bool
  /-- The regular files in the directory at the path, or also those in the directories below it; in no set order. -/
  files : (deep : Bool) → Path → m (List Path)
  /-- The bytes of the file at the path. -/
  read : Path → m (Except DiskError ByteArray)
  /-- Makes sure that there is a file at the path and that it is empty. -/
  create : Path → m (Except DiskError Unit)
  /-- Makes sure that there is a file at the path, which keeps its contents. -/
  ensure : Path → m (Except DiskError Unit)
  /-- Adds bytes to the end of the file at the path. -/
  append : Path → ByteArray → m (Except DiskError Unit)
  /-- Makes a directory in one that there is. -/
  makeDirectory : Path → m (Except DiskError Unit)

namespace Disk

variable {m : Type → Type} [Monad m] [Disk m]

/-- The text of the file at the path. -/
def readText (path : Path) : m (Except DiskError String) := do
  return (← read path).bind fun bytes => (Text.decode bytes).mapError fun _ => .notText

/-- The outcome of an attempt to make a directory that may be there already. -/
def unlessDirectory (path : Path) (attempt : Except DiskError Unit) : m (Except DiskError Unit) := do
  match attempt with
  | .ok () => return .ok ()
  | .error error => return if ← isDirectory path then .ok () else .error error

/-- Makes a directory together with those around it that are missing, of which there are at most so many. -/
def createWithin : Nat → Path → m (Except DiskError Unit)
  | 0, path => do unlessDirectory path (← makeDirectory path)
  | depth + 1, path => do
    let attempt ← makeDirectory path
    match attempt, path.parent? with
    | .error .notFound, some parent =>
      match ← createWithin depth parent with
      | .error error => return .error error
      | .ok () => unlessDirectory path (← makeDirectory path)
    | _, _ => unlessDirectory path attempt

/-- Makes a directory together with those around it that are missing. -/
def createDirectories (path : Path) : m (Except DiskError Unit) :=
  if path.text = "" then return .ok () else createWithin path.components.length path

end Disk

end SceneAudit
