import SceneAudit.Disk
import SceneAudit.FileTree

/-!
# File trees as disks

Actions that look at a file tree and change it.
-/

namespace SceneAudit.FileTree

/-- Looks at the tree. -/
def look {α : Type} (view : FileTree → α) : StateM FileTree α :=
  return view (← get)

/-- Changes the tree, unless the change is refused. -/
def change (step : FileTree → Except DiskError FileTree) : StateM FileTree (Except DiskError Unit) := do
  match step (← get) with
  | .ok tree =>
    set tree
    return .ok ()
  | .error error => return .error error

instance : Disk (StateM FileTree) where
  isDirectory path := look (·.isDirectory path)
  files deep path := look (·.files deep path)
  read path := look (·.read path)
  create path := change (·.openWith true path)
  ensure path := change (·.openWith false path)
  append path bytes := change (·.append path bytes)
  makeDirectory path := change (·.makeDirectory path)

end SceneAudit.FileTree
