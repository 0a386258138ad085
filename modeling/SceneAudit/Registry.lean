import SceneAudit.Path
import SceneAudit.Record
import Std.Data.HashMap

/-!
# The registry of script usages

While scenes are read, every script component is recorded under the guid of its script; one without a guid is only
counted.  When all scenes are in, the registry is frozen: the usages of each script are put in the order of their
scenes and, within a scene, of their file identifiers, so that it no longer matters in which order the scenes came.
-/

namespace SceneAudit

/-- A script component and the scene that has it. -/
structure Usage where
  scene : Path
  script : Script
deriving DecidableEq

namespace Usage

/-- Usages are ordered by scene and then by file identifier. -/
def compare (a b : Usage) : Ordering :=
  (Ord.compare a.scene b.scene).then (Ord.compare a.script.fileId b.script.fileId)

end Usage

/-- A registry that is being filled. -/
structure Registry where
  /-- The usages of each script, the last one recorded first. -/
  byGuid : Std.HashMap Guid (List Usage)
  /-- The number of script components without a guid. -/
  unresolved : Nat

namespace Registry

def empty : Registry := ⟨∅, 0⟩

/-- The registry with one more script component, and whether it has a guid. -/
def record (registry : Registry) (scene : Path) (script : Script) : Registry × Bool :=
  match script.guid with
  | .resolved guid =>
    let usages := registry.byGuid.getD guid []
    ({ registry with byGuid := registry.byGuid.insert guid (⟨scene, script⟩ :: usages) }, true)
  | .unresolved _ => ({ registry with unresolved := registry.unresolved + 1 }, false)

/-- The registry with the script components of a scene, and how many of them have a guid. -/
def extend (registry : Registry) (scene : Path) (scripts : List Script) : Registry × Nat :=
  scripts.foldl
    (fun (registry, count) script =>
      let (registry, known) := registry.record scene script
      (registry, if known then count + 1 else count))
    (registry, 0)

end Registry

/-- A registry that only answers questions. -/
structure FrozenRegistry where
  /-- The usages of each script, in order. -/
  byGuid : Std.HashMap Guid (List Usage)
  unresolved : Nat

/-- Ends the filling of a registry.  Usages that are equal in order stay in the order in which they were recorded. -/
def Registry.freeze (registry : Registry) : FrozenRegistry where
  byGuid := registry.byGuid.map fun _ usages => usages.reverse.mergeSort fun a b => (a.compare b).isLE
  unresolved := registry.unresolved

namespace FrozenRegistry

/-- Whether any scene uses the script. -/
def contains (registry : FrozenRegistry) (guid : Guid) : Bool :=
  registry.byGuid.contains guid

/-- The usages of a script, in order. -/
def usages (registry : FrozenRegistry) (guid : Guid) : List Usage :=
  registry.byGuid.getD guid []

/-- The number of scripts that are used. -/
def guidCount (registry : FrozenRegistry) : Nat :=
  registry.byGuid.size

/-- The number of usages of all scripts. -/
def usageCount (registry : FrozenRegistry) : Nat :=
  registry.byGuid.values.foldl (fun count usages => count + usages.length) 0

/-- The number of script components that have no guid. -/
def unresolvedCount (registry : FrozenRegistry) : Nat :=
  registry.unresolved

end FrozenRegistry

end SceneAudit
