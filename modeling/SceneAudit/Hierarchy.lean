import SceneAudit.Hierarchy.Index
import SceneAudit.Hierarchy.Links
import SceneAudit.Hierarchy.Walk

/-!
# The hierarchy of a scene

Rendering names every transform that a root reaches by the game object it belongs to.  The faults come in this
order: repeated file identifiers of game objects, then of transforms, then the cycles, then the transforms that were
asked for more than once.

The dump of a hierarchy has one line for each transform: the name, with `--` in front for every level.
-/

namespace SceneAudit

/-- A rendered scene. -/
structure Hierarchy where
  lines : List HierarchyLine
  faults : List Fault
deriving DecidableEq

namespace Hierarchy

/-- What stands in front of a name for every level below the roots. -/
def indentMarker : String := "--"

/-- The depths and names of the lines; a name that could not be found is empty. -/
def entries (hierarchy : Hierarchy) : List (Nat × String) :=
  hierarchy.lines.map fun line => (line.depth, line.name.getD "")

/-- The indentation of a line. -/
def indent (depth : Nat) : String :=
  String.join (List.replicate depth indentMarker)

/-- One line of the dump, with its line feed. -/
def dumpLine (entry : Nat × String) : String :=
  indent entry.1 ++ entry.2 ++ "\n"

/-- The dump of the hierarchy. -/
def dump (hierarchy : Hierarchy) : String :=
  String.join (hierarchy.entries.map dumpLine)

/-- The pieces in which the dump is written: indentation, name and line feed of each line. -/
def dumpPieces (hierarchy : Hierarchy) : List String :=
  hierarchy.entries.flatMap fun (depth, name) => [indent depth, name, "\n"]

end Hierarchy

/-! ## Rendering -/

/-- The name of the game object that a transform belongs to. -/
def ownerName (objects : Index GameObject) (transform : Transform) : Option String := do
  let owner ← objects.byId[← transform.gameObject.target?]?
  owner.name

/-- What the walk needs to know, where the game objects and transforms are indexed. -/
def scenery (objects : Index GameObject) (nodes : Index Transform) (cycles : List (List FileId)) :
    Walk.Scenery :=
  let cyclic : Std.HashSet FileId := cycles.foldl (fun set members => members.foldl (·.insert ·) set) ∅
  { transforms := nodes.byId
    nameOf := ownerName objects
    onCycle := cyclic.contains }

/-- The visits with which the walk starts: to the transforms without parent, in document order. -/
def rootVisits (nodes : Index Transform) : List Visit :=
  (nodes.kept.filter Transform.isRoot).map fun transform => ⟨none, transform.fileId, 0⟩

/-- The hierarchy of the game objects and transforms of one scene. -/
def render (gameObjects : List GameObject) (transforms : List Transform) : Hierarchy :=
  let objects := Index.ofList GameObject.fileId gameObjects
  let nodes := Index.ofList Transform.fileId transforms
  let cycles := findCycles transforms
  let walk := Walk.run (scenery objects nodes cycles) (rootVisits nodes) .start
  { lines := walk.reversedLines.reverse
    faults :=
      objects.repeated.map (Fault.duplicateFileId · Tag.gameObject) ++
        nodes.repeated.map (Fault.duplicateFileId · Tag.transform) ++
        cycles.map Fault.cycle ++ walk.reversedFaults.reverse }

end SceneAudit
