import SceneAudit.Hierarchy.Fault
import SceneAudit.Unseen

/-!
# The preorder walk over a scene

The walk prints a transform before its children and the children in the order in which it lists them.  It keeps the
visits that are still to be made on a stack, so its depth is bounded by memory only.  A transform is printed at most
once: a visit to one that was printed before adds no line, and it is a fault if a parent asked for it and no cycle
explains it.
-/

namespace SceneAudit

/-- One line of a rendered hierarchy. -/
structure HierarchyLine where
  /-- The number of ancestors that are printed above. -/
  depth : Nat
  /-- The name of the game object that the transform belongs to, if it could be found. -/
  name : Option String
  transform : FileId
deriving DecidableEq

/-- A visit that is still to be made. -/
structure Visit where
  /-- The transform that lists this one as a child; none for a root. -/
  parent : Option FileId
  transform : FileId
  depth : Nat
deriving DecidableEq

/-- What the walk has done so far. -/
structure Walk where
  /-- The transforms that were printed. -/
  printed : Std.HashSet FileId
  /-- The lines, the last one first. -/
  reversedLines : List HierarchyLine
  /-- The faults, the last one first. -/
  reversedFaults : List Fault

namespace Walk

/-- The walk that has visited nothing. -/
def start : Walk := ⟨∅, [], []⟩

/-- What a walk needs to know of a scene. -/
structure Scenery where
  /-- The transforms by their file identifiers. -/
  transforms : Std.HashMap FileId Transform
  /-- The name that a transform is printed with. -/
  nameOf : Transform → Option String
  /-- Whether the transform is on a cycle. -/
  onCycle : FileId → Bool

/-- The visits to the children of a transform: to those that resolve to a transform of the scene. -/
def Scenery.visitsBelow (scenery : Scenery) (transform : Transform) (depth : Nat) : List Visit :=
  (transform.resolvedChildren.filter (· ∈ scenery.transforms)).map fun child =>
    ⟨some transform.fileId, child, depth + 1⟩

/-- The faults of a visit to a transform that was printed before. -/
def Scenery.revisitFaults (scenery : Scenery) (visit : Visit) : List Fault :=
  match visit.parent with
  | none => []
  | some parent => if scenery.onCycle visit.transform then [] else [.revisit parent visit.transform]

/-- The walk with a visit in vain. -/
def revisit (scenery : Scenery) (walk : Walk) (visit : Visit) : Walk :=
  { walk with reversedFaults := scenery.revisitFaults visit ++ walk.reversedFaults }

/-- The walk with a transform printed. -/
def print (scenery : Scenery) (walk : Walk) (visit : Visit) (transform : Transform) : Walk :=
  { walk with
    printed := walk.printed.insert visit.transform
    reversedLines := ⟨visit.depth, scenery.nameOf transform, visit.transform⟩ :: walk.reversedLines }

/-- Makes the visits on the stack, the children of a newly printed transform first. -/
def run (scenery : Scenery) (stack : List Visit) (walk : Walk) : Walk :=
  match stack with
  | [] => walk
  | visit :: stack =>
    if _printed : visit.transform ∈ walk.printed then
      run scenery stack (walk.revisit scenery visit)
    else
      match _found : scenery.transforms[visit.transform]? with
      | none => run scenery stack walk
      | some transform =>
        run scenery (scenery.visitsBelow transform visit.depth ++ stack) (walk.print scenery visit transform)
termination_by (unseen scenery.transforms walk.printed, stack.length)
decreasing_by
  · exact Prod.Lex.right _ (Nat.lt_succ_self _)
  · exact Prod.Lex.right _ (Nat.lt_succ_self _)
  · refine Prod.Lex.left _ _ (unseen_insert_lt ?_ _printed)
    exact Std.HashMap.mem_iff_isSome_getElem?.mpr (by simp [_found])

end Walk

end SceneAudit
