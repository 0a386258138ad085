import SceneAudit.Digraph.Cycle
import SceneAudit.Record

/-!
# Child links between transforms

The links of a scene form a graph on the file identifiers of its transforms.  Every record counts, also one whose
file identifier an earlier record has; children that resolve to no transform of the scene are left out.
-/

namespace SceneAudit

namespace Links

/-- The file identifiers of the transforms, without links. -/
def vertices (transforms : List Transform) : Digraph FileId :=
  transforms.foldl (fun graph transform => graph.addVertex transform.fileId) .empty

/-- The graph of the child links. -/
def graph (transforms : List Transform) : Digraph FileId :=
  let known := (vertices transforms).successors
  transforms.foldl
    (fun graph transform => graph.addEdges transform.fileId (transform.resolvedChildren.filter (· ∈ known)))
    (vertices transforms)

end Links

/-- The cycles among the child links, each by its members in ascending order. -/
def findCycles (transforms : List Transform) : List (List FileId) :=
  (Links.graph transforms).cycles

end SceneAudit
