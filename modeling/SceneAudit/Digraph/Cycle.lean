import SceneAudit.Digraph

/-!
# Cycles of a directed graph

Two vertices are on a common cycle when each can be reached from the other; a cyclic class is a largest set of such
vertices, or a single vertex with an edge to itself.

A depth-first search leaves the vertices in an order, and along an edge that is on no cycle the source is left after
the target.  So it is enough to look at the *backward* edges, those whose source is not left after their target:
every closed walk has one, and the class of its target is found by one search forwards and one backwards.  The
argument holds for any order whatsoever; a good one only makes the backward edges few.
-/

namespace SceneAudit

namespace Digraph

variable {α : Type} [BEq α] [Hashable α] [LawfulBEq α]

/-- The place of every vertex in the order in which a search of the whole graph leaves them, last to first. -/
def finishRank (graph : Digraph α) : Std.HashMap α Nat :=
  (graph.reach graph.successors.keys).finished.zipIdx.foldl (fun ranks (vertex, place) => ranks.insert vertex place) ∅

/-- The targets of the edges that do not lead on in the order of `rank`. -/
def backwardTargets (graph : Digraph α) (rank : Std.HashMap α Nat) : List α :=
  (graph.edges.filter fun (source, target) => !(rank.getD source 0 < rank.getD target 0)).map Prod.snd

/-- The class of a vertex: what it leads to, in one step or more, and can be reached from.  Empty if the vertex is on
no cycle. -/
def cycleThrough (graph reversed : Digraph α) (vertex : α) : List α :=
  let after := graph.reach (graph.next vertex)
  if vertex ∈ after.seen then
    let before := reversed.reach [vertex]
    after.finished.filter fun other => before.seen.contains other
  else
    []

/-- The classes found so far and the vertices that need no further look. -/
structure Classes (α : Type) [BEq α] [Hashable α] where
  found : List (List α)
  settled : Std.HashSet α

namespace Classes

/-- Adds the class of a vertex, unless it is settled already. -/
def add (graph reversed : Digraph α) (classes : Classes α) (vertex : α) : Classes α :=
  if vertex ∈ classes.settled then
    classes
  else
    match graph.cycleThrough reversed vertex with
    | [] => { classes with settled := classes.settled.insert vertex }
    | members => ⟨members :: classes.found, members.foldl (·.insert ·) classes.settled⟩

end Classes

/-- The cyclic classes, in no particular order. -/
def cyclicClasses (graph : Digraph α) : List (List α) :=
  ((graph.backwardTargets graph.finishRank).foldl (Classes.add graph graph.reverse) ⟨[], ∅⟩).found

/-- The cyclic classes, each in ascending order, and themselves in ascending order. -/
def cycles [Ord α] (graph : Digraph α) : List (List α) :=
  (graph.cyclicClasses.map fun members => members.mergeSort fun a b => (compare a b).isLE).mergeSort
    fun a b => (compare a b).isLE

end Digraph

end SceneAudit
