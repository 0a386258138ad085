import SceneAudit.Unseen

/-!
# Directed graphs

A graph is given by the successors of each of its vertices.  The one algorithm on it is a depth-first search with a
stack of its own, so that long chains need no more than memory.
-/

namespace SceneAudit

/-- A directed graph whose vertices are the keys of the map. -/
structure Digraph (α : Type) [BEq α] [Hashable α] where
  successors : Std.HashMap α (List α)

namespace Digraph

variable {α : Type} [BEq α] [Hashable α]

/-- The graph without vertices. -/
def empty : Digraph α := ⟨∅⟩

/-- The successors of a vertex, none if it is not in the graph. -/
def next (graph : Digraph α) (vertex : α) : List α :=
  graph.successors.getD vertex []

/-- The graph with a further vertex. -/
def addVertex (graph : Digraph α) (vertex : α) : Digraph α :=
  ⟨graph.successors.insertIfNew vertex []⟩

/-- The graph with further edges out of a vertex. -/
def addEdges (graph : Digraph α) (source : α) (targets : List α) : Digraph α :=
  ⟨graph.successors.insert source (targets ++ graph.next source)⟩

/-- The graph with a further edge. -/
def addEdge (graph : Digraph α) (source target : α) : Digraph α :=
  graph.addEdges source [target]

/-- The edges, as pairs of source and target. -/
def edges (graph : Digraph α) : List (α × α) :=
  graph.successors.toList.flatMap fun (source, targets) => targets.map fun target => (source, target)

/-- The graph on the same vertices with every edge turned round. -/
def reverse (graph : Digraph α) : Digraph α :=
  graph.edges.foldl (fun reversed (source, target) => reversed.addEdge target source)
    (graph.successors.keys.foldl addVertex empty)

/-! ## Depth-first search -/

/-- What is left to do in a search. -/
inductive Task (α : Type) where
  /-- Look at a vertex, and at what it leads to if it is new. -/
  | enter (vertex : α)
  /-- All that a vertex leads to has been looked at. -/
  | leave (vertex : α)

/-- What a search has found so far. -/
structure Search (α : Type) [BEq α] [Hashable α] where
  seen : Std.HashSet α
  /-- The vertices that the search has left, the last one first. -/
  finished : List α

namespace Search

/-- The search that has looked at nothing yet. -/
def fresh : Search α := ⟨∅, []⟩

end Search

/-- Works off the tasks, each new vertex before the tasks that were there first. -/
def explore [LawfulBEq α] (graph : Digraph α) (tasks : List (Task α)) (search : Search α) : Search α :=
  match tasks with
  | [] => search
  | .leave vertex :: tasks => explore graph tasks { search with finished := vertex :: search.finished }
  | .enter vertex :: tasks =>
    if _seen : vertex ∈ search.seen then
      explore graph tasks search
    else
      match _found : graph.successors[vertex]? with
      | none => explore graph tasks search
      | some next =>
        explore graph (next.map .enter ++ .leave vertex :: tasks)
          { search with seen := search.seen.insert vertex }
termination_by (unseen graph.successors search.seen, tasks.length)
decreasing_by
  · exact Prod.Lex.right _ (Nat.lt_succ_self _)
  · exact Prod.Lex.right _ (Nat.lt_succ_self _)
  · exact Prod.Lex.right _ (Nat.lt_succ_self _)
  · refine Prod.Lex.left _ _ (unseen_insert_lt ?_ _seen)
    exact Std.HashMap.mem_iff_isSome_getElem?.mpr (by simp [_found])

/-- What can be reached from some vertices, themselves included. -/
def reach [LawfulBEq α] (graph : Digraph α) (starts : List α) : Search α :=
  graph.explore (starts.map .enter) .fresh

end Digraph

end SceneAudit
