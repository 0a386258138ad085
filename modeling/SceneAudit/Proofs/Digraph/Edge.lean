import SceneAudit.Digraph

/-!
# The edges of a directed graph

A `Digraph` is a hash map of successors; `Digraph.Edge` is the relation that it
stands for.  The lemmas here say what every operation does to that relation and
to the set of vertices, so that nothing else has to look at the map:

* `edge_addEdges_iff` and `mem_addEdges_iff` for building a graph;
* `mem_edges_iff` for listing its edges;
* `edge_reverse_iff` for turning it round.
-/

namespace SceneAudit

theorem mem_foldl_insert_iff {α : Type} [BEq α] [Hashable α] [LawfulBEq α] {items : List α}
    {set : Std.HashSet α} {other : α} :
    other ∈ items.foldl (·.insert ·) set ↔ other ∈ set ∨ other ∈ items := by
  induction items generalizing set with
  | nil => simp
  | cons item items ih =>
      rw [List.foldl_cons, ih, Std.HashSet.mem_insert, beq_iff_eq, List.mem_cons, eq_comm,
        or_right_comm, or_comm, or_left_comm]

namespace Digraph

variable {α : Type} [BEq α] [Hashable α] [LawfulBEq α] {graph : Digraph α}

/-- There is an edge from one vertex to another. -/
def Edge (graph : Digraph α) (source target : α) : Prop :=
  target ∈ graph.next source

/-- Every edge leads to a vertex of the graph. -/
def Closed (graph : Digraph α) : Prop :=
  ∀ {source target : α}, graph.Edge source target → target ∈ graph.successors

theorem next_eq_of_getElem? {vertex : α} {next : List α}
    (h : graph.successors[vertex]? = some next) : graph.next vertex = next := by
  rw [Digraph.next, Std.HashMap.getD_eq_getD_getElem?, h]
  rfl

theorem mem_of_edge {source target : α} (h : graph.Edge source target) :
    source ∈ graph.successors := by
  rw [Edge, Digraph.next, Std.HashMap.getD_eq_getD_getElem?] at h
  rw [Std.HashMap.mem_iff_isSome_getElem?]
  cases hnext : graph.successors[source]? with
  | none => simp [hnext] at h
  | some next => rfl

/-! ## Building a graph -/

omit [LawfulBEq α] in
theorem not_edge_empty (source target : α) : ¬ (empty : Digraph α).Edge source target := by
  simp [Edge, Digraph.next, empty]

omit [LawfulBEq α] in
theorem not_mem_empty (vertex : α) : vertex ∉ (empty : Digraph α).successors := by
  simp [empty]

theorem edge_addVertex_iff {vertex source target : α} :
    (graph.addVertex vertex).Edge source target ↔ graph.Edge source target := by
  have hnext : (graph.addVertex vertex).next source = graph.next source := by
    rw [Digraph.next, addVertex, Std.HashMap.getD_insertIfNew]
    split
    · rename_i h
      rw [Digraph.next, Std.HashMap.getD_eq_fallback]
      rw [← eq_of_beq h.1]
      exact h.2
    · rfl
  rw [Edge, hnext, Edge]

theorem mem_addVertex_iff {vertex other : α} :
    other ∈ (graph.addVertex vertex).successors ↔ other = vertex ∨ other ∈ graph.successors := by
  rw [addVertex, Std.HashMap.mem_insertIfNew, beq_iff_eq, eq_comm]

theorem edge_addEdges_iff {start source target : α} {targets : List α} :
    (graph.addEdges start targets).Edge source target ↔
      (source = start ∧ target ∈ targets) ∨ graph.Edge source target := by
  rw [Edge, Digraph.next, addEdges, Std.HashMap.getD_insert]
  by_cases h : start = source
  · subst h
    simp [Edge]
  · have hne : source ≠ start := fun heq => h heq.symm
    simp [h, hne, Edge, Digraph.next]

theorem mem_addEdges_iff {start other : α} {targets : List α} :
    other ∈ (graph.addEdges start targets).successors ↔
      other = start ∨ other ∈ graph.successors := by
  rw [addEdges, Std.HashMap.mem_insert, beq_iff_eq, eq_comm]

theorem mem_foldl_addVertex_iff {vertices : List α} {other : α} :
    other ∈ (vertices.foldl addVertex graph).successors ↔
      other ∈ vertices ∨ other ∈ graph.successors := by
  induction vertices generalizing graph with
  | nil => simp
  | cons vertex vertices ih =>
      rw [List.foldl_cons, ih, mem_addVertex_iff, List.mem_cons, or_assoc, or_left_comm]

theorem edge_foldl_addVertex_iff {vertices : List α} {source target : α} :
    (vertices.foldl addVertex graph).Edge source target ↔ graph.Edge source target := by
  induction vertices generalizing graph with
  | nil => rfl
  | cons vertex vertices ih => rw [List.foldl_cons, ih, edge_addVertex_iff]

theorem edge_foldl_addEdges_iff {β : Type} (start : β → α) (targets : β → List α) (items : List β)
    {source target : α} :
    (items.foldl (fun graph item => graph.addEdges (start item) (targets item)) graph).Edge
        source target ↔
      (∃ item ∈ items, start item = source ∧ target ∈ targets item) ∨
        graph.Edge source target := by
  induction items generalizing graph with
  | nil => simp
  | cons item items ih =>
      rw [List.foldl_cons, ih, edge_addEdges_iff, ← or_assoc, or_comm (b := source = start item ∧ _),
        eq_comm (a := source)]
      simp only [List.mem_cons, or_and_right, exists_or, exists_eq_left]

theorem mem_foldl_addEdges_iff {β : Type} {start : β → α} {targets : β → List α} {items : List β}
    {vertex : α} :
    vertex ∈ (items.foldl (fun graph item => graph.addEdges (start item) (targets item))
        graph).successors ↔ vertex ∈ items.map start ∨ vertex ∈ graph.successors := by
  induction items generalizing graph with
  | nil => simp
  | cons item items ih =>
      rw [List.foldl_cons, ih, mem_addEdges_iff, List.map_cons, List.mem_cons, or_left_comm,
        or_assoc]

/-! ## Listing the edges -/

theorem mem_edges_iff {source target : α} :
    (source, target) ∈ graph.edges ↔ graph.Edge source target := by
  rw [edges, List.mem_flatMap]
  constructor
  · rintro ⟨⟨vertex, next⟩, hmem, htarget⟩
    rw [Std.HashMap.mem_toList_iff_getElem?_eq_some] at hmem
    simp only [List.mem_map, Prod.mk.injEq] at htarget
    obtain ⟨other, hother, rfl, rfl⟩ := htarget
    rw [Edge, next_eq_of_getElem? hmem]
    exact hother
  · intro hedge
    obtain ⟨next, hnext⟩ := Option.isSome_iff_exists.mp
      (Std.HashMap.mem_iff_isSome_getElem?.mp (mem_of_edge hedge))
    rw [Edge, next_eq_of_getElem? hnext] at hedge
    exact ⟨(source, next), Std.HashMap.mem_toList_iff_getElem?_eq_some.mpr hnext,
      List.mem_map_of_mem hedge⟩

/-! ## Turning a graph round -/

theorem edge_reverse_iff {source target : α} :
    graph.reverse.Edge source target ↔ graph.Edge target source := by
  refine (edge_foldl_addEdges_iff Prod.snd (fun pair => [pair.1]) graph.edges).trans ?_
  rw [edge_foldl_addVertex_iff, or_iff_left (not_edge_empty source target)]
  constructor
  · rintro ⟨⟨earlier, later⟩, hpair, rfl, htarget⟩
    rw [List.mem_singleton.mp htarget]
    exact mem_edges_iff.mp hpair
  · intro hedge
    exact ⟨(target, source), mem_edges_iff.mpr hedge, rfl, List.mem_singleton_self _⟩

theorem mem_reverse_of_mem {vertex : α} (h : vertex ∈ graph.successors) :
    vertex ∈ graph.reverse.successors := by
  refine mem_foldl_addEdges_iff.mpr (.inr (mem_foldl_addVertex_iff.mpr (.inl ?_)))
  rwa [Std.HashMap.mem_keys]

theorem closed_reverse (graph : Digraph α) : graph.reverse.Closed := by
  intro source target hedge
  exact mem_reverse_of_mem (mem_of_edge (edge_reverse_iff.mp hedge))

end Digraph

end SceneAudit
