import SceneAudit.Proofs.Digraph.SortedCycle
import SceneAudit.Proofs.Hierarchy.Render

/-!
# The cycles that are reported

The cycles of a scene are those of its child links, and here every record
counts: `ChildLink` has the entries of all records, also of those whose file
identifier an earlier record has.  `isCycleList_findCycles` says that the cycles
found are the cyclic classes of this relation in ascending order, so scenes have
the same cycles if and only if they have the same transforms on common cycles.
-/

namespace SceneAudit

open Relation

instance : Std.TransOrd FileId :=
  inferInstanceAs (Std.TransCmp (compareOn FileId.text))

instance : Std.LawfulEqOrd FileId where
  compare_self {id} := by
    have htext : compare id.text id.text = .eq := Std.ReflCmp.compare_self
    exact htext
  eq_of_compare := by
    rintro ⟨text⟩ ⟨other⟩ h
    have htext : compare text other = .eq := h
    rw [Std.LawfulEqCmp.eq_of_compare htext]

/-- Some record of the parent lists the child, and the child is in the scene. -/
def ChildLink (transforms : List Transform) (parent child : FileId) : Prop :=
  ∃ record ∈ transforms, record.fileId = parent ∧ child ∈ presentChildren transforms record

variable {transforms : List Transform}

/-! ## The graph of the child links -/

theorem Links.vertices_eq (transforms : List Transform) :
    vertices transforms = (transforms.map Transform.fileId).foldl Digraph.addVertex .empty := by
  rw [vertices, List.foldl_map]

theorem Links.mem_vertices_iff {id : FileId} :
    id ∈ (vertices transforms).successors ↔ id ∈ transforms.map Transform.fileId := by
  rw [vertices_eq, Digraph.mem_foldl_addVertex_iff, or_iff_left (Digraph.not_mem_empty id)]

theorem Links.edge_graph_iff {parent child : FileId} :
    (graph transforms).Edge parent child ↔ ChildLink transforms parent child := by
  rw [graph, Digraph.edge_foldl_addEdges_iff, vertices_eq, Digraph.edge_foldl_addVertex_iff,
    or_iff_left (Digraph.not_edge_empty parent child)]
  simp only [ChildLink, presentChildren, List.mem_filter, decide_eq_true_eq, mem_vertices_iff,
    ← vertices_eq]

theorem Links.closed_graph (transforms : List Transform) : (graph transforms).Closed := by
  intro parent child hedge
  obtain ⟨record, -, -, hchild⟩ := edge_graph_iff.mp hedge
  refine Digraph.mem_foldl_addEdges_iff.mpr (.inr (mem_vertices_iff.mpr ?_))
  simpa using (List.mem_filter.mp hchild).2

/-! ## The cycles -/

/-- **The cycles found** are the cyclic classes of the child links. -/
theorem isCycleList_findCycles (transforms : List Transform) :
    Digraph.IsCycleList (ChildLink transforms) (findCycles transforms) := by
  have hedge : (Links.graph transforms).Edge = ChildLink transforms := by
    funext parent child
    exact propext Links.edge_graph_iff
  exact hedge ▸ Digraph.isCycleList_cycles (Links.closed_graph transforms)

/-- Two scenes have the same cycles if and only if the same transforms are on
common cycles in them. -/
theorem findCycles_eq_iff {others : List Transform} :
    findCycles transforms = findCycles others ↔
      ∀ first second, OnCommonCycle (ChildLink transforms) first second ↔
        OnCommonCycle (ChildLink others) first second := by
  constructor
  · intro h first second
    rw [(isCycleList_findCycles transforms).onCommonCycle_iff, h,
      (isCycleList_findCycles others).onCommonCycle_iff]
  · exact (isCycleList_findCycles transforms).eq_of_onCommonCycle_iff (isCycleList_findCycles others)

/-- A transform is on a reported cycle if and only if its child links lead back
to it. -/
theorem onReportedCycle_iff {id : FileId} :
    OnReportedCycle transforms id ↔ TransGen (ChildLink transforms) id id := by
  have hcommon : OnCommonCycle (ChildLink transforms) id id ↔
      ∃ members ∈ findCycles transforms, id ∈ members ∧ id ∈ members :=
    (isCycleList_findCycles transforms).onCommonCycle_iff
  simp only [OnCommonCycle, and_self_iff] at hcommon
  exact hcommon.symm

theorem findCycles_eq_nil_iff :
    findCycles transforms = [] ↔ ∀ id, ¬ TransGen (ChildLink transforms) id id := by
  constructor
  · intro h id hcycle
    obtain ⟨members, hmembers, -⟩ := onReportedCycle_iff.mpr hcycle
    rw [h] at hmembers
    exact List.not_mem_nil hmembers
  · intro h
    rw [List.eq_nil_iff_forall_not_mem]
    intro members hmembers
    obtain ⟨id, hcyclic, -⟩ := (isCycleList_findCycles transforms).mem_iff members hmembers
    exact h id hcyclic.1

/-- If numbers rise along the child links, there are no cycles. -/
theorem findCycles_eq_nil_of_lt (number : FileId → Nat)
    (hrise : ∀ record ∈ transforms, ∀ child ∈ presentChildren transforms record,
      number record.fileId < number child) : findCycles transforms = [] := by
  refine findCycles_eq_nil_iff.mpr fun id hcycle => ?_
  obtain ⟨_, child, ⟨record, hrecord, rfl, hchild⟩, hfall, -⟩ := exists_backward_edge number hcycle
  exact hfall (hrise record hrecord child hchild)

end SceneAudit
