import SceneAudit.Digraph.Cycle
import SceneAudit.Proofs.Digraph.Reachability

/-!
# The cyclic classes of a directed graph

Two vertices are on a common cycle if each is reachable from the other by at
least one edge.  `Digraph.cyclicClasses` searches for the classes of this
relation from the targets of backward edges only; `isCyclicPartition_cyclicClasses`
says that it finds them all, each once.

## Strategy

* `exists_backward_edge`: whatever numbers the vertices have, they cannot rise
  all along a closed walk, so it has an edge that is backward, and the target of
  that edge is in the class of the walk.
* `mem_cycleThrough_iff`: a search forwards and one backwards find the class of
  a vertex.
* `Classes.Sound` is the invariant of the loop over the targets: the classes
  found are classes and disjoint, and a settled vertex on a cycle is in one of
  them.
-/

namespace SceneAudit

open Relation

/-! ## Common cycles of a relation -/

section Relation

variable {α : Type} {edge : α → α → Prop}

/-- Each of two vertices is reachable from the other by at least one edge. -/
def OnCommonCycle (edge : α → α → Prop) (first second : α) : Prop :=
  TransGen edge first second ∧ TransGen edge second first

namespace OnCommonCycle

variable {first second third : α}

theorem symm (h : OnCommonCycle edge first second) : OnCommonCycle edge second first :=
  ⟨h.2, h.1⟩

theorem trans (h : OnCommonCycle edge first second) (h' : OnCommonCycle edge second third) :
    OnCommonCycle edge first third :=
  ⟨h.1.trans h'.1, h'.2.trans h.2⟩

theorem refl_left (h : OnCommonCycle edge first second) : OnCommonCycle edge first first :=
  h.trans h.symm

theorem mono {edge' : α → α → Prop} (h : OnCommonCycle edge first second) (hsub : edge ≤ edge') :
    OnCommonCycle edge' first second :=
  ⟨TransGen.mono hsub _ _ h.1, TransGen.mono hsub _ _ h.2⟩

end OnCommonCycle

/-- A closed walk has an edge along which the numbers of the vertices do not
rise. -/
theorem exists_backward_edge (number : α → Nat) {vertex : α} (h : TransGen edge vertex vertex) :
    ∃ source target, edge source target ∧ ¬ number source < number target ∧
      OnCommonCycle edge vertex target := by
  -- up to any vertex of the walk, the numbers have risen or there was such an edge
  have hwalk : ∀ {target : α}, TransGen edge vertex target →
      number vertex < number target ∨
        ∃ source middle, ReflTransGen edge vertex source ∧ edge source middle ∧
          ¬ number source < number middle ∧ ReflTransGen edge middle target := by
    intro target hpath
    induction hpath with
    | @single target hedge =>
        by_cases hrise : number vertex < number target
        · exact .inl hrise
        · exact .inr ⟨vertex, target, .refl, hedge, hrise, .refl⟩
    | @tail source target hpath hedge ih =>
        rcases ih with hlt | ⟨earlier, middle, hearlier, hbackward, hfall, hmiddle⟩
        · by_cases hrise : number source < number target
          · exact .inl (Nat.lt_trans hlt hrise)
          · exact .inr ⟨source, target, hpath.to_reflTransGen, hedge, hrise, .refl⟩
        · exact .inr ⟨earlier, middle, hearlier, hbackward, hfall, hmiddle.tail hedge⟩
  rcases hwalk h with hlt | ⟨source, target, hsource, hedge, hfall, htarget⟩
  · exact absurd hlt (Nat.lt_irrefl _)
  · exact ⟨source, target, hedge, hfall, TransGen.tail' hsource hedge,
      TransGen.trans_right htarget h⟩

end Relation

namespace Digraph

variable {α : Type} [BEq α] [Hashable α] [LawfulBEq α] {graph : Digraph α}

theorem mem_of_transGen {source target : α} (h : TransGen graph.Edge source target) :
    source ∈ graph.successors := by
  obtain ⟨next, hedge, -⟩ := TransGen.head'_iff.mp h
  exact mem_of_edge hedge

/-! ## The class of a vertex -/

theorem reflTransGen_reverse_iff {source target : α} :
    ReflTransGen graph.reverse.Edge source target ↔ ReflTransGen graph.Edge target source := by
  have hswap : graph.reverse.Edge = Function.swap graph.Edge := by
    funext source target
    exact propext edge_reverse_iff
  rw [hswap]
  exact reflTransGen_swap

/-- A search from the successors of a vertex sees what it leads to. -/
theorem mem_seen_reach_next_iff (hclosed : graph.Closed) {vertex other : α} :
    other ∈ (graph.reach (graph.next vertex)).seen ↔ TransGen graph.Edge vertex other := by
  rw [mem_seen_reach_iff hclosed, TransGen.head'_iff]
  constructor
  · rintro ⟨next, hnext, -, hpath⟩
    exact ⟨next, hnext, hpath⟩
  · rintro ⟨next, hedge, hpath⟩
    exact ⟨next, hedge, hclosed hedge, hpath⟩

theorem mem_cycleThrough_iff (hclosed : graph.Closed) {vertex other : α} :
    other ∈ graph.cycleThrough graph.reverse vertex ↔ OnCommonCycle graph.Edge vertex other := by
  rw [cycleThrough]
  split
  · rename_i hcyclic
    rw [mem_seen_reach_next_iff hclosed] at hcyclic
    rw [List.mem_filter, (finished_reach graph _).2, mem_seen_reach_next_iff hclosed,
      Std.HashSet.contains_iff_mem, mem_seen_reach_iff (closed_reverse graph)]
    constructor
    · rintro ⟨hforward, start, hstart, -, hback⟩
      rw [List.mem_singleton.mp hstart, reflTransGen_reverse_iff] at hback
      exact ⟨hforward, TransGen.trans_right hback hcyclic⟩
    · rintro ⟨hforward, hback⟩
      refine ⟨hforward, vertex, List.mem_singleton_self _, ?_, ?_⟩
      · exact mem_reverse_of_mem (mem_of_transGen hcyclic)
      · exact reflTransGen_reverse_iff.mpr hback.to_reflTransGen
  · rename_i hacyclic
    rw [mem_seen_reach_next_iff hclosed] at hacyclic
    refine ⟨fun h => absurd h List.not_mem_nil, fun h => ?_⟩
    exact absurd h.refl_left.1 hacyclic

theorem nodup_cycleThrough (graph : Digraph α) (vertex : α) :
    (graph.cycleThrough graph.reverse vertex).Nodup := by
  rw [cycleThrough]
  split
  · exact (finished_reach graph _).1.filter _
  · exact List.nodup_nil

/-! ## Backward edges -/

theorem mem_backwardTargets_iff {rank : Std.HashMap α Nat} {target : α} :
    target ∈ graph.backwardTargets rank ↔
      ∃ source, graph.Edge source target ∧ ¬ rank.getD source 0 < rank.getD target 0 := by
  rw [backwardTargets, List.mem_map]
  constructor
  · rintro ⟨⟨source, other⟩, hmem, rfl⟩
    obtain ⟨hedge, hfall⟩ := List.mem_filter.mp hmem
    exact ⟨source, mem_edges_iff.mp hedge, by simpa using hfall⟩
  · rintro ⟨source, hedge, hfall⟩
    exact ⟨(source, target), List.mem_filter.mpr ⟨mem_edges_iff.mpr hedge, by simpa using hfall⟩, rfl⟩

/-! ## All classes -/

/-- The lists are the classes of vertices on common cycles. -/
structure IsCyclicPartition (edge : α → α → Prop) (classes : List (List α)) : Prop where
  /-- Each list holds all vertices that are on a common cycle with one of them. -/
  mem_iff : ∀ members ∈ classes, ∃ vertex, OnCommonCycle edge vertex vertex ∧
    ∀ other, other ∈ members ↔ OnCommonCycle edge vertex other
  /-- Every vertex on a cycle is in some list. -/
  exists_mem : ∀ vertex, OnCommonCycle edge vertex vertex → ∃ members ∈ classes, vertex ∈ members
  nodup : ∀ members ∈ classes, members.Nodup
  disjoint : classes.Pairwise List.Disjoint

omit [BEq α] [Hashable α] [LawfulBEq α] in
theorem IsCyclicPartition.onCommonCycle_of_mem {edge : α → α → Prop} {classes : List (List α)}
    (h : IsCyclicPartition edge classes) {members : List α} (hmembers : members ∈ classes)
    {first second : α} (hfirst : first ∈ members) (hsecond : second ∈ members) :
    OnCommonCycle edge first second := by
  obtain ⟨vertex, -, hvertex⟩ := h.mem_iff members hmembers
  exact ((hvertex first).mp hfirst).symm.trans ((hvertex second).mp hsecond)

/-- What the search for classes knows after some targets: it has found classes,
and it has settled those targets and all that it has found. -/
structure Classes.Sound (graph : Digraph α) (targets : List α) (classes : Classes α) : Prop where
  mem_iff : ∀ members ∈ classes.found, ∃ vertex, OnCommonCycle graph.Edge vertex vertex ∧
    ∀ other, other ∈ members ↔ OnCommonCycle graph.Edge vertex other
  nodup : ∀ members ∈ classes.found, members.Nodup
  disjoint : classes.found.Pairwise List.Disjoint
  settled_of_found : ∀ members ∈ classes.found, ∀ vertex ∈ members, vertex ∈ classes.settled
  settled_of_target : ∀ vertex ∈ targets, vertex ∈ classes.settled
  found_of_settled : ∀ vertex ∈ classes.settled, OnCommonCycle graph.Edge vertex vertex →
    ∃ members ∈ classes.found, vertex ∈ members

omit [LawfulBEq α] in
theorem Classes.sound_start (graph : Digraph α) : Classes.Sound graph [] ⟨[], ∅⟩ := by
  constructor <;> simp

/-- A vertex on no cycle is settled without a class. -/
theorem Classes.Sound.settle {targets : List α} {classes : Classes α}
    (h : Classes.Sound graph targets classes) {vertex : α}
    (hacyclic : ¬ OnCommonCycle graph.Edge vertex vertex) :
    Classes.Sound graph (vertex :: targets)
      { classes with settled := classes.settled.insert vertex } where
  mem_iff := h.mem_iff
  nodup := h.nodup
  disjoint := h.disjoint
  settled_of_found := fun members hfound other hother =>
    Std.HashSet.mem_insert.mpr (.inr (h.settled_of_found members hfound other hother))
  settled_of_target := by
    intro other hother
    rw [Std.HashSet.mem_insert, beq_iff_eq]
    exact (List.mem_cons.mp hother).imp Eq.symm (h.settled_of_target other)
  found_of_settled := by
    intro other hsettled hcyclic
    rw [Std.HashSet.mem_insert, beq_iff_eq] at hsettled
    rcases hsettled with rfl | hsettled
    · exact absurd hcyclic hacyclic
    · exact h.found_of_settled other hsettled hcyclic

/-- A vertex on a cycle that is not settled yet gives a class that is new. -/
theorem Classes.Sound.find {targets : List α} {classes : Classes α}
    (h : Classes.Sound graph targets classes) {vertex : α} {members : List α}
    (hnew : vertex ∉ classes.settled) (hcyclic : OnCommonCycle graph.Edge vertex vertex)
    (hmembers : ∀ other, other ∈ members ↔ OnCommonCycle graph.Edge vertex other)
    (hnodup : members.Nodup) :
    Classes.Sound graph (vertex :: targets)
      ⟨members :: classes.found, members.foldl (·.insert ·) classes.settled⟩ where
  mem_iff := List.forall_mem_cons.mpr ⟨⟨vertex, hcyclic, hmembers⟩, h.mem_iff⟩
  nodup := List.forall_mem_cons.mpr ⟨hnodup, h.nodup⟩
  disjoint := by
    refine List.pairwise_cons.mpr ⟨fun earlier hearlier other hother hshared => ?_, h.disjoint⟩
    -- A class that shares a member with the new one would have settled the vertex.
    obtain ⟨start, -, hstart⟩ := h.mem_iff earlier hearlier
    have hvertex : vertex ∈ earlier :=
      (hstart vertex).mpr (((hstart other).mp hshared).trans ((hmembers other).mp hother).symm)
    exact hnew (h.settled_of_found earlier hearlier vertex hvertex)
  settled_of_found := by
    refine List.forall_mem_cons.mpr ⟨fun other hother => ?_, fun earlier hearlier other hother => ?_⟩
    · exact mem_foldl_insert_iff.mpr (.inr hother)
    · exact mem_foldl_insert_iff.mpr (.inl (h.settled_of_found earlier hearlier other hother))
  settled_of_target := by
    intro other hother
    rw [mem_foldl_insert_iff]
    rcases List.mem_cons.mp hother with rfl | hother
    · exact .inr ((hmembers other).mpr hcyclic)
    · exact .inl (h.settled_of_target other hother)
  found_of_settled := by
    intro other hsettled hother
    rcases mem_foldl_insert_iff.mp hsettled with hsettled | hmember
    · obtain ⟨earlier, hearlier, hmember⟩ := h.found_of_settled other hsettled hother
      exact ⟨earlier, List.mem_cons_of_mem _ hearlier, hmember⟩
    · exact ⟨members, List.mem_cons_self, hmember⟩

/-- One more target keeps the search sound. -/
theorem Classes.Sound.add {targets : List α} {classes : Classes α}
    (h : Classes.Sound graph targets classes) (hclosed : graph.Closed) (vertex : α) :
    Classes.Sound graph (vertex :: targets) (classes.add graph graph.reverse vertex) := by
  have hmembers : ∀ other, other ∈ graph.cycleThrough graph.reverse vertex ↔
      OnCommonCycle graph.Edge vertex other := fun _ => mem_cycleThrough_iff hclosed
  unfold Classes.add
  split
  case isTrue hsettled =>
      refine { h with settled_of_target := ?_ }
      exact List.forall_mem_cons.mpr ⟨hsettled, h.settled_of_target⟩
  case isFalse hnew =>
      split
      case h_1 hnone =>
          refine h.settle fun hcyclic => ?_
          rw [← hmembers, hnone] at hcyclic
          exact List.not_mem_nil hcyclic
      case h_2 hsome =>
          obtain ⟨other, hother⟩ := List.exists_mem_of_ne_nil _ hsome
          exact h.find hnew ((hmembers other).mp hother).refl_left hmembers
            (nodup_cycleThrough graph vertex)

theorem Classes.Sound.foldl_add {targets : List α} {classes : Classes α}
    (h : Classes.Sound graph targets classes) (hclosed : graph.Closed) (vertices : List α) :
    Classes.Sound graph (vertices.reverse ++ targets)
      (vertices.foldl (Classes.add graph graph.reverse) classes) := by
  induction vertices generalizing targets classes with
  | nil => exact h
  | cons vertex vertices ih =>
      rw [List.foldl_cons, List.reverse_cons, List.append_assoc]
      exact ih (h.add hclosed vertex)

/-- **The search finds the classes** of vertices on common cycles: all of them,
and each once. -/
theorem isCyclicPartition_cyclicClasses (hclosed : graph.Closed) :
    IsCyclicPartition graph.Edge graph.cyclicClasses := by
  have h := (Classes.sound_start graph).foldl_add hclosed
    (graph.backwardTargets graph.finishRank)
  refine ⟨h.mem_iff, fun vertex hcyclic => ?_, h.nodup, h.disjoint⟩
  obtain ⟨source, target, hedge, hfall, hcommon⟩ :=
    exists_backward_edge (fun other => graph.finishRank.getD other 0) hcyclic.1
  have htarget : target ∈ (graph.backwardTargets graph.finishRank).reverse ++ [] := by
    rw [List.append_nil, List.mem_reverse]
    exact mem_backwardTargets_iff.mpr ⟨source, hedge, hfall⟩
  -- the target was settled, so its class was found, and this is the class of the vertex
  obtain ⟨members, hfound, hmember⟩ :=
    h.found_of_settled target (h.settled_of_target target htarget) hcommon.symm.refl_left
  obtain ⟨start, -, hstart⟩ := h.mem_iff members hfound
  exact ⟨members, hfound, (hstart vertex).mpr (((hstart target).mp hmember).trans hcommon.symm)⟩

end Digraph

end SceneAudit
