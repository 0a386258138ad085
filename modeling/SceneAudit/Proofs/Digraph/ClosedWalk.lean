import SceneAudit.Proofs.Digraph.CyclicClass
import Mathlib.Data.List.Chain

/-!
# Closed walks

A closed walk is a list of vertices along the edges that ends where it started, so it has at
least one edge (`IsClosedWalk`).  All of its vertices are on a common cycle
(`IsClosedWalk.onCommonCycle`), and every vertex on a cycle has one (`exists_isClosedWalk`).

Without edges every vertex still reaches itself, so the classes of mutually reachable vertices
are more than the cyclic ones; those that have a closed walk are the cyclic classes
(`mutuallyReachable_iff_onCommonCycle`).
-/

namespace SceneAudit

open Relation

variable {α : Type} {edge : α → α → Prop}

/-- A walk along the edges that ends where it started, after one edge or more. -/
def IsClosedWalk (edge : α → α → Prop) (walk : List α) : Prop :=
  ∃ start between, walk = start :: (between ++ [start]) ∧ walk.IsChain edge

/-- Each of two vertices is reachable from the other, if only because they are the same. -/
def MutuallyReachable (edge : α → α → Prop) (first second : α) : Prop :=
  ReflTransGen edge first second ∧ ReflTransGen edge second first

theorem mutuallyReachable_iff_onCommonCycle {first second : α} (hcyclic : TransGen edge first first) :
    MutuallyReachable edge first second ↔ OnCommonCycle edge first second := by
  constructor
  · rintro ⟨hforth, hback⟩
    exact ⟨hcyclic.trans_left hforth, TransGen.trans_right hback hcyclic⟩
  · rintro ⟨hforth, hback⟩
    exact ⟨hforth.to_reflTransGen, hback.to_reflTransGen⟩

namespace IsClosedWalk

variable {walk : List α}

theorem onCommonCycle (h : IsClosedWalk edge walk) {first second : α} (hfirst : first ∈ walk)
    (hsecond : second ∈ walk) : OnCommonCycle edge first second := by
  obtain ⟨start, between, rfl, hchain⟩ := h
  have hlater : (start :: (between ++ [start])).Pairwise (TransGen edge) :=
    (hchain.imp fun _ _ => TransGen.single).pairwise
  obtain ⟨hstart, hbetween⟩ := List.pairwise_cons.mp hlater
  have hclosed : TransGen edge start start := hstart start (by simp)
  have hcommon : ∀ vertex ∈ start :: (between ++ [start]), OnCommonCycle edge start vertex := by
    intro vertex hvertex
    rw [List.mem_cons, List.mem_append, List.mem_singleton] at hvertex
    rcases hvertex with rfl | hvertex | rfl
    · exact ⟨hclosed, hclosed⟩
    · have hend := (List.pairwise_append.mp hbetween).2.2 vertex hvertex start
        (List.mem_singleton_self _)
      exact ⟨hstart vertex (List.mem_append_left _ hvertex), hend⟩
    · exact ⟨hclosed, hclosed⟩
  exact (hcommon first hfirst).symm.trans (hcommon second hsecond)

end IsClosedWalk

/-- What is reachable by an edge or more is at the end of a walk. -/
theorem exists_isChain_of_transGen {first last : α} (h : TransGen edge first last) :
    ∃ between, (first :: (between ++ [last])).IsChain edge := by
  induction h using TransGen.head_induction_on with
  | single hedge => exact ⟨[], by simpa using hedge⟩
  | @head first next hedge _ ih =>
      obtain ⟨between, hchain⟩ := ih
      exact ⟨next :: between, List.isChain_cons_cons.mpr ⟨hedge, hchain⟩⟩

/-- A vertex on a cycle has a closed walk, within its class. -/
theorem exists_isClosedWalk {vertex : α} (h : TransGen edge vertex vertex) :
    ∃ walk, IsClosedWalk edge walk ∧ ∀ other ∈ walk, OnCommonCycle edge vertex other := by
  obtain ⟨between, hchain⟩ := exists_isChain_of_transGen h
  have hwalk : IsClosedWalk edge (vertex :: (between ++ [vertex])) := ⟨vertex, between, rfl, hchain⟩
  exact ⟨_, hwalk, fun _ hother => hwalk.onCommonCycle List.mem_cons_self hother⟩

namespace Digraph.IsCyclicPartition

variable {classes : List (List α)} {members : List α}

/-- A class is what is mutually reachable with one of its vertices, and it has a closed walk. -/
theorem exists_walk_of_mem (h : IsCyclicPartition edge classes) (hmembers : members ∈ classes) :
    (∃ vertex, ∀ other, other ∈ members ↔ MutuallyReachable edge vertex other) ∧
      ∃ walk, IsClosedWalk edge walk ∧ walk ⊆ members := by
  obtain ⟨vertex, hcyclic, hvertex⟩ := h.mem_iff members hmembers
  constructor
  · refine ⟨vertex, fun other => ?_⟩
    rw [hvertex, mutuallyReachable_iff_onCommonCycle hcyclic.1]
  · obtain ⟨walk, hwalk, hcommon⟩ := exists_isClosedWalk hcyclic.1
    exact ⟨walk, hwalk, fun other hother => (hvertex other).mpr (hcommon other hother)⟩

/-- A class of mutually reachable vertices that has a closed walk is one of the classes. -/
theorem exists_mem_iff_of_walk (h : IsCyclicPartition edge classes) {vertex : α}
    (hvertex : ∀ other, other ∈ members ↔ MutuallyReachable edge vertex other) {walk : List α}
    (hwalk : IsClosedWalk edge walk) (hsubset : walk ⊆ members) :
    ∃ found ∈ classes, ∀ other, other ∈ found ↔ other ∈ members := by
  obtain ⟨start, between, rfl, -⟩ := id hwalk
  have hstart := (hvertex start).mp (hsubset List.mem_cons_self)
  have hcyclic : OnCommonCycle edge start start :=
    hwalk.onCommonCycle List.mem_cons_self List.mem_cons_self
  -- the vertex is on a closed walk too, as it leads to this one and back
  have hcommon : OnCommonCycle edge start vertex :=
    (mutuallyReachable_iff_onCommonCycle hcyclic.1).mp ⟨hstart.2, hstart.1⟩
  obtain ⟨found, hfound, hmem⟩ := h.exists_mem start hcyclic
  obtain ⟨representative, -, hrepresentative⟩ := h.mem_iff found hfound
  refine ⟨found, hfound, fun other => ?_⟩
  rw [hvertex, mutuallyReachable_iff_onCommonCycle hcommon.symm.refl_left.1, hrepresentative]
  have hto : OnCommonCycle edge representative vertex :=
    ((hrepresentative start).mp hmem).trans hcommon
  exact ⟨hto.symm.trans, hto.trans⟩

/-- A closed walk stays within one class. -/
theorem exists_subset_of_walk (h : IsCyclicPartition edge classes) {walk : List α}
    (hwalk : IsClosedWalk edge walk) : ∃ members ∈ classes, walk ⊆ members := by
  obtain ⟨start, between, rfl, -⟩ := id hwalk
  obtain ⟨members, hmembers, hstart⟩ :=
    h.exists_mem start (hwalk.onCommonCycle List.mem_cons_self List.mem_cons_self)
  obtain ⟨vertex, -, hvertex⟩ := h.mem_iff members hmembers
  refine ⟨members, hmembers, fun other hother => (hvertex other).mpr ?_⟩
  exact ((hvertex start).mp hstart).trans (hwalk.onCommonCycle List.mem_cons_self hother)

/-- A class of one vertex is there because of an edge to itself. -/
theorem edge_of_singleton_mem (h : IsCyclicPartition edge classes) {vertex : α}
    (hmem : [vertex] ∈ classes) : edge vertex vertex := by
  have hcyclic := h.onCommonCycle_of_mem hmem (List.mem_singleton_self vertex)
    (List.mem_singleton_self vertex)
  obtain ⟨next, hedge, hback⟩ := TransGen.head'_iff.mp hcyclic.1
  have hnext : OnCommonCycle edge vertex next :=
    ⟨.single hedge, TransGen.trans_right hback hcyclic.1⟩
  obtain ⟨representative, -, hrepresentative⟩ := h.mem_iff [vertex] hmem
  have hmember : next ∈ [vertex] := (hrepresentative next).mpr
    (((hrepresentative vertex).mp (List.mem_singleton_self vertex)).trans hnext)
  rwa [List.mem_singleton.mp hmember] at hedge

end Digraph.IsCyclicPartition

end SceneAudit
