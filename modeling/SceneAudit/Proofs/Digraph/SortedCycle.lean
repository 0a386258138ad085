import SceneAudit.Proofs.Digraph.CyclicClass
import Mathlib.Data.List.Sort

/-!
# The cycles in ascending order

`Digraph.cycles` sorts every cyclic class and then the classes.  Since no vertex
is in two of them, the result is strictly ascending, and it depends on nothing
but the relation `OnCommonCycle`: `cycles_eq_of_onCommonCycle_iff` says that two
graphs with the same vertices on common cycles have the same list of cycles, in
whatever order their vertices and edges were added.
-/

namespace SceneAudit

/-! ## Ascending lists -/

section Ascending

variable {β : Type} [Ord β]

/-- Every item is smaller than those that follow. -/
def Ascending (items : List β) : Prop :=
  items.Pairwise fun first second => compare first second = .lt

variable [Std.TransOrd β]

theorem ascending_mergeSort [Std.LawfulEqOrd β] {items : List β} (hnodup : items.Nodup) :
    Ascending (items.mergeSort fun first second => (compare first second).isLE) := by
  have htrans : ∀ first second third : β, (compare first second).isLE →
      (compare second third).isLE → (compare first third).isLE := by
    intro first second third
    exact Std.TransCmp.isLE_trans
  have htotal : ∀ first second : β,
      ((compare first second).isLE || (compare second first).isLE) = true := by
    intro first second
    have hswap : compare second first = (compare first second).swap := Std.OrientedCmp.eq_swap
    rw [hswap]
    cases compare first second <;> rfl
  have hdistinct := (List.mergeSort_perm items
    (fun first second => (compare first second).isLE)).nodup_iff.mpr hnodup
  refine ((List.pairwise_mergeSort htrans htotal items).and hdistinct).imp fun {first second} h => ?_
  obtain ⟨hle, hne⟩ := h
  cases hcompare : compare first second with
  | lt => rfl
  | eq => exact absurd (Std.LawfulEqCmp.eq_of_compare hcompare) hne
  | gt => simp [hcompare] at hle

/-- Ascending lists with the same items are equal. -/
theorem Ascending.eq_of_mem_iff {first second : List β} (hfirst : Ascending first)
    (hsecond : Ascending second) (h : ∀ item, item ∈ first ↔ item ∈ second) : first = second := by
  have hirrefl : Std.Irrefl fun first second : β => compare first second = .lt :=
    ⟨fun item hlt => by simp [Std.ReflCmp.compare_self] at hlt⟩
  have hantisymm : Std.Antisymm fun first second : β => compare first second = .lt :=
    ⟨fun first second hlt hgt => by
      have hswap : compare first second = (compare second first).swap := Std.OrientedCmp.eq_swap
      rw [hlt, hgt] at hswap
      simp at hswap⟩
  exact List.Pairwise.eq_of_mem_iff hfirst hsecond h

end Ascending

namespace Digraph

variable {α : Type}

/-! ## Sorting the classes -/

section Partition

variable {edge : α → α → Prop} {classes : List (List α)}

/-- The order of the classes does not matter. -/
theorem IsCyclicPartition.perm {others : List (List α)} (h : IsCyclicPartition edge classes)
    (hperm : others.Perm classes) : IsCyclicPartition edge others where
  mem_iff := fun members hmembers => h.mem_iff members (hperm.mem_iff.mp hmembers)
  exists_mem := by
    intro vertex hcyclic
    obtain ⟨members, hmembers, hvertex⟩ := h.exists_mem vertex hcyclic
    exact ⟨members, hperm.mem_iff.mpr hmembers, hvertex⟩
  nodup := fun members hmembers => h.nodup members (hperm.mem_iff.mp hmembers)
  disjoint := (hperm.pairwise_iff List.disjoint_symm).mpr h.disjoint

/-- Nor does the order within them. -/
theorem IsCyclicPartition.map {sort : List α → List α} (h : IsCyclicPartition edge classes)
    (hsort : ∀ members, (sort members).Perm members) :
    IsCyclicPartition edge (classes.map sort) where
  mem_iff := by
    refine List.forall_mem_map.mpr fun members hmembers => ?_
    obtain ⟨vertex, hcyclic, hvertex⟩ := h.mem_iff members hmembers
    exact ⟨vertex, hcyclic, fun other => (hsort members).mem_iff.trans (hvertex other)⟩
  exists_mem := by
    intro vertex hcyclic
    obtain ⟨members, hmembers, hvertex⟩ := h.exists_mem vertex hcyclic
    exact ⟨sort members, List.mem_map_of_mem hmembers, (hsort members).mem_iff.mpr hvertex⟩
  nodup := List.forall_mem_map.mpr fun members hmembers =>
    (hsort members).nodup_iff.mpr (h.nodup members hmembers)
  disjoint := List.pairwise_map.mpr <| h.disjoint.imp fun hdisjoint other hfirst hsecond =>
    hdisjoint ((hsort _).mem_iff.mp hfirst) ((hsort _).mem_iff.mp hsecond)

/-- No class is empty, so no class occurs twice. -/
theorem IsCyclicPartition.nodup_classes (h : IsCyclicPartition edge classes) : classes.Nodup := by
  refine h.disjoint.imp_of_mem fun {first second} hfirst hsecond hdisjoint heq => ?_
  obtain ⟨vertex, hcyclic, hvertex⟩ := h.mem_iff first hfirst
  have hmem := (hvertex vertex).mpr hcyclic
  exact hdisjoint hmem (heq ▸ hmem)

end Partition

variable [Ord α]

/-- The lists are the cyclic classes in ascending order, and so is each of them. -/
structure IsCycleList (edge : α → α → Prop) (cycles : List (List α)) : Prop
    extends IsCyclicPartition edge cycles where
  ascending_members : ∀ members ∈ cycles, Ascending members
  ascending : Ascending cycles

/-- The list of cycles determines which vertices are on common cycles. -/
theorem IsCycleList.onCommonCycle_iff {edge : α → α → Prop} {cycles : List (List α)}
    (h : IsCycleList edge cycles) {first second : α} :
    OnCommonCycle edge first second ↔ ∃ members ∈ cycles, first ∈ members ∧ second ∈ members := by
  constructor
  · intro hcommon
    obtain ⟨members, hmembers, hfirst⟩ := h.exists_mem first hcommon.refl_left
    obtain ⟨vertex, -, hvertex⟩ := h.mem_iff members hmembers
    refine ⟨members, hmembers, hfirst, ?_⟩
    exact (hvertex second).mpr (((hvertex first).mp hfirst).trans hcommon)
  · rintro ⟨members, hmembers, hfirst, hsecond⟩
    exact h.onCommonCycle_of_mem hmembers hfirst hsecond

variable [Std.TransOrd α]

/-- Vertices on common cycles determine the list of cycles. -/
theorem IsCycleList.eq_of_onCommonCycle_iff {edge edge' : α → α → Prop}
    {cycles cycles' : List (List α)} (h : IsCycleList edge cycles) (h' : IsCycleList edge' cycles')
    (hsame : ∀ first second, OnCommonCycle edge first second ↔ OnCommonCycle edge' first second) :
    cycles = cycles' := by
  have hsubset : ∀ {edge edge' : α → α → Prop} {cycles cycles' : List (List α)},
      IsCycleList edge cycles → IsCycleList edge' cycles' →
      (∀ first second, OnCommonCycle edge first second ↔ OnCommonCycle edge' first second) →
      ∀ members ∈ cycles, members ∈ cycles' := by
    intro edge edge' cycles cycles' h h' hsame members hmembers
    obtain ⟨vertex, hcyclic, hvertex⟩ := h.mem_iff members hmembers
    obtain ⟨members', hmembers', hvertex'⟩ := h'.exists_mem vertex ((hsame _ _).mp hcyclic)
    obtain ⟨start, -, hstart⟩ := h'.mem_iff members' hmembers'
    -- the two lists have a vertex in common and so are the same class
    have hequal : members = members' := by
      refine (h.ascending_members members hmembers).eq_of_mem_iff
        (h'.ascending_members members' hmembers') fun other => ?_
      have hto := (hstart vertex).mp hvertex'
      rw [hvertex, hsame, hstart]
      exact ⟨hto.trans, hto.symm.trans⟩
    rwa [hequal]
  refine h.ascending.eq_of_mem_iff h'.ascending fun members => ⟨?_, ?_⟩
  · exact hsubset h h' hsame members
  · exact hsubset h' h (fun first second => (hsame first second).symm) members

/-- The classes in ascending order, each with its members in ascending order. -/
def inOrder (classes : List (List α)) : List (List α) :=
  (classes.map fun members => members.mergeSort fun first second => (compare first second).isLE).mergeSort
    fun first second => (compare first second).isLE

variable [Std.LawfulEqOrd α]

/-- Sorting turns the cyclic classes into the list of cycles. -/
theorem IsCyclicPartition.isCycleList {edge : α → α → Prop} {classes : List (List α)}
    (h : IsCyclicPartition edge classes) : IsCycleList edge (inOrder classes) := by
  have hsorted := h.map fun members =>
    members.mergeSort_perm fun first second => (compare first second).isLE
  have hcycles : IsCyclicPartition edge (inOrder classes) := hsorted.perm (List.mergeSort_perm _ _)
  refine { hcycles with ascending_members := ?_, ascending := ?_ }
  · intro members hmembers
    rw [inOrder, List.mem_mergeSort] at hmembers
    obtain ⟨cyclic, hmem, rfl⟩ := List.mem_map.mp hmembers
    exact ascending_mergeSort (h.nodup cyclic hmem)
  · exact ascending_mergeSort hsorted.nodup_classes

variable [BEq α] [Hashable α] [LawfulBEq α]

/-- **The cycles of a graph** are its cyclic classes in ascending order. -/
theorem isCycleList_cycles {graph : Digraph α} (hclosed : graph.Closed) :
    IsCycleList graph.Edge graph.cycles :=
  (isCyclicPartition_cyclicClasses hclosed).isCycleList

end Digraph

end SceneAudit
