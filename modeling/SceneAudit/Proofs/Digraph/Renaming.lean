import SceneAudit.Proofs.Digraph.SortedCycle

/-!
# Cycles under a renaming of the vertices

If the edges of one graph are those of another with the vertices renamed, and no two
vertices get the same name, then so are the cyclic classes (`IsCyclicPartition.renamed`).
Only their order is another one, as it goes by the names: `IsCycleList.renamed` sorts
them anew.
-/

namespace SceneAudit

open Relation

section Relation

variable {α β : Type} {edge : α → α → Prop} {rename : α → β}

theorem transGen_map_iff (hinjective : Function.Injective rename) {first second : α} :
    TransGen (Relation.Map edge rename rename) (rename first) (rename second) ↔
      TransGen edge first second := by
  constructor
  · -- every vertex on the way is the new name of one
    intro hpath
    have hwalk : ∀ {target : β}, TransGen (Relation.Map edge rename rename) (rename first) target →
        ∃ vertex, rename vertex = target ∧ TransGen edge first vertex := by
      intro target hpath
      induction hpath with
      | single hedge =>
          obtain ⟨source, vertex, hedge, hsource, rfl⟩ := hedge
          exact ⟨vertex, rfl, .single (hinjective hsource ▸ hedge)⟩
      | tail _ hedge ih =>
          obtain ⟨middle, rfl, hpath⟩ := ih
          obtain ⟨source, vertex, hedge, hsource, rfl⟩ := hedge
          exact ⟨vertex, rfl, hpath.tail (hinjective hsource ▸ hedge)⟩
    obtain ⟨vertex, hvertex, hpath⟩ := hwalk hpath
    exact hinjective hvertex ▸ hpath
  · exact TransGen.lift rename (fun source target hedge => ⟨source, target, hedge, rfl, rfl⟩) _ _

theorem onCommonCycle_map_iff (hinjective : Function.Injective rename) {first second : α} :
    OnCommonCycle (Relation.Map edge rename rename) (rename first) (rename second) ↔
      OnCommonCycle edge first second :=
  and_congr (transGen_map_iff hinjective) (transGen_map_iff hinjective)

/-- Only vertices that are new names are on cycles. -/
theorem exists_of_onCommonCycle_map {first second : β}
    (h : OnCommonCycle (Relation.Map edge rename rename) first second) :
    ∃ vertex other, rename vertex = first ∧ rename other = second := by
  obtain ⟨_, ⟨vertex, _, _, hvertex, _⟩, _⟩ := TransGen.head'_iff.mp h.1
  obtain ⟨_, ⟨other, _, _, hother, _⟩, _⟩ := TransGen.head'_iff.mp h.2
  exact ⟨vertex, other, hvertex, hother⟩

end Relation

namespace Digraph

variable {α : Type} {edge : α → α → Prop} {rename : α → α} {classes : List (List α)}

theorem IsCyclicPartition.renamed (h : IsCyclicPartition edge classes)
    (hinjective : Function.Injective rename) :
    IsCyclicPartition (Relation.Map edge rename rename) (classes.map (List.map rename)) where
  mem_iff := by
    refine List.forall_mem_map.mpr fun members hmembers => ?_
    obtain ⟨vertex, hcyclic, hvertex⟩ := h.mem_iff members hmembers
    refine ⟨rename vertex, (onCommonCycle_map_iff hinjective).mpr hcyclic, fun other => ?_⟩
    constructor
    · intro hother
      obtain ⟨member, hmember, rfl⟩ := List.mem_map.mp hother
      exact (onCommonCycle_map_iff hinjective).mpr ((hvertex member).mp hmember)
    · intro hcommon
      obtain ⟨_, member, _, rfl⟩ := exists_of_onCommonCycle_map hcommon
      exact List.mem_map_of_mem ((hvertex member).mpr ((onCommonCycle_map_iff hinjective).mp hcommon))
  exists_mem := by
    intro vertex hcyclic
    obtain ⟨source, _, rfl, _⟩ := exists_of_onCommonCycle_map hcyclic
    obtain ⟨members, hmembers, hsource⟩ :=
      h.exists_mem source ((onCommonCycle_map_iff hinjective).mp hcyclic)
    exact ⟨members.map rename, List.mem_map_of_mem hmembers, List.mem_map_of_mem hsource⟩
  nodup := List.forall_mem_map.mpr fun members hmembers => (h.nodup members hmembers).map hinjective
  disjoint := List.pairwise_map.mpr <| h.disjoint.imp fun hdisjoint =>
    (List.disjoint_map hinjective hdisjoint)

/-- The cycles are the old ones renamed and put in order again. -/
theorem IsCycleList.renamed [Ord α] [Std.TransOrd α] [Std.LawfulEqOrd α] (h : IsCycleList edge classes)
    (hinjective : Function.Injective rename) :
    IsCycleList (Relation.Map edge rename rename) (inOrder (classes.map (List.map rename))) :=
  (h.toIsCyclicPartition.renamed hinjective).isCycleList

end Digraph

end SceneAudit
