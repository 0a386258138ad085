import SceneAudit.Proofs.Registry.Interleaving

/-!
# Counting what a registry holds

A frozen registry counts its scripts and their usages.  Both counts say how many usages there
are of which script and nothing of the usages themselves, so registries with as many usages of
each script have equal counts (`counts_eq`).
-/

namespace SceneAudit

theorem values_eq_map_toList {α β : Type} [BEq α] [Hashable α] (map : Std.HashMap α β) :
    map.values = map.toList.map Prod.snd := by
  show map.inner.inner.values = (Std.DHashMap.Raw.Const.toList map.inner.inner).map Prod.snd
  rw [Std.DHashMap.Internal.Raw.values_eq_values_toListModel, Std.Internal.List.values_eq_map,
    Std.DHashMap.Internal.Raw.Const.toList_eq_toListModel_map, List.map_map]
  rfl

namespace FrozenRegistry

/-- How many usages each script has. -/
def lengths (registry : FrozenRegistry) : Std.HashMap Guid Nat :=
  registry.byGuid.map fun _ usages => usages.length

theorem size_lengths (registry : FrozenRegistry) : registry.lengths.size = registry.guidCount :=
  Std.HashMap.size_map

/-- The sum of all counts does not depend on their order. -/
theorem foldl_add_perm {entries others : List (Guid × Nat)} (h : entries.Perm others) :
    entries.foldl (fun count entry => count + entry.2) 0 =
      others.foldl (fun count entry => count + entry.2) 0 := by
  apply h.foldl_eq'
  intro entry _ other _ count
  omega

theorem foldl_lengths (registry : FrozenRegistry) :
    registry.lengths.toList.foldl (fun count entry => count + entry.2) 0 = registry.usageCount := by
  rw [lengths, foldl_add_perm Std.HashMap.toList_map, usageCount, values_eq_map_toList,
    List.foldl_map, List.foldl_map]

theorem getElem?_lengths (registry : FrozenRegistry) (guid : Guid) :
    registry.lengths[guid]? =
      if registry.contains guid then some (registry.usages guid).length else none := by
  rw [lengths, Std.HashMap.getElem?_map]
  by_cases hmem : guid ∈ registry.byGuid
  · have hcontains : registry.contains guid = true := hmem
    rw [if_pos hcontains, Std.HashMap.getElem?_eq_some_getD hmem]
    rfl
  · have hcontains : ¬ registry.contains guid = true := hmem
    rw [if_neg hcontains, Std.HashMap.getElem?_eq_none hmem]
    rfl

variable {first second : FrozenRegistry}

/-- Registries with as many usages of each script have equal counts. -/
theorem counts_eq (hcontains : ∀ guid, first.contains guid = second.contains guid)
    (husages : ∀ guid, (first.usages guid).length = (second.usages guid).length) :
    first.guidCount = second.guidCount ∧ first.usageCount = second.usageCount := by
  have hequiv : first.lengths.Equiv second.lengths := by
    apply Std.HashMap.Equiv.of_forall_getElem?_eq
    intro guid
    rw [getElem?_lengths, getElem?_lengths, hcontains, husages]
  constructor
  · rw [← size_lengths, ← size_lengths, hequiv.size_eq]
  · rw [← foldl_lengths, ← foldl_lengths, foldl_add_perm hequiv.toList_perm]

end FrozenRegistry

end SceneAudit
