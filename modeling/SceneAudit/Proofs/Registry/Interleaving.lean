import SceneAudit.Proofs.Hierarchy.Links
import SceneAudit.Proofs.Path.Order
import SceneAudit.Proofs.Registry

/-!
# Recording in any order

Scenes are read side by side, so their script components reach the registry in an
order that differs from run to run; all that is certain is that those of one scene
come one after the other (`Interleaves`).  The frozen registry is the same for all such
orders (`freeze_agrees`).

* Two orders have the same usages, so every count agrees.
* Usages that are equal in order belong to one scene, as no two scenes have equal
  paths; among themselves they were recorded as they stand in that scene
  (`Interleaves.eq_flatten`), and a stable sort keeps them so.
-/

namespace SceneAudit

/-! ## Interleavings -/

/-- Takes the heads of the queues one after the other, in any order, until all are empty. -/
inductive Interleaves {α : Type} : List (List α) → List α → Prop where
  | done {queues : List (List α)} (hempty : ∀ queue ∈ queues, queue = []) : Interleaves queues []
  | take (before after : List (List α)) {a : α} {queue rest : List α}
      (hrest : Interleaves (before ++ queue :: after) rest) :
      Interleaves (before ++ (a :: queue) :: after) (a :: rest)

namespace Interleaves

variable {α : Type} {queues : List (List α)} {taken : List α}

theorem perm_flatten (h : Interleaves queues taken) : taken.Perm queues.flatten := by
  induction h with
  | done hempty => rw [List.flatten_eq_nil_iff.mpr hempty]
  | @take before after a queue rest _ ih =>
      have hmoved : (a :: (before ++ queue :: after).flatten).Perm
          (before ++ (a :: queue) :: after).flatten := by
        simp only [List.flatten_append, List.flatten_cons, List.cons_append]
        exact List.perm_middle.symm
      exact (ih.cons a).trans hmoved

theorem filter (h : Interleaves queues taken) (p : α → Bool) :
    Interleaves (queues.map (List.filter p)) (taken.filter p) := by
  induction h with
  | done hempty =>
      refine .done ?_
      intro queue hqueue
      obtain ⟨full, hfull, rfl⟩ := List.mem_map.mp hqueue
      rw [hempty full hfull, List.filter_nil]
  | @take before after a queue rest _ ih =>
      rw [List.map_append, List.map_cons] at ih ⊢
      by_cases ha : p a = true
      · rw [List.filter_cons_of_pos ha, List.filter_cons_of_pos ha]
        exact .take _ _ ih
      · rw [List.filter_cons_of_neg ha, List.filter_cons_of_neg ha]
        exact ih

/-- Where no two queues hold anything, there is one order only. -/
theorem eq_flatten (h : Interleaves queues taken)
    (hsingle : queues.Pairwise fun first second => first = [] ∨ second = []) :
    taken = queues.flatten := by
  induction h with
  | done hempty => rw [List.flatten_eq_nil_iff.mpr hempty]
  | @take before after a queue rest _ ih =>
      rw [List.pairwise_append] at hsingle
      obtain ⟨hbefore, hafter, hacross⟩ := hsingle
      have hbeforeEmpty : ∀ other ∈ before, other = [] := by
        intro other hother
        exact (hacross other hother _ List.mem_cons_self).resolve_right (List.cons_ne_nil _ _)
      have hafterEmpty : ∀ other ∈ after, other = [] := by
        intro other hother
        exact ((List.pairwise_cons.mp hafter).1 other hother).resolve_left (List.cons_ne_nil _ _)
      have hrest : rest = (before ++ queue :: after).flatten := by
        apply ih
        refine List.pairwise_append.mpr ⟨hbefore, List.pairwise_cons.mpr ⟨?_, hafter.of_cons⟩, ?_⟩
        · intro other hother
          exact .inr (hafterEmpty other hother)
        · intro other hother _ _
          exact .inl (hbeforeEmpty other hother)
      have hfront : before.flatten = [] := List.flatten_eq_nil_iff.mpr hbeforeEmpty
      simp only [hrest, List.flatten_append, List.flatten_cons, hfront, List.nil_append,
        List.cons_append]

end Interleaves

/-! ## What has been recorded -/

namespace Registry

/-- The registry with some usages recorded one after the other. -/
def recordAll (registry : Registry) (usages : List Usage) : Registry :=
  usages.foldl (fun registry usage => (registry.record usage.scene usage.script).1) registry

theorem extend_eq_recordAll (registry : Registry) (scene : Path) (scripts : List Script) :
    (registry.extend scene scripts).1 = registry.recordAll (scripts.map (Usage.mk scene)) := by
  unfold extend recordAll
  generalize 0 = count
  induction scripts generalizing registry count with
  | nil => rfl
  | cons script scripts ih => exact ih _ _

/-- The usages of one script among some. -/
def usagesOf (guid : Guid) (usages : List Usage) : List Usage :=
  usages.filter fun usage => usage.script.Runs guid

theorem contains_recordAll (registry : Registry) (usages : List Usage) (guid : Guid) :
    (registry.recordAll usages).Contains guid ↔
      usagesOf guid usages ≠ [] ∨ registry.Contains guid := by
  unfold recordAll
  induction usages generalizing registry with
  | nil => simp [usagesOf]
  | cons usage usages ih =>
      rw [List.foldl_cons, ih, contains_record, usagesOf, usagesOf]
      by_cases hruns : usage.script.Runs guid <;> simp [hruns]

theorem getD_record (registry : Registry) (usage : Usage) (guid : Guid) :
    (registry.record usage.scene usage.script).1.byGuid.getD guid [] =
      (usagesOf guid [usage]).reverse ++ registry.byGuid.getD guid [] := by
  unfold record usagesOf Script.Runs
  cases hguid : usage.script.guid with
  | unresolved cause => simp [hguid]
  | resolved own =>
      rw [Std.HashMap.getD_insert]
      by_cases heq : own = guid
      · subst heq
        simp [hguid]
      · simp [hguid, heq]

theorem getD_recordAll (registry : Registry) (usages : List Usage) (guid : Guid) :
    (registry.recordAll usages).byGuid.getD guid [] =
      (usagesOf guid usages).reverse ++ registry.byGuid.getD guid [] := by
  unfold recordAll
  induction usages generalizing registry with
  | nil => rfl
  | cons usage usages ih =>
      rw [List.foldl_cons, ih, getD_record, ← List.append_assoc, ← List.reverse_append]
      rw [usagesOf, usagesOf, usagesOf, ← List.filter_append, List.singleton_append]

theorem unresolved_recordAll (registry : Registry) (usages : List Usage) :
    (registry.recordAll usages).unresolved =
      registry.unresolved + usages.countP fun usage => usage.script.guid.target?.isNone := by
  unfold recordAll
  induction usages generalizing registry with
  | nil => rfl
  | cons usage usages ih =>
      rw [List.foldl_cons, ih]
      unfold record
      cases hguid : usage.script.guid with
      | unresolved cause => simp [hguid, Reference.target?]; omega
      | resolved own => simp [hguid, Reference.target?]

theorem usages_freeze (registry : Registry) (guid : Guid) :
    registry.freeze.usages guid =
      (registry.byGuid.getD guid []).reverse.mergeSort fun a b => (a.compare b).isLE := by
  unfold FrozenRegistry.usages freeze
  rw [Std.HashMap.getD_map, Std.HashMap.getD_eq_getD_getElem?]
  cases registry.byGuid[guid]? with
  | none => simp
  | some usages => rfl

/-- The usages of a script in the frozen registry. -/
theorem usages_freeze_recordAll (usages : List Usage) (guid : Guid) :
    (empty.recordAll usages).freeze.usages guid =
      (usagesOf guid usages).mergeSort fun a b => (a.compare b).isLE := by
  rw [usages_freeze, getD_recordAll, List.reverse_append, List.reverse_reverse]
  simp [empty]

end Registry

/-! ## Registries that give the same answers -/

/-- Two frozen registries give the same answers. -/
structure FrozenRegistry.Agrees (first second : FrozenRegistry) : Prop where
  contains : ∀ guid, first.contains guid = second.contains guid
  usages : ∀ guid, first.usages guid = second.usages guid
  guidCount : first.guidCount = second.guidCount
  usageCount : first.usageCount = second.usageCount
  unresolvedCount : first.unresolvedCount = second.unresolvedCount

namespace FrozenRegistry

variable {first second : FrozenRegistry}

theorem equiv_byGuid (hcontains : ∀ guid, first.contains guid = second.contains guid)
    (husages : ∀ guid, first.usages guid = second.usages guid) :
    first.byGuid.Equiv second.byGuid := by
  apply Std.HashMap.Equiv.of_forall_getElem?_eq
  intro guid
  by_cases hmem : guid ∈ first.byGuid
  · have hmem' : guid ∈ second.byGuid := (hcontains guid).symm.trans hmem
    calc first.byGuid[guid]?
        _ = some (first.usages guid) := Std.HashMap.getElem?_eq_some_getD hmem
        _ = some (second.usages guid) := congrArg some (husages guid)
        _ = second.byGuid[guid]? := (Std.HashMap.getElem?_eq_some_getD hmem').symm
  · have hmem' : guid ∉ second.byGuid := by
      intro hsecond
      exact hmem ((hcontains guid).trans hsecond)
    rw [Std.HashMap.getElem?_eq_none hmem, Std.HashMap.getElem?_eq_none hmem']

theorem perm_values (h : first.byGuid.Equiv second.byGuid) :
    first.byGuid.values.Perm second.byGuid.values := by
  show first.byGuid.inner.inner.values.Perm second.byGuid.inner.inner.values
  rw [Std.DHashMap.Internal.Raw.values_eq_values_toListModel,
    Std.DHashMap.Internal.Raw.values_eq_values_toListModel, Std.Internal.List.values_eq_map,
    Std.Internal.List.values_eq_map]
  exact h.inner.inner.impl.map _

theorem usageCount_eq (h : first.byGuid.Equiv second.byGuid) :
    first.usageCount = second.usageCount := by
  apply (perm_values h).foldl_eq'
  intro usages _ others _ count
  omega

end FrozenRegistry

/-! ## The scenes of a project -/

instance : Std.TransCmp Usage.compare :=
  inferInstanceAs (Std.TransCmp
    (compareLex (compareOn Usage.scene) (compareOn fun usage => usage.script.fileId)))

theorem compare_scene_of_tied {a b : Usage} (h : a.compare b = .eq) :
    compare a.scene b.scene = .eq :=
  (Ordering.then_eq_eq.mp h).1

/-- The usages of each scene, in the order in which the scene offers them. -/
def offered (scenes : List (Path × List Script)) : List (List Usage) :=
  scenes.map fun scene => scene.2.map (Usage.mk scene.1)

/-- No two scenes have equal paths. -/
def ApartScenes (scenes : List (Path × List Script)) : Prop :=
  scenes.Pairwise fun first second => compare first.1 second.1 ≠ .eq

section

variable {scenes : List (Path × List Script)} {run other : List Usage}

/-- Only one scene offers usages that are equal in order to a given one. -/
theorem pairwise_offered (hscenes : ApartScenes scenes) (usage : Usage) {p : Usage → Bool}
    (hp : ∀ found, p found = true → usage.compare found = .eq) :
    ((offered scenes).map (List.filter p)).Pairwise fun first second => first = [] ∨ second = [] := by
  rw [offered, List.map_map, List.pairwise_map]
  refine hscenes.imp ?_
  intro first second hne
  by_contra hboth
  obtain ⟨hfirst, hsecond⟩ := not_or.mp hboth
  -- what both scenes hold is equal in order, so their paths would be
  obtain ⟨a, ha⟩ := List.exists_mem_of_ne_nil _ hfirst
  obtain ⟨b, hb⟩ := List.exists_mem_of_ne_nil _ hsecond
  obtain ⟨hmema, hpa⟩ := List.mem_filter.mp ha
  obtain ⟨hmemb, hpb⟩ := List.mem_filter.mp hb
  obtain ⟨_, -, hofFirst⟩ := List.mem_map.mp hmema
  obtain ⟨_, -, hofSecond⟩ := List.mem_map.mp hmemb
  have hleft : compare usage.scene a.scene = .eq := compare_scene_of_tied (hp a hpa)
  have hright : compare usage.scene b.scene = .eq := compare_scene_of_tied (hp b hpb)
  rw [← hofFirst] at hleft
  rw [← hofSecond] at hright
  apply hne
  calc compare first.1 second.1
      _ = compare usage.scene second.1 := (Std.TransCmp.congr_left hleft).symm
      _ = .eq := hright

theorem tiedWith_usagesOf_eq (hscenes : ApartScenes scenes) (hrun : Interleaves (offered scenes) run)
    (hother : Interleaves (offered scenes) other) (guid : Guid) (usage : Usage) :
    tiedWith Usage.compare usage (Registry.usagesOf guid run) =
      tiedWith Usage.compare usage (Registry.usagesOf guid other) := by
  unfold tiedWith Registry.usagesOf
  rw [List.filter_filter, List.filter_filter]
  have hsingle := pairwise_offered hscenes usage
    (p := fun found => usage.compare found == .eq && decide (found.script.Runs guid))
    (by simp +contextual)
  rw [(hrun.filter _).eq_flatten hsingle, (hother.filter _).eq_flatten hsingle]

theorem usagesOf_eq_nil_iff (h : run.Perm other) (guid : Guid) :
    Registry.usagesOf guid run = [] ↔ Registry.usagesOf guid other = [] := by
  have hperm : (Registry.usagesOf guid run).Perm (Registry.usagesOf guid other) := h.filter _
  rw [← List.length_eq_zero_iff, ← List.length_eq_zero_iff, hperm.length_eq]

/-- **The order of recording does not show.**  However the usages of the scenes come
in, the frozen registry gives the same answers. -/
theorem freeze_agrees (hscenes : ApartScenes scenes) (hrun : Interleaves (offered scenes) run)
    (hother : Interleaves (offered scenes) other) :
    (Registry.empty.recordAll run).freeze.Agrees (Registry.empty.recordAll other).freeze := by
  have hperm : run.Perm other := hrun.perm_flatten.trans hother.perm_flatten.symm
  have hcontains : ∀ guid, (Registry.empty.recordAll run).freeze.contains guid =
      (Registry.empty.recordAll other).freeze.contains guid := by
    intro guid
    rw [Bool.eq_iff_iff, Registry.contains_freeze, Registry.contains_freeze,
      Registry.contains_recordAll, Registry.contains_recordAll, ne_eq, ne_eq,
      usagesOf_eq_nil_iff hperm guid]
  have husages : ∀ guid, (Registry.empty.recordAll run).freeze.usages guid =
      (Registry.empty.recordAll other).freeze.usages guid := by
    intro guid
    rw [Registry.usages_freeze, Registry.usages_freeze, Registry.getD_recordAll,
      Registry.getD_recordAll]
    simp only [Registry.empty, Std.HashMap.getD_empty, List.append_nil, List.reverse_reverse]
    exact mergeSort_eq_of_tiedWith_eq (tiedWith_usagesOf_eq hscenes hrun hother guid)
  have hequiv := FrozenRegistry.equiv_byGuid hcontains husages
  refine ⟨hcontains, husages, hequiv.size_eq, FrozenRegistry.usageCount_eq hequiv, ?_⟩
  show (Registry.empty.recordAll run).unresolved = (Registry.empty.recordAll other).unresolved
  rw [Registry.unresolved_recordAll, Registry.unresolved_recordAll, hperm.countP_eq]

end

/-! ## Two scenes with one script -/

namespace HallAndAttic

/-- The hall has two components that are equal in order. -/
def scenes : List (Path × List Script) :=
  [(⟨"Scenes/Hall.unity"⟩,
      [⟨⟨"30"⟩, .resolved ⟨"11500000"⟩, .resolved ⟨"0fe9"⟩, .resolved ⟨"1"⟩⟩,
        ⟨⟨"30"⟩, .resolved ⟨"11500000"⟩, .resolved ⟨"0fe9"⟩, .resolved ⟨"2"⟩⟩,
        ⟨⟨"31"⟩, .unresolved .absent, .unresolved .absent, .resolved ⟨"2"⟩⟩]),
    (⟨"Scenes//Attic.unity"⟩,
      [⟨⟨"30"⟩, .resolved ⟨"11500000"⟩, .resolved ⟨"0fe9"⟩, .resolved ⟨"7"⟩⟩])]

def hall : List Usage := (offered scenes)[0]

def attic : List Usage := (offered scenes)[1]

theorem interleaves_atticFirst : Interleaves (offered scenes) (attic ++ hall) := by
  apply Interleaves.take [hall] []
  apply Interleaves.take [] [[]]
  apply Interleaves.take [] [[]]
  apply Interleaves.take [] [[]]
  exact .done (by decide)

theorem interleaves_atticBetween :
    Interleaves (offered scenes) (hall.take 1 ++ attic ++ hall.drop 1) := by
  apply Interleaves.take [] [attic]
  apply Interleaves.take [hall.drop 1] []
  apply Interleaves.take [] [[]]
  apply Interleaves.take [] [[]]
  exact .done (by decide)

theorem agrees :
    ApartScenes scenes ∧ Interleaves (offered scenes) (attic ++ hall) ∧
      Interleaves (offered scenes) (hall.take 1 ++ attic ++ hall.drop 1) ∧
        (Registry.empty.recordAll (attic ++ hall)).freeze.Agrees
          (Registry.empty.recordAll (hall.take 1 ++ attic ++ hall.drop 1)).freeze := by
  have hscenes : ApartScenes scenes := by
    unfold ApartScenes
    decide
  exact ⟨hscenes, interleaves_atticFirst, interleaves_atticBetween,
    freeze_agrees hscenes interleaves_atticFirst interleaves_atticBetween⟩

end HallAndAttic

end SceneAudit
