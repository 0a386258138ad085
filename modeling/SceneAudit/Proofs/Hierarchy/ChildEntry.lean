import SceneAudit.Proofs.Hierarchy.SpanningForest
import Mathlib.Data.List.Count

/-!
# What becomes of the child entries

Every entry in the list of children of a printed transform makes one visit, and
the visit either prints the child below that transform or finds it printed
already.  So for a parent and a child that is on no cycle,

```text
revisits reported + (1 if the child is printed below the parent) = entries of the child
```

`render_accountsForEntries` states this law, and that no other revisit is
reported.  It is a balance of the whole walk: `Walk.Grows.balance` counts what a
derivation has done with the visits that it was given and with the entries of
the transforms that it printed.
-/

namespace SceneAudit

/-! ## Places and entries -/

namespace HierarchyLine

/-- The transforms that the lines show, each with the one it stands under. -/
def places (lines : List HierarchyLine) : List (Option FileId × FileId) :=
  (placements [] lines).map fun place => (place.1.map HierarchyLine.transform, place.2.transform)

end HierarchyLine

/-- The line of the child stands under the line of the parent. -/
def PrintedBelow (lines : List HierarchyLine) (parent child : FileId) : Prop :=
  (some parent, child) ∈ HierarchyLine.places lines

instance (lines : List HierarchyLine) (parent child : FileId) :
    Decidable (PrintedBelow lines parent child) :=
  inferInstanceAs (Decidable (_ ∈ _))

/-- The child entry that a visit follows; a visit to a root follows none. -/
def Visit.entry (visit : Visit) : Option FileId × FileId :=
  (visit.parent, visit.transform)

/-- The entries of some transforms. -/
def entriesOf (children : Transform → List FileId) (nodes : List Transform) :
    List (Option FileId × FileId) :=
  nodes.flatMap fun node => (children node).map fun child => (some node.fileId, child)

namespace Forest

/-- The transforms of the forest, each with the one it stands under, where the
tops stand under `above`. -/
def places (above : Option FileId) : Forest → List (Option FileId × FileId)
  | empty => []
  | tree top below rest =>
      (above, top.fileId) :: (below.places (some top.fileId) ++ rest.places above)

theorem map_snd_places (forest : Forest) (above : Option FileId) :
    (forest.places above).map Prod.snd = forest.ids := by
  induction forest generalizing above with
  | empty => rfl
  | tree top below rest ihbelow ihrest => simp [places, ihbelow, ihrest]

theorem map_placements (nameOf : Transform → Option String) (forest : Forest)
    (above : Option HierarchyLine) (depth : Nat) :
    (forest.placements nameOf above depth).map
        (fun place => (place.1.map HierarchyLine.transform, place.2.transform)) =
      forest.places (above.map HierarchyLine.transform) := by
  induction forest generalizing above depth with
  | empty => rfl
  | tree top below rest ihbelow ihrest => simp [placements, places, ihbelow, ihrest]

/-- The lines of a forest show every transform in its place. -/
theorem places_lines (nameOf : Transform → Option String) (forest : Forest) :
    HierarchyLine.places (forest.lines nameOf 0) = forest.places none := by
  have habove : ([].find? fun other : HierarchyLine => other.depth + 1 == 0) = none := rfl
  rw [HierarchyLine.places, placements_lines, habove, map_placements]
  rfl

theorem nodup_places {forest : Forest} (hnodup : forest.ids.Nodup) (above : Option FileId) :
    (forest.places above).Nodup := by
  rw [← map_snd_places forest above] at hnodup
  exact List.Nodup.of_map Prod.snd hnodup

end Forest

/-! ## Counting entries -/

section Entries

variable {children : Transform → List FileId} {nodes : List Transform} {child : FileId}

theorem entriesOf_cons (node : Transform) (nodes : List Transform) :
    entriesOf children (node :: nodes) =
      (children node).map (fun child => (some node.fileId, child)) ++ entriesOf children nodes :=
  List.flatMap_cons

theorem entriesOf_append (front back : List Transform) :
    entriesOf children (front ++ back) = entriesOf children front ++ entriesOf children back :=
  List.flatMap_append

theorem count_entries_of_one (node : Transform) (child : FileId) :
    ((children node).map fun child => (some node.fileId, child)).count (some node.fileId, child) =
      (children node).count child :=
  List.count_map_of_injective _ _ (fun _ _ h => (Prod.mk.inj h).2) child

theorem count_entriesOf_of_not_mem {parent : FileId} (hparent : parent ∉ nodes.map Transform.fileId)
    (child : FileId) : (entriesOf children nodes).count (some parent, child) = 0 := by
  rw [List.count_eq_zero, entriesOf]
  intro hmem
  obtain ⟨node, hnode, hentry⟩ := List.mem_flatMap.mp hmem
  obtain ⟨_, -, heq⟩ := List.mem_map.mp hentry
  have hid : node.fileId = parent := Option.some.inj (Prod.mk.inj heq).1
  exact hparent (hid ▸ List.mem_map_of_mem hnode)

/-- Of transforms with different file identifiers, each has its own entries only. -/
theorem count_entriesOf_of_mem (hnodup : (nodes.map Transform.fileId).Nodup) {node : Transform}
    (hnode : node ∈ nodes) (child : FileId) :
    (entriesOf children nodes).count (some node.fileId, child) = (children node).count child := by
  induction nodes with
  | nil => simp at hnode
  | cons head nodes ih =>
      rw [List.map_cons, List.nodup_cons] at hnodup
      rw [entriesOf_cons, List.count_append]
      rcases List.mem_cons.mp hnode with rfl | hnode
      · rw [count_entries_of_one, count_entriesOf_of_not_mem hnodup.1, Nat.add_zero]
      · have hhead : head.fileId ≠ node.fileId := fun heq =>
          hnodup.1 (heq ▸ List.mem_map_of_mem hnode)
        have hnone : ((children head).map fun child => (some head.fileId, child)).count
            (some node.fileId, child) = 0 := by
          rw [List.count_eq_zero]
          simp [hhead]
        rw [hnone, Nat.zero_add, ih hnodup.2 hnode]

end Entries

/-! ## The balance of a walk -/

namespace Walk

variable {scenery : Scenery}

theorem Scenery.map_entry_visitsBelow (transform : Transform) (depth : Nat) :
    (scenery.visitsBelow transform depth).map Visit.entry =
      (scenery.childIds transform).map fun child => (some transform.fileId, child) := by
  simp [visitsBelow_eq, Function.comp_def, Visit.entry]

theorem Scenery.parent_of_mem_visitsBelow {transform : Transform} {depth : Nat} {visit : Visit}
    (h : visit ∈ scenery.visitsBelow transform depth) : visit.parent = some transform.fileId := by
  rw [visitsBelow_eq, List.mem_map] at h
  obtain ⟨child, -, rfl⟩ := h
  rfl

theorem Scenery.mem_revisitFaults_iff {visit : Visit} {parent child : FileId} :
    .revisit parent child ∈ scenery.revisitFaults visit ↔
      visit.entry = (some parent, child) ∧ scenery.onCycle child = false := by
  obtain ⟨asker, transform, depth⟩ := visit
  cases asker with
  | none => simp [revisitFaults, Visit.entry]
  | some asker =>
      by_cases hcycle : scenery.onCycle transform = true
      · simp only [revisitFaults, hcycle, if_true, List.not_mem_nil, false_iff]
        rintro ⟨hentry, hfree⟩
        obtain ⟨-, rfl⟩ := Prod.mk.inj hentry
        rw [hcycle] at hfree
        exact Bool.noConfusion hfree
      · simp only [Bool.not_eq_true] at hcycle
        simp only [revisitFaults, hcycle, Bool.false_eq_true, if_false, List.mem_singleton,
          Fault.revisit.injEq, Visit.entry, Prod.mk.injEq, Option.some.injEq]
        constructor
        · rintro ⟨rfl, rfl⟩
          exact ⟨⟨rfl, rfl⟩, hcycle⟩
        · rintro ⟨⟨rfl, rfl⟩, -⟩
          exact ⟨rfl, rfl⟩

theorem Scenery.nodup_revisitFaults (visit : Visit) : (scenery.revisitFaults visit).Nodup := by
  unfold revisitFaults
  split
  · exact List.nodup_nil
  · split
    · exact List.nodup_nil
    · exact List.nodup_singleton _

theorem Scenery.count_revisitFaults {child : FileId} (hcycle : scenery.onCycle child = false)
    (visit : Visit) (parent : FileId) :
    (scenery.revisitFaults visit).count (.revisit parent child) =
      [visit.entry].count (some parent, child) := by
  rw [(nodup_revisitFaults visit).count, (List.nodup_singleton _).count]
  simp only [mem_revisitFaults_iff, hcycle, and_true, List.mem_singleton, eq_comm]

namespace Grows

variable {visits : List Visit} {before after : Walk} {forest : Forest}

/-- A revisit is reported of a transform that is printed and on no cycle. -/
theorem printed_of_mem_reversedFaults (h : Grows scenery visits before forest after)
    (hkeyed : scenery.Keyed) {parent child : FileId}
    (hfault : .revisit parent child ∈ after.reversedFaults) :
    .revisit parent child ∈ before.reversedFaults ∨
      child ∈ after.printed ∧ scenery.onCycle child = false := by
  induction h with
  | done walk => exact .inl hfault
  | @revisit visit visits before after forest hprinted later ih =>
      rcases ih hfault with hmem | hnew
      · rcases List.mem_append.mp hmem with hmem | hold
        · obtain ⟨hentry, hcycle⟩ := Scenery.mem_revisitFaults_iff.mp hmem
          obtain ⟨-, rfl⟩ := Prod.mk.inj hentry
          exact .inr ⟨later.mem_printed_of_mem hkeyed hprinted, hcycle⟩
        · exact .inl hold
      · exact .inr hnew
  | absent hfresh habsent later ih => exact ih hfault
  | print hfresh hfound inner later ihinner ihlater =>
      rcases ihlater hfault with hmem | hnew
      · refine (ihinner hmem).imp_right fun hbetween => ?_
        exact ⟨later.mem_printed_of_mem hkeyed hbetween.1, hbetween.2⟩
      · exact .inr hnew

/-- **The balance of a walk.**  Revisits and places account for the visits that
were to be made and for the entries of what was printed. -/
theorem balance (h : Grows scenery visits before forest after) (hkeyed : scenery.Keyed)
    {above : Option FileId} (habove : ∀ visit ∈ visits, visit.parent = above) (parent : FileId)
    {child : FileId} (hpresent : child ∈ scenery.transforms)
    (hcycle : scenery.onCycle child = false) :
    after.reversedFaults.count (.revisit parent child) +
        (forest.places above).count (some parent, child) =
      before.reversedFaults.count (.revisit parent child) +
        (visits.map Visit.entry).count (some parent, child) +
          (entriesOf scenery.childIds forest.nodes).count (some parent, child) := by
  induction h generalizing above with
  | done walk => simp [Forest.places, Forest.nodes, entriesOf]
  | @revisit visit visits before after forest hprinted later ih =>
      -- the visit was in vain and is reported
      have hlater := ih fun visit hvisit => habove visit (List.mem_cons_of_mem _ hvisit)
      have hreported := Scenery.count_revisitFaults hcycle visit parent
      rw [Walk.revisit, List.count_append] at hlater
      rw [List.map_cons, ← List.singleton_append, List.count_append]
      omega
  | @absent visit visits before after forest hfresh habsent later ih =>
      -- the visit was not to the child, which is in the scene
      have hlater := ih fun visit hvisit => habove visit (List.mem_cons_of_mem _ hvisit)
      have hother : visit.entry ≠ (some parent, child) := by
        intro hentry
        obtain ⟨-, rfl⟩ := Prod.mk.inj hentry
        rw [Std.HashMap.mem_iff_isSome_getElem?, habsent] at hpresent
        simp at hpresent
      rw [List.map_cons, List.count_cons_of_ne hother]
      exact hlater
  | @print visit visits before between after top below rest hfresh hfound inner later ihinner
      ihlater =>
      -- the visit gives the place of the top, and the entries of the top the visits below it
      have hbelow := ihinner fun visit hvisit => Scenery.parent_of_mem_visitsBelow hvisit
      have hrest := ihlater fun visit hvisit => habove visit (List.mem_cons_of_mem _ hvisit)
      have hentry : visit.entry = (above, top.fileId) := by
        rw [Visit.entry, habove visit List.mem_cons_self, hkeyed hfound]
      have hfaults : (before.print scenery visit top).reversedFaults = before.reversedFaults := rfl
      rw [Scenery.map_entry_visitsBelow, hfaults] at hbelow
      rw [List.map_cons, hentry, ← List.singleton_append, List.count_append, Forest.places,
        Forest.nodes, entriesOf_cons, entriesOf_append, ← List.singleton_append (l := _ ++ _)]
      simp only [List.count_append]
      omega

end Grows

end Walk

/-! ## The balance of a scene -/

/-- Revisits and places account for the child entries of what is printed. -/
structure AccountsForEntries (transforms : List Transform) (hierarchy : Hierarchy) : Prop where
  /-- Every entry for a child on no cycle is a revisit or the place of the child. -/
  balance : ∀ line ∈ hierarchy.lines,
    ∃ record, recordOf? Transform.fileId transforms line.transform = some record ∧
      ∀ child ∈ transforms.map Transform.fileId, ¬ OnReportedCycle transforms child →
        hierarchy.faults.count (.revisit line.transform child) +
            (if PrintedBelow hierarchy.lines line.transform child then 1 else 0) =
          record.resolvedChildren.count child
  /-- There are no other revisits. -/
  revisit_of_mem : ∀ parent child, .revisit parent child ∈ hierarchy.faults →
    parent ∈ hierarchy.lines.map HierarchyLine.transform ∧
      child ∈ transforms.map Transform.fileId ∧ ¬ OnReportedCycle transforms child

section Scene

variable {gameObjects : List GameObject} {transforms : List Transform}

theorem count_revisit_faults (parent child : FileId) :
    (render gameObjects transforms).faults.count (.revisit parent child) =
      (renderWalk gameObjects transforms).reversedFaults.count (.revisit parent child) := by
  have hfilter := filter_isRevisit_faults gameObjects transforms
  rw [← List.count_reverse (l := (renderWalk _ _).reversedFaults), ← hfilter,
    List.count_filter rfl]

/-- The balance of the walk that rendering makes. -/
theorem count_revisit_add_places {forest : Forest}
    (hgrows : Walk.Grows (sceneryOf gameObjects transforms) (initialVisits transforms) .start
      forest (renderWalk gameObjects transforms)) (parent : FileId) {child : FileId}
    (hpresent : child ∈ transforms.map Transform.fileId)
    (hcycle : ¬ OnReportedCycle transforms child) :
    (render gameObjects transforms).faults.count (.revisit parent child) +
        (forest.places none).count (some parent, child) =
      (entriesOf (presentChildren transforms) forest.nodes).count (some parent, child) := by
  have hroots : ∀ visit ∈ initialVisits transforms, visit.parent = none := by
    simp [initialVisits]
  have hnone : ((initialVisits transforms).map Visit.entry).count (some parent, child) = 0 := by
    rw [List.count_eq_zero]
    simp [initialVisits, Visit.entry]
  have hfree : (sceneryOf gameObjects transforms).onCycle child = false := by
    rwa [← Bool.not_eq_true, onCycle_sceneryOf_iff]
  have hbalance := hgrows.balance (keyed_sceneryOf _ _) hroots parent
    ((mem_transforms_sceneryOf_iff _ _).mpr hpresent) hfree
  rw [hnone, childIds_sceneryOf] at hbalance
  rw [count_revisit_faults, hbalance]
  simp [Walk.start]

theorem count_places {forest : Forest} (h : ShownForest gameObjects transforms forest)
    (parent child : FileId) :
    (forest.places none).count (some parent, child) =
      if PrintedBelow (render gameObjects transforms).lines parent child then 1 else 0 := by
  rw [(Forest.nodup_places h.nodup none).count]
  simp only [PrintedBelow, h.lines_eq, Forest.places_lines]

theorem count_presentChildren {child : FileId} (hpresent : child ∈ transforms.map Transform.fileId)
    (record : Transform) :
    (presentChildren transforms record).count child = record.resolvedChildren.count child :=
  List.count_filter (by simpa using hpresent)

/-- The entries for one child in one transform that is printed. -/
theorem count_revisit_add {parent child : FileId} {record : Transform}
    (hparent : Reachable transforms parent)
    (hfound : recordOf? Transform.fileId transforms parent = some record)
    (hpresent : child ∈ transforms.map Transform.fileId)
    (hcycle : ¬ OnReportedCycle transforms child) :
    (render gameObjects transforms).faults.count (.revisit parent child) +
        (if PrintedBelow (render gameObjects transforms).lines parent child then 1 else 0) =
      record.resolvedChildren.count child := by
  obtain ⟨forest, hgrows⟩ := exists_grows_render gameObjects transforms
  have hforest := shownForest_of_grows hgrows
  obtain ⟨node, hnode, rfl⟩ := Forest.mem_ids_iff.mp ((hforest.mem_ids_iff parent).mpr hparent)
  obtain rfl : node = record := Option.some.inj ((hforest.found node hnode).symm.trans hfound)
  rw [← count_places hforest, count_revisit_add_places hgrows _ hpresent hcycle,
    count_entriesOf_of_mem hforest.nodup hnode, count_presentChildren hpresent]

/-- What asks for a transform again is printed, and so is the transform. -/
theorem reachable_of_revisit_mem {parent child : FileId}
    (hfault : .revisit parent child ∈ (render gameObjects transforms).faults) :
    Reachable transforms parent ∧ child ∈ transforms.map Transform.fileId ∧
      ¬ OnReportedCycle transforms child := by
  obtain ⟨forest, hgrows⟩ := exists_grows_render gameObjects transforms
  have hforest := shownForest_of_grows hgrows
  have hcount := List.count_pos_iff.mpr hfault
  have hreported : .revisit parent child ∈ (renderWalk gameObjects transforms).reversedFaults := by
    rwa [← List.count_pos_iff, ← count_revisit_faults]
  rcases hgrows.printed_of_mem_reversedFaults (keyed_sceneryOf _ _) hreported with
    hstart | ⟨hprinted, hfree⟩
  · simp [Walk.start] at hstart
  have hcycle : ¬ OnReportedCycle transforms child := by
    rw [← onCycle_sceneryOf_iff gameObjects, hfree]
    simp
  have hpresent : child ∈ transforms.map Transform.fileId := by
    rw [hgrows.mem_printed_iff (keyed_sceneryOf _ _)] at hprinted
    have hchild : child ∈ forest.ids := by simpa [Walk.start] using hprinted
    obtain ⟨node, hnode, rfl⟩ := Forest.mem_ids_iff.mp hchild
    exact List.mem_map_of_mem (mem_of_recordOf? (hforest.found node hnode))
  refine ⟨?_, hpresent, hcycle⟩
  -- a parent that is not printed has no entries to account for
  by_contra hparent
  rw [← hforest.mem_ids_iff] at hparent
  have hbalance := count_revisit_add_places hgrows parent hpresent hcycle
  rw [count_entriesOf_of_not_mem hparent] at hbalance
  omega

/-- **Every child entry is accounted for**: by a revisit, by the place of the
child, or by a cycle. -/
theorem render_accountsForEntries (gameObjects : List GameObject) (transforms : List Transform) :
    AccountsForEntries transforms (render gameObjects transforms) := by
  obtain ⟨forest, hforest⟩ := exists_shownForest gameObjects transforms
  constructor
  · intro line hline
    obtain ⟨node, -, -, hfound⟩ := hforest.exists_node hline
    have hparent := hforest.exists_line_iff.mp ⟨line, hline, rfl⟩
    exact ⟨node, hfound, fun child hpresent hcycle =>
      count_revisit_add hparent hfound hpresent hcycle⟩
  · intro parent child hfault
    obtain ⟨hparent, hchild⟩ := reachable_of_revisit_mem hfault
    obtain ⟨line, hline, hid⟩ := hforest.exists_line_iff.mpr hparent
    exact ⟨List.mem_map.mpr ⟨line, hline, hid⟩, hchild⟩

end Scene

end SceneAudit
