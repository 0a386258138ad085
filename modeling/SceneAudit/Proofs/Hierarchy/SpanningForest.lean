import SceneAudit.Proofs.Hierarchy.Render

/-!
# The lines of a scene are an ordered spanning forest

`Reachable` says which transforms a scene shows: the transforms without parent
and, from there on, whatever a shown transform lists as a child.  Where records
share a file identifier only the first counts, for roots and for children.

`render_isSpanningForest` says that the lines of a rendered scene are a spanning
forest of this graph, whatever cycles, shared children or repeated identifiers
it has: they show each reachable transform once, and their depths alone encode
trees whose edges are child entries and whose siblings stand in the order in
which the parent lists them.
-/

namespace SceneAudit

/-- The transforms that a scene shows. -/
inductive Reachable (transforms : List Transform) : FileId → Prop
  | root {transform : Transform} (hroot : transform ∈ rootRecords transforms) :
      Reachable transforms transform.fileId
  | child {parent child : FileId} {record : Transform} (hparent : Reachable transforms parent)
      (hfound : recordOf? Transform.fileId transforms parent = some record)
      (hchild : child ∈ presentChildren transforms record) : Reachable transforms child

/-- The lines show the reachable transforms as an ordered forest. -/
structure IsSpanningForest (transforms : List Transform) (lines : List HierarchyLine) :
    Prop where
  /-- Exactly the reachable transforms are printed. -/
  printed_iff : ∀ id, id ∈ lines.map HierarchyLine.transform ↔ Reachable transforms id
  /-- None of them is printed twice. -/
  printed_once : (lines.map HierarchyLine.transform).Nodup
  /-- The lines at the top belong to transforms without parent, in document order. -/
  roots_in_order :
    ((lines.filter fun line => line.depth == 0).map HierarchyLine.transform).Sublist
      ((rootRecords transforms).map Transform.fileId)
  /-- Above every other line stands one that is one level higher, with no line in between that
  is higher than the lower of the two, and its transform lists the other one as a child. -/
  parent_above : ∀ above line following, lines = above ++ line :: following → 0 < line.depth →
    ∃ before parent between, above = before ++ parent :: between ∧
      parent.depth + 1 = line.depth ∧ (∀ other ∈ between, line.depth ≤ other.depth) ∧
      ∃ record, recordOf? Transform.fileId transforms parent.transform = some record ∧
        line.transform ∈ presentChildren transforms record
  /-- The transforms directly under a line stand in the order in which its transform lists them. -/
  siblings_in_order : ∀ parent ∈ lines,
    ∃ record, recordOf? Transform.fileId transforms parent.transform = some record ∧
      (HierarchyLine.printedUnder lines parent).Sublist record.resolvedChildren

/-- If the tops of a forest are reachable, so are all its transforms. -/
theorem reachable_of_mem_nodes {transforms : List Transform} {forest : Forest}
    (hspans : forest.Spans (presentChildren transforms))
    (hfound : ∀ node ∈ forest.nodes, recordOf? Transform.fileId transforms node.fileId = some node)
    (htops : ∀ id ∈ forest.tops.map Transform.fileId, Reachable transforms id)
    {node : Transform} (hnode : node ∈ forest.nodes) : Reachable transforms node.fileId := by
  induction forest with
  | empty => simp [Forest.nodes] at hnode
  | tree top below rest ihbelow ihrest =>
      obtain ⟨hchildren, hbelow, hrest⟩ := hspans
      simp only [Forest.nodes, List.mem_cons, List.mem_append] at hfound hnode
      simp only [Forest.tops, List.map_cons, List.mem_cons, forall_eq_or_imp] at htops
      rcases hnode with rfl | hnode | hnode
      · exact htops.1
      · refine ihbelow hbelow (fun other h => hfound other (.inr (.inl h))) (fun id hid => ?_) hnode
        exact .child htops.1 (hfound top (.inl rfl)) (hchildren.subset hid)
      · exact ihrest hrest (fun other h => hfound other (.inr (.inr h))) htops.2 hnode

/-! ## The forest of a scene -/

/-- The forest that a rendered scene shows, in terms of its records. -/
structure ShownForest (gameObjects : List GameObject) (transforms : List Transform)
    (forest : Forest) : Prop where
  lines_eq : (render gameObjects transforms).lines = forest.lines (nameIn gameObjects) 0
  nodup : forest.ids.Nodup
  found : ∀ node ∈ forest.nodes, recordOf? Transform.fileId transforms node.fileId = some node
  tops : (forest.tops.map Transform.fileId).Sublist
    ((rootRecords transforms).map Transform.fileId)
  spans : forest.Spans (presentChildren transforms)
  mem_ids_iff : ∀ id, id ∈ forest.ids ↔ Reachable transforms id

variable {gameObjects : List GameObject} {transforms : List Transform} {forest : Forest}

/-- What the walk from the roots grows is the forest of the scene. -/
theorem shownForest_of_grows
    (h : Walk.Grows (sceneryOf gameObjects transforms) (initialVisits transforms) .start forest
      (renderWalk gameObjects transforms)) : ShownForest gameObjects transforms forest := by
  have hkeyed : (sceneryOf gameObjects transforms).Keyed := keyed_sceneryOf _ _
  have hdepth : ∀ visit ∈ initialVisits transforms, visit.depth = 0 := by
    simp [initialVisits]
  have hlines : (render gameObjects transforms).lines = forest.lines (nameIn gameObjects) 0 := by
    rw [render_eq, h.reversedLines_eq hkeyed hdepth, nameOf_sceneryOf]
    simp [Walk.start]
  have hfound : ∀ node ∈ forest.nodes,
      recordOf? Transform.fileId transforms node.fileId = some node := by
    intro node hnode
    rw [← getElem?_transforms_sceneryOf gameObjects]
    exact h.found_of_mem_nodes hkeyed hnode
  have htops : (forest.tops.map Transform.fileId).Sublist
      ((rootRecords transforms).map Transform.fileId) := by
    have hvisits := h.tops_sublist hkeyed
    rwa [initialVisits, List.map_map] at hvisits
  have hspans : forest.Spans (presentChildren transforms) :=
    childIds_sceneryOf gameObjects transforms ▸ h.spans hkeyed
  have hprinted : ∀ id, id ∈ (renderWalk gameObjects transforms).printed ↔ id ∈ forest.ids := by
    intro id
    rw [h.mem_printed_iff hkeyed]
    simp [Walk.start]
  refine ⟨hlines, (h.nodup_ids hkeyed).1, hfound, htops, hspans, fun id => ⟨?_, ?_⟩⟩
  · -- what is printed is reachable, as every tree hangs from a root
    intro hid
    obtain ⟨node, hnode, rfl⟩ := Forest.mem_ids_iff.mp hid
    refine reachable_of_mem_nodes hspans hfound (fun id hid => ?_) hnode
    obtain ⟨root, hroot, rfl⟩ := List.mem_map.mp (htops.subset hid)
    exact .root hroot
  · -- what is reachable is printed, as no visit is forgotten
    intro hreach
    induction hreach with
    | @root transform hroot =>
        rw [← hprinted]
        have hvisit : (⟨none, transform.fileId, 0⟩ : Visit) ∈ initialVisits transforms :=
          List.mem_map_of_mem hroot
        refine h.printed_of_mem hkeyed hvisit ?_
        rw [mem_transforms_sceneryOf_iff]
        exact List.mem_map_of_mem (mem_of_mem_firstRecords (List.mem_filter.mp hroot).1)
    | @child parent child record _ hrecord hchild ih =>
        obtain ⟨node, hnode, rfl⟩ := Forest.mem_ids_iff.mp ih
        obtain rfl : node = record := Option.some.inj ((hfound node hnode).symm.trans hrecord)
        rw [← hprinted]
        refine h.printed_below hkeyed hnode ?_
        rwa [childIds_sceneryOf]

theorem exists_shownForest (gameObjects : List GameObject) (transforms : List Transform) :
    ∃ forest, ShownForest gameObjects transforms forest := by
  obtain ⟨forest, h⟩ := exists_grows_render gameObjects transforms
  exact ⟨forest, shownForest_of_grows h⟩

/-- A line of the scene stands for a transform of the forest, and its record is
the first with that file identifier. -/
theorem ShownForest.exists_node (h : ShownForest gameObjects transforms forest)
    {line : HierarchyLine} (hline : line ∈ (render gameObjects transforms).lines) :
    ∃ node ∈ forest.nodes, node.fileId = line.transform ∧
      recordOf? Transform.fileId transforms line.transform = some node := by
  rw [h.lines_eq] at hline
  obtain ⟨node, hnode, hid⟩ := Forest.exists_node_of_mem_lines hline
  exact ⟨node, hnode, hid, hid ▸ h.found node hnode⟩

theorem ShownForest.exists_line_iff (h : ShownForest gameObjects transforms forest) {id : FileId} :
    (∃ line ∈ (render gameObjects transforms).lines, line.transform = id) ↔
      Reachable transforms id := by
  rw [h.lines_eq, ← h.mem_ids_iff, ← Forest.map_transform_lines, List.mem_map]

/-- **The lines are an ordered spanning forest** of the reachable part of the
scene. -/
theorem render_isSpanningForest (gameObjects : List GameObject) (transforms : List Transform) :
    IsSpanningForest transforms (render gameObjects transforms).lines := by
  obtain ⟨forest, h⟩ := exists_shownForest gameObjects transforms
  have hids : (render gameObjects transforms).lines.map HierarchyLine.transform = forest.ids := by
    rw [h.lines_eq, Forest.map_transform_lines]
  refine ⟨fun id => ?_, ?_, ?_, ?_, ?_⟩
  · rw [hids, h.mem_ids_iff]
  · rw [hids]
    exact h.nodup
  · rw [h.lines_eq, Forest.filter_lines_depth]
    exact h.tops
  · intro above line following hsplit hdepth
    rw [h.lines_eq] at hsplit
    obtain ⟨before, parent, between, habove, hparent, hbetween, node, hnode, hid, hchild⟩ :=
      Forest.exists_parent_line h.spans hsplit hdepth
    exact ⟨before, parent, between, habove, hparent, hbetween, node, hid ▸ h.found node hnode,
      hchild⟩
  · intro parent hparent
    obtain ⟨node, hnode, hid, hfound⟩ := h.exists_node hparent
    rw [h.lines_eq]
    have hsublist : (HierarchyLine.printedUnder (forest.lines (nameIn gameObjects) 0) parent).Sublist
        (presentChildren transforms node) := Forest.printedUnder_sublist h.spans h.nodup hnode hid 0
    exact ⟨node, hfound, hsublist.trans List.filter_sublist⟩

end SceneAudit
