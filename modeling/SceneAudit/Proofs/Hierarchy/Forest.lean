import SceneAudit.Hierarchy.Walk

/-!
# Forests and the lines that show them

A hierarchy is printed as a flat list of lines, each with a depth.  Here is the
other side: the forest that such a list shows, and what the lines of a forest
look like.  Nothing in this file depends on how the lines were found.

Depth alone encodes the tree.  `placements` reads it back: a line stands under
the nearest line above it that is one level higher.

* `exists_parent_line`: in the lines of a forest such a line exists below the
  top level, no line between the two is higher, and it belongs to the transform
  of which the other is a child.
* `printedUnder_sublist`: the transforms printed directly under a line stand in
  the order in which its transform lists them.
-/

namespace SceneAudit

/-! ## Reading the tree back -/

namespace HierarchyLine

/-- The lines, each with the line it stands under: the nearest one above it
that is one level higher.  The lines `above` the first are given the nearest
first. -/
def placements (above : List HierarchyLine) :
    List HierarchyLine → List (Option HierarchyLine × HierarchyLine)
  | [] => []
  | line :: lines =>
      (above.find? fun other => other.depth + 1 == line.depth, line) ::
        placements (line :: above) lines

/-- The transforms of those lines that are placed under `parent`, in order. -/
def placedUnder (parent : HierarchyLine) (placed : List (Option HierarchyLine × HierarchyLine)) :
    List FileId :=
  (placed.filter fun place => place.1 == some parent).map fun place => place.2.transform

/-- The transforms of the lines that stand directly under `parent`, in order. -/
def printedUnder (lines : List HierarchyLine) (parent : HierarchyLine) : List FileId :=
  placedUnder parent (placements [] lines)

@[simp] theorem placedUnder_nil (parent : HierarchyLine) : placedUnder parent [] = [] := rfl

@[simp] theorem placedUnder_cons (parent line : HierarchyLine) (above : Option HierarchyLine)
    (placed : List (Option HierarchyLine × HierarchyLine)) :
    placedUnder parent ((above, line) :: placed) =
      (if above = some parent then [line.transform] else []) ++ placedUnder parent placed := by
  by_cases h : above = some parent <;> simp [placedUnder, h]

@[simp] theorem placedUnder_append (parent : HierarchyLine)
    (front back : List (Option HierarchyLine × HierarchyLine)) :
    placedUnder parent (front ++ back) = placedUnder parent front ++ placedUnder parent back := by
  simp [placedUnder]

theorem placements_append (above front back : List HierarchyLine) :
    placements above (front ++ back) =
      placements above front ++ placements (front.reverse ++ above) back := by
  induction front generalizing above with
  | nil => rfl
  | cons line front ih => simp [placements, ih]

end HierarchyLine

/-! ## Forests -/

/-- A forest of transforms: the first tree with what stands below its top, and
the trees after it. -/
inductive Forest where
  | empty
  | tree (top : Transform) (below rest : Forest)

namespace Forest

/-- The tops of the trees, in order. -/
def tops : Forest → List Transform
  | empty => []
  | tree top _ rest => top :: rest.tops

/-- All transforms, every one before those below it. -/
def nodes : Forest → List Transform
  | empty => []
  | tree top below rest => top :: (below.nodes ++ rest.nodes)

/-- The file identifiers of all transforms, in the order of `nodes`. -/
def ids (forest : Forest) : List FileId :=
  forest.nodes.map Transform.fileId

/-- The lines that show the forest at a depth. -/
def lines (nameOf : Transform → Option String) (depth : Nat) : Forest → List HierarchyLine
  | empty => []
  | tree top below rest =>
      ⟨depth, nameOf top, top.fileId⟩ ::
        (below.lines nameOf (depth + 1) ++ rest.lines nameOf depth)

/-- Whether the tops below every transform are some of its `children`, in the
order of `children`. -/
def Spans (children : Transform → List FileId) : Forest → Prop
  | empty => True
  | tree top below rest =>
      (below.tops.map Transform.fileId).Sublist (children top) ∧
        below.Spans children ∧ rest.Spans children

/-- Whether the tops below every transform are all of its `children`. -/
def Full (children : Transform → List FileId) : Forest → Prop
  | empty => True
  | tree top below rest =>
      below.tops.map Transform.fileId = children top ∧ below.Full children ∧ rest.Full children

@[simp] theorem ids_empty : ids empty = [] := rfl

@[simp] theorem ids_tree (top : Transform) (below rest : Forest) :
    (tree top below rest).ids = top.fileId :: (below.ids ++ rest.ids) := by
  simp [ids, nodes]

theorem mem_ids_iff {forest : Forest} {id : FileId} :
    id ∈ forest.ids ↔ ∃ node ∈ forest.nodes, node.fileId = id :=
  List.mem_map

/-! ## The lines of a forest -/

variable {nameOf : Transform → Option String} {children : Transform → List FileId}

theorem map_transform_lines (nameOf : Transform → Option String) (forest : Forest) (depth : Nat) :
    (forest.lines nameOf depth).map HierarchyLine.transform = forest.ids := by
  induction forest generalizing depth with
  | empty => rfl
  | tree top below rest ihbelow ihrest => simp [lines, ihbelow, ihrest]

theorem depth_le_of_mem_lines {forest : Forest} {depth : Nat} {line : HierarchyLine}
    (h : line ∈ forest.lines nameOf depth) : depth ≤ line.depth := by
  induction forest generalizing depth with
  | empty => simp [lines] at h
  | tree top below rest ihbelow ihrest =>
      simp only [lines, List.mem_cons, List.mem_append] at h
      rcases h with rfl | hbelow | hrest
      · exact Nat.le_refl _
      · exact Nat.le_trans (Nat.le_succ depth) (ihbelow hbelow)
      · exact ihrest hrest

theorem exists_node_of_mem_lines {forest : Forest} {depth : Nat} {line : HierarchyLine}
    (h : line ∈ forest.lines nameOf depth) :
    ∃ node ∈ forest.nodes, node.fileId = line.transform := by
  rw [← mem_ids_iff, ← map_transform_lines nameOf forest depth]
  exact List.mem_map_of_mem h

/-- The lines at the depth of the forest are those of its tops, in order. -/
theorem filter_lines_depth (nameOf : Transform → Option String) (forest : Forest) (depth : Nat) :
    ((forest.lines nameOf depth).filter fun line => line.depth == depth).map
      HierarchyLine.transform = forest.tops.map Transform.fileId := by
  induction forest generalizing depth with
  | empty => rfl
  | tree top below rest _ ihrest =>
      have hbelow : (below.lines nameOf (depth + 1)).filter (fun line => line.depth == depth) = [] := by
        refine List.filter_eq_nil_iff.mpr fun line hline => ?_
        have := depth_le_of_mem_lines hline
        simp only [beq_iff_eq]
        omega
      simp [lines, tops, List.filter_append, hbelow, ihrest]

theorem mem_map_tops_of_mem_lines {forest : Forest} {depth : Nat} {line : HierarchyLine}
    (hline : line ∈ forest.lines nameOf depth) (hdepth : line.depth = depth) :
    line.transform ∈ forest.tops.map Transform.fileId := by
  rw [← filter_lines_depth nameOf forest depth]
  exact List.mem_map_of_mem (List.mem_filter.mpr ⟨hline, by simp [hdepth]⟩)

/-! ## The line above -/

/-- A line below the top level stands under the nearest line above it that is
one level higher, and belongs to a child of the transform there. -/
theorem exists_parent_line {forest : Forest} (hspans : forest.Spans children) {depth : Nat}
    {above following : List HierarchyLine} {line : HierarchyLine}
    (hlines : forest.lines nameOf depth = above ++ line :: following) (hdepth : depth < line.depth) :
    ∃ before parent between, above = before ++ parent :: between ∧
      parent.depth + 1 = line.depth ∧ (∀ other ∈ between, line.depth ≤ other.depth) ∧
      ∃ node ∈ forest.nodes, node.fileId = parent.transform ∧ line.transform ∈ children node := by
  induction forest generalizing depth above following with
  | empty => simp [lines] at hlines
  | tree top below rest ihbelow ihrest =>
      obtain ⟨htops, hbelow, hrest⟩ := hspans
      rw [lines, List.cons_eq_append_iff] at hlines
      rcases hlines with ⟨rfl, hline⟩ | ⟨above, rfl, hlines⟩
      · -- the line of the first top is not below the top level
        simp only [List.cons.injEq] at hline
        rw [hline.1] at hdepth
        exact absurd hdepth (Nat.lt_irrefl _)
      rcases List.append_eq_append_iff.mp hlines with
        ⟨middle, rfl, hlater⟩ | ⟨middle, hhere, hmiddle⟩
      · -- the line is in a later tree
        obtain ⟨before, parent, between, rfl, hparent, hbetween, node, hnode, hid⟩ :=
          ihrest hrest hlater hdepth
        exact ⟨⟨depth, nameOf top, top.fileId⟩ :: (below.lines nameOf (depth + 1) ++ before),
          parent, between, by simp, hparent, hbetween, node, by simp [nodes, hnode], hid⟩
      rcases List.cons_eq_append_iff.mp hmiddle with ⟨rfl, hlater⟩ | ⟨middle, rfl, -⟩
      · -- the line is the first of the later trees, so again one of a top
        rw [← List.nil_append (line :: following)] at hlater
        obtain ⟨before, parent, between, habsurd, -⟩ := ihrest hrest hlater hdepth
        simp at habsurd
      rcases Nat.lt_or_eq_of_le (show depth + 1 ≤ line.depth by omega) with hdeep | htop
      · obtain ⟨before, parent, between, rfl, hparent, hbetween, node, hnode, hid⟩ :=
          ihbelow hbelow hhere hdeep
        exact ⟨⟨depth, nameOf top, top.fileId⟩ :: before, parent, between, by simp, hparent,
          hbetween, node, by simp [nodes, hnode], hid⟩
      · -- the line is the one of a child of the first top
        refine ⟨[], _, above, rfl, htop, fun other hother => ?_, top, by simp [nodes], rfl, ?_⟩
        · rw [← htop]
          exact depth_le_of_mem_lines (hhere ▸ List.mem_append_left _ hother)
        · have hline : line ∈ below.lines nameOf (depth + 1) := by simp [hhere]
          exact htops.subset (mem_map_tops_of_mem_lines hline htop.symm)

/-! ## The lines below -/

/-- The lines of the forest, each with the line above it, where the tops stand
under `above`. -/
def placements (nameOf : Transform → Option String) (above : Option HierarchyLine) (depth : Nat) :
    Forest → List (Option HierarchyLine × HierarchyLine)
  | empty => []
  | tree top below rest =>
      (above, ⟨depth, nameOf top, top.fileId⟩) ::
        (below.placements nameOf (some ⟨depth, nameOf top, top.fileId⟩) (depth + 1) ++
          rest.placements nameOf above depth)

/-- Reading the lines back gives the places that they have in the forest. -/
theorem placements_lines (forest : Forest) (depth : Nat) (above : List HierarchyLine) :
    HierarchyLine.placements above (forest.lines nameOf depth) =
      forest.placements nameOf (above.find? fun other => other.depth + 1 == depth) depth := by
  induction forest generalizing depth above with
  | empty => rfl
  | tree top below rest ihbelow ihrest =>
      have hskip : (below.lines nameOf (depth + 1)).reverse.find?
          (fun other => other.depth + 1 == depth) = none := by
        refine List.find?_eq_none.mpr fun other hother => ?_
        have := depth_le_of_mem_lines (List.mem_reverse.mp hother)
        simp only [beq_iff_eq]
        omega
      simp only [lines, HierarchyLine.placements, HierarchyLine.placements_append, placements,
        ihbelow, ihrest]
      rw [List.find?_append, hskip]
      simp

/-- Under a line of another transform stand only tops, and only if all tops are
placed there. -/
theorem placedUnder_placements_of_not_mem {forest : Forest} {parent : HierarchyLine}
    (hparent : parent.transform ∉ forest.ids) (above : Option HierarchyLine) (depth : Nat) :
    HierarchyLine.placedUnder parent (forest.placements nameOf above depth) =
      if above = some parent then forest.tops.map Transform.fileId else [] := by
  induction forest generalizing depth above with
  | empty => simp [placements, tops]
  | tree top below rest ihbelow ihrest =>
      simp only [ids_tree, List.mem_cons, List.mem_append, not_or] at hparent
      have hne : (⟨depth, nameOf top, top.fileId⟩ : HierarchyLine) ≠ parent := by
        rintro rfl
        exact hparent.1 rfl
      rw [placements, HierarchyLine.placedUnder_cons, HierarchyLine.placedUnder_append,
        ihbelow hparent.2.1, ihrest hparent.2.2]
      by_cases habove : above = some parent <;> simp [habove, hne, tops]

/-- The transforms directly under a line are some of the children of its
transform, in their order. -/
theorem placedUnder_placements_sublist {forest : Forest} (hspans : forest.Spans children)
    (hnodup : forest.ids.Nodup) {parent : HierarchyLine} {node : Transform}
    (hnode : node ∈ forest.nodes) (hid : node.fileId = parent.transform)
    {above : Option HierarchyLine} (habove : above ≠ some parent) (depth : Nat) :
    (HierarchyLine.placedUnder parent (forest.placements nameOf above depth)).Sublist
      (children node) := by
  induction forest generalizing depth above with
  | empty => simp [nodes] at hnode
  | tree top below rest ihbelow ihrest =>
      obtain ⟨htops, hbelow, hrest⟩ := hspans
      simp only [ids_tree, List.nodup_cons, List.mem_append, not_or, List.nodup_append] at hnodup
      obtain ⟨⟨hnotbelow, hnotrest⟩, hbelownodup, hrestnodup, hdisjoint⟩ := hnodup
      rw [placements, HierarchyLine.placedUnder_cons, HierarchyLine.placedUnder_append,
        if_neg habove, List.nil_append]
      simp only [nodes, List.mem_cons, List.mem_append] at hnode
      rcases hnode with rfl | hnode | hnode
      · -- the line is the one of the first top
        rw [hid] at hnotbelow hnotrest
        rw [placedUnder_placements_of_not_mem hnotbelow,
          placedUnder_placements_of_not_mem hnotrest, if_neg habove, List.append_nil]
        split
        · exact htops
        · exact List.nil_sublist _
      · -- the line stands below the first top
        have hmem : parent.transform ∈ below.ids := mem_ids_iff.mpr ⟨node, hnode, hid⟩
        have hnotrest : parent.transform ∉ rest.ids := fun h => hdisjoint _ hmem _ h rfl
        rw [placedUnder_placements_of_not_mem hnotrest, if_neg habove, List.append_nil]
        refine ihbelow hbelow hbelownodup hnode ?_ _
        rintro hline
        rw [← Option.some.inj hline] at hmem
        exact hnotbelow hmem
      · -- the line stands in a later tree
        have hmem : parent.transform ∈ rest.ids := mem_ids_iff.mpr ⟨node, hnode, hid⟩
        have hnotbelow' : parent.transform ∉ below.ids := fun h => hdisjoint _ h _ hmem rfl
        rw [placedUnder_placements_of_not_mem hnotbelow', if_neg, List.nil_append]
        · exact ihrest hrest hrestnodup hnode habove _
        · intro hline
          rw [← Option.some.inj hline] at hmem
          exact hnotrest hmem

/-- The transforms that the lines show directly under one of them are some of
the children of its transform, in their order. -/
theorem printedUnder_sublist {forest : Forest} (hspans : forest.Spans children)
    (hnodup : forest.ids.Nodup) {parent : HierarchyLine} {node : Transform}
    (hnode : node ∈ forest.nodes) (hid : node.fileId = parent.transform) (depth : Nat) :
    (HierarchyLine.printedUnder (forest.lines nameOf depth) parent).Sublist (children node) := by
  rw [HierarchyLine.printedUnder, placements_lines]
  exact placedUnder_placements_sublist hspans hnodup hnode hid (by simp) _

/-! ## Counting what stands below a transform -/

/-- Where no child is left out, the transforms are the tops and the children of
all transforms, each as often as the other. -/
theorem Full.perm_ids {forest : Forest} (h : forest.Full children) :
    forest.ids.Perm (forest.tops.map Transform.fileId ++ forest.nodes.flatMap children) := by
  induction forest with
  | empty => exact .nil
  | tree top below rest ihbelow ihrest =>
      obtain ⟨hchildren, hbelow, hrest⟩ := h
      have hperm := (ihbelow hbelow).append (ihrest hrest)
      rw [hchildren] at hperm
      rw [ids_tree, tops, nodes, List.map_cons, List.flatMap_cons, List.flatMap_append,
        List.cons_append]
      refine (hperm.trans ?_).cons _
      rw [← List.append_assoc (children top), ← List.append_assoc, ← List.append_assoc]
      exact (List.perm_append_comm).append_right _

end Forest

end SceneAudit
