import SceneAudit.Proofs.Hierarchy.ChildPath
import SceneAudit.Proofs.Hierarchy.Links
import SceneAudit.Proofs.Hierarchy.Preorder

/-!
# Scenes without structural faults

If nothing is wrong with the structure of a scene, its tree should be
unambiguous: from the transforms without parent exactly one path of child entries
leads to every transform that is printed, and the transform is printed at the
depth that the path is long.

One way in which this fails is not reported.  A transform that says that it has no
parent may still be listed as a child.  If the walk comes to it as a child first,
the later visit to it as a root is passed over in silence: it is printed below
another transform, and the empty path leads to it as well.  `unambiguousTree_iff`
says that in a scene without structural faults this is the only way.
-/

namespace SceneAudit

/-- The tree that the lines show is the only one that they can show. -/
structure UnambiguousTree (transforms : List Transform) (lines : List HierarchyLine) : Prop where
  /-- One path leads to the transform of a line, and it is as long as the line is deep. -/
  unique_path : ∀ line ∈ lines, ∃ root path, IsRootPath transforms root path line.transform ∧
    path.length = line.depth ∧
    ∀ other way, IsRootPath transforms other way line.transform → other = root ∧ way = path
  /-- The transforms without parent are printed at the top. -/
  root_depth : ∀ root ∈ rootIds transforms, ∃ line ∈ lines, line.transform = root ∧ line.depth = 0

/-- Rendering found nothing wrong with the structure of the scene. -/
structure Hierarchy.Faultless (hierarchy : Hierarchy) : Prop where
  no_cycle : ∀ members, .cycle members ∉ hierarchy.faults
  no_revisit : ∀ parent child, .revisit parent child ∉ hierarchy.faults
  no_duplicate : ∀ fileId tag, .duplicateFileId fileId tag ∉ hierarchy.faults

section Scene

variable {gameObjects : List GameObject} {transforms : List Transform}

/-! ## Scenes without faults -/

theorem Hierarchy.Faultless.faults_eq_nil
    (h : (render gameObjects transforms).Faultless) : (render gameObjects transforms).faults = [] := by
  refine List.eq_nil_iff_forall_not_mem.mpr fun fault hfault => ?_
  cases fault with
  | cycle members => exact h.no_cycle members hfault
  | revisit parent child => exact h.no_revisit parent child hfault
  | duplicateFileId fileId tag => exact h.no_duplicate fileId tag hfault
  | unterminatedBlock fileId tag headerLine =>
      rw [render_eq] at hfault
      rcases List.mem_append.mp hfault with hfault | hfault
      · simp [duplicateFaults] at hfault
      · rcases List.mem_append.mp hfault with hfault | hfault
        · simp at hfault
        · have hrevisit := isRevisit_of_mem_renderWalk gameObjects transforms hfault
          simp [Fault.isRevisit] at hrevisit

theorem Hierarchy.Faultless.rootIds_eq (h : (render gameObjects transforms).Faultless) :
    rootIds transforms = (rootRecords transforms).map Transform.fileId := by
  have hfaults := h.faults_eq_nil
  rw [render_eq] at hfaults
  have hduplicates := (List.append_eq_nil_iff.mp hfaults).1
  rw [duplicateFaults, List.append_eq_nil_iff, List.map_eq_nil_iff, List.map_eq_nil_iff]
    at hduplicates
  rw [rootRecords, firstRecords_of_repeatedRecords_eq_nil hduplicates.2, rootIds]

/-- Where nothing is wrong, the forest that is shown leaves no child out. -/
theorem Hierarchy.Faultless.exists_full (h : (render gameObjects transforms).Faultless) :
    ∃ forest, ShownForest gameObjects transforms forest ∧
      forest.Full (presentChildren transforms) := by
  obtain ⟨forest, hgrows⟩ := exists_grows_render gameObjects transforms
  have hfaults := h.faults_eq_nil
  rw [render_eq] at hfaults
  simp only [List.append_eq_nil_iff, List.map_eq_nil_iff, List.reverse_eq_nil_iff] at hfaults
  obtain ⟨-, hcycles, hrevisits⟩ := hfaults
  have hcycle : ∀ id, (sceneryOf gameObjects transforms).onCycle id = false := by
    intro id
    rw [Bool.eq_false_iff, ne_eq, onCycle_sceneryOf_iff, OnReportedCycle, hcycles]
    simp
  refine ⟨forest, shownForest_of_grows hgrows, ?_⟩
  rw [← childIds_sceneryOf gameObjects]
  exact hgrows.full (keyed_sceneryOf _ _) hcycle hrevisits

theorem Hierarchy.Faultless.reachable_of_mem_rootIds
    (h : (render gameObjects transforms).Faultless) {root : FileId}
    (hroot : root ∈ rootIds transforms) : Reachable transforms root := by
  rw [h.rootIds_eq] at hroot
  obtain ⟨record, hrecord, rfl⟩ := List.mem_map.mp hroot
  exact .root hrecord

/-- Where nothing is wrong, a path from a root leads to every line, as long as the
line is deep. -/
theorem Hierarchy.Faultless.exists_isRootPath (h : (render gameObjects transforms).Faultless)
    {line : HierarchyLine} (hline : line ∈ (render gameObjects transforms).lines) :
    ∃ root path, IsRootPath transforms root path line.transform ∧ path.length = line.depth := by
  obtain ⟨forest, hforest⟩ := exists_shownForest gameObjects transforms
  rw [hforest.lines_eq] at hline
  obtain ⟨top, htop, path, hpath, hdepth⟩ :=
    exists_path_of_mem_lines hforest.spans hforest.found hline
  have hroot : top ∈ rootIds transforms := by
    rw [h.rootIds_eq]
    exact hforest.tops.subset htop
  rw [Nat.zero_add] at hdepth
  exact ⟨top, path, ⟨hroot, hpath⟩, hdepth⟩

/-- In an unambiguous tree nothing that is printed lists a root: the empty path and
one with an entry would lead to it. -/
theorem UnambiguousTree.not_mem_rootIds (h : (render gameObjects transforms).Faultless)
    (hunique : UnambiguousTree transforms (render gameObjects transforms).lines)
    {line : HierarchyLine} (hline : line ∈ (render gameObjects transforms).lines) {position : Nat}
    {child : FileId} (hentry : childAt? transforms line.transform position = some child) :
    child ∉ rootIds transforms := by
  intro hchild
  obtain ⟨root, path, hroot, -⟩ := h.exists_isRootPath hline
  have hlong : IsRootPath transforms root (path ++ [position]) child :=
    isRootPath_append_singleton_iff.mpr ⟨line.transform, hroot, hentry⟩
  have hempty : IsRootPath transforms child [] child := ⟨hchild, rfl⟩
  obtain ⟨childLine, hmem, rfl, -⟩ := hunique.root_depth child hchild
  obtain ⟨_, way, -, -, hway⟩ := hunique.unique_path childLine hmem
  have hsame : [] = path ++ [position] := (hway _ _ hempty).2.trans (hway _ _ hlong).2.symm
  simp at hsame

/-- **A scene without structural faults has an unambiguous tree**, if and only if
nothing that is printed lists a transform without parent as a child. -/
theorem unambiguousTree_iff (h : (render gameObjects transforms).Faultless) :
    UnambiguousTree transforms (render gameObjects transforms).lines ↔
      ∀ line ∈ (render gameObjects transforms).lines, ∀ position child,
        childAt? transforms line.transform position = some child →
          child ∉ rootIds transforms := by
  refine ⟨fun hunique line hline position child => hunique.not_mem_rootIds h hline,
    fun hlisted => ?_⟩
  obtain ⟨forest, hforest, hfull⟩ := h.exists_full
  have hunique : ∀ {root other id : FileId} {path way : List Nat},
      IsRootPath transforms root path id → IsRootPath transforms other way id →
      other = root ∧ way = path := by
    intro root other id path way
    refine hforest.path_unique hfull (fun root => h.reachable_of_mem_rootIds) ?_
    intro parent position child hparent hentry
    obtain ⟨line, hline, rfl⟩ := hforest.exists_line_iff.mpr hparent
    exact hlisted line hline position child hentry
  constructor
  · intro line hline
    obtain ⟨root, path, hroot, hdepth⟩ := h.exists_isRootPath hline
    exact ⟨root, path, hroot, hdepth, fun other way hway => hunique hroot hway⟩
  · intro root hroot
    obtain ⟨line, hline, rfl⟩ := hforest.exists_line_iff.mpr (h.reachable_of_mem_rootIds hroot)
    obtain ⟨top, path, htop, hdepth⟩ := h.exists_isRootPath hline
    -- the path to the line is the empty one, so the line stands at the top
    have hempty : IsRootPath transforms line.transform [] line.transform := ⟨hroot, rfl⟩
    obtain ⟨-, rfl⟩ := hunique htop hempty
    exact ⟨line, hline, rfl, hdepth.symm⟩

end Scene

/-! ## A child that is a root as well -/

namespace RootAndChild

/-- The game objects of the two transforms. -/
def gameObjects : List GameObject :=
  [⟨⟨"1"⟩, some "A", []⟩, ⟨⟨"2"⟩, some "B", []⟩]

def parent : Transform :=
  ⟨⟨"10"⟩, .resolved ⟨"1"⟩, [.resolved ⟨"20"⟩], .resolved FileId.root⟩

def child (father : FileId) : Transform :=
  ⟨⟨"20"⟩, .resolved ⟨"2"⟩, [], .resolved father⟩

/-- A root and its child, where the child says who its father is. -/
def transforms (father : FileId) : List Transform :=
  [parent, child father]

/-- The lines of the scene, whatever the child says. -/
def lines : List HierarchyLine :=
  [⟨0, some "A", ⟨"10"⟩⟩, ⟨1, some "B", ⟨"20"⟩⟩]

variable (father : FileId)

theorem nodup_ids : ((transforms father).map Transform.fileId).Nodup := by
  simp [transforms, parent, child]

theorem walk_eq : Preorder.walk gameObjects (transforms father) =
    ⟨[⟨"20"⟩, ⟨"10"⟩], lines, []⟩ := by
  have hparent : recordOf? Transform.fileId (transforms father) parent.fileId = some parent := rfl
  have hchild : recordOf? Transform.fileId (transforms father) (child father).fileId =
      some (child father) := by
    simp [recordOf?, transforms, parent, child]
  have hfirst : (Preorder.visit gameObjects (transforms father) none parent.fileId 0
      ⟨[], [], []⟩).1 = ⟨[⟨"20"⟩, ⟨"10"⟩], lines, []⟩ := by
    have hvisits : (parent.children.filterMap Reference.target?).filter
        (· ∈ (transforms father).map Transform.fileId) = [(child father).fileId] := by
      simp [transforms, parent, child, Reference.target?]
    rw [Preorder.visit_of_fresh hparent (by simp), Preorder.visitChildren_eq, hvisits,
      List.map_singleton, Preorder.visitAll, List.foldl_cons, List.foldl_nil,
      Preorder.visit_of_fresh hchild (by simp [parent, child]), Preorder.visitChildren_eq]
    rfl
  have hagain : (Preorder.visit gameObjects (transforms father) none (child father).fileId 0
      ⟨[⟨"20"⟩, ⟨"10"⟩], lines, []⟩).1 = ⟨[⟨"20"⟩, ⟨"10"⟩], lines, []⟩ := by
    rw [Preorder.visit_of_visited hchild (by simp [child])]
    rfl
  rw [Preorder.walk, rootRecords, firstRecords_of_nodup (nodup_ids father)]
  by_cases hroot : (child father).isRoot
  · have hroots : (transforms father).filter Transform.isRoot = [parent, child father] := by
      rw [transforms, List.filter_cons_of_pos rfl, List.filter_cons_of_pos hroot, List.filter_nil]
    rw [hroots, List.foldl_cons, hfirst, List.foldl_cons, hagain, List.foldl_nil]
  · have hroots : (transforms father).filter Transform.isRoot = [parent] := by
      rw [transforms, List.filter_cons_of_pos rfl, List.filter_cons_of_neg hroot, List.filter_nil]
    rw [hroots, List.foldl_cons, hfirst, List.foldl_nil]

theorem lines_eq : (render gameObjects (transforms father)).lines = lines := by
  have hagrees := Preorder.agrees_renderWalk gameObjects (transforms father)
  rw [render_eq, hagrees.lines, walk_eq]

/-- Nothing is found wrong with the scene, whatever the child says. -/
theorem faultless : (render gameObjects (transforms father)).Faultless := by
  have hagrees := Preorder.agrees_renderWalk gameObjects (transforms father)
  have hduplicates : duplicateFaults gameObjects (transforms father) = [] := by
    rw [duplicateFaults, repeatedRecords_of_nodup (nodup_ids father)]
    rfl
  have hcycles : findCycles (transforms father) = [] := by
    refine findCycles_eq_nil_of_lt (fun id => if id = ⟨"20"⟩ then 1 else 0) ?_
    simp [transforms, presentChildren, Transform.resolvedChildren, parent, child,
      Reference.target?]
  have hfaults : (render gameObjects (transforms father)).faults = [] := by
    rw [render_eq, hduplicates, hcycles, hagrees.revisits, walk_eq]
    rfl
  constructor <;> simp [hfaults]

/-- The child of a father that it names: the tree is unambiguous. -/
theorem unambiguousTree_of_namedFather : (render gameObjects (transforms ⟨"10"⟩)).Faultless ∧
    UnambiguousTree (transforms ⟨"10"⟩) (render gameObjects (transforms ⟨"10"⟩)).lines := by
  refine ⟨faultless ⟨"10"⟩, (unambiguousTree_iff (faultless ⟨"10"⟩)).mpr ?_⟩
  intro line hline position id hentry
  obtain ⟨record, hfound, -⟩ := childAt?_eq_some_iff.mp hentry
  have hlisted : ∀ record ∈ transforms ⟨"10"⟩, ∀ id ∈ presentChildren (transforms ⟨"10"⟩) record,
      id ∉ rootIds (transforms ⟨"10"⟩) := by
    decide
  exact hlisted record (mem_of_recordOf? hfound) id
    ((mem_presentChildren_iff hfound).mpr ⟨position, hentry⟩)

/-- A child that says that it has no father: it is printed below the root, and no
fault says that it should stand at the top as well. -/
theorem not_unambiguousTree_of_noFather : (render gameObjects (transforms FileId.root)).Faultless ∧
    ¬ UnambiguousTree (transforms FileId.root)
      (render gameObjects (transforms FileId.root)).lines := by
  refine ⟨faultless FileId.root, fun h => ?_⟩
  obtain ⟨line, hline, hid, hdepth⟩ := h.root_depth ⟨"20"⟩ (by decide)
  rw [lines_eq, lines, List.mem_cons, List.mem_singleton] at hline
  rcases hline with rfl | rfl
  · exact absurd hid (by decide)
  · exact absurd hdepth (by decide)

end RootAndChild

end SceneAudit
