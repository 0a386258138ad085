import SceneAudit.Proofs.Hierarchy.ChildEntry
import SceneAudit.Proofs.Hierarchy.ChildPath
import SceneAudit.Proofs.Hierarchy.Links

/-!
# Well-formed scenes are dumped completely

The walk follows the lists of children only, while every transform also says who
its father is.  In a scene that the editor wrote the two agree: a transform is
listed once by its father and by nobody else, and from every transform the fathers
lead up to one without father.  `WellFormedScene` states this.

`WellFormedScene.completeDump_render` says that such a scene gives no fault and
that its dump is complete: every transform is printed once, below its father, at
the depth that counts its ancestors, and siblings keep the order in which the
father lists them.

## Strategy

* A child is one generation below its father, so there are no cycles, and every
  transform is reachable from one without father.
* A line stands under the line of the father: whatever it stands under lists it.
* Hence every entry has its place, and by `count_revisit_add` none is left for a
  revisit.
-/

namespace SceneAudit

/-- How many father links lead from a transform up to one without father. -/
inductive Generation (transforms : List Transform) : Transform → Nat → Prop
  | root {transform : Transform} (hfather : transform.father = .resolved FileId.root) :
      Generation transforms transform 0
  | child {parent child : Transform} {generation : Nat} (hparent : parent ∈ transforms)
      (hfather : child.father = .resolved parent.fileId)
      (habove : Generation transforms parent generation) :
      Generation transforms child (generation + 1)

/-- The child lists and the fathers of a scene agree and describe a forest. -/
structure WellFormedScene (gameObjects : List GameObject) (transforms : List Transform) : Prop where
  nodup_gameObjects : (gameObjects.map GameObject.fileId).Nodup
  nodup_transforms : (transforms.map Transform.fileId).Nodup
  ne_root : ∀ transform ∈ transforms, transform.fileId ≠ FileId.root
  /-- Every child entry leads to a transform of the scene. -/
  child_present : ∀ parent ∈ transforms, ∀ reference ∈ parent.children,
    ∃ child ∈ transforms, reference = .resolved child.fileId
  /-- A transform is listed by its father, once, and by no other transform. -/
  count_child : ∀ parent ∈ transforms, ∀ child ∈ transforms,
    parent.children.count (.resolved child.fileId) =
      if child.father = .resolved parent.fileId then 1 else 0
  /-- The fathers of every transform are in the scene, up to one without father. -/
  exists_generation : ∀ transform ∈ transforms, ∃ generation,
    Generation transforms transform generation

/-- The hierarchy shows every transform, in its place and with its name. -/
structure CompleteDump (gameObjects : List GameObject) (transforms : List Transform)
    (hierarchy : Hierarchy) : Prop where
  faults_eq_nil : hierarchy.faults = []
  printed_once : (hierarchy.lines.map HierarchyLine.transform).Perm
    (transforms.map Transform.fileId)
  /-- A line is as deep as there are father links above its transform. -/
  depth_iff : ∀ line ∈ hierarchy.lines, ∀ transform ∈ transforms,
    transform.fileId = line.transform →
      ∀ generation, Generation transforms transform generation ↔ generation = line.depth
  /-- A line stands under the line of the father, or at the top if there is none. -/
  father_above : ∀ place ∈ HierarchyLine.placements [] hierarchy.lines,
    ∀ transform ∈ transforms, transform.fileId = place.2.transform →
      transform.father =
        .resolved ((place.1.map HierarchyLine.transform).getD FileId.root)
  /-- Under a line stand all children of its transform, in the order of its list. -/
  children_below : ∀ line ∈ hierarchy.lines, ∀ transform ∈ transforms,
    transform.fileId = line.transform →
      (HierarchyLine.printedUnder hierarchy.lines line).map Reference.resolved =
        transform.children
  /-- At the top stand the transforms without father, in document order. -/
  roots_at_top : (hierarchy.lines.filter fun line => line.depth == 0).map
    HierarchyLine.transform = rootIds transforms
  /-- A line has the name of the game object that its transform belongs to. -/
  name_eq : ∀ line ∈ hierarchy.lines, ∀ transform ∈ transforms,
    transform.fileId = line.transform →
      (∀ owner ∈ gameObjects, transform.gameObject = .resolved owner.fileId →
        line.name = owner.name) ∧
      ((∀ owner ∈ gameObjects, transform.gameObject ≠ .resolved owner.fileId) →
        line.name = none)

/-! ## Places in a forest -/

theorem eq_of_sublist_of_subset {α : Type} {part whole : List α} (h : part.Sublist whole)
    (hnodup : whole.Nodup) (hsubset : whole ⊆ part) : part = whole :=
  h.eq_of_length_le (List.subperm_of_subset hnodup hsubset).length_le

namespace HierarchyLine

theorem map_snd_placements (above lines : List HierarchyLine) :
    (placements above lines).map Prod.snd = lines := by
  induction lines generalizing above with
  | nil => rfl
  | cons line lines ih => rw [placements, List.map_cons, ih]

theorem exists_place {lines : List HierarchyLine} {line : HierarchyLine} (hline : line ∈ lines) :
    ∃ above, (above, line) ∈ placements [] lines := by
  rw [← map_snd_placements [] lines] at hline
  obtain ⟨⟨above, other⟩, hplace, rfl⟩ := List.mem_map.mp hline
  exact ⟨above, hplace⟩

theorem mem_printedUnder_iff {lines : List HierarchyLine} {parent : HierarchyLine} {id : FileId} :
    id ∈ printedUnder lines parent ↔
      ∃ line, (some parent, line) ∈ placements [] lines ∧ line.transform = id := by
  simp only [printedUnder, placedUnder, List.mem_map, List.mem_filter, beq_iff_eq, Prod.exists]
  constructor
  · rintro ⟨above, line, ⟨hplace, rfl⟩, hid⟩
    exact ⟨line, hplace, hid⟩
  · rintro ⟨line, hplace, hid⟩
    exact ⟨some parent, line, ⟨hplace, rfl⟩, hid⟩

end HierarchyLine

namespace Forest

variable {nameOf : Transform → Option String} {children : Transform → List FileId}

theorem name_of_mem_lines {forest : Forest} {depth : Nat} {line : HierarchyLine}
    (h : line ∈ forest.lines nameOf depth) :
    ∃ node ∈ forest.nodes, node.fileId = line.transform ∧ line.name = nameOf node := by
  induction forest generalizing depth with
  | empty => simp [lines] at h
  | tree top below rest ihbelow ihrest =>
      simp only [lines, List.mem_cons, List.mem_append] at h
      simp only [nodes, List.mem_cons, List.mem_append]
      rcases h with rfl | hbelow | hrest
      · exact ⟨top, .inl rfl, rfl, rfl⟩
      · obtain ⟨node, hnode, hline⟩ := ihbelow hbelow
        exact ⟨node, .inr (.inl hnode), hline⟩
      · obtain ⟨node, hnode, hline⟩ := ihrest hrest
        exact ⟨node, .inr (.inr hnode), hline⟩

/-- A transform stands under one that has it among its children, unless it is a top. -/
theorem mem_places {forest : Forest} (hspans : forest.Spans children) {above : Option FileId}
    {place : Option FileId × FileId} (h : place ∈ forest.places above) :
    (place.1 = above ∧ place.2 ∈ forest.tops.map Transform.fileId) ∨
      ∃ node ∈ forest.nodes, place.1 = some node.fileId ∧ place.2 ∈ children node := by
  induction forest generalizing above with
  | empty => simp [places] at h
  | tree top below rest ihbelow ihrest =>
      obtain ⟨htops, hbelow, hrest⟩ := hspans
      simp only [places, List.mem_cons, List.mem_append] at h
      simp only [tops, nodes, List.map_cons, List.mem_cons, List.mem_append]
      rcases h with rfl | h | h
      · exact .inl ⟨rfl, .inl rfl⟩
      · rcases ihbelow hbelow h with ⟨habove, htop⟩ | ⟨node, hnode, hplace⟩
        · exact .inr ⟨top, .inl rfl, habove, htops.subset htop⟩
        · exact .inr ⟨node, .inr (.inl hnode), hplace⟩
      · rcases ihrest hrest h with ⟨habove, htop⟩ | ⟨node, hnode, hplace⟩
        · exact .inl ⟨habove, .inr htop⟩
        · exact .inr ⟨node, .inr (.inr hnode), hplace⟩

/-- A line stands under one that is one level higher, unless it is one of a top. -/
theorem mem_placements {forest : Forest} {above : Option HierarchyLine} {depth : Nat}
    {place : Option HierarchyLine × HierarchyLine}
    (h : place ∈ forest.placements nameOf above depth) :
    (place.1 = above ∧ place.2.depth = depth) ∨
      ∃ parent ∈ forest.lines nameOf depth, place.1 = some parent ∧
        parent.depth + 1 = place.2.depth := by
  induction forest generalizing above depth with
  | empty => simp [placements] at h
  | tree top below rest ihbelow ihrest =>
      simp only [placements, List.mem_cons, List.mem_append] at h
      simp only [lines, List.mem_cons, List.mem_append]
      rcases h with rfl | h | h
      · exact .inl ⟨rfl, rfl⟩
      · rcases ihbelow h with ⟨habove, hdepth⟩ | ⟨parent, hparent, hplace⟩
        · exact .inr ⟨_, .inl rfl, habove, hdepth.symm⟩
        · exact .inr ⟨parent, .inr (.inl hparent), hplace⟩
      · rcases ihrest h with htop | ⟨parent, hparent, hplace⟩
        · exact .inl htop
        · exact .inr ⟨parent, .inr (.inr hparent), hplace⟩

end Forest

namespace ShownForest

variable {gameObjects : List GameObject} {transforms : List Transform} {forest : Forest}

/-- A line stands under one whose transform lists it, unless it shows a transform without
father. -/
theorem place_cases (h : ShownForest gameObjects transforms forest)
    {place : Option HierarchyLine × HierarchyLine}
    (hplace : place ∈ HierarchyLine.placements [] (render gameObjects transforms).lines) :
    (place.1.map HierarchyLine.transform = none ∧
      ∃ root ∈ rootRecords transforms, root.fileId = place.2.transform) ∨
    ∃ parent ∈ transforms, place.1.map HierarchyLine.transform = some parent.fileId ∧
      place.2.transform ∈ presentChildren transforms parent := by
  have hids : (place.1.map HierarchyLine.transform, place.2.transform) ∈ forest.places none := by
    rw [← Forest.places_lines (nameIn gameObjects), ← h.lines_eq, HierarchyLine.places]
    exact List.mem_map_of_mem hplace
  rcases Forest.mem_places h.spans hids with ⟨habove, htop⟩ | ⟨node, hnode, habove, hchild⟩
  · exact .inl ⟨habove, List.mem_map.mp (h.tops.subset htop)⟩
  · exact .inr ⟨node, mem_of_recordOf? (h.found node hnode), habove, hchild⟩

/-- A line stands one level below another, or at the top. -/
theorem depth_cases (h : ShownForest gameObjects transforms forest)
    {place : Option HierarchyLine × HierarchyLine}
    (hplace : place ∈ HierarchyLine.placements [] (render gameObjects transforms).lines) :
    (place.1 = none ∧ place.2.depth = 0) ∨
      ∃ parent ∈ (render gameObjects transforms).lines, place.1 = some parent ∧
        parent.depth + 1 = place.2.depth := by
  rw [h.lines_eq, Forest.placements_lines] at hplace
  rw [h.lines_eq]
  exact Forest.mem_placements hplace

end ShownForest

/-! ## The entries of a well-formed scene -/

theorem Transform.count_resolvedChildren (transform : Transform) (child : FileId) :
    transform.resolvedChildren.count child = transform.children.count (.resolved child) := by
  rw [resolvedChildren, List.count_filterMap, List.count]
  congr 1
  funext reference
  cases reference with
  | resolved target => simp [Reference.target?]
  | unresolved cause => simp [Reference.target?]

namespace WellFormedScene

variable {gameObjects : List GameObject} {transforms : List Transform}
  (h : WellFormedScene gameObjects transforms)

include h

theorem eq_of_fileId_eq {first second : Transform} (hfirst : first ∈ transforms)
    (hsecond : second ∈ transforms) (hid : first.fileId = second.fileId) : first = second :=
  List.inj_on_of_nodup_map h.nodup_transforms hfirst hsecond hid

theorem recordOf?_eq {transform : Transform} (hmem : transform ∈ transforms) :
    recordOf? Transform.fileId transforms transform.fileId = some transform := by
  rw [← mem_firstRecords_iff, firstRecords_of_nodup h.nodup_transforms]
  exact hmem

theorem rootRecords_eq : rootRecords transforms = transforms.filter Transform.isRoot := by
  rw [rootRecords, firstRecords_of_nodup h.nodup_transforms]

theorem mem_resolvedChildren_iff {parent child : Transform} (hparent : parent ∈ transforms)
    (hchild : child ∈ transforms) :
    child.fileId ∈ parent.resolvedChildren ↔ child.father = .resolved parent.fileId := by
  rw [← List.count_pos_iff, Transform.count_resolvedChildren, h.count_child parent hparent child hchild]
  split
  · simp [*]
  · simp [*]

theorem exists_of_mem_resolvedChildren {parent : Transform} (hparent : parent ∈ transforms)
    {id : FileId} (hid : id ∈ parent.resolvedChildren) :
    ∃ child ∈ transforms, child.fileId = id := by
  obtain ⟨reference, hreference, htarget⟩ := List.mem_filterMap.mp hid
  obtain ⟨child, hchild, rfl⟩ := h.child_present parent hparent reference hreference
  exact ⟨child, hchild, Option.some.inj htarget⟩

theorem presentChildren_eq {parent : Transform} (hparent : parent ∈ transforms) :
    presentChildren transforms parent = parent.resolvedChildren := by
  refine List.filter_eq_self.mpr fun id hid => ?_
  obtain ⟨child, hchild, rfl⟩ := h.exists_of_mem_resolvedChildren hparent hid
  simpa using ⟨child, hchild, rfl⟩

theorem map_resolved_resolvedChildren {parent : Transform} (hparent : parent ∈ transforms) :
    parent.resolvedChildren.map Reference.resolved = parent.children := by
  have hpresent := h.child_present parent hparent
  rw [Transform.resolvedChildren, List.map_filterMap]
  generalize parent.children = references at hpresent
  induction references with
  | nil => rfl
  | cons reference references ih =>
      obtain ⟨child, -, rfl⟩ := hpresent reference List.mem_cons_self
      rw [List.filterMap_cons_some (by rfl),
        ih fun other hother => hpresent other (List.mem_cons_of_mem _ hother)]

theorem nodup_resolvedChildren {parent : Transform} (hparent : parent ∈ transforms) :
    parent.resolvedChildren.Nodup := by
  refine List.nodup_iff_count_le_one.mpr fun id => ?_
  by_cases hid : id ∈ parent.resolvedChildren
  · obtain ⟨child, hchild, rfl⟩ := h.exists_of_mem_resolvedChildren hparent hid
    rw [Transform.count_resolvedChildren, h.count_child parent hparent child hchild]
    split <;> omega
  · rw [List.count_eq_zero.mpr hid]
    omega

/-! ## Generations -/

theorem generation_unique {transform : Transform} {first second : Nat}
    (hfirst : Generation transforms transform first)
    (hsecond : Generation transforms transform second) : first = second := by
  induction hfirst generalizing second with
  | root hfather =>
      cases hsecond with
      | root _ => rfl
      | child hparent hother _ =>
          exact absurd (Reference.resolved.inj (hother.symm.trans hfather)) (h.ne_root _ hparent)
  | child hparent hfather habove ih =>
      cases hsecond with
      | root hother =>
          exact absurd (Reference.resolved.inj (hfather.symm.trans hother)) (h.ne_root _ hparent)
      | child hparent' hother habove' =>
          have hid := Reference.resolved.inj (hfather.symm.trans hother)
          obtain rfl := h.eq_of_fileId_eq hparent hparent' hid
          rw [ih habove']

theorem findCycles_eq_nil : findCycles transforms = [] := by
  have hexists : ∀ id, ∃ generation, ∀ transform ∈ transforms, transform.fileId = id →
      Generation transforms transform generation := by
    intro id
    by_cases hid : ∃ transform ∈ transforms, transform.fileId = id
    · obtain ⟨transform, hmem, rfl⟩ := hid
      obtain ⟨generation, hgeneration⟩ := h.exists_generation transform hmem
      refine ⟨generation, fun other hother heq => ?_⟩
      exact h.eq_of_fileId_eq hother hmem heq ▸ hgeneration
    · exact ⟨0, fun transform hmem heq => absurd ⟨transform, hmem, heq⟩ hid⟩
  choose number hnumber using hexists
  -- a child is one generation below its father
  refine findCycles_eq_nil_of_lt number fun parent hparent id hid => ?_
  rw [h.presentChildren_eq hparent] at hid
  obtain ⟨child, hchild, rfl⟩ := h.exists_of_mem_resolvedChildren hparent hid
  have hbelow := Generation.child hparent ((h.mem_resolvedChildren_iff hparent hchild).mp hid)
    (hnumber parent.fileId parent hparent rfl)
  have := h.generation_unique (hnumber child.fileId child hchild rfl) hbelow
  omega

theorem reachable {transform : Transform} (hmem : transform ∈ transforms) :
    Reachable transforms transform.fileId := by
  obtain ⟨generation, hgeneration⟩ := h.exists_generation transform hmem
  induction hgeneration with
  | root hfather =>
      refine .root ?_
      rw [h.rootRecords_eq, List.mem_filter]
      exact ⟨hmem, by simp [Transform.isRoot, hfather]⟩
  | child hparent hfather habove ih =>
      refine .child (ih hparent) (h.recordOf?_eq hparent) ?_
      rw [h.presentChildren_eq hparent, h.mem_resolvedChildren_iff hparent hmem]
      exact hfather

/-! ## The lines of a well-formed scene -/

/-- A line stands under the line of the father, since whatever it stands under lists it. -/
theorem father_eq {place : Option HierarchyLine × HierarchyLine}
    (hplace : place ∈ HierarchyLine.placements [] (render gameObjects transforms).lines)
    {transform : Transform} (hmem : transform ∈ transforms)
    (hid : transform.fileId = place.2.transform) :
    transform.father = .resolved ((place.1.map HierarchyLine.transform).getD FileId.root) := by
  obtain ⟨forest, hforest⟩ := exists_shownForest gameObjects transforms
  rcases hforest.place_cases hplace with ⟨habove, root, hroot, heq⟩ | ⟨parent, hparent, habove, hlisted⟩
  · rw [h.rootRecords_eq, List.mem_filter] at hroot
    obtain rfl := h.eq_of_fileId_eq hroot.1 hmem (heq.trans hid.symm)
    have hfather := hroot.2
    rw [habove]
    simpa [Transform.isRoot] using hfather
  · rw [h.presentChildren_eq hparent, ← hid, h.mem_resolvedChildren_iff hparent hmem] at hlisted
    rw [habove]
    exact hlisted

/-- What has a father stands under it. -/
theorem place_of_father {place : Option HierarchyLine × HierarchyLine}
    (hplace : place ∈ HierarchyLine.placements [] (render gameObjects transforms).lines)
    {parent child : Transform} (hparent : parent ∈ transforms) (hchild : child ∈ transforms)
    (hid : child.fileId = place.2.transform) (hfather : child.father = .resolved parent.fileId) :
    place.1.map HierarchyLine.transform = some parent.fileId := by
  have habove := h.father_eq hplace hchild hid
  rw [hfather] at habove
  have heq := Reference.resolved.inj habove
  cases hline : place.1.map HierarchyLine.transform with
  | none =>
      rw [hline] at heq
      exact absurd heq (h.ne_root parent hparent)
  | some above =>
      rw [hline] at heq
      exact congrArg some heq.symm

theorem generation_depth {line : HierarchyLine}
    (hline : line ∈ (render gameObjects transforms).lines) {transform : Transform}
    (hmem : transform ∈ transforms) (hid : transform.fileId = line.transform) :
    Generation transforms transform line.depth := by
  obtain ⟨forest, hforest⟩ := exists_shownForest gameObjects transforms
  -- by induction on the depth, as the line above is one level higher
  induction hdepth : line.depth generalizing line transform with
  | zero =>
      obtain ⟨above, hplace⟩ := HierarchyLine.exists_place hline
      have hfather := h.father_eq hplace hmem hid
      rcases hforest.depth_cases hplace with ⟨rfl, -⟩ | ⟨parent, -, -, hparent⟩
      · exact .root hfather
      · simp only at hparent
        omega
  | succ depth ih =>
      obtain ⟨above, hplace⟩ := HierarchyLine.exists_place hline
      have hfather := h.father_eq hplace hmem hid
      rcases hforest.depth_cases hplace with ⟨-, htop⟩ | ⟨parent, hparent, rfl, hstep⟩
      · simp only at htop
        omega
      · obtain ⟨node, -, hnode, hfound⟩ := hforest.exists_node hparent
        have hparentmem := mem_of_recordOf? hfound
        refine .child hparentmem ?_ (ih hparent hparentmem hnode (by simp only at hstep; omega))
        rw [hnode]
        exact hfather

/-- No entry is left for a revisit, as every transform stands under the one that lists it. -/
theorem not_mem_revisit (parent child : FileId) :
    .revisit parent child ∉ (render gameObjects transforms).faults := by
  intro hfault
  obtain ⟨hreach, hpresent, hcycle⟩ := reachable_of_revisit_mem hfault
  obtain ⟨forest, hforest⟩ := exists_shownForest gameObjects transforms
  obtain ⟨line, hline, rfl⟩ := hforest.exists_line_iff.mpr hreach
  obtain ⟨father, -, hfather, hfound⟩ := hforest.exists_node hline
  obtain ⟨transform, hmem, rfl⟩ := List.mem_map.mp hpresent
  have hfathermem := mem_of_recordOf? hfound
  have hbalance := @count_revisit_add gameObjects _ _ _ _ hreach hfound hpresent hcycle
  have hcount := List.count_pos_iff.mpr hfault
  rw [Transform.count_resolvedChildren, h.count_child father hfathermem transform hmem] at hbalance
  by_cases hlisted : transform.father = .resolved father.fileId
  · obtain ⟨below, hbelow, hid⟩ := hforest.exists_line_iff.mpr (h.reachable hmem)
    obtain ⟨above, hplace⟩ := HierarchyLine.exists_place hbelow
    have hplaced := h.place_of_father hplace hfathermem hmem hid.symm hlisted
    have hprinted : PrintedBelow (render gameObjects transforms).lines line.transform
        transform.fileId := by
      rw [PrintedBelow, HierarchyLine.places, List.mem_map]
      exact ⟨_, hplace, by rw [hplaced, hfather, ← hid]⟩
    rw [if_pos hprinted, if_pos hlisted] at hbalance
    omega
  · rw [if_neg hlisted] at hbalance
    omega

theorem faults_eq_nil : (render gameObjects transforms).faults = [] := by
  have hduplicates : duplicateFaults gameObjects transforms = [] := by
    rw [duplicateFaults, repeatedRecords_of_nodup h.nodup_gameObjects,
      repeatedRecords_of_nodup h.nodup_transforms]
    rfl
  have hrevisits : (renderWalk gameObjects transforms).reversedFaults.reverse = [] := by
    refine List.eq_nil_iff_forall_not_mem.mpr fun fault hfault => ?_
    have hrevisit := isRevisit_of_mem_renderWalk gameObjects transforms hfault
    have hmem : fault ∈ (render gameObjects transforms).faults := by
      rw [render_eq]
      exact List.mem_append_right _ (List.mem_append_right _ hfault)
    cases fault with
    | revisit parent child => exact h.not_mem_revisit parent child hmem
    | _ => simp [Fault.isRevisit] at hrevisit
  rw [render_eq, hduplicates, h.findCycles_eq_nil, hrevisits]
  rfl

theorem perm_lines :
    ((render gameObjects transforms).lines.map HierarchyLine.transform).Perm
      (transforms.map Transform.fileId) := by
  obtain ⟨forest, hforest⟩ := exists_shownForest gameObjects transforms
  have hids : (render gameObjects transforms).lines.map HierarchyLine.transform = forest.ids := by
    rw [hforest.lines_eq, Forest.map_transform_lines]
  rw [hids]
  refine (List.perm_ext_iff_of_nodup hforest.nodup h.nodup_transforms).mpr fun id => ⟨?_, ?_⟩
  · intro hid
    obtain ⟨node, hnode, rfl⟩ := Forest.mem_ids_iff.mp hid
    exact List.mem_map_of_mem (mem_of_recordOf? (hforest.found node hnode))
  · intro hid
    obtain ⟨transform, hmem, rfl⟩ := List.mem_map.mp hid
    exact (hforest.mem_ids_iff _).mpr (h.reachable hmem)

theorem line_eq_of_transform_eq {first second : HierarchyLine}
    (hfirst : first ∈ (render gameObjects transforms).lines)
    (hsecond : second ∈ (render gameObjects transforms).lines)
    (hid : first.transform = second.transform) : first = second :=
  List.inj_on_of_nodup_map (h.perm_lines.nodup_iff.mpr h.nodup_transforms) hfirst hsecond hid

/-- All children stand under their father, in the order of its list. -/
theorem printedUnder_eq {line : HierarchyLine}
    (hline : line ∈ (render gameObjects transforms).lines) {transform : Transform}
    (hmem : transform ∈ transforms) (hid : transform.fileId = line.transform) :
    HierarchyLine.printedUnder (render gameObjects transforms).lines line =
      transform.resolvedChildren := by
  obtain ⟨forest, hforest⟩ := exists_shownForest gameObjects transforms
  have hnode : transform ∈ forest.nodes := by
    obtain ⟨node, hnode, heq⟩ :=
      Forest.mem_ids_iff.mp ((hforest.mem_ids_iff _).mpr (h.reachable hmem))
    have hnodemem := mem_of_recordOf? (hforest.found node hnode)
    exact h.eq_of_fileId_eq hnodemem hmem heq ▸ hnode
  refine eq_of_sublist_of_subset ?_ (h.nodup_resolvedChildren hmem) fun id hlisted => ?_
  · rw [← h.presentChildren_eq hmem, hforest.lines_eq]
    exact Forest.printedUnder_sublist hforest.spans hforest.nodup hnode hid 0
  · obtain ⟨child, hchild, rfl⟩ := h.exists_of_mem_resolvedChildren hmem hlisted
    obtain ⟨below, hbelow, heq⟩ := hforest.exists_line_iff.mpr (h.reachable hchild)
    obtain ⟨above, hplace⟩ := HierarchyLine.exists_place hbelow
    have hplaced := h.place_of_father hplace hmem hchild heq.symm
      ((h.mem_resolvedChildren_iff hmem hchild).mp hlisted)
    obtain ⟨parent, rfl, hparent⟩ := Option.map_eq_some_iff.mp hplaced
    -- no other line shows the father, so this is the one
    rcases hforest.depth_cases hplace with ⟨hnone, -⟩ | ⟨other, hother, hsome, -⟩
    · exact absurd hnone (by simp)
    · obtain rfl := Option.some.inj hsome
      obtain rfl := h.line_eq_of_transform_eq hother hline (hparent.trans hid)
      exact HierarchyLine.mem_printedUnder_iff.mpr ⟨below, hplace, heq⟩

theorem roots_eq :
    ((render gameObjects transforms).lines.filter fun line => line.depth == 0).map
      HierarchyLine.transform = rootIds transforms := by
  obtain ⟨forest, hforest⟩ := exists_shownForest gameObjects transforms
  have hroots : (rootRecords transforms).map Transform.fileId = rootIds transforms := by
    rw [h.rootRecords_eq, rootIds]
  have hnodup : (rootIds transforms).Nodup :=
    h.nodup_transforms.sublist (List.filter_sublist.map Transform.fileId)
  refine eq_of_sublist_of_subset ?_ hnodup fun id hid => ?_
  · rw [hforest.lines_eq, Forest.filter_lines_depth, ← hroots]
    exact hforest.tops
  · obtain ⟨root, hroot, rfl⟩ := List.mem_map.mp hid
    obtain ⟨hmem, hfather⟩ := List.mem_filter.mp hroot
    obtain ⟨line, hline, heq⟩ := hforest.exists_line_iff.mpr (h.reachable hmem)
    have hgeneration : Generation transforms root 0 :=
      .root (by simpa [Transform.isRoot] using hfather)
    have hdepth := h.generation_unique (h.generation_depth hline hmem heq.symm) hgeneration
    exact List.mem_map.mpr ⟨line, List.mem_filter.mpr ⟨hline, by simp [hdepth]⟩, heq⟩

theorem recordOf?_gameObject_eq {owner : GameObject} (hmem : owner ∈ gameObjects) :
    recordOf? GameObject.fileId gameObjects owner.fileId = some owner := by
  rw [← mem_firstRecords_iff, firstRecords_of_nodup h.nodup_gameObjects]
  exact hmem

theorem name_of_line {line : HierarchyLine}
    (hline : line ∈ (render gameObjects transforms).lines) {transform : Transform}
    (hmem : transform ∈ transforms) (hid : transform.fileId = line.transform) :
    line.name = nameIn gameObjects transform := by
  obtain ⟨forest, hforest⟩ := exists_shownForest gameObjects transforms
  rw [hforest.lines_eq] at hline
  obtain ⟨node, hnode, heq, hname⟩ := Forest.name_of_mem_lines hline
  have hnodemem := mem_of_recordOf? (hforest.found node hnode)
  rw [hname, h.eq_of_fileId_eq hnodemem hmem (heq.trans hid.symm)]

/-- **A well-formed scene is dumped completely.** -/
theorem completeDump_render : CompleteDump gameObjects transforms (render gameObjects transforms) where
  faults_eq_nil := h.faults_eq_nil
  printed_once := h.perm_lines
  depth_iff := by
    intro line hline transform hmem hid generation
    have hdepth := h.generation_depth hline hmem hid
    exact ⟨fun hgeneration => h.generation_unique hgeneration hdepth, fun heq => heq ▸ hdepth⟩
  father_above := fun place hplace transform hmem hid => h.father_eq hplace hmem hid
  children_below := by
    intro line hline transform hmem hid
    rw [h.printedUnder_eq hline hmem hid, h.map_resolved_resolvedChildren hmem]
  roots_at_top := h.roots_eq
  name_eq := by
    intro line hline transform hmem hid
    rw [h.name_of_line hline hmem hid, nameIn]
    constructor
    · intro owner howner htarget
      simp [htarget, Reference.target?, h.recordOf?_gameObject_eq howner]
    · intro hmissing
      cases htarget : transform.gameObject with
      | unresolved cause => rfl
      | resolved target =>
          cases hfound : recordOf? GameObject.fileId gameObjects target with
          | none => simp [Reference.target?, hfound]
          | some owner =>
              have howner := hmissing owner (mem_of_recordOf? hfound)
              rw [htarget, id_eq_of_recordOf? hfound] at howner
              exact absurd rfl howner

end WellFormedScene

/-! ## Two trees, the children first -/

namespace TwoTrees

def gameObjects : List GameObject :=
  [⟨⟨"1"⟩, some "A", []⟩, ⟨⟨"2"⟩, none, []⟩]

/-- The children stand before their father; one of them belongs to a game object that is
missing, another to none. -/
def transforms : List Transform :=
  [⟨⟨"30"⟩, .resolved ⟨"3"⟩, [], .resolved ⟨"20"⟩⟩,
    ⟨⟨"40"⟩, .unresolved .absent, [], .resolved ⟨"20"⟩⟩,
    ⟨⟨"20"⟩, .resolved ⟨"2"⟩, [.resolved ⟨"40"⟩, .resolved ⟨"30"⟩], .resolved ⟨"10"⟩⟩,
    ⟨⟨"50"⟩, .resolved ⟨"1"⟩, [], .resolved FileId.root⟩,
    ⟨⟨"10"⟩, .resolved ⟨"1"⟩, [.resolved ⟨"20"⟩], .resolved FileId.root⟩]

theorem wellFormedScene : WellFormedScene gameObjects transforms where
  nodup_gameObjects := by decide
  nodup_transforms := by decide
  ne_root := by decide
  child_present := by decide
  count_child := by decide
  exists_generation := by
    have htop : Generation transforms transforms[4] 0 := .root rfl
    have hmiddle : Generation transforms transforms[2] 1 := .child (by decide) rfl htop
    have hother : Generation transforms transforms[3] 0 := .root rfl
    have hfirst : Generation transforms transforms[0] 2 := .child (by decide) rfl hmiddle
    have hsecond : Generation transforms transforms[1] 2 := .child (by decide) rfl hmiddle
    intro transform hmem
    simp only [transforms, List.mem_cons, List.not_mem_nil, or_false] at hmem
    rcases hmem with rfl | rfl | rfl | rfl | rfl
    · exact ⟨2, hfirst⟩
    · exact ⟨2, hsecond⟩
    · exact ⟨1, hmiddle⟩
    · exact ⟨0, hother⟩
    · exact ⟨0, htop⟩

theorem completeDump : WellFormedScene gameObjects transforms ∧
    CompleteDump gameObjects transforms (render gameObjects transforms) :=
  ⟨wellFormedScene, wellFormedScene.completeDump_render⟩

end TwoTrees

end SceneAudit
