import SceneAudit.Proofs.Hierarchy.SpanningForest
import Mathlib.Data.List.Dedup
import Mathlib.Algebra.Order.BigOperators.Group.List
import Mathlib.Algebra.Order.Ring.Nat

/-!
# How many visits a walk makes

Each round of the walk takes one visit off the stack and may put others on it.  One
transform may be on the stack many times, so a round lowers neither the stack nor the
number of transforms that are left to print.  What can be counted is what is put on
the stack: the visits to the roots, and the visits below a transform when it is
printed, which happens once.

* `Walk.make` is one round, and `Walk.Empties` counts the rounds until the stack is
  empty; `Walk.Empties.run_eq` says that they are those of `Walk.run`.
* `Walk.Grows.empties`: a derivation makes the visits that it was given and those
  below the transforms of its forest.
* `Walk.emptiesEach_iff`: it makes no difference whether all roots share a stack or
  each has a stack of its own.
* `render_hasBoundedWalk`: the count for a scene, and bounds on it that can be read off the
  records.
-/

namespace SceneAudit

namespace Walk

variable (scenery : Scenery)

/-! ## Rounds -/

/-- Makes a visit: what it puts on the stack, and the walk after it. -/
def make (visit : Visit) (walk : Walk) : List Visit × Walk :=
  if visit.transform ∈ walk.printed then
    ([], walk.revisit scenery visit)
  else
    match scenery.transforms[visit.transform]? with
    | none => ([], walk)
    | some top => (scenery.visitsBelow top visit.depth, walk.print scenery visit top)

theorem make_of_printed {visit : Visit} {walk : Walk} (hprinted : visit.transform ∈ walk.printed) :
    make scenery visit walk = ([], walk.revisit scenery visit) :=
  if_pos hprinted

theorem make_of_absent {visit : Visit} {walk : Walk} (hfresh : visit.transform ∉ walk.printed)
    (habsent : scenery.transforms[visit.transform]? = none) :
    make scenery visit walk = ([], walk) := by
  rw [make, if_neg hfresh, habsent]

theorem make_of_found {visit : Visit} {walk : Walk} {top : Transform}
    (hfresh : visit.transform ∉ walk.printed)
    (hfound : scenery.transforms[visit.transform]? = some top) :
    make scenery visit walk =
      (scenery.visitsBelow top visit.depth, walk.print scenery visit top) := by
  rw [make, if_neg hfresh, hfound]

/-- A run is one round after the other. -/
theorem run_cons (visit : Visit) (stack : List Visit) (walk : Walk) :
    run scenery (visit :: stack) walk =
      run scenery ((make scenery visit walk).1 ++ stack) (make scenery visit walk).2 := by
  by_cases hprinted : visit.transform ∈ walk.printed
  · rw [run_cons_of_printed scenery hprinted, make_of_printed scenery hprinted, List.nil_append]
  · cases hfound : scenery.transforms[visit.transform]? with
    | none =>
        rw [run_cons_of_absent scenery hprinted hfound, make_of_absent scenery hprinted hfound,
          List.nil_append]
    | some top => rw [run_cons_of_found scenery hprinted hfound, make_of_found scenery hprinted hfound]

/-- So many visits are taken off the stack until it is empty, which leads from one walk to
another. -/
inductive Empties : List Visit → Walk → Nat → Walk → Prop
  | done (walk : Walk) : Empties [] walk 0 walk
  | pop {visit : Visit} {stack : List Visit} {before after : Walk} {pops : Nat}
      (later : Empties ((make scenery visit before).1 ++ stack) (make scenery visit before).2
        pops after) :
      Empties (visit :: stack) before (pops + 1) after

/-- So many visits are made in all, if every one of `visits` starts with a stack of its own. -/
inductive EmptiesEach : List Visit → Walk → Nat → Walk → Prop
  | done (walk : Walk) : EmptiesEach [] walk 0 walk
  | next {visit : Visit} {visits : List Visit} {before between after : Walk} {pops more : Nat}
      (own : Empties scenery [visit] before pops between)
      (later : EmptiesEach visits between more after) :
      EmptiesEach (visit :: visits) before (pops + more) after

variable {scenery} {stack front back visits : List Visit} {before between after other : Walk}
  {pops more : Nat}

namespace Empties

/-- The rounds are those of the run. -/
theorem run_eq (h : Empties scenery stack before pops after) : run scenery stack before = after := by
  induction h with
  | done walk => exact run_nil scenery walk
  | pop later ih => rw [run_cons, ih]

/-- No other number of visits empties the stack. -/
theorem pops_unique (h : Empties scenery stack before pops after)
    (hother : Empties scenery stack before more other) : pops = more := by
  induction h generalizing more other with
  | done walk =>
      cases hother
      rfl
  | pop later ih =>
      cases hother with
      | pop hother => rw [ih hother]

/-- What lies deeper in the stack waits until all above it is gone. -/
theorem append (hfront : Empties scenery front before pops between)
    (hback : Empties scenery back between more after) :
    Empties scenery (front ++ back) before (pops + more) after := by
  induction hfront with
  | done walk => rwa [List.nil_append, Nat.zero_add]
  | pop later ih =>
      rw [List.cons_append, Nat.add_right_comm]
      apply pop
      rw [← List.append_assoc]
      exact ih hback

theorem split (h : Empties scenery (front ++ back) before pops after) :
    ∃ between first second, Empties scenery front before first between ∧
      Empties scenery back between second after ∧ pops = first + second := by
  generalize hstack : front ++ back = stack at h
  induction h generalizing front with
  | done walk =>
      obtain ⟨rfl, rfl⟩ := List.append_eq_nil_iff.mp hstack
      exact ⟨walk, 0, 0, done walk, done walk, rfl⟩
  | @pop visit stack before after pops later ih =>
      cases front with
      | nil =>
          rw [List.nil_append] at hstack
          subst hstack
          exact ⟨before, 0, pops + 1, done before, later.pop, (Nat.zero_add _).symm⟩
      | cons first front =>
          obtain ⟨rfl, rfl⟩ := List.cons.inj hstack
          obtain ⟨between, firsts, seconds, hfront, hback, rfl⟩ := ih (List.append_assoc _ _ _)
          exact ⟨between, firsts + 1, seconds, hfront.pop, hback, Nat.add_right_comm _ _ _⟩

end Empties

/-- Stacks of their own make the same visits as one stack for all. -/
theorem emptiesEach_iff :
    EmptiesEach scenery visits before pops after ↔ Empties scenery visits before pops after := by
  constructor
  · intro h
    induction h with
    | done walk => exact .done walk
    | next own later ih => exact own.append ih
  · intro h
    induction visits generalizing before pops with
    | nil =>
        cases h
        exact .done after
    | cons visit visits ih =>
        rw [← List.singleton_append] at h
        obtain ⟨between, first, second, hown, hlater, rfl⟩ := h.split
        exact .next hown (ih hlater)

/-! ## Counting the visits of a derivation -/

/-- The number of visits that printing the transforms puts on the stack. -/
def Scenery.visitsPut (scenery : Scenery) (nodes : List Transform) : Nat :=
  (nodes.map fun node => (scenery.childIds node).length).sum

/-- A derivation makes the visits that it was given, and those below what it prints. -/
theorem Grows.empties {forest : Forest} (h : Grows scenery visits before forest after) :
    Empties scenery visits before (visits.length + scenery.visitsPut forest.nodes) after := by
  induction h with
  | done walk => exact .done walk
  | @revisit visit visits before after forest hprinted later ih =>
      rw [List.length_cons, Nat.add_right_comm]
      apply Empties.pop
      rwa [make_of_printed scenery hprinted, List.nil_append]
  | @absent visit visits before after forest hfresh habsent later ih =>
      rw [List.length_cons, Nat.add_right_comm]
      apply Empties.pop
      rwa [make_of_absent scenery hfresh habsent, List.nil_append]
  | @print visit visits before between after top below rest hfresh hfound inner later ihinner ihlater =>
      have hput : (visit :: visits).length +
            scenery.visitsPut (Forest.tree top below rest).nodes =
          ((scenery.visitsBelow top visit.depth).length + scenery.visitsPut below.nodes) +
            (visits.length + scenery.visitsPut rest.nodes) + 1 := by
        simp only [Scenery.visitsPut, Forest.nodes, Scenery.visitsBelow_eq, List.length_cons,
          List.length_map, List.map_cons, List.map_append, List.sum_cons, List.sum_append]
        omega
      rw [hput]
      apply Empties.pop
      rw [make_of_found scenery hfresh hfound]
      exact ihinner.append ihlater

end Walk

/-! ## The visits of a scene -/

variable (gameObjects : List GameObject) (transforms : List Transform)

/-- The number of child entries of a transform that lead to transforms of the scene. -/
def entryCount (id : FileId) : Nat :=
  ((recordOf? Transform.fileId transforms id).map fun record =>
    (presentChildren transforms record).length).getD 0

/-- One visit for every root, and one for every such entry of a transform that is printed. -/
def visitCount : Nat :=
  (rootRecords transforms).length +
    ((render gameObjects transforms).lines.map fun line => entryCount transforms line.transform).sum

/-- The walk that gives the lines and the revisits of a scene ends after a number of visits that
the records bound. -/
structure HasBoundedWalk : Prop where
  /-- Taking visits off the stack ends, after so many visits and with the walk of the scene. -/
  pops_iff : ∀ pops walk,
    Walk.EmptiesEach (sceneryOf gameObjects transforms) (initialVisits transforms) .start pops walk ↔
      pops = visitCount gameObjects transforms ∧ walk = renderWalk gameObjects transforms
  /-- So it does if all roots are on one stack. -/
  pops_together_iff : ∀ pops walk,
    Walk.Empties (sceneryOf gameObjects transforms) (initialVisits transforms) .start pops walk ↔
      pops = visitCount gameObjects transforms ∧ walk = renderWalk gameObjects transforms
  lines_eq : (render gameObjects transforms).lines =
    (renderWalk gameObjects transforms).reversedLines.reverse
  revisits_eq : (render gameObjects transforms).faults.filter Fault.isRevisit =
    (renderWalk gameObjects transforms).reversedFaults.reverse
  /-- There is at most one line for every file identifier. -/
  length_lines_le :
    (render gameObjects transforms).lines.length ≤ (transforms.map Transform.fileId).dedup.length
  /-- There is at most one visit for every record and for every entry in it. -/
  visitCount_le : visitCount gameObjects transforms ≤
    transforms.length + (transforms.map fun transform => transform.children.length).sum

variable {gameObjects transforms}

theorem entryCount_of_found {node : Transform}
    (hfound : recordOf? Transform.fileId transforms node.fileId = some node) :
    entryCount transforms node.fileId = (presentChildren transforms node).length := by
  rw [entryCount, hfound, Option.map_some, Option.getD_some]

namespace ShownForest

variable {forest : Forest} (h : ShownForest gameObjects transforms forest)

include h

theorem map_transform_lines :
    (render gameObjects transforms).lines.map HierarchyLine.transform = forest.ids := by
  rw [h.lines_eq, Forest.map_transform_lines]

/-- The entries are those of the transforms of the forest. -/
theorem visitCount_eq :
    visitCount gameObjects transforms =
      (initialVisits transforms).length +
        (sceneryOf gameObjects transforms).visitsPut forest.nodes := by
  have hcounts : (render gameObjects transforms).lines.map
        (fun line => entryCount transforms line.transform) =
      forest.nodes.map fun node => (presentChildren transforms node).length := by
    calc (render gameObjects transforms).lines.map (fun line => entryCount transforms line.transform)
      _ = ((render gameObjects transforms).lines.map HierarchyLine.transform).map
            (entryCount transforms) := by rw [List.map_map]; rfl
      _ = forest.nodes.map fun node => entryCount transforms node.fileId := by
            rw [h.map_transform_lines, Forest.ids, List.map_map]; rfl
      _ = _ := List.map_congr_left fun node hnode => entryCount_of_found (h.found node hnode)
  rw [visitCount, hcounts, Walk.Scenery.visitsPut, childIds_sceneryOf, initialVisits, List.length_map]

/-- No record is printed twice. -/
theorem nodes_subperm : forest.nodes.Subperm transforms := by
  have hnodup : forest.nodes.Nodup := List.Nodup.of_map Transform.fileId h.nodup
  exact List.subperm_of_subset hnodup fun node hnode => mem_of_recordOf? (h.found node hnode)

theorem ids_subperm : forest.ids.Subperm (transforms.map Transform.fileId).dedup := by
  refine List.subperm_of_subset h.nodup fun id hid => List.mem_dedup.mpr ?_
  obtain ⟨node, hnode, rfl⟩ := Forest.mem_ids_iff.mp hid
  exact List.mem_map_of_mem (mem_of_recordOf? (h.found node hnode))

end ShownForest

theorem length_presentChildren_le (transform : Transform) :
    (presentChildren transforms transform).length ≤ transform.children.length :=
  (List.length_filter_le _ _).trans (List.length_filterMap_le _ _)

/-- Records that are printed once have no more entries than all records. -/
theorem visitsPut_le {nodes : List Transform} (hnodes : nodes.Subperm transforms) :
    (sceneryOf gameObjects transforms).visitsPut nodes ≤
      (transforms.map fun transform => transform.children.length).sum := by
  obtain ⟨kept, hperm, hsublist⟩ := hnodes
  calc (sceneryOf gameObjects transforms).visitsPut nodes
    _ = (nodes.map fun node => (presentChildren transforms node).length).sum := by
          rw [Walk.Scenery.visitsPut, childIds_sceneryOf]
    _ ≤ (nodes.map fun node => node.children.length).sum :=
          List.sum_le_sum fun node _ => length_presentChildren_le node
    _ = (kept.map fun node => node.children.length).sum := (hperm.map _).sum_eq.symm
    _ ≤ _ := (hsublist.map _).sum_le_sum fun _ _ => Nat.zero_le _

theorem length_rootRecords_le : (rootRecords transforms).length ≤ transforms.length := by
  have hfirst : (firstRecords Transform.fileId transforms).length ≤ transforms.length := by
    calc (firstRecords Transform.fileId transforms).length
      _ ≤ (markFirst Transform.fileId [] transforms).length := by
            rw [firstRecords, List.length_map]
            exact List.length_filter_le _ _
      _ = transforms.length := by
            rw [← List.length_map Prod.fst, map_fst_markFirst]
  exact (List.length_filter_le _ _).trans hfirst

/-- **The walk of every scene is bounded.**  It makes one visit for each root and each child
entry of what it prints, cycles or not, and prints no file identifier twice. -/
theorem render_hasBoundedWalk (gameObjects : List GameObject) (transforms : List Transform) :
    HasBoundedWalk gameObjects transforms := by
  obtain ⟨forest, hgrows⟩ := exists_grows_render gameObjects transforms
  have hforest := shownForest_of_grows hgrows
  have hempties := hgrows.empties
  rw [← hforest.visitCount_eq] at hempties
  have htogether : ∀ pops walk, Walk.Empties (sceneryOf gameObjects transforms)
      (initialVisits transforms) .start pops walk ↔
        pops = visitCount gameObjects transforms ∧ walk = renderWalk gameObjects transforms := by
    intro pops walk
    constructor
    · intro h
      exact ⟨h.pops_unique hempties, h.run_eq.symm⟩
    · rintro ⟨rfl, rfl⟩
      exact hempties
  refine ⟨fun pops walk => Walk.emptiesEach_iff.trans (htogether pops walk), htogether, ?_,
    filter_isRevisit_faults gameObjects transforms, ?_, ?_⟩
  · rw [render_eq]
  · rw [← List.length_map HierarchyLine.transform, hforest.map_transform_lines]
    exact hforest.ids_subperm.length_le
  · rw [hforest.visitCount_eq, initialVisits, List.length_map]
    exact Nat.add_le_add length_rootRecords_le (visitsPut_le hforest.nodes_subperm)

end SceneAudit
