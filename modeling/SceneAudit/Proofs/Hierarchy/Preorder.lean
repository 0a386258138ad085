import SceneAudit.Proofs.Hierarchy.Render

/-!
# The recursive preorder walk

The walk that rendering makes keeps its visits on a stack.  Here is the walk as
one would define it without thinking of memory: visiting a transform prints it
and then visits its children, one after the other, with one set of visited
transforms for all roots.  It works on the lists of records and knows neither
indexes nor stacks.

`render_refines_preorder` says that both print the same lines and report the
same revisits.

## Strategy

A visit of the recursive walk may grow the visited set, and the visits of later
siblings start from the grown set.  So `Preorder.visit` returns, with its
report, that nothing was forgotten; this is what makes the recursion end.

The simulation is by induction on the derivation of the run (`Walk.Grows`).  Its
invariant `Preorder.Agrees` relates what the two walks have done so far; that
there is nothing about pending visits in it is what `Walk.Grows` is for.
-/

namespace SceneAudit

namespace Preorder

/-- What a recursive walk has done so far; lines and revisits in order. -/
structure Report where
  visited : List FileId
  lines : List HierarchyLine
  revisits : List Fault

variable (gameObjects : List GameObject) (transforms : List Transform)

/-- The revisits that there are to report when a transform is visited again. -/
def revisitsOf (parent : Option FileId) (id : FileId) : List Fault :=
  match parent with
  | none => []
  | some parent => if OnReportedCycle transforms id then [] else [.revisit parent id]

/-- The number of records whose transform is not visited yet. -/
def unvisited (visited : List FileId) : Nat :=
  transforms.countP fun transform => transform.fileId ∉ visited

variable {transforms} in
theorem unvisited_mono {visited later : List FileId} (h : visited ⊆ later) :
    unvisited transforms later ≤ unvisited transforms visited := by
  refine List.countP_mono_left fun transform _ => ?_
  simp only [decide_eq_true_eq]
  exact fun hfresh hmem => hfresh (h hmem)

variable {transforms} in
theorem unvisited_cons_lt {visited : List FileId} {id : FileId} {transform : Transform}
    (hfound : recordOf? Transform.fileId transforms id = some transform) (hfresh : id ∉ visited) :
    unvisited transforms (id :: visited) < unvisited transforms visited := by
  have hid := id_eq_of_recordOf? hfound
  refine countP_lt_countP (fun other => ?_) (mem_of_recordOf? hfound) ?_ ?_
  · simp only [decide_eq_true_eq, List.mem_cons, not_or]
    exact fun h => h.2
  · simp [hid, hfresh]
  · simp [hid]

mutual

/-- Visits a transform: prints it and then visits its children.  If it was
visited before, all that may happen is a report, and a transform that the scene
does not have is skipped. -/
def visit (parent : Option FileId) (id : FileId) (depth : Nat) (report : Report) :
    { after : Report // report.visited ⊆ after.visited } :=
  match hfound : recordOf? Transform.fileId transforms id with
  | none => ⟨report, List.Subset.refl _⟩
  | some transform =>
      if hvisited : id ∈ report.visited then
        ⟨{ report with revisits := report.revisits ++ revisitsOf transforms parent id },
          List.Subset.refl _⟩
      else
        let after := visitChildren id transform.children (depth + 1)
          { report with
            visited := id :: report.visited
            lines := report.lines ++ [⟨depth, nameIn gameObjects transform, id⟩] }
        ⟨after.1, fun _ hmem => after.2 (List.mem_cons_of_mem _ hmem)⟩
termination_by (unvisited transforms report.visited, 0)
decreasing_by exact Prod.Lex.left _ _ (unvisited_cons_lt hfound hvisited)

/-- Visits the children from left to right; those that did not resolve are
skipped. -/
def visitChildren (parent : FileId) (children : List (Reference FileId)) (depth : Nat)
    (report : Report) : { after : Report // report.visited ⊆ after.visited } :=
  match children with
  | [] => ⟨report, List.Subset.refl _⟩
  | .unresolved _ :: children => visitChildren parent children depth report
  | .resolved child :: children =>
      let between := visit (some parent) child depth report
      let after := visitChildren parent children depth between.1
      ⟨after.1, List.Subset.trans between.2 after.2⟩
termination_by (unvisited transforms report.visited, children.length + 1)
decreasing_by
  · exact Prod.Lex.right _ (Nat.lt_succ_self _)
  · exact Prod.Lex.right _ (Nat.succ_pos _)
  · exact Prod.Lex.right' _ (unvisited_mono between.2) (Nat.lt_succ_self _)

end

/-- Visits the transforms without parent, in document order. -/
def walk : Report :=
  (rootRecords transforms).foldl
    (fun report root => (visit gameObjects transforms none root.fileId 0 report).1) ⟨[], [], []⟩

variable {gameObjects transforms}

/-! ## What one visit does -/

theorem visit_of_absent {id : FileId}
    (habsent : recordOf? Transform.fileId transforms id = none) (parent : Option FileId)
    (depth : Nat) (report : Report) :
    (visit gameObjects transforms parent id depth report).1 = report := by
  rw [visit]
  split
  · rfl
  · simp_all

theorem visit_of_visited {id : FileId} {transform : Transform} {report : Report}
    (hfound : recordOf? Transform.fileId transforms id = some transform)
    (hvisited : id ∈ report.visited) (parent : Option FileId) (depth : Nat) :
    (visit gameObjects transforms parent id depth report).1 =
      { report with revisits := report.revisits ++ revisitsOf transforms parent id } := by
  rw [visit]
  split
  · simp_all
  · rw [dif_pos hvisited]

theorem visit_of_fresh {id : FileId} {transform : Transform} {report : Report}
    (hfound : recordOf? Transform.fileId transforms id = some transform)
    (hfresh : id ∉ report.visited) (parent : Option FileId) (depth : Nat) :
    (visit gameObjects transforms parent id depth report).1 =
      (visitChildren gameObjects transforms id transform.children (depth + 1)
        { report with
          visited := id :: report.visited
          lines := report.lines ++ [⟨depth, nameIn gameObjects transform, id⟩] }).1 := by
  rw [visit]
  split
  · simp_all
  · rename_i other hother
    obtain rfl : other = transform := Option.some.inj (hother.symm.trans hfound)
    rw [dif_neg hfresh]

/-- Makes visits one after the other. -/
def visitAll (gameObjects : List GameObject) (transforms : List Transform) (visits : List Visit)
    (report : Report) : Report :=
  visits.foldl
    (fun report next => (visit gameObjects transforms next.parent next.transform next.depth report).1)
    report

/-- Visiting the children is making those of their visits that are not skipped. -/
theorem visitChildren_eq (parent : FileId) (children : List (Reference FileId)) (depth : Nat)
    (report : Report) :
    (visitChildren gameObjects transforms parent children depth report).1 =
      visitAll gameObjects transforms
        (((children.filterMap Reference.target?).filter
          (· ∈ transforms.map Transform.fileId)).map fun child => ⟨some parent, child, depth⟩)
        report := by
  induction children generalizing report with
  | nil =>
      rw [visitChildren]
      rfl
  | cons reference children ih =>
      cases reference with
      | unresolved cause =>
          rw [visitChildren, ih]
          rfl
      | resolved child =>
          rw [visitChildren, ih]
          rw [List.filterMap_cons_some (show (Reference.resolved child).target? = some child from rfl)]
          by_cases hpresent : child ∈ transforms.map Transform.fileId
          · rw [List.filter_cons_of_pos (by simpa using hpresent)]
            rfl
          · have habsent : recordOf? Transform.fileId transforms child = none := by
              rw [← isSome_recordOf?_iff] at hpresent
              simpa using hpresent
            rw [List.filter_cons_of_neg (by simpa using hpresent), visit_of_absent habsent]

/-! ## The simulation -/

/-- The run and the recursive walk have printed the same lines and reported the
same revisits. -/
structure Agrees (walk : Walk) (report : Report) : Prop where
  visited : ∀ id, id ∈ walk.printed ↔ id ∈ report.visited
  lines : walk.reversedLines.reverse = report.lines
  revisits : walk.reversedFaults.reverse = report.revisits

theorem agrees_start : Agrees .start ⟨[], [], []⟩ :=
  ⟨by simp [Walk.start], rfl, rfl⟩

theorem Agrees.revisit {walk : Walk} {report : Report} (h : Agrees walk report) (next : Visit) :
    Agrees (walk.revisit (sceneryOf gameObjects transforms) next)
      { report with
        revisits := report.revisits ++ revisitsOf transforms next.parent next.transform } := by
  refine ⟨h.visited, h.lines, ?_⟩
  have hreverse : ((sceneryOf gameObjects transforms).revisitFaults next).reverse =
      revisitsOf transforms next.parent next.transform := by
    unfold Walk.Scenery.revisitFaults revisitsOf
    cases next.parent with
    | none => rfl
    | some parent =>
        simp only [onCycle_sceneryOf_iff]
        split <;> rfl
  simp [Walk.revisit, hreverse, h.revisits]

theorem Agrees.print {walk : Walk} {report : Report} (h : Agrees walk report) (next : Visit)
    (transform : Transform) :
    Agrees (walk.print (sceneryOf gameObjects transforms) next transform)
      { report with
        visited := next.transform :: report.visited
        lines := report.lines ++
          [⟨next.depth, nameIn gameObjects transform, next.transform⟩] } := by
  refine ⟨fun id => ?_, ?_, h.revisits⟩
  · rw [Walk.mem_printed_print_iff, List.mem_cons, h.visited]
  · simp [Walk.print, h.lines, nameOf_sceneryOf]

/-- Making the same visits, the run and the recursive walk go on to agree. -/
theorem Agrees.grows {visits : List Visit} {before after : Walk} {forest : Forest}
    (hgrows : Walk.Grows (sceneryOf gameObjects transforms) visits before forest after)
    (hpresent : ∀ next ∈ visits, next.transform ∈ transforms.map Transform.fileId)
    {report : Report} (h : Agrees before report) :
    Agrees after (visitAll gameObjects transforms visits report) := by
  induction hgrows generalizing report with
  | done walk => exact h
  | @revisit next visits before after forest hprinted later ih =>
      obtain ⟨transform, hfound⟩ := Option.isSome_iff_exists.mp
        (isSome_recordOf?_iff.mpr (hpresent next List.mem_cons_self))
      have hvisited := (h.visited next.transform).mp hprinted
      rw [visitAll, List.foldl_cons, visit_of_visited hfound hvisited]
      exact ih (fun other hother => hpresent other (List.mem_cons_of_mem _ hother))
        (h.revisit next)
  | @absent next visits before after forest hfresh habsent later ih =>
      rw [getElem?_transforms_sceneryOf] at habsent
      rw [visitAll, List.foldl_cons, visit_of_absent habsent]
      exact ih (fun other hother => hpresent other (List.mem_cons_of_mem _ hother)) h
  | @print next visits before between after top below rest hfresh hfound inner later ihinner
      ihlater =>
      -- the visits below come first, and the recursion makes them as visits to the children
      have hid := keyed_sceneryOf gameObjects transforms hfound
      rw [getElem?_transforms_sceneryOf] at hfound
      rw [h.visited] at hfresh
      rw [visitAll, List.foldl_cons, visit_of_fresh hfound hfresh, visitChildren_eq]
      refine ihlater (fun other hother => hpresent other (List.mem_cons_of_mem _ hother)) ?_
      have hvisits : (sceneryOf gameObjects transforms).visitsBelow top next.depth =
          (presentChildren transforms top).map
            fun child => ⟨some next.transform, child, next.depth + 1⟩ := by
        rw [Walk.Scenery.visitsBelow_eq, childIds_sceneryOf, hid]
      rw [hvisits] at ihinner
      refine ihinner (fun other hother => ?_) (h.print next top)
      obtain ⟨child, hchild, rfl⟩ := List.mem_map.mp hother
      simpa using (List.mem_filter.mp hchild).2

theorem agrees_renderWalk (gameObjects : List GameObject) (transforms : List Transform) :
    Agrees (renderWalk gameObjects transforms) (walk gameObjects transforms) := by
  obtain ⟨forest, hgrows⟩ := exists_grows_render gameObjects transforms
  have hpresent : ∀ next ∈ initialVisits transforms,
      next.transform ∈ transforms.map Transform.fileId := by
    intro next hnext
    obtain ⟨root, hroot, rfl⟩ := List.mem_map.mp hnext
    exact List.mem_map_of_mem (mem_of_mem_firstRecords (List.mem_filter.mp hroot).1)
  have hwalk : walk gameObjects transforms =
      visitAll gameObjects transforms (initialVisits transforms) ⟨[], [], []⟩ := by
    simp [walk, visitAll, initialVisits, List.foldl_map]
  rw [hwalk]
  exact agrees_start.grows hgrows hpresent

end Preorder

/-! ## The refinement -/

/-- **The stack refines the recursion.**  Rendering prints the lines of the
recursive preorder walk and reports its revisits, each in order. -/
theorem render_refines_preorder (gameObjects : List GameObject) (transforms : List Transform) :
    (render gameObjects transforms).lines = (Preorder.walk gameObjects transforms).lines ∧
      (render gameObjects transforms).faults.filter Fault.isRevisit =
        (Preorder.walk gameObjects transforms).revisits := by
  have h := Preorder.agrees_renderWalk gameObjects transforms
  constructor
  · rw [render_eq]
    exact h.lines
  · rw [filter_isRevisit_faults]
    exact h.revisits

end SceneAudit
