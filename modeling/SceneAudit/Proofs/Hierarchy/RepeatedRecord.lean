import SceneAudit.Proofs.Hierarchy.Links

/-!
# What repeated records do to a rendered scene

A record whose file identifier an earlier record has is to count for nothing:
rendering a scene should give the same as rendering it without such records, and
one fault for each of them in addition.

For the lines this holds.  For the other faults it does not: the walk looks up
first records only, but the cycles are searched for among the child links of all
records.  So a record that was passed over can close a cycle that the walk never
meets, and this cycle both is reported and keeps revisits of its members from
being reported.  `render_eq_renderKept` says what the faults are in any case, and
that they are as they should be if and only if no two transforms are on a common
cycle because of repeated records.
-/

namespace SceneAudit

/-! ## The walk and the cycles -/

/-- Whether the fault says that a transform with the property was asked for
again. -/
def Fault.isRevisitOf (property : FileId → Bool) : Fault → Bool
  | .revisit _ child => property child
  | _ => false

namespace Walk

/-- The scenery where no transform is on a cycle. -/
def Scenery.withoutCycles (scenery : Scenery) : Scenery :=
  { scenery with onCycle := fun _ => false }

/-- The walk without the revisits that cycles explain. -/
def explain (onCycle : FileId → Bool) (walk : Walk) : Walk :=
  { walk with reversedFaults := walk.reversedFaults.filter fun fault => !fault.isRevisitOf onCycle }

@[simp] theorem reversedLines_explain (onCycle : FileId → Bool) (walk : Walk) :
    (walk.explain onCycle).reversedLines = walk.reversedLines :=
  rfl

@[simp] theorem reversedFaults_explain (onCycle : FileId → Bool) (walk : Walk) :
    (walk.explain onCycle).reversedFaults =
      walk.reversedFaults.filter fun fault => !fault.isRevisitOf onCycle :=
  rfl

theorem revisit_explain (scenery : Scenery) (walk : Walk) (visit : Visit) :
    (walk.explain scenery.onCycle).revisit scenery visit =
      (walk.revisit scenery.withoutCycles visit).explain scenery.onCycle := by
  obtain ⟨parent, transform, depth⟩ := visit
  cases parent with
  | none => rfl
  | some parent =>
      cases hcycle : scenery.onCycle transform <;>
        simp [explain, revisit, Scenery.revisitFaults, Scenery.withoutCycles, Fault.isRevisitOf,
          hcycle]

/-- Cycles do nothing to a walk but explain revisits. -/
theorem run_explain (scenery : Scenery) (visits : List Visit) (walk : Walk) :
    run scenery visits (walk.explain scenery.onCycle) =
      (run scenery.withoutCycles visits walk).explain scenery.onCycle := by
  induction visits, walk using run.induct scenery.withoutCycles with
  | case1 walk => rw [run_nil, run_nil]
  | case2 walk visit visits hprinted ih =>
      rw [run_cons_of_printed _ hprinted, run_cons_of_printed _ (by exact hprinted),
        revisit_explain, ih]
  | case3 walk visit visits hfresh habsent ih =>
      rw [run_cons_of_absent _ hfresh habsent,
        run_cons_of_absent _ (by exact hfresh) (by exact habsent), ih]
  | case4 walk visit visits hfresh top hfound ih =>
      rw [run_cons_of_found _ hfresh hfound,
        run_cons_of_found _ (by exact hfresh) (by exact hfound)]
      exact ih

end Walk

section Scene

variable (gameObjects : List GameObject) (transforms : List Transform)

/-- The scene without repeated records, rendered. -/
def renderKept : Hierarchy :=
  render (firstRecords GameObject.fileId gameObjects) (firstRecords Transform.fileId transforms)

/-- The walk that rendering would make if it knew of no cycles. -/
def plainWalk : Walk :=
  Walk.run (sceneryOf gameObjects transforms).withoutCycles (initialVisits transforms) .start

theorem renderWalk_eq_explain :
    renderWalk gameObjects transforms =
      (plainWalk gameObjects transforms).explain (sceneryOf gameObjects transforms).onCycle :=
  Walk.run_explain _ _ .start

/-! ## The scene without repeated records -/

theorem firstRecords_firstRecords {α : Type} {id : α → FileId} (records : List α) :
    firstRecords id (firstRecords id records) = firstRecords id records :=
  firstRecords_of_nodup (nodup_map_firstRecords records)

theorem plainWalk_firstRecords :
    plainWalk (firstRecords GameObject.fileId gameObjects)
        (firstRecords Transform.fileId transforms) = plainWalk gameObjects transforms := by
  have hvisits : initialVisits (firstRecords Transform.fileId transforms) =
      initialVisits transforms := by
    rw [initialVisits, rootRecords, firstRecords_firstRecords]
    rfl
  have hscenery : (sceneryOf (firstRecords GameObject.fileId gameObjects)
      (firstRecords Transform.fileId transforms)).withoutCycles =
        (sceneryOf gameObjects transforms).withoutCycles := by
    unfold sceneryOf scenery Walk.Scenery.withoutCycles
    rw [Index.ofList_firstRecords, Index.ofList_firstRecords]
    congr 1
  rw [plainWalk, plainWalk, hvisits, hscenery]

theorem presentChildren_firstRecords :
    presentChildren (firstRecords Transform.fileId transforms) = presentChildren transforms := by
  funext transform
  unfold presentChildren
  simp only [mem_map_firstRecords_iff]

variable {transforms}

theorem ChildLink.of_firstRecords {parent child : FileId}
    (h : ChildLink (firstRecords Transform.fileId transforms) parent child) :
    ChildLink transforms parent child := by
  obtain ⟨record, hrecord, hparent, hchild⟩ := h
  rw [presentChildren_firstRecords] at hchild
  exact ⟨record, mem_of_mem_firstRecords hrecord, hparent, hchild⟩

variable (transforms)

/-- A cycle that repeated records do not close is a cycle of the scene. -/
theorem OnReportedCycle.of_firstRecords {id : FileId}
    (h : OnReportedCycle (firstRecords Transform.fileId transforms) id) :
    OnReportedCycle transforms id := by
  rw [onReportedCycle_iff] at h ⊢
  exact Relation.TransGen.mono (fun _ _ => ChildLink.of_firstRecords) _ _ h

/-- The cycles are those of the scene without repeated records if and only if
repeated records put no two transforms on a common cycle. -/
theorem findCycles_eq_firstRecords_iff :
    findCycles transforms = findCycles (firstRecords Transform.fileId transforms) ↔
      ∀ first second, OnCommonCycle (ChildLink transforms) first second →
        OnCommonCycle (ChildLink (firstRecords Transform.fileId transforms)) first second := by
  rw [findCycles_eq_iff]
  refine forall₂_congr fun first second => ⟨Iff.mp, fun h => ⟨h, fun hcommon => ?_⟩⟩
  exact hcommon.mono fun _ _ => ChildLink.of_firstRecords

/-! ## The faults -/

/-- The faults that ask again for a transform on no reported cycle. -/
def unexplainedRevisits (faults : List Fault) : List Fault :=
  faults.filter fun fault =>
    fault.isRevisit && !fault.isRevisitOf fun id => OnReportedCycle transforms id

theorem duplicateFaults_firstRecords :
    duplicateFaults (firstRecords GameObject.fileId gameObjects)
      (firstRecords Transform.fileId transforms) = [] := by
  rw [duplicateFaults, repeatedRecords_of_nodup (nodup_map_firstRecords gameObjects),
    repeatedRecords_of_nodup (nodup_map_firstRecords transforms)]
  rfl

theorem onCycle_sceneryOf :
    (sceneryOf gameObjects transforms).onCycle = fun id => decide (OnReportedCycle transforms id) := by
  funext id
  rw [Bool.eq_iff_iff, onCycle_sceneryOf_iff, decide_eq_true_eq]

/-- The revisits of the walk are those that it would meet without knowing of
cycles, as far as no cycle explains them. -/
theorem reversedFaults_renderWalk :
    (renderWalk gameObjects transforms).reversedFaults =
      (plainWalk gameObjects transforms).reversedFaults.filter fun fault =>
        !fault.isRevisitOf fun id => OnReportedCycle transforms id := by
  rw [renderWalk_eq_explain, onCycle_sceneryOf, Walk.reversedFaults_explain]

/-- The revisits of a scene are those that it has without repeated records, as far
as its own cycles do not explain them. -/
theorem reverse_reversedFaults_renderWalk :
    (renderWalk gameObjects transforms).reversedFaults.reverse =
      unexplainedRevisits transforms (renderKept gameObjects transforms).faults := by
  simp only [renderKept, unexplainedRevisits, Bool.and_comm (Fault.isRevisit _)]
  rw [← List.filter_filter, filter_isRevisit_faults, reversedFaults_renderWalk,
    reversedFaults_renderWalk, plainWalk_firstRecords, List.filter_reverse, List.filter_filter]
  refine congrArg List.reverse (List.filter_congr fun fault _ => ?_)
  cases fault with
  | revisit parent child =>
      have hcycle : OnReportedCycle (firstRecords Transform.fileId transforms) child →
          OnReportedCycle transforms child := OnReportedCycle.of_firstRecords transforms
      by_cases h : OnReportedCycle transforms child
      · simp [Fault.isRevisitOf, h]
      · simp [Fault.isRevisitOf, h, mt hcycle h]
  | cycle members => rfl
  | duplicateFileId fileId tag => rfl
  | unterminatedBlock fileId tag headerLine => rfl

/-- Repeated records leave no trace in the lines. -/
theorem lines_renderKept :
    (renderKept gameObjects transforms).lines = (render gameObjects transforms).lines := by
  simp only [renderKept, render_eq, renderWalk_eq_explain, Walk.reversedLines_explain,
    plainWalk_firstRecords]

theorem faults_render_eq :
    (render gameObjects transforms).faults =
      duplicateFaults gameObjects transforms ++ ((findCycles transforms).map Fault.cycle ++
        unexplainedRevisits transforms (renderKept gameObjects transforms).faults) := by
  rw [← reverse_reversedFaults_renderWalk, render_eq]

/-- The other faults are those of the scene without repeated records if and only if
repeated records put no two transforms on a common cycle. -/
theorem faults_render_eq_append_iff :
    (render gameObjects transforms).faults =
        duplicateFaults gameObjects transforms ++ (renderKept gameObjects transforms).faults ↔
      ∀ first second, OnCommonCycle (ChildLink transforms) first second →
        OnCommonCycle (ChildLink (firstRecords Transform.fileId transforms)) first second := by
  rw [← findCycles_eq_firstRecords_iff]
  constructor
  · -- the cycles can be read off the faults
    intro h
    have hcycles := filter_isCycle_faults gameObjects transforms
    rw [h, List.filter_append, renderKept, filter_isCycle_faults] at hcycles
    have hduplicate : (duplicateFaults gameObjects transforms).filter Fault.isCycle = [] := by
      simp [duplicateFaults, List.filter_map, Function.comp_def, Fault.isCycle]
    rw [hduplicate, List.nil_append] at hcycles
    exact (List.map_injective_iff.mpr (fun _ _ => Fault.cycle.inj) hcycles).symm
  · -- and cycles are all that the faults depend on
    intro h
    have hrevisits : (renderWalk gameObjects transforms).reversedFaults =
        (renderWalk (firstRecords GameObject.fileId gameObjects)
          (firstRecords Transform.fileId transforms)).reversedFaults := by
      rw [reversedFaults_renderWalk, reversedFaults_renderWalk, plainWalk_firstRecords]
      simp only [OnReportedCycle, h]
    rw [render_eq, renderKept, render_eq, duplicateFaults_firstRecords, hrevisits, h,
      List.nil_append]

/-- **The first record wins**, but not in the search for cycles.

The lines are those of the scene without repeated records.  The faults are one for
each of these records, the cycles among the links of all records, and the revisits
of the scene without repeated records that these cycles do not explain.  So but for
the faults of repeated records they are those of the scene without repeated records
if and only if repeated records put no two transforms on a common cycle. -/
theorem render_eq_renderKept :
    (render gameObjects transforms).lines = (renderKept gameObjects transforms).lines ∧
      (render gameObjects transforms).faults =
        duplicateFaults gameObjects transforms ++ ((findCycles transforms).map Fault.cycle ++
          unexplainedRevisits transforms (renderKept gameObjects transforms).faults) ∧
      ((render gameObjects transforms).faults =
          duplicateFaults gameObjects transforms ++ (renderKept gameObjects transforms).faults ↔
        ∀ first second, OnCommonCycle (ChildLink transforms) first second →
          OnCommonCycle (ChildLink (firstRecords Transform.fileId transforms)) first second) :=
  ⟨(lines_renderKept gameObjects transforms).symm, faults_render_eq gameObjects transforms,
    faults_render_eq_append_iff gameObjects transforms⟩

end Scene

/-! ## A cycle that nothing but a repeated record closes -/

namespace ClosedByRepetition

/-- A root that lists its child twice; a second record of the child lists the root. -/
def transforms : List Transform :=
  [⟨⟨"10"⟩, .resolved ⟨"1"⟩, [.resolved ⟨"20"⟩, .resolved ⟨"20"⟩], .resolved FileId.root⟩,
    ⟨⟨"20"⟩, .resolved ⟨"2"⟩, [], .resolved ⟨"10"⟩⟩,
    ⟨⟨"20"⟩, .resolved ⟨"2"⟩, [.resolved ⟨"10"⟩], .resolved ⟨"10"⟩⟩]

def gameObjects : List GameObject :=
  [⟨⟨"1"⟩, some "A", []⟩, ⟨⟨"2"⟩, some "B", []⟩]

theorem onCommonCycle : OnCommonCycle (ChildLink transforms) ⟨"10"⟩ ⟨"20"⟩ := by
  constructor
  · exact .single ⟨transforms[0], by decide, rfl, by decide⟩
  · exact .single ⟨transforms[2], by decide, rfl, by decide⟩

theorem findCycles_firstRecords : findCycles (firstRecords Transform.fileId transforms) = [] :=
  findCycles_eq_nil_of_lt (fun id => if id = ⟨"20"⟩ then 1 else 0) (by decide)

/-- The other faults of this scene are not those of the scene without the
repeated record. -/
theorem not_first_record_wins :
    ¬ ((render gameObjects transforms).lines = (renderKept gameObjects transforms).lines ∧
        (render gameObjects transforms).faults =
          duplicateFaults gameObjects transforms ++ (renderKept gameObjects transforms).faults) := by
  rintro ⟨-, hfaults⟩
  have hcommon := (faults_render_eq_append_iff gameObjects transforms).mp hfaults _ _ onCommonCycle
  exact findCycles_eq_nil_iff.mp findCycles_firstRecords _ hcommon.refl_left.1

end ClosedByRepetition

end SceneAudit
