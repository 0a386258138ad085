import SceneAudit.Proofs.Hierarchy.Forest

/-!
# The walk as a derivation

`Walk.run` works off a stack.  This file takes the stack away: the visits in the
back wait until those in front are done, so the visits below a transform are a
walk of their own.  `Walk.Grows` records this as a derivation, whose rules are
the three ways in which a visit ends; what grows in it is the forest that the
new lines show.

* `grows_run`: every run has a derivation.
* `Grows.reversedLines_eq`: the new lines are those of the forest.
* `Grows.mem_printed_iff` and `Grows.nodup_ids`: the transforms printed anew are
  those of the forest, each of them once.
* `Grows.tops_sublist` and `Grows.spans`: trees stand in the order of the
  visits, at the top and below every transform.
* `Grows.printed_of_mem` and `Grows.printed_below`: no visit is forgotten.

The later developments reason by induction on derivations only.
-/

namespace SceneAudit

/-- Whether the fault says that a transform was asked for again. -/
def Fault.isRevisit : Fault → Bool
  | .revisit .. => true
  | _ => false

namespace Walk

variable (scenery : Scenery)

/-! ## Running a stack in two parts -/

@[simp] theorem run_nil (walk : Walk) : run scenery [] walk = walk := by
  rw [run]

theorem run_cons_of_printed {visit : Visit} {walk : Walk}
    (hprinted : visit.transform ∈ walk.printed) (visits : List Visit) :
    run scenery (visit :: visits) walk = run scenery visits (walk.revisit scenery visit) := by
  rw [run, dif_pos hprinted]

theorem run_cons_of_absent {visit : Visit} {walk : Walk}
    (hfresh : visit.transform ∉ walk.printed)
    (habsent : scenery.transforms[visit.transform]? = none) (visits : List Visit) :
    run scenery (visit :: visits) walk = run scenery visits walk := by
  rw [run, dif_neg hfresh]
  split
  · rfl
  · simp_all

theorem run_cons_of_found {visit : Visit} {walk : Walk} {top : Transform}
    (hfresh : visit.transform ∉ walk.printed)
    (hfound : scenery.transforms[visit.transform]? = some top) (visits : List Visit) :
    run scenery (visit :: visits) walk =
      run scenery (scenery.visitsBelow top visit.depth ++ visits)
        (walk.print scenery visit top) := by
  rw [run, dif_neg hfresh]
  split <;> simp_all

/-! ## Derivations -/

/-- Making the visits one after the other leads from one walk to another and
prints a forest. -/
inductive Grows : List Visit → Walk → Forest → Walk → Prop
  | done (walk : Walk) : Grows [] walk .empty walk
  | revisit {visit : Visit} {visits : List Visit} {before after : Walk} {forest : Forest}
      (hprinted : visit.transform ∈ before.printed)
      (later : Grows visits (before.revisit scenery visit) forest after) :
      Grows (visit :: visits) before forest after
  | absent {visit : Visit} {visits : List Visit} {before after : Walk} {forest : Forest}
      (hfresh : visit.transform ∉ before.printed)
      (habsent : scenery.transforms[visit.transform]? = none)
      (later : Grows visits before forest after) :
      Grows (visit :: visits) before forest after
  | print {visit : Visit} {visits : List Visit} {before between after : Walk} {top : Transform}
      {below rest : Forest}
      (hfresh : visit.transform ∉ before.printed)
      (hfound : scenery.transforms[visit.transform]? = some top)
      (inner : Grows (scenery.visitsBelow top visit.depth) (before.print scenery visit top)
        below between)
      (later : Grows visits between rest after) :
      Grows (visit :: visits) before (.tree top below rest) after

variable {scenery}

/-- The visits in the back wait for those in front and all that follows from
them. -/
theorem Grows.split {front back : List Visit} {before after : Walk} {forest : Forest}
    (h : Grows scenery (front ++ back) before forest after) :
    ∃ between first second, Grows scenery front before first between ∧
      Grows scenery back between second after := by
  induction front generalizing before forest with
  | nil => exact ⟨before, .empty, forest, .done before, h⟩
  | cons visit front ih =>
      cases h with
      | revisit hprinted later =>
          obtain ⟨between, first, second, hfront, hback⟩ := ih later
          exact ⟨between, first, second, .revisit hprinted hfront, hback⟩
      | absent hfresh habsent later =>
          obtain ⟨between, first, second, hfront, hback⟩ := ih later
          exact ⟨between, first, second, .absent hfresh habsent hfront, hback⟩
      | print hfresh hfound inner later =>
          obtain ⟨between, first, second, hfront, hback⟩ := ih later
          exact ⟨between, _, second, .print hfresh hfound inner hfront, hback⟩

theorem grows_run (visits : List Visit) (walk : Walk) :
    ∃ forest, Grows scenery visits walk forest (run scenery visits walk) := by
  induction visits, walk using run.induct scenery with
  | case1 walk => exact ⟨.empty, by rw [run_nil]; exact .done walk⟩
  | case2 walk visit visits hprinted ih =>
      obtain ⟨forest, h⟩ := ih
      rw [run_cons_of_printed scenery hprinted]
      exact ⟨forest, .revisit hprinted h⟩
  | case3 walk visit visits hfresh habsent ih =>
      obtain ⟨forest, h⟩ := ih
      rw [run_cons_of_absent scenery hfresh habsent]
      exact ⟨forest, .absent hfresh habsent h⟩
  | case4 walk visit visits hfresh top hfound ih =>
      obtain ⟨forest, h⟩ := ih
      obtain ⟨between, below, rest, hinner, hlater⟩ := h.split
      -- the stack goes on with the visits below and then with those that were there before
      rw [run_cons_of_found scenery hfresh hfound]
      exact ⟨.tree top below rest, .print hfresh hfound hinner hlater⟩

/-! ## What grows -/

/-- The children of a transform that the walk looks at: those that resolve to a
transform of the scene. -/
def Scenery.childIds (scenery : Scenery) (transform : Transform) : List FileId :=
  transform.resolvedChildren.filter (· ∈ scenery.transforms)

/-- Every transform is found under its own file identifier. -/
def Scenery.Keyed (scenery : Scenery) : Prop :=
  ∀ {id : FileId} {transform : Transform},
    scenery.transforms[id]? = some transform → transform.fileId = id

theorem Scenery.visitsBelow_eq (transform : Transform) (depth : Nat) :
    scenery.visitsBelow transform depth =
      (scenery.childIds transform).map fun child => ⟨some transform.fileId, child, depth + 1⟩ :=
  rfl

theorem Scenery.map_transform_visitsBelow (transform : Transform) (depth : Nat) :
    (scenery.visitsBelow transform depth).map Visit.transform = scenery.childIds transform := by
  simp [visitsBelow_eq, Function.comp_def]

theorem Scenery.depth_of_mem_visitsBelow {transform : Transform} {depth : Nat} {visit : Visit}
    (h : visit ∈ scenery.visitsBelow transform depth) : visit.depth = depth + 1 := by
  rw [visitsBelow_eq, List.mem_map] at h
  obtain ⟨child, -, rfl⟩ := h
  rfl

theorem Scenery.isRevisit_of_mem_revisitFaults {visit : Visit} {fault : Fault}
    (h : fault ∈ scenery.revisitFaults visit) : fault.isRevisit := by
  unfold revisitFaults at h
  split at h
  · simp at h
  · split at h
    · simp at h
    · rw [List.mem_singleton.mp h]
      rfl

theorem mem_printed_print_iff {walk : Walk} {visit : Visit} {transform : Transform} {id : FileId} :
    id ∈ (walk.print scenery visit transform).printed ↔
      id = visit.transform ∨ id ∈ walk.printed := by
  rw [print, Std.HashSet.mem_insert, beq_iff_eq, eq_comm]

namespace Grows

variable {visits : List Visit} {before after : Walk} {forest : Forest}

theorem mem_printed_iff (h : Grows scenery visits before forest after) (hkeyed : scenery.Keyed)
    {id : FileId} : id ∈ after.printed ↔ id ∈ before.printed ∨ id ∈ forest.ids := by
  induction h with
  | done walk => simp
  | revisit hprinted later ih => exact ih
  | absent hfresh habsent later ih => exact ih
  | print hfresh hfound inner later ihinner ihlater =>
      rw [ihlater, ihinner, mem_printed_print_iff, Forest.ids_tree, hkeyed hfound, List.mem_cons,
        List.mem_append, or_comm (a := id = _), or_assoc, or_assoc]

theorem mem_printed_of_mem (h : Grows scenery visits before forest after) (hkeyed : scenery.Keyed)
    {id : FileId} (hid : id ∈ before.printed) : id ∈ after.printed :=
  (h.mem_printed_iff hkeyed).mpr (.inl hid)

/-- No transform is printed twice, nor one that was printed before. -/
theorem nodup_ids (h : Grows scenery visits before forest after) (hkeyed : scenery.Keyed) :
    forest.ids.Nodup ∧ ∀ id ∈ forest.ids, id ∉ before.printed := by
  induction h with
  | done walk => simp
  | revisit hprinted later ih => exact ih
  | absent hfresh habsent later ih => exact ih
  | @print visit visits before between after top below rest hfresh hfound inner later ihinner
      ihlater =>
      -- what is printed below, and then after it, was not printed before
      have hid := hkeyed hfound
      have hbetween : ∀ id, id ∈ between.printed ↔
          (id = visit.transform ∨ id ∈ before.printed) ∨ id ∈ below.ids := by
        intro id
        rw [inner.mem_printed_iff hkeyed, mem_printed_print_iff]
      have hbelow : ∀ id ∈ below.ids, id ≠ visit.transform ∧ id ∉ before.printed := by
        intro id hmem
        have hfresh := ihinner.2 id hmem
        rw [mem_printed_print_iff, not_or] at hfresh
        exact hfresh
      have hrest : ∀ id ∈ rest.ids,
          id ≠ visit.transform ∧ id ∉ before.printed ∧ id ∉ below.ids := by
        intro id hmem
        have hfresh := ihlater.2 id hmem
        rw [hbetween, not_or, not_or, and_assoc] at hfresh
        exact hfresh
      rw [Forest.ids_tree, hid]
      constructor
      · rw [List.nodup_cons, List.nodup_append, List.mem_append, not_or]
        refine ⟨⟨fun hmem => (hbelow _ hmem).1 rfl, fun hmem => (hrest _ hmem).1 rfl⟩,
          ihinner.1, ihlater.1, ?_⟩
        rintro id hmem other hother rfl
        exact (hrest id hother).2.2 hmem
      · intro id hmem
        rcases List.mem_cons.mp hmem with rfl | hmem
        · exact hfresh
        · rcases List.mem_append.mp hmem with hmem | hmem
          · exact (hbelow id hmem).2
          · exact (hrest id hmem).2.1

theorem reversedLines_eq (h : Grows scenery visits before forest after) (hkeyed : scenery.Keyed)
    {depth : Nat} (hdepth : ∀ visit ∈ visits, visit.depth = depth) :
    after.reversedLines =
      (forest.lines scenery.nameOf depth).reverse ++ before.reversedLines := by
  induction h generalizing depth with
  | done walk => rfl
  | revisit hprinted later ih =>
      exact ih fun visit hvisit => hdepth visit (List.mem_cons_of_mem _ hvisit)
  | absent hfresh habsent later ih =>
      exact ih fun visit hvisit => hdepth visit (List.mem_cons_of_mem _ hvisit)
  | print hfresh hfound inner later ihinner ihlater =>
      obtain rfl := hdepth _ List.mem_cons_self
      rw [ihlater fun visit hvisit => hdepth visit (List.mem_cons_of_mem _ hvisit),
        ihinner fun visit hvisit => Scenery.depth_of_mem_visitsBelow hvisit]
      simp [Forest.lines, Walk.print, hkeyed hfound]

theorem tops_sublist (h : Grows scenery visits before forest after) (hkeyed : scenery.Keyed) :
    (forest.tops.map Transform.fileId).Sublist (visits.map Visit.transform) := by
  induction h with
  | done walk => exact .slnil
  | revisit hprinted later ih => exact ih.cons _
  | absent hfresh habsent later ih => exact ih.cons _
  | print hfresh hfound inner later _ ihlater =>
      rw [Forest.tops, List.map_cons, List.map_cons, hkeyed hfound]
      exact ihlater.cons_cons _

/-- Below every transform stand some of its children, in their order. -/
theorem spans (h : Grows scenery visits before forest after) (hkeyed : scenery.Keyed) :
    forest.Spans scenery.childIds := by
  induction h with
  | done walk => trivial
  | revisit hprinted later ih => exact ih
  | absent hfresh habsent later ih => exact ih
  | print hfresh hfound inner later ihinner ihlater =>
      refine ⟨?_, ihinner, ihlater⟩
      rw [← Scenery.map_transform_visitsBelow]
      exact inner.tops_sublist hkeyed

/-- Every transform of the forest is the one that its file identifier finds. -/
theorem found_of_mem_nodes (h : Grows scenery visits before forest after) (hkeyed : scenery.Keyed)
    {node : Transform} (hnode : node ∈ forest.nodes) :
    scenery.transforms[node.fileId]? = some node := by
  induction h with
  | done walk => simp [Forest.nodes] at hnode
  | revisit hprinted later ih => exact ih hnode
  | absent hfresh habsent later ih => exact ih hnode
  | print hfresh hfound inner later ihinner ihlater =>
      simp only [Forest.nodes, List.mem_cons, List.mem_append] at hnode
      rcases hnode with rfl | hnode | hnode
      · rw [hkeyed hfound, hfound]
      · exact ihinner hnode
      · exact ihlater hnode

/-- Afterwards every visit to a transform of the scene has been made. -/
theorem printed_of_mem (h : Grows scenery visits before forest after) (hkeyed : scenery.Keyed)
    {visit : Visit} (hvisit : visit ∈ visits) (hpresent : visit.transform ∈ scenery.transforms) :
    visit.transform ∈ after.printed := by
  induction h with
  | done walk => simp at hvisit
  | revisit hprinted later ih =>
      rcases List.mem_cons.mp hvisit with rfl | hvisit
      · exact later.mem_printed_of_mem hkeyed hprinted
      · exact ih hvisit
  | absent hfresh habsent later ih =>
      rcases List.mem_cons.mp hvisit with rfl | hvisit
      · rw [Std.HashMap.mem_iff_isSome_getElem?, habsent] at hpresent
        simp at hpresent
      · exact ih hvisit
  | print hfresh hfound inner later _ ihlater =>
      rcases List.mem_cons.mp hvisit with rfl | hvisit
      · exact later.mem_printed_of_mem hkeyed
          (inner.mem_printed_of_mem hkeyed (mem_printed_print_iff.mpr (.inl rfl)))
      · exact ihlater hvisit

/-- Afterwards the children of every new transform have been visited. -/
theorem printed_below (h : Grows scenery visits before forest after) (hkeyed : scenery.Keyed)
    {node : Transform} (hnode : node ∈ forest.nodes) {child : FileId}
    (hchild : child ∈ scenery.childIds node) : child ∈ after.printed := by
  induction h with
  | done walk => simp [Forest.nodes] at hnode
  | revisit hprinted later ih => exact ih hnode
  | absent hfresh habsent later ih => exact ih hnode
  | @print visit visits before between after top below rest hfresh hfound inner later ihinner
      ihlater =>
      simp only [Forest.nodes, List.mem_cons, List.mem_append] at hnode
      rcases hnode with rfl | hnode | hnode
      · have hvisit : (⟨some node.fileId, child, visit.depth + 1⟩ : Visit) ∈
            scenery.visitsBelow node visit.depth := List.mem_map_of_mem hchild
        have hpresent : child ∈ scenery.transforms := by
          simpa using (List.mem_filter.mp hchild).2
        exact later.mem_printed_of_mem hkeyed (inner.printed_of_mem hkeyed hvisit hpresent)
      · exact later.mem_printed_of_mem hkeyed (ihinner hnode)
      · exact ihlater hnode

theorem isRevisit_of_mem (h : Grows scenery visits before forest after) {fault : Fault}
    (hfault : fault ∈ after.reversedFaults) :
    fault ∈ before.reversedFaults ∨ fault.isRevisit := by
  induction h with
  | done walk => exact .inl hfault
  | @revisit next visits before after forest hprinted later ih =>
      rcases ih hfault with hmem | hrevisit
      · rcases List.mem_append.mp hmem with hnew | hold
        · exact .inr (Scenery.isRevisit_of_mem_revisitFaults hnew)
        · exact .inl hold
      · exact .inr hrevisit
  | absent hfresh habsent later ih => exact ih hfault
  | print hfresh hfound inner later ihinner ihlater =>
      rcases ihlater hfault with hmem | hrevisit
      · exact ihinner hmem
      · exact .inr hrevisit

/-- A fault is never taken back. -/
theorem reversedFaults_suffix (h : Grows scenery visits before forest after) :
    before.reversedFaults <:+ after.reversedFaults := by
  induction h with
  | done walk => exact List.suffix_refl _
  | revisit hprinted later ih => exact (List.suffix_append _ _).trans ih
  | absent hfresh habsent later ih => exact ih
  | print hfresh hfound inner later ihinner ihlater => exact ihinner.trans ihlater

/-- If nothing is to be reported, every visit that a parent asks for gives a tree. -/
theorem tops_eq (h : Grows scenery visits before forest after) (hkeyed : scenery.Keyed)
    (hcycle : ∀ id, scenery.onCycle id = false) (hnone : after.reversedFaults = [])
    (hvisits : ∀ visit ∈ visits, visit.parent.isSome ∧ visit.transform ∈ scenery.transforms) :
    forest.tops.map Transform.fileId = visits.map Visit.transform := by
  induction h with
  | done walk => rfl
  | @revisit visit visits before after forest hprinted later ih =>
      obtain ⟨parent, hparent⟩ :=
        Option.isSome_iff_exists.mp (hvisits visit List.mem_cons_self).1
      -- a visit in vain that a parent asked for would have been reported
      have hreported := later.reversedFaults_suffix
      rw [hnone, List.suffix_nil] at hreported
      simp [Walk.revisit, Scenery.revisitFaults, hparent, hcycle] at hreported
  | @absent visit visits before after forest hfresh habsent later ih =>
      have hpresent := (hvisits visit List.mem_cons_self).2
      rw [Std.HashMap.mem_iff_isSome_getElem?, habsent] at hpresent
      simp at hpresent
  | print hfresh hfound inner later _ ihlater =>
      rw [Forest.tops, List.map_cons, List.map_cons, hkeyed hfound,
        ihlater hnone fun visit hvisit => hvisits visit (List.mem_cons_of_mem _ hvisit)]

/-- If nothing is to be reported, no child is left out. -/
theorem full (h : Grows scenery visits before forest after) (hkeyed : scenery.Keyed)
    (hcycle : ∀ id, scenery.onCycle id = false) (hnone : after.reversedFaults = []) :
    forest.Full scenery.childIds := by
  induction h with
  | done walk => trivial
  | revisit hprinted later ih => exact ih hnone
  | absent hfresh habsent later ih => exact ih hnone
  | print hfresh hfound inner later ihinner ihlater =>
      have hbetween := later.reversedFaults_suffix
      rw [hnone, List.suffix_nil] at hbetween
      refine ⟨?_, ihinner hbetween, ihlater hnone⟩
      rw [← Scenery.map_transform_visitsBelow]
      refine inner.tops_eq hkeyed hcycle hbetween fun visit hvisit => ?_
      rw [Scenery.visitsBelow_eq, List.mem_map] at hvisit
      obtain ⟨child, hchild, rfl⟩ := hvisit
      exact ⟨rfl, by simpa using (List.mem_filter.mp hchild).2⟩

end Grows

end Walk

end SceneAudit
