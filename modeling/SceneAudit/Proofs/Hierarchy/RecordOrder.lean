import SceneAudit.Proofs.Hierarchy.Links
import SceneAudit.Proofs.Hierarchy.Renaming

/-!
# The order of the records

Where no file identifier is repeated, rendering looks records up and goes through the
child lists, and neither depends on the order of the records.  The order shows in one
place only: the walk starts at the transforms without father as the document gives them.
So records may stand in any order that keeps those apart from each other in theirs
(`render_perm`).
-/

namespace SceneAudit

section Lookup

variable {α : Type} {id : α → FileId} {records others : List α}

/-- Where no file identifier is repeated, each finds the record that has it. -/
theorem recordOf?_eq_some_iff (hnodup : (records.map id).Nodup) {key : FileId} {record : α} :
    recordOf? id records key = some record ↔ record ∈ records ∧ id record = key := by
  constructor
  · intro hfound
    exact ⟨mem_of_recordOf? hfound, id_eq_of_recordOf? hfound⟩
  · rintro ⟨hmem, rfl⟩
    rw [← mem_firstRecords_iff, firstRecords_of_nodup hnodup]
    exact hmem

theorem recordOf?_perm (hnodup : (records.map id).Nodup) (hperm : others.Perm records)
    (key : FileId) : recordOf? id others key = recordOf? id records key := by
  have hnodup' : (others.map id).Nodup := (hperm.map id).nodup_iff.mpr hnodup
  apply Option.ext
  intro record
  rw [recordOf?_eq_some_iff hnodup', recordOf?_eq_some_iff hnodup, hperm.mem_iff]

end Lookup

section Scene

variable {gameObjects otherObjects : List GameObject} {transforms others : List Transform}

theorem presentChildren_perm (hperm : others.Perm transforms) :
    presentChildren others = presentChildren transforms := by
  funext transform
  unfold presentChildren
  congr
  funext child
  exact decide_eq_decide.mpr (hperm.map Transform.fileId).mem_iff

/-- The cycles do not depend on the order of the records, repeated or not. -/
theorem findCycles_perm (hperm : others.Perm transforms) : findCycles others = findCycles transforms := by
  have hlink : ChildLink others = ChildLink transforms := by
    funext parent child
    simp only [ChildLink, presentChildren_perm hperm, hperm.mem_iff]
  rw [findCycles_eq_iff, hlink]
  exact fun _ _ => Iff.rfl

theorem nameIn_perm (hnodup : (gameObjects.map GameObject.fileId).Nodup)
    (hperm : otherObjects.Perm gameObjects) : nameIn otherObjects = nameIn gameObjects := by
  funext transform
  unfold nameIn
  simp only [recordOf?_perm hnodup hperm]

/-- A walk cannot tell the records from the same records in another order. -/
theorem follows_sceneryOf_perm (hobjects : (gameObjects.map GameObject.fileId).Nodup)
    (htransforms : (transforms.map Transform.fileId).Nodup)
    (hobjectsPerm : otherObjects.Perm gameObjects) (hperm : others.Perm transforms) :
    (sceneryOf gameObjects transforms).Follows id (sceneryOf otherObjects others) where
  absent := by
    intro key habsent
    rw [getElem?_transforms_sceneryOf] at habsent ⊢
    rw [id_eq, recordOf?_perm htransforms hperm, habsent]
  found := by
    intro key top hfound
    rw [getElem?_transforms_sceneryOf] at hfound
    refine ⟨top, ?_, ?_, ?_⟩
    · rw [getElem?_transforms_sceneryOf, id_eq, recordOf?_perm htransforms hperm, hfound]
    · rw [nameOf_sceneryOf, nameOf_sceneryOf, nameIn_perm hobjects hobjectsPerm]
    · intro depth
      rw [Walk.Scenery.visitsBelow_eq, Walk.Scenery.visitsBelow_eq, childIds_sceneryOf,
        childIds_sceneryOf, presentChildren_perm hperm, Visit.renamed_id, List.map_id]
  onCycle := by
    intro key
    rw [Bool.eq_iff_iff, onCycle_sceneryOf_iff, onCycle_sceneryOf_iff, OnReportedCycle,
      findCycles_perm hperm]
    rfl

theorem duplicateFaults_of_nodup (hobjects : (gameObjects.map GameObject.fileId).Nodup)
    (htransforms : (transforms.map Transform.fileId).Nodup) :
    duplicateFaults gameObjects transforms = [] := by
  rw [duplicateFaults, repeatedRecords_of_nodup hobjects, repeatedRecords_of_nodup htransforms]
  rfl

/-- **The order of the records matters for the roots only.** -/
theorem render_perm (hobjects : (gameObjects.map GameObject.fileId).Nodup)
    (htransforms : (transforms.map Transform.fileId).Nodup)
    (hobjectsPerm : otherObjects.Perm gameObjects) (hperm : others.Perm transforms)
    (hroots : others.filter Transform.isRoot = transforms.filter Transform.isRoot) :
    render otherObjects others = render gameObjects transforms := by
  have hobjects' : (otherObjects.map GameObject.fileId).Nodup :=
    (hobjectsPerm.map GameObject.fileId).nodup_iff.mpr hobjects
  have htransforms' : (others.map Transform.fileId).Nodup :=
    (hperm.map Transform.fileId).nodup_iff.mpr htransforms
  have hvisits : initialVisits others = initialVisits transforms := by
    rw [initialVisits, initialVisits, rootRecords, rootRecords, firstRecords_of_nodup htransforms',
      firstRecords_of_nodup htransforms, hroots]
  have hscenery := follows_sceneryOf_perm hobjects htransforms hobjectsPerm hperm
  have hwalk : Walk.Follows id (renderWalk gameObjects transforms) (renderWalk otherObjects others) := by
    have hrun := (Walk.follows_start id).run hscenery Function.injective_id (initialVisits transforms)
    rw [Visit.renamed_id, List.map_id, ← hvisits] at hrun
    rw [renderWalk, renderWalk, ← hvisits]
    exact hrun
  rw [render_eq, render_eq, hwalk.lines, hwalk.faults, HierarchyLine.renamed_id, Fault.renamed_id,
    List.map_id, List.map_id, findCycles_perm hperm, duplicateFaults_of_nodup hobjects htransforms,
    duplicateFaults_of_nodup hobjects' htransforms']

end Scene

/-! ## The children of a root behind it -/

namespace ChildrenFirst

def gameObjects : List GameObject :=
  [⟨⟨"1"⟩, some "A", []⟩, ⟨⟨"2"⟩, some "B", []⟩]

/-- The children of the first root stand in front of it, on a cycle with each other; the second
root lists one of them again. -/
def transforms : List Transform :=
  [⟨⟨"30"⟩, .resolved ⟨"2"⟩, [.resolved ⟨"20"⟩, .resolved ⟨"50"⟩], .resolved ⟨"10"⟩⟩,
    ⟨⟨"20"⟩, .resolved ⟨"1"⟩, [.resolved ⟨"30"⟩], .resolved ⟨"10"⟩⟩,
    ⟨⟨"10"⟩, .resolved ⟨"1"⟩, [.resolved ⟨"30"⟩, .resolved ⟨"20"⟩], .resolved FileId.root⟩,
    ⟨⟨"40"⟩, .resolved ⟨"2"⟩, [.resolved ⟨"50"⟩], .resolved FileId.root⟩,
    ⟨⟨"50"⟩, .unresolved .absent, [], .resolved ⟨"30"⟩⟩]

/-- The roots in front, all else turned round. -/
def rootsFirst : List Transform :=
  transforms.filter Transform.isRoot ++
    (transforms.filter fun transform => !transform.isRoot).reverse

theorem render_rootsFirst :
    ((gameObjects.map GameObject.fileId).Nodup ∧ (transforms.map Transform.fileId).Nodup ∧
        gameObjects.reverse.Perm gameObjects ∧ rootsFirst.Perm transforms ∧
          rootsFirst.filter Transform.isRoot = transforms.filter Transform.isRoot) ∧
      render gameObjects.reverse rootsFirst = render gameObjects transforms := by
  have hobjects : (gameObjects.map GameObject.fileId).Nodup := by decide
  have htransforms : (transforms.map Transform.fileId).Nodup := by decide
  have hobjectsPerm : gameObjects.reverse.Perm gameObjects := gameObjects.reverse_perm
  have hperm : rootsFirst.Perm transforms := by decide
  have hroots : rootsFirst.filter Transform.isRoot = transforms.filter Transform.isRoot := by decide
  exact ⟨⟨hobjects, htransforms, hobjectsPerm, hperm, hroots⟩,
    render_perm hobjects htransforms hobjectsPerm hperm hroots⟩

end ChildrenFirst

end SceneAudit
