import SceneAudit.Proofs.Block.Comparison
import SceneAudit.Proofs.Hierarchy.CycleReport
import SceneAudit.Proofs.Hierarchy.RecordOrder

/-!
# References that lead nowhere

Rendering follows a child entry only to a transform of the scene, asks a game object by a
reference only if that resolves, and asks of a father only whether it is the sentinel.  All
else that the references of a scene say is inert: it may be taken out or told otherwise
(`Transform.Edited`), and neither the hierarchy nor the cycles change (`render_of_edited`).

An edited scene has its records in the same places.  So the proof goes along the two lists
of records (`List.Forall₂`): a file identifier finds related records in both, the first
records and the repeated ones stand in the same places, and the two walks follow each other.
-/

namespace SceneAudit

/-! ## Lists of records related one by one -/

section Related

variable {α : Type} {id : α → FileId} {r : α → α → Prop} {records others : List α}

theorem map_eq_of_forall₂ {β : Type} {f : α → β} (h : List.Forall₂ r records others)
    (hf : ∀ record other, r record other → f other = f record) : others.map f = records.map f := by
  induction h with
  | nil => rfl
  | cons hrecord _ ih => rw [List.map_cons, List.map_cons, hf _ _ hrecord, ih]

variable (hid : ∀ record other, r record other → id other = id record)

include hid

/-- A file identifier finds related records, or none in either list. -/
theorem recordOf?_of_forall₂ (h : List.Forall₂ r records others) (key : FileId) :
    (recordOf? id records key = none ∧ recordOf? id others key = none) ∨
      ∃ record other, recordOf? id records key = some record ∧
        recordOf? id others key = some other ∧ r record other := by
  refine find?_of_forall₂ h fun record other hrecord => ?_
  rw [hid _ _ hrecord]

theorem forall₂_markFirst (h : List.Forall₂ r records others) (taken : List FileId) :
    List.Forall₂ (fun marked other => r marked.1 other.1 ∧ (marked.2 = true ↔ other.2 = true))
      (markFirst id taken records) (markFirst id taken others) := by
  induction h generalizing taken with
  | nil => exact .nil
  | cons hrecord _ ih =>
      rw [markFirst, markFirst, hid _ _ hrecord]
      exact .cons ⟨hrecord, Iff.rfl⟩ (ih _)

theorem forall₂_firstRecords (h : List.Forall₂ r records others) :
    List.Forall₂ r (firstRecords id records) (firstRecords id others) := by
  have hmarked := List.rel_filter (fun _ _ hmark => hmark.2) (forall₂_markFirst hid h [])
  rw [firstRecords, firstRecords, List.forall₂_map_left_iff, List.forall₂_map_right_iff]
  exact hmarked.imp fun _ _ hmark => hmark.1

theorem map_repeatedRecords_of_forall₂ (h : List.Forall₂ r records others) :
    (repeatedRecords id others).map id = (repeatedRecords id records).map id := by
  rw [map_repeatedRecords, map_repeatedRecords, map_eq_of_forall₂ h hid]

end Related

/-! ## Editing references -/

/-- The second reference is the first, or neither of them resolves. -/
inductive Reference.Retold {α : Type} : Reference α → Reference α → Prop
  | same (reference : Reference α) : Retold reference reference
  | unresolved (cause other : Unresolved) : Retold (.unresolved cause) (.unresolved other)

/-- The game object with references that do not resolve told otherwise. -/
structure GameObject.Retold (original edited : GameObject) : Prop where
  fileId_eq : edited.fileId = original.fileId
  name_eq : edited.name = original.name
  components : List.Forall₂ Reference.Retold original.components edited.components

/-- The entry resolves to a transform of the scene. -/
def NamesTransform (transforms : List Transform) (entry : Reference FileId) : Prop :=
  ∃ record ∈ transforms, entry = .resolved record.fileId

instance (transforms : List Transform) (entry : Reference FileId) :
    Decidable (NamesTransform transforms entry) :=
  List.decidableBEx _ transforms

/-- Some entries that name no transform of the scene are gone, and of what is left some that
do not resolve are told otherwise. -/
def EntriesEdited (transforms : List Transform) (original edited : List (Reference FileId)) : Prop :=
  ∃ left, left.Sublist original ∧
    (left.filter fun entry => NamesTransform transforms entry) =
      (original.filter fun entry => NamesTransform transforms entry) ∧
      List.Forall₂ Reference.Retold left edited

/-- The transform with some of its references edited that lead nowhere. -/
structure Transform.Edited (transforms : List Transform) (original edited : Transform) : Prop where
  fileId_eq : edited.fileId = original.fileId
  gameObject : original.gameObject.Retold edited.gameObject
  children : EntriesEdited transforms original.children edited.children
  /-- A father may be any other one, if neither is the sentinel. -/
  father : edited.father = original.father ∨
    original.father ≠ .resolved FileId.root ∧ edited.father ≠ .resolved FileId.root

/-- The transform with the child entries only that name a transform of the scene. -/
def Transform.pruned (transforms : List Transform) (transform : Transform) : Transform :=
  { transform with children := transform.children.filter fun entry => NamesTransform transforms entry }

theorem Reference.forall₂_retold_self {α : Type} (references : List (Reference α)) :
    List.Forall₂ Retold references references :=
  List.forall₂_same.mpr fun reference _ => .same reference

theorem GameObject.Retold.refl (object : GameObject) : Retold object object where
  fileId_eq := rfl
  name_eq := rfl
  components := Reference.forall₂_retold_self _

theorem Transform.edited_pruned (transforms : List Transform) (transform : Transform) :
    Edited transforms transform (transform.pruned transforms) where
  fileId_eq := rfl
  gameObject := .same _
  children := by
    refine ⟨_, List.filter_sublist, ?_, Reference.forall₂_retold_self _⟩
    rw [List.filter_filter]
    simp only [Bool.and_self]
  father := .inl rfl

/-! ## What rendering reads of an edited scene -/

theorem Reference.Retold.target?_eq {α : Type} {original edited : Reference α}
    (h : original.Retold edited) : edited.target? = original.target? := by
  cases h <;> rfl

section Edited

variable {gameObjects objects : List GameObject} {transforms others : List Transform}
  {original edited : Transform}

theorem Transform.Edited.isRoot_eq (h : Edited transforms original edited) :
    edited.isRoot = original.isRoot := by
  rw [Bool.eq_iff_iff, isRoot, isRoot, beq_iff_eq, beq_iff_eq]
  rcases h.father with hsame | ⟨horiginal, hedited⟩
  · rw [hsame]
  · simp only [horiginal, hedited]

theorem presentChildren_eq_filterMap (transforms : List Transform) (transform : Transform) :
    presentChildren transforms transform =
      (transform.children.filter fun entry => NamesTransform transforms entry).filterMap
        Reference.target? := by
  have hnames : ∀ entry : Reference FileId, NamesTransform transforms entry ↔
      ∃ id ∈ entry.target?, id ∈ transforms.map Transform.fileId := by
    intro entry
    cases entry <;> simp [NamesTransform, Reference.target?, eq_comm]
  rw [presentChildren, Transform.resolvedChildren, List.filter_filterMap, List.filterMap_filter]
  apply List.filterMap_congr
  intro entry _
  cases entry with
  | unresolved cause => simp [Reference.target?]
  | resolved id => simp [hnames, Reference.target?, Option.filter]

/-- The entries that are followed are the same. -/
theorem Transform.Edited.presentChildren_eq (h : Edited transforms original edited) :
    presentChildren transforms edited = presentChildren transforms original := by
  obtain ⟨left, -, hfilter, hretold⟩ := h.children
  rw [presentChildren_eq_filterMap, presentChildren_eq_filterMap, ← hfilter, List.filterMap_filter,
    List.filterMap_filter]
  refine (filterMap_eq_of_forall₂ hretold fun entry other hentry => ?_).symm
  cases hentry with
  | same => rfl
  | unresolved => simp [Reference.target?]

theorem nameIn_of_retold (hobjects : List.Forall₂ GameObject.Retold gameObjects objects)
    (h : original.gameObject.Retold edited.gameObject) :
    nameIn objects edited = nameIn gameObjects original := by
  rw [nameIn, nameIn, h.target?_eq]
  congr
  funext owner
  obtain ⟨hnone, hnone'⟩ | ⟨object, other, hfound, hfound', hobject⟩ :=
    recordOf?_of_forall₂ (fun _ _ hobject => hobject.fileId_eq) hobjects owner
  · rw [hnone, hnone']
  · rw [hfound, hfound', Option.bind_some, Option.bind_some, hobject.name_eq]

variable (h : List.Forall₂ (Transform.Edited transforms) transforms others)

include h

theorem map_fileId_of_edited : others.map Transform.fileId = transforms.map Transform.fileId :=
  map_eq_of_forall₂ h fun _ _ hrecord => hrecord.fileId_eq

theorem presentChildren_of_edited : presentChildren others = presentChildren transforms := by
  funext transform
  rw [presentChildren, presentChildren, map_fileId_of_edited h]

theorem findCycles_of_edited : findCycles others = findCycles transforms := by
  have hlink : ChildLink others = ChildLink transforms := by
    funext parent child
    rw [eq_iff_iff, ChildLink, ChildLink, presentChildren_of_edited h]
    refine (exists_mem_iff_of_forall₂ (fun original edited hrecord => ?_) h).symm
    rw [hrecord.fileId_eq, hrecord.presentChildren_eq]
  rw [findCycles_eq_iff, hlink]
  exact fun _ _ => Iff.rfl

theorem initialVisits_of_edited : initialVisits others = initialVisits transforms := by
  have hroots : List.Forall₂ (Transform.Edited transforms) (rootRecords transforms)
      (rootRecords others) := by
    have hfirst := forall₂_firstRecords (fun _ _ hrecord => hrecord.fileId_eq) h
    refine List.rel_filter (fun original edited hrecord => ?_) hfirst
    show original.isRoot = true ↔ edited.isRoot = true
    rw [hrecord.isRoot_eq]
  exact map_eq_of_forall₂ hroots fun _ _ hrecord => by rw [hrecord.fileId_eq]

theorem follows_sceneryOf_edited (hobjects : List.Forall₂ GameObject.Retold gameObjects objects) :
    (sceneryOf gameObjects transforms).Follows id (sceneryOf objects others) := by
  have hlookup := recordOf?_of_forall₂ (fun _ _ hrecord => Transform.Edited.fileId_eq hrecord) h
  constructor
  case absent =>
    intro key habsent
    rw [getElem?_transforms_sceneryOf] at habsent ⊢
    obtain ⟨-, hnone⟩ | ⟨_, _, hfound, -, -⟩ := hlookup key
    · exact hnone
    · rw [habsent] at hfound
      exact absurd hfound (by simp)
  case found =>
    intro key top hfound
    rw [getElem?_transforms_sceneryOf] at hfound
    obtain ⟨hnone, -⟩ | ⟨record, image, hrecord, himage, hedited⟩ := hlookup key
    · rw [hfound] at hnone
      exact absurd hnone (by simp)
    · obtain rfl : top = record := Option.some.inj (hfound.symm.trans hrecord)
      refine ⟨image, ?_, ?_, fun depth => ?_⟩
      · rw [getElem?_transforms_sceneryOf, id_eq, himage]
      · rw [nameOf_sceneryOf, nameOf_sceneryOf, nameIn_of_retold hobjects hedited.gameObject]
      · rw [Walk.Scenery.visitsBelow_eq, Walk.Scenery.visitsBelow_eq, childIds_sceneryOf,
          childIds_sceneryOf, presentChildren_of_edited h, hedited.presentChildren_eq,
          hedited.fileId_eq, Visit.renamed_id, List.map_id]
  case onCycle =>
    intro key
    rw [Bool.eq_iff_iff, onCycle_sceneryOf_iff, onCycle_sceneryOf_iff, OnReportedCycle,
      findCycles_of_edited h]
    rfl

omit h in
theorem duplicateFaults_eq (gameObjects : List GameObject) (transforms : List Transform) :
    duplicateFaults gameObjects transforms =
      ((repeatedRecords GameObject.fileId gameObjects).map GameObject.fileId).map
          (Fault.duplicateFileId · Tag.gameObject) ++
        ((repeatedRecords Transform.fileId transforms).map Transform.fileId).map
          (Fault.duplicateFileId · Tag.transform) := by
  rw [duplicateFaults, List.map_map, List.map_map]
  rfl

theorem duplicateFaults_of_edited (hobjects : List.Forall₂ GameObject.Retold gameObjects objects) :
    duplicateFaults objects others = duplicateFaults gameObjects transforms := by
  have hobjectIds : (repeatedRecords GameObject.fileId objects).map GameObject.fileId = _ :=
    map_repeatedRecords_of_forall₂ (fun _ _ hobject => hobject.fileId_eq) hobjects
  have htransformIds : (repeatedRecords Transform.fileId others).map Transform.fileId = _ :=
    map_repeatedRecords_of_forall₂ (fun _ _ hrecord => hrecord.fileId_eq) h
  rw [duplicateFaults_eq, hobjectIds, htransformIds, ← duplicateFaults_eq]

theorem render_eq_of_edited (hobjects : List.Forall₂ GameObject.Retold gameObjects objects) :
    render objects others = render gameObjects transforms := by
  have hwalk : Walk.Follows id (renderWalk gameObjects transforms) (renderWalk objects others) := by
    have hrun := (Walk.follows_start id).run (follows_sceneryOf_edited h hobjects)
      Function.injective_id (initialVisits transforms)
    rw [Visit.renamed_id, List.map_id, ← initialVisits_of_edited h] at hrun
    rw [renderWalk, ← initialVisits_of_edited h]
    exact hrun
  rw [render_eq, render_eq, hwalk.lines, hwalk.faults, HierarchyLine.renamed_id, Fault.renamed_id,
    List.map_id, List.map_id, findCycles_of_edited h, duplicateFaults_of_edited h hobjects]

end Edited

/-- **References that lead nowhere are inert**: neither the hierarchy nor the cycles change when
they are told otherwise or, in the child lists, taken out, be it some of them or all. -/
theorem render_of_edited (gameObjects : List GameObject) (transforms : List Transform) :
    (∀ objects others, List.Forall₂ GameObject.Retold gameObjects objects →
        List.Forall₂ (Transform.Edited transforms) transforms others →
          render objects others = render gameObjects transforms ∧
            findCycles others = findCycles transforms) ∧
      render gameObjects (transforms.map (Transform.pruned transforms)) =
          render gameObjects transforms ∧
        findCycles (transforms.map (Transform.pruned transforms)) = findCycles transforms := by
  have hobjects : List.Forall₂ GameObject.Retold gameObjects gameObjects :=
    List.forall₂_same.mpr fun object _ => .refl object
  have hpruned : List.Forall₂ (Transform.Edited transforms) transforms
      (transforms.map (Transform.pruned transforms)) := by
    rw [List.forall₂_map_right_iff, List.forall₂_same]
    exact fun transform _ => transform.edited_pruned transforms
  refine ⟨fun objects others hretold h => ?_, ?_, ?_⟩
  · exact ⟨render_eq_of_edited h hretold, findCycles_of_edited h⟩
  · exact render_eq_of_edited hpruned hobjects
  · exact findCycles_of_edited hpruned

/-! ## A scene with loose ends -/

namespace LooseEnds

def gameObjects : List GameObject :=
  [⟨⟨"1"⟩, some "Hall", [.unresolved .absent]⟩]

/-- Two transforms on a cycle; the root lists the other one twice, one that is missing, and
something that is no reference. -/
def transforms : List Transform :=
  [⟨⟨"10"⟩, .resolved ⟨"1"⟩,
      [.unresolved (.noPattern "{x: 1}"), .resolved ⟨"20"⟩, .resolved ⟨"99"⟩, .resolved ⟨"20"⟩],
      .resolved FileId.root⟩,
    ⟨⟨"20"⟩, .unresolved .absent, [.resolved ⟨"10"⟩, .unresolved .absent], .resolved ⟨"10"⟩⟩]

def retoldObjects : List GameObject :=
  [⟨⟨"1"⟩, some "Hall", [.unresolved (.noPattern "gone")]⟩]

/-- The missing child is gone, the other loose ends are told otherwise. -/
def editedTransforms : List Transform :=
  [⟨⟨"10"⟩, .resolved ⟨"1"⟩, [.unresolved .absent, .resolved ⟨"20"⟩, .resolved ⟨"20"⟩],
      .resolved FileId.root⟩,
    ⟨⟨"20"⟩, .unresolved (.noPattern "lost"), [.resolved ⟨"10"⟩, .unresolved (.noPattern "")],
      .resolved ⟨"00"⟩⟩]

theorem retold : List.Forall₂ GameObject.Retold gameObjects retoldObjects :=
  .cons ⟨rfl, rfl, .cons (.unresolved _ _) .nil⟩ .nil

theorem edited : List.Forall₂ (Transform.Edited transforms) transforms editedTransforms := by
  refine .cons ⟨rfl, .same _, ?_, .inl rfl⟩ (.cons ⟨rfl, .unresolved _ _, ?_, ?_⟩ .nil)
  · exact ⟨[.unresolved (.noPattern "{x: 1}"), .resolved ⟨"20"⟩, .resolved ⟨"20"⟩], by decide,
      by decide, .cons (.unresolved _ _) (Reference.forall₂_retold_self _)⟩
  · exact ⟨_, List.Sublist.refl _, rfl, .cons (.same _) (.cons (.unresolved _ _) .nil)⟩
  · exact .inr ⟨by decide, by decide⟩

theorem render_edited :
    (List.Forall₂ GameObject.Retold gameObjects retoldObjects ∧
        List.Forall₂ (Transform.Edited transforms) transforms editedTransforms) ∧
      render retoldObjects editedTransforms = render gameObjects transforms ∧
        findCycles editedTransforms = findCycles transforms :=
  ⟨⟨retold, edited⟩,
    (render_of_edited gameObjects transforms).1 retoldObjects editedTransforms retold edited⟩

end LooseEnds

end SceneAudit
