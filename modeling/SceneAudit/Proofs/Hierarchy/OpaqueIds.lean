import SceneAudit.Proofs.Digraph.Renaming
import SceneAudit.Proofs.Hierarchy.Links
import SceneAudit.Proofs.Hierarchy.Renaming
import Mathlib.Logic.Equiv.Basic

/-!
# File identifiers are opaque

Rendering compares file identifiers with each other and with the one that stands for
"no parent", and that is all it does with them.  So a renaming that keeps them apart and
leaves that one alone commutes with rendering (`render_renamed`).  Only the order of the
cycles goes by the texts of the file identifiers; they are the old ones renamed, and
sorted anew.

The proof follows the parts of rendering: the first and the repeated records
(`markFirst_map`), the names and the child entries (`nameIn_renamed`,
`presentChildren_renamed`), the child links and their cycles (`findCycles_renamed`), and
last the walk (`follows_sceneryOf`).
-/

namespace SceneAudit

/-! ## Renaming records -/

/-- The reference with what it resolves to renamed. -/
def Reference.map {α β : Type} (f : α → β) : Reference α → Reference β
  | resolved target => resolved (f target)
  | unresolved cause => unresolved cause

/-- The game object with every file identifier in it renamed. -/
def GameObject.renamed (rename : FileId → FileId) (object : GameObject) : GameObject where
  fileId := rename object.fileId
  name := object.name
  components := object.components.map (Reference.map rename)

/-- The transform with every file identifier in it renamed. -/
def Transform.renamed (rename : FileId → FileId) (transform : Transform) : Transform where
  fileId := rename transform.fileId
  gameObject := transform.gameObject.map rename
  children := transform.children.map (Reference.map rename)
  father := transform.father.map rename

section

variable {rename : FileId → FileId}

/-- The map on records renames their file identifiers. -/
def Renames {α : Type} (id : α → FileId) (rename : FileId → FileId) (f : α → α) : Prop :=
  ∀ record, id (f record) = rename (id record)

theorem GameObject.renames_renamed (rename : FileId → FileId) :
    Renames GameObject.fileId rename (GameObject.renamed rename) :=
  fun _ => rfl

theorem Transform.renames_renamed (rename : FileId → FileId) :
    Renames Transform.fileId rename (Transform.renamed rename) :=
  fun _ => rfl

theorem Reference.target?_map {α β : Type} (f : α → β) (reference : Reference α) :
    (reference.map f).target? = reference.target?.map f := by
  cases reference <;> rfl

theorem Transform.resolvedChildren_renamed (transform : Transform) :
    (transform.renamed rename).resolvedChildren = transform.resolvedChildren.map rename := by
  rw [resolvedChildren, Transform.renamed, List.filterMap_map, resolvedChildren, List.map_filterMap]
  exact congrArg (List.filterMap · _) (funext (Reference.target?_map rename))

/-- A renaming that leaves the sentinel alone makes no root and loses none. -/
theorem Transform.isRoot_renamed (hinjective : Function.Injective rename)
    (hroot : rename FileId.root = FileId.root) (transform : Transform) :
    (transform.renamed rename).isRoot = transform.isRoot := by
  have hfather : transform.father.map rename = .resolved FileId.root ↔
      transform.father = .resolved FileId.root := by
    cases transform.father with
    | unresolved cause => simp [Reference.map]
    | resolved father =>
        have hsame : rename father = rename FileId.root ↔ father = FileId.root := hinjective.eq_iff
        rw [hroot] at hsame
        simpa [Reference.map] using hsame
  rw [Bool.eq_iff_iff, isRoot, isRoot, beq_iff_eq, beq_iff_eq]
  exact hfather

/-! ## Records by file identifier -/

section Index

variable {α : Type} {id : α → FileId} {f : α → α}

theorem mem_map_renamed_iff (hinjective : Function.Injective rename)
    (hf : Renames id rename f) {records : List α} {key : FileId} :
    rename key ∈ (records.map f).map id ↔ key ∈ records.map id := by
  have hnames : (records.map f).map id = (records.map id).map rename := by
    simp [List.map_map, Function.comp_def, hf _]
  rw [hnames, List.mem_map_of_injective hinjective]

theorem recordOf?_map (hinjective : Function.Injective rename)
    (hf : Renames id rename f) (records : List α) (key : FileId) :
    recordOf? id (records.map f) (rename key) = (recordOf? id records key).map f := by
  rw [recordOf?, List.find?_map, recordOf?]
  congr 2
  funext record
  rw [Function.comp_apply, hf, Bool.eq_iff_iff, beq_iff_eq, beq_iff_eq, hinjective.eq_iff]

theorem markFirst_map (hinjective : Function.Injective rename)
    (hf : Renames id rename f) (taken : List FileId) (records : List α) :
    markFirst id (taken.map rename) (records.map f) =
      (markFirst id taken records).map (Prod.map f fun first => first) := by
  induction records generalizing taken with
  | nil => rfl
  | cons record records ih =>
      have hlater := ih (id record :: taken)
      rw [List.map_cons] at hlater
      simp only [List.map_cons, markFirst, hf record, hlater, List.mem_map_of_injective hinjective,
        Prod.map_apply]

theorem firstRecords_map (hinjective : Function.Injective rename)
    (hf : Renames id rename f) (records : List α) :
    firstRecords id (records.map f) = (firstRecords id records).map f := by
  have hmarked := markFirst_map hinjective hf [] records
  rw [List.map_nil] at hmarked
  simp only [firstRecords, hmarked, List.filter_map, List.map_map]
  rfl

theorem repeatedRecords_map (hinjective : Function.Injective rename)
    (hf : Renames id rename f) (records : List α) :
    repeatedRecords id (records.map f) = (repeatedRecords id records).map f := by
  have hmarked := markFirst_map hinjective hf [] records
  rw [List.map_nil] at hmarked
  simp only [repeatedRecords, hmarked, List.filter_map, List.map_map]
  rfl

end Index

/-! ## What rendering reads off the records -/

variable {gameObjects : List GameObject} {transforms : List Transform}

theorem nameIn_renamed (hinjective : Function.Injective rename) (transform : Transform) :
    nameIn (gameObjects.map (GameObject.renamed rename)) (transform.renamed rename) =
      nameIn gameObjects transform := by
  have howner : (transform.renamed rename).gameObject.target? =
      transform.gameObject.target?.map rename := Reference.target?_map rename transform.gameObject
  rw [nameIn, howner, Option.bind_map, nameIn]
  congr 1
  funext owner
  rw [Function.comp_apply, recordOf?_map hinjective (GameObject.renames_renamed rename), Option.bind_map]
  rfl

theorem presentChildren_renamed (hinjective : Function.Injective rename) (transform : Transform) :
    presentChildren (transforms.map (Transform.renamed rename)) (transform.renamed rename) =
      (presentChildren transforms transform).map rename := by
  rw [presentChildren, Transform.resolvedChildren_renamed, List.filter_map, presentChildren]
  congr 2
  funext child
  exact decide_eq_decide.mpr (mem_map_renamed_iff hinjective (Transform.renames_renamed rename))

theorem initialVisits_renamed (hinjective : Function.Injective rename)
    (hroot : rename FileId.root = FileId.root) :
    initialVisits (transforms.map (Transform.renamed rename)) =
      (initialVisits transforms).map (Visit.renamed rename) := by
  have hroots : rootRecords (transforms.map (Transform.renamed rename)) =
      (rootRecords transforms).map (Transform.renamed rename) := by
    rw [rootRecords, firstRecords_map hinjective (Transform.renames_renamed rename), List.filter_map,
      rootRecords]
    congr 2
    funext transform
    exact Transform.isRoot_renamed hinjective hroot transform
  rw [initialVisits, hroots, initialVisits, List.map_map, List.map_map]
  rfl

theorem duplicateFaults_renamed (hinjective : Function.Injective rename) :
    duplicateFaults (gameObjects.map (GameObject.renamed rename))
        (transforms.map (Transform.renamed rename)) =
      (duplicateFaults gameObjects transforms).map (Fault.renamed rename) := by
  rw [duplicateFaults, repeatedRecords_map hinjective (GameObject.renames_renamed rename),
    repeatedRecords_map hinjective (Transform.renames_renamed rename), duplicateFaults,
    List.map_append]
  simp only [List.map_map]
  rfl

theorem isCycle_of_mem_duplicateFaults {fault : Fault}
    (h : fault ∈ duplicateFaults gameObjects transforms) : fault.isCycle = false := by
  rcases List.mem_append.mp h with hobject | htransform
  · obtain ⟨record, -, rfl⟩ := List.mem_map.mp hobject
    rfl
  · obtain ⟨record, -, rfl⟩ := List.mem_map.mp htransform
    rfl

/-! ## The cycles -/

theorem childLink_renamed (hinjective : Function.Injective rename) :
    ChildLink (transforms.map (Transform.renamed rename)) =
      Relation.Map (ChildLink transforms) rename rename := by
  funext parent child
  apply propext
  constructor
  · rintro ⟨_, hmem, rfl, hchild⟩
    obtain ⟨record, hrecord, rfl⟩ := List.mem_map.mp hmem
    rw [presentChildren_renamed hinjective] at hchild
    obtain ⟨target, htarget, rfl⟩ := List.mem_map.mp hchild
    exact ⟨record.fileId, target, ⟨record, hrecord, rfl, htarget⟩, rfl, rfl⟩
  · rintro ⟨_, child, ⟨record, hrecord, rfl, hchild⟩, rfl, rfl⟩
    refine ⟨record.renamed rename, List.mem_map_of_mem hrecord, rfl, ?_⟩
    rw [presentChildren_renamed hinjective]
    exact List.mem_map_of_mem hchild

/-- The cycles are the old ones renamed, in the order of their new names. -/
theorem findCycles_renamed (hinjective : Function.Injective rename) :
    findCycles (transforms.map (Transform.renamed rename)) =
      Digraph.inOrder ((findCycles transforms).map (List.map rename)) := by
  have hcycles := isCycleList_findCycles (transforms.map (Transform.renamed rename))
  rw [childLink_renamed hinjective] at hcycles
  have hold := (isCycleList_findCycles transforms).renamed hinjective
  exact hcycles.eq_of_onCommonCycle_iff hold fun _ _ => Iff.rfl

theorem onReportedCycle_renamed_iff (hinjective : Function.Injective rename) {id : FileId} :
    OnReportedCycle (transforms.map (Transform.renamed rename)) (rename id) ↔
      OnReportedCycle transforms id := by
  rw [onReportedCycle_iff, onReportedCycle_iff, childLink_renamed hinjective,
    transGen_map_iff hinjective]

/-! ## The walk -/

theorem follows_sceneryOf (hinjective : Function.Injective rename) :
    (sceneryOf gameObjects transforms).Follows rename
      (sceneryOf (gameObjects.map (GameObject.renamed rename))
        (transforms.map (Transform.renamed rename))) where
  absent := by
    intro id habsent
    rw [getElem?_transforms_sceneryOf] at habsent ⊢
    rw [recordOf?_map hinjective (Transform.renames_renamed rename), habsent]
    rfl
  found := by
    intro id top hfound
    rw [getElem?_transforms_sceneryOf] at hfound
    refine ⟨top.renamed rename, ?_, ?_, ?_⟩
    · rw [getElem?_transforms_sceneryOf,
        recordOf?_map hinjective (Transform.renames_renamed rename), hfound]
      rfl
    · rw [nameOf_sceneryOf, nameOf_sceneryOf, nameIn_renamed hinjective]
    · intro depth
      rw [Walk.Scenery.visitsBelow_eq, Walk.Scenery.visitsBelow_eq, childIds_sceneryOf,
        childIds_sceneryOf, presentChildren_renamed hinjective, List.map_map, List.map_map]
      rfl
  onCycle := by
    intro id
    rw [Bool.eq_iff_iff, onCycle_sceneryOf_iff, onCycle_sceneryOf_iff,
      onReportedCycle_renamed_iff hinjective]

theorem follows_renderWalk (hinjective : Function.Injective rename)
    (hroot : rename FileId.root = FileId.root) :
    Walk.Follows rename (renderWalk gameObjects transforms)
      (renderWalk (gameObjects.map (GameObject.renamed rename))
        (transforms.map (Transform.renamed rename))) := by
  unfold renderWalk
  rw [initialVisits_renamed hinjective hroot]
  exact (Walk.follows_start rename).run (follows_sceneryOf hinjective) hinjective _

/-- The second hierarchy is the first one with its file identifiers renamed, the cycles put
in order again and all else in its place. -/
structure Hierarchy.IsRenamed (rename : FileId → FileId) (hierarchy renamed : Hierarchy) : Prop where
  lines_eq : renamed.lines = hierarchy.lines.map (HierarchyLine.renamed rename)
  exists_faults : ∃ (before : List Fault) (cycles : List (List FileId)) (after : List Fault),
    (∀ fault ∈ before ++ after, fault.isCycle = false) ∧
      hierarchy.faults = before ++ (cycles.map Fault.cycle ++ after) ∧
        renamed.faults =
          before.map (Fault.renamed rename) ++
            ((Digraph.inOrder (cycles.map (List.map rename))).map Fault.cycle ++
              after.map (Fault.renamed rename))

/-- **File identifiers are opaque.**  A scene whose file identifiers are renamed, no two to the
same one and the sentinel to itself, is rendered as before but for the names. -/
theorem render_renamed (hinjective : Function.Injective rename)
    (hroot : rename FileId.root = FileId.root) (gameObjects : List GameObject)
    (transforms : List Transform) :
    (render gameObjects transforms).IsRenamed rename
      (render (gameObjects.map (GameObject.renamed rename))
        (transforms.map (Transform.renamed rename))) := by
  have hwalk : Walk.Follows rename (renderWalk gameObjects transforms) _ :=
    follows_renderWalk hinjective hroot
  constructor
  · rw [render_eq, render_eq, hwalk.lines, List.map_reverse]
  · refine ⟨duplicateFaults gameObjects transforms, findCycles transforms,
      (renderWalk gameObjects transforms).reversedFaults.reverse, ?_, ?_, ?_⟩
    · intro fault hfault
      rcases List.mem_append.mp hfault with hduplicate | hrevisit
      · exact isCycle_of_mem_duplicateFaults hduplicate
      · have hkind := isRevisit_of_mem_renderWalk gameObjects transforms hrevisit
        cases fault <;> simp_all [Fault.isRevisit, Fault.isCycle]
    · rw [render_eq]
    · rw [render_eq, hwalk.faults, findCycles_renamed hinjective, duplicateFaults_renamed hinjective,
        List.map_reverse]

end

/-! ## A cycle whose members change places -/

namespace SwappedIds

def gameObjects : List GameObject :=
  [⟨⟨"1"⟩, some "A", [.resolved ⟨"10"⟩]⟩, ⟨⟨"1"⟩, some "B", []⟩]

/-- A root with a cycle below it, and a child that is listed twice. -/
def transforms : List Transform :=
  [⟨⟨"10"⟩, .resolved ⟨"1"⟩, [.resolved ⟨"20"⟩, .resolved ⟨"40"⟩, .resolved ⟨"40"⟩],
      .resolved FileId.root⟩,
    ⟨⟨"20"⟩, .resolved ⟨"1"⟩, [.resolved ⟨"30"⟩], .resolved ⟨"10"⟩⟩,
    ⟨⟨"30"⟩, .unresolved .absent, [.resolved ⟨"20"⟩], .resolved ⟨"20"⟩⟩,
    ⟨⟨"40"⟩, .resolved ⟨"2"⟩, [.unresolved .absent], .resolved ⟨"10"⟩⟩]

/-- Swaps the members of the cycle. -/
def rename : FileId → FileId :=
  Equiv.swap ⟨"20"⟩ ⟨"30"⟩

theorem isRenamed :
    (Function.Injective rename ∧ rename FileId.root = FileId.root) ∧
      (render gameObjects transforms).IsRenamed rename
        (render (gameObjects.map (GameObject.renamed rename))
          (transforms.map (Transform.renamed rename))) := by
  have hinjective : Function.Injective rename := (Equiv.swap _ _).injective
  have hroot : rename FileId.root = FileId.root := by decide
  exact ⟨⟨hinjective, hroot⟩, render_renamed hinjective hroot gameObjects transforms⟩

end SwappedIds

end SceneAudit
