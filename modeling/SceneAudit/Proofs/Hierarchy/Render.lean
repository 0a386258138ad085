import SceneAudit.Hierarchy
import SceneAudit.Proofs.Digraph.Edge
import SceneAudit.Proofs.Hierarchy.FirstRecord
import SceneAudit.Proofs.Hierarchy.Walk

/-!
# What rendering does, in terms of records

`render` builds two indexes, searches for cycles and walks.  Here its parts are
read off the lists of records themselves: which record a file identifier finds,
by which name a transform is printed, where the walk starts.  `render_eq` and
`exists_grows_render` are what the later developments use; none of them mentions
an index.
-/

namespace SceneAudit

/-- The name of the game object that a transform belongs to. -/
def nameIn (gameObjects : List GameObject) (transform : Transform) : Option String :=
  transform.gameObject.target?.bind fun owner =>
    (recordOf? GameObject.fileId gameObjects owner).bind GameObject.name

/-- The children that a transform lists, as far as they resolve to transforms of
the scene, in order and with repetitions. -/
def presentChildren (transforms : List Transform) (transform : Transform) : List FileId :=
  transform.resolvedChildren.filter (· ∈ transforms.map Transform.fileId)

/-- Whether the fault says that transforms are children of one another. -/
def Fault.isCycle : Fault → Bool
  | .cycle _ => true
  | _ => false

/-- The transforms without parent among those that win, in document order. -/
def rootRecords (transforms : List Transform) : List Transform :=
  (firstRecords Transform.fileId transforms).filter Transform.isRoot

/-- Whether the transform is on one of the cycles that are reported. -/
def OnReportedCycle (transforms : List Transform) (id : FileId) : Prop :=
  ∃ members ∈ findCycles transforms, id ∈ members

instance (transforms : List Transform) (id : FileId) :
    Decidable (OnReportedCycle transforms id) := by
  unfold OnReportedCycle
  infer_instance

/-- What the walk knows of a scene. -/
def sceneryOf (gameObjects : List GameObject) (transforms : List Transform) : Walk.Scenery :=
  scenery (.ofList GameObject.fileId gameObjects) (.ofList Transform.fileId transforms)
    (findCycles transforms)

variable (gameObjects : List GameObject) (transforms : List Transform)

@[simp] theorem getElem?_transforms_sceneryOf (id : FileId) :
    (sceneryOf gameObjects transforms).transforms[id]? =
      recordOf? Transform.fileId transforms id :=
  Index.getElem?_byId_ofList transforms id

theorem mem_transforms_sceneryOf_iff {id : FileId} :
    id ∈ (sceneryOf gameObjects transforms).transforms ↔ id ∈ transforms.map Transform.fileId :=
  Index.mem_byId_ofList_iff

theorem childIds_sceneryOf :
    (sceneryOf gameObjects transforms).childIds = presentChildren transforms := by
  funext transform
  unfold Walk.Scenery.childIds presentChildren
  congr
  funext id
  exact decide_eq_decide.mpr (mem_transforms_sceneryOf_iff gameObjects transforms)

theorem keyed_sceneryOf : (sceneryOf gameObjects transforms).Keyed := by
  intro id transform hfound
  rw [getElem?_transforms_sceneryOf] at hfound
  exact id_eq_of_recordOf? hfound

theorem nameOf_sceneryOf : (sceneryOf gameObjects transforms).nameOf = nameIn gameObjects := by
  funext transform
  simp only [sceneryOf, scenery, ownerName, nameIn]
  cases transform.gameObject.target? with
  | none => rfl
  | some owner =>
      simp [Index.getElem?_byId_ofList, bind]

theorem onCycle_sceneryOf_iff {id : FileId} :
    (sceneryOf gameObjects transforms).onCycle id ↔ OnReportedCycle transforms id := by
  have hfold : ∀ (cycles : List (List FileId)) (set : Std.HashSet FileId),
      id ∈ cycles.foldl (fun set members => members.foldl (·.insert ·) set) set ↔
        id ∈ set ∨ ∃ members ∈ cycles, id ∈ members := by
    intro cycles
    induction cycles with
    | nil => simp
    | cons members cycles ih =>
        intro set
        rw [List.foldl_cons, ih, mem_foldl_insert_iff]
        simp [or_assoc]
  simp only [sceneryOf, scenery, OnReportedCycle, Std.HashSet.contains_iff_mem, hfold]
  simp

/-- The visits from which the walk starts. -/
def initialVisits : List Visit :=
  (rootRecords transforms).map fun root => ⟨none, root.fileId, 0⟩

/-- The faults of repeated file identifiers: one for every record that loses,
in document order, game objects first. -/
def duplicateFaults : List Fault :=
  (repeatedRecords GameObject.fileId gameObjects).map
      (fun record => Fault.duplicateFileId record.fileId Tag.gameObject) ++
    (repeatedRecords Transform.fileId transforms).map
      (fun record => Fault.duplicateFileId record.fileId Tag.transform)

/-- The walk that rendering makes. -/
def renderWalk : Walk :=
  Walk.run (sceneryOf gameObjects transforms) (initialVisits transforms) .start

/-- Rendering reports, in this order, repeated identifiers, cycles and
transforms that were asked for again. -/
theorem render_eq :
    render gameObjects transforms =
      { lines := (renderWalk gameObjects transforms).reversedLines.reverse
        faults := duplicateFaults gameObjects transforms ++
          ((findCycles transforms).map Fault.cycle ++
            (renderWalk gameObjects transforms).reversedFaults.reverse) } := by
  simp only [render, rootVisits, Index.kept_ofList, Index.repeated_ofList, duplicateFaults,
    List.map_map, List.append_assoc]
  rfl

theorem exists_grows_render :
    ∃ forest, Walk.Grows (sceneryOf gameObjects transforms) (initialVisits transforms) .start
      forest (renderWalk gameObjects transforms) :=
  Walk.grows_run _ _

theorem isRevisit_of_mem_renderWalk {fault : Fault}
    (h : fault ∈ (renderWalk gameObjects transforms).reversedFaults.reverse) : fault.isRevisit := by
  obtain ⟨forest, hgrows⟩ := exists_grows_render gameObjects transforms
  rcases hgrows.isRevisit_of_mem (List.mem_reverse.mp h) with hstart | hrevisit
  · simp [Walk.start] at hstart
  · exact hrevisit

theorem filter_isRevisit_faults :
    (render gameObjects transforms).faults.filter Fault.isRevisit =
      (renderWalk gameObjects transforms).reversedFaults.reverse := by
  have hwalk : (renderWalk gameObjects transforms).reversedFaults.reverse.filter Fault.isRevisit =
      (renderWalk gameObjects transforms).reversedFaults.reverse := by
    refine List.filter_eq_self.mpr fun fault hfault => ?_
    exact isRevisit_of_mem_renderWalk gameObjects transforms hfault
  rw [render_eq, List.filter_append, List.filter_append, hwalk]
  simp [duplicateFaults, List.filter_map, Function.comp_def, Fault.isRevisit]

theorem filter_isCycle_faults :
    (render gameObjects transforms).faults.filter Fault.isCycle =
      (findCycles transforms).map Fault.cycle := by
  have hwalk : (renderWalk gameObjects transforms).reversedFaults.reverse.filter Fault.isCycle =
      [] := by
    refine List.filter_eq_nil_iff.mpr fun fault hfault => ?_
    have hrevisit := isRevisit_of_mem_renderWalk gameObjects transforms hfault
    cases fault <;> simp_all [Fault.isRevisit, Fault.isCycle]
  rw [render_eq, List.filter_append, List.filter_append, hwalk]
  simp [duplicateFaults, List.filter_map, Function.comp_def, Fault.isCycle]

end SceneAudit
