import SceneAudit.Proofs.Run.Scenes

/-!
# The outcomes of tasks

What a run achieved and what failed are filtered from the outcomes of its tasks, and the
path of a task leads back to its outcome.  The task of a scene, carried out alone, fails
for one of three reasons (`dealt_isOk_eq_false_iff`); if it does not, its dump holds the
hierarchy (`dealt_of_canDump`), and if it fails at the dump, what was there is kept or
makes way for as much of the hierarchy as was written (`dealt_of_not_canDump`).
-/

namespace SceneAudit

open Restricted

/-! ## Outcomes that carry their paths -/

theorem find?_filterMap_of_key {α β : Type} [DecidableEq α] {f : α → Option β} (key : β → α)
    (hkey : ∀ a b, f a = some b → key b = a) {items : List α} {a : α} (h : a ∈ items) :
    (items.filterMap f).find? (fun b => key b = a) = f a := by
  induction items with
  | nil => exact absurd h List.not_mem_nil
  | cons item items ih =>
      by_cases heq : item = a
      · subst heq
        cases hitem : f item with
        | none =>
            rw [List.filterMap_cons_none hitem, List.find?_eq_none]
            intro b hb
            obtain ⟨other, -, hother⟩ := List.mem_filterMap.mp hb
            -- a result with this key would be one of the item
            rw [decide_eq_true_eq, hkey other b hother]
            rintro rfl
            exact absurd (hitem.symm.trans hother) (by simp)
        | some b =>
            rw [List.filterMap_cons_some hitem]
            exact List.find?_cons_of_pos (by simpa using hkey item b hitem)
      · have hmem : a ∈ items := (List.mem_cons.mp h).resolve_left (Ne.symm heq)
        cases hitem : f item with
        | none => rw [List.filterMap_cons_none hitem, ih hmem]
        | some b =>
            rw [List.filterMap_cons_some hitem, List.find?_cons_of_neg, ih hmem]
            simpa [hkey item b hitem] using heq

namespace Run

variable {ε α : Type} {message : Path → ε → String} {outcome : Path → Except ε α} {paths : List Path}

theorem achieved_map :
    achieved (paths.map fun path => (path, outcome path)) =
      paths.filterMap fun path => (outcome path).toOption := by
  rw [achieved, List.filterMap_map]
  rfl

/-- The failure of one task. -/
def failureOf (message : Path → ε → String) (path : Path) : Except ε α → Option TaskFailure
  | .ok _ => none
  | .error error => some ⟨path, message path error⟩

theorem failed_map :
    failed message (paths.map fun path => (path, outcome path)) =
      paths.filterMap fun path => failureOf message path (outcome path) := by
  rw [failed, List.filterMap_map]
  apply List.filterMap_congr
  intro path _
  rw [Function.comp_apply]
  cases outcome path <;> rfl

theorem map_path_failed :
    (failed message (paths.map fun path => (path, outcome path))).map TaskFailure.path =
      paths.filter fun path => !(outcome path).isOk := by
  rw [failed_map, List.map_filterMap, ← List.filterMap_eq_filter]
  apply List.filterMap_congr
  intro path _
  cases houtcome : outcome path <;>
    simp [failureOf, Option.guard, Except.isOk, Except.toBool, houtcome]

theorem map_achieved {key : α → Path} (hkey : ∀ path a, outcome path = .ok a → key a = path) :
    (achieved (paths.map fun path => (path, outcome path))).map key =
      paths.filter fun path => (outcome path).isOk := by
  rw [achieved_map, List.map_filterMap, ← List.filterMap_eq_filter]
  apply List.filterMap_congr
  intro path _
  cases houtcome : outcome path with
  | error error => simp [Except.toOption, Option.guard, Except.isOk, Except.toBool, houtcome]
  | ok a => simp [Except.toOption, Option.guard, Except.isOk, Except.toBool, houtcome, hkey path a houtcome]

end Run

/-! ## One scene alone -/

namespace Config

/-- The dump of a scene with this document can be written. -/
def CanDump (config : Config) (refusals : Refusals) (tree : FileTree) (scene : Path) (document : String) :
    Prop :=
  ((Run.writeText (config.dumpPath scene) (Scene.ofDocument document).hierarchy.dump :
    Restricted refusals _).run tree).1 = .ok ()

/-- The bytes of a scene cannot be read, or are no text, or its dump cannot be written. -/
def Fails (config : Config) (refusals : Refusals) (tree : FileTree) (scene : Path) : Prop :=
  (∃ cause, refusals.read tree scene = .error cause) ∨
    (∃ bytes offset, refusals.read tree scene = .ok bytes ∧ Text.decode bytes = .error offset) ∨
      ∃ document, refusals.sceneText tree scene = .ok document ∧
        ¬ config.CanDump refusals tree scene document

end Config

namespace Refusals

variable {refusals : Refusals} {config : Config} {tree : FileTree} {scene : Path} {document : String}

theorem canDump_iff :
    config.CanDump refusals tree scene document ↔
      (refusals.rewritten true (config.dumpPath scene)
        (Scene.ofDocument document).hierarchy.dump.toUTF8 tree).1 = .ok (.ok ()) := by
  unfold Config.CanDump
  rw [Run.run_writeText]
  rcases (refusals.rewritten true (config.dumpPath scene)
    (Scene.ofDocument document).hierarchy.dump.toUTF8 tree).1 with error | error | _ <;>
    simp [Except.bind]

theorem dealt_of_error (config : Config) {error : SceneError} (h : refusals.sceneText tree scene = .error error) :
    refusals.dealt config scene tree = (.error error, tree) := by
  rw [dealt, h]

theorem dealt_of_canDump (h : refusals.sceneText tree scene = .ok document)
    (hcan : config.CanDump refusals tree scene document) :
    (refusals.dealt config scene tree).1 = .ok ((Scene.ofDocument document).summary config scene) ∧
      (refusals.dealt config scene tree).2.read (config.dumpPath scene) =
        .ok (Scene.ofDocument document).hierarchy.dump.toUTF8 := by
  rw [canDump_iff] at hcan
  unfold dealt
  rw [h]
  simp only [hcan]
  refine ⟨rfl, ?_⟩
  rw [read_of_rewritten hcan, kept, if_pos rfl, ByteArray.empty_append]

theorem dealt_of_not_canDump (h : refusals.sceneText tree scene = .ok document)
    (hcan : ¬ config.CanDump refusals tree scene document) :
    (∃ cause, (refusals.dealt config scene tree).1 =
        .error (.unwritable (config.dumpPath scene) cause)) ∧
      ((refusals.dealt config scene tree).2.read (config.dumpPath scene) =
          tree.read (config.dumpPath scene) ∨
        ∃ taken, (refusals.dealt config scene tree).2.read (config.dumpPath scene) =
          .ok ((Scene.ofDocument document).hierarchy.dump.toUTF8.extract 0 taken)) := by
  rw [canDump_iff] at hcan
  unfold dealt
  rw [h]
  simp only
  refine ⟨?_, read_of_not_rewritten refusals _ _ tree⟩
  rcases hwritten : (refusals.rewritten true (config.dumpPath scene)
    (Scene.ofDocument document).hierarchy.dump.toUTF8 tree).1 with cause | cause | _
  · exact ⟨cause, rfl⟩
  · exact ⟨cause, rfl⟩
  · exact absurd hwritten hcan

theorem dealt_of_refused {place : Place} {error : DiskError}
    (h : refusals.sceneText tree scene = .ok document)
    (hlocated : tree.locateFile (config.dumpPath scene) = .ok place)
    (hopening : refusals.opening place = some error) :
    (refusals.dealt config scene tree).1 = .error (.unwritable (config.dumpPath scene) error) := by
  unfold dealt
  rw [h]
  simp only [rewritten_of_refused hlocated hopening, Except.bind]

theorem sceneText_eq_error_iff :
    (∃ error, refusals.sceneText tree scene = .error error) ↔
      (∃ cause, refusals.read tree scene = .error cause) ∨
        ∃ bytes offset, refusals.read tree scene = .ok bytes ∧ Text.decode bytes = .error offset := by
  unfold sceneText
  cases refusals.read tree scene with
  | error cause => simp
  | ok bytes =>
      cases hdecode : Text.decode bytes with
      | error offset => simp [Except.mapError, hdecode]
      | ok document => simp [Except.mapError, hdecode]

/-- A scene's task fails for one of three reasons. -/
theorem dealt_isOk_eq_false_iff :
    (refusals.dealt config scene tree).1.isOk = false ↔ config.Fails refusals tree scene := by
  rw [Config.Fails, ← or_assoc, ← sceneText_eq_error_iff]
  cases htext : refusals.sceneText tree scene with
  | error error => simp [dealt_of_error config htext, Except.isOk, Except.toBool]
  | ok document =>
      by_cases hcan : config.CanDump refusals tree scene document
      · simp [(dealt_of_canDump htext hcan).1, Except.isOk, Except.toBool, hcan]
      · obtain ⟨⟨cause, hcause⟩, -⟩ := dealt_of_not_canDump htext hcan
        simp [hcause, Except.isOk, Except.toBool, hcan]

theorem scene_of_dealt {entry : SceneSummary} (h : (refusals.dealt config scene tree).1 = .ok entry) :
    entry.scene = scene := by
  cases htext : refusals.sceneText tree scene with
  | error error => simp [dealt_of_error config htext] at h
  | ok document =>
      by_cases hcan : config.CanDump refusals tree scene document
      · rw [(dealt_of_canDump htext hcan).1] at h
        rw [← Except.ok.inj h]
        rfl
      · obtain ⟨⟨cause, hcause⟩, -⟩ := dealt_of_not_canDump htext hcan
        simp [hcause] at h

end Refusals

end SceneAudit
