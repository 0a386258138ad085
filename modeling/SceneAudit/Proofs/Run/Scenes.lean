import SceneAudit.Proofs.Run.Reading
import SceneAudit.Proofs.Run.Writing

/-!
# Dealing with scenes

What a scene's task makes of the scene and of the tree does not depend on the registry
(`run_sceneTask`), and it changes nothing but the dump (`keptExcept_dealt`).  So a run
through the scenes leaves every file that is no dump as it was
(`keptExcept_foldl_sceneStep`), and registers the scripts of all scenes that are text,
dumped or not (`registry_foldl_sceneStep`).

If each scene has a dump of its own, no task meets what another has left, and every
outcome and every dump is the one of the task carried out alone
(`foldl_sceneStep_alone`).
-/

namespace SceneAudit

open FileTree (KeptExcept IsUpdate)

/-- What is said of a scene that was dumped. -/
def Scene.summary (config : Config) (path : Path) (scene : Scene) : SceneSummary where
  scene := path
  dump := config.dumpPath path
  lines := scene.hierarchy.lines.length
  faults := scene.hierarchy.faults.length
  rejected := scene.rejected.length
  scripts := scene.scripts.countP fun script => script.guid.target?.isSome

section

variable (config : Config) (path : Path) (scene : Scene)

@[simp] theorem Scene.summary_dump : (scene.summary config path).dump = config.dumpPath path := by
  rw [summary]

@[simp] theorem Scene.summary_lines :
    (scene.summary config path).lines = scene.hierarchy.lines.length := rfl

@[simp] theorem Scene.summary_faults :
    (scene.summary config path).faults = scene.hierarchy.faults.length := rfl

@[simp] theorem Scene.summary_rejected :
    (scene.summary config path).rejected = scene.rejected.length := rfl

end

namespace Refusals

variable (refusals : Refusals)

/-! ## One scene -/

/-- The document of a scene. -/
def sceneText (tree : FileTree) (path : Path) : Except SceneError String :=
  match refusals.read tree path with
  | .error cause => .error (.unreadable path cause)
  | .ok bytes => (Text.decode bytes).mapError (SceneError.notText path)

/-- What becomes of a scene, and the tree afterwards. -/
def dealt (config : Config) (path : Path) (tree : FileTree) :
    Except SceneError SceneSummary × FileTree :=
  match refusals.sceneText tree path with
  | .error error => (.error error, tree)
  | .ok document =>
    let scene := Scene.ofDocument document
    let dump := config.dumpPath path
    let written := refusals.rewritten true dump scene.hierarchy.dump.toUTF8 tree
    (match written.1.bind id with
      | .error cause => .error (.unwritable dump cause)
      | .ok () => .ok (scene.summary config path), written.2)

/-- The registry with the scripts of a scene, if the scene is text. -/
def registered (tree : FileTree) (registry : Registry) (path : Path) : Registry :=
  match refusals.sceneText tree path with
  | .error _ => registry
  | .ok document => (registry.extend path (Scene.ofDocument document).scripts).1

variable {refusals} {config : Config} {tree after : FileTree} {path : Path}

theorem toOption_sceneText (refusals : Refusals) (tree : FileTree) (path : Path) :
    (refusals.sceneText tree path).toOption = (refusals.readText tree path).toOption := by
  unfold sceneText readText
  cases refusals.read tree path with
  | error cause => rfl
  | ok bytes =>
      simp only [Except.bind]
      cases Text.decode bytes <;> rfl

theorem sceneText_congr (h : refusals.read after path = refusals.read tree path) :
    refusals.sceneText after path = refusals.sceneText tree path := by
  rw [sceneText, sceneText, h]

theorem keptExcept_dealt (refusals : Refusals) (config : Config) (path : Path) (tree : FileTree) :
    tree.KeptExcept [config.dumpPath path] (refusals.dealt config path tree).2 := by
  unfold dealt
  cases refusals.sceneText tree path with
  | error error => exact .refl tree _
  | ok document =>
      simp only
      exact refusals.keptExcept_rewritten true _ _ tree

end Refusals

namespace Restricted

variable {refusals : Refusals}

theorem run_readScene (path : Path) (tree : FileTree) :
    (Run.readScene path : Restricted refusals _).run tree = (refusals.sceneText tree path, tree) := by
  unfold Run.readScene Refusals.sceneText
  rw [run_bind, run_read]
  cases refusals.read tree path <;> rfl

theorem run_sceneTask (config : Config) (registry : Registry) (path : Path) (tree : FileTree) :
    (Run.sceneTask config registry path : Restricted refusals _).run tree =
      ((refusals.registered tree registry path, (refusals.dealt config path tree).1),
        (refusals.dealt config path tree).2) := by
  unfold Run.sceneTask Refusals.registered Refusals.dealt
  rw [run_bind, run_readScene]
  cases refusals.sceneText tree path with
  | error error => rfl
  | ok document =>
      simp only [run_bind, Run.run_writeText, Registry.extend_snd]
      cases (refusals.rewritten true (config.dumpPath path)
        (Scene.ofDocument document).hierarchy.dump.toUTF8 tree).1.bind id <;> rfl

end Restricted

/-! ## All scenes -/

namespace Refusals

variable (refusals : Refusals) (config : Config)

/-- One scene more, dealt with in the tree that the others have left. -/
def sceneStep (state : Run.SceneProgress × FileTree) (path : Path) : Run.SceneProgress × FileTree :=
  (⟨refusals.registered state.2 state.1.registry path,
      (path, (refusals.dealt config path state.2).1) :: state.1.reversedOutcomes⟩,
    (refusals.dealt config path state.2).2)

/-- The run through the scenes. -/
def scenesDealt (scenes : List Path) (tree : FileTree) : Run.SceneProgress × FileTree :=
  scenes.foldl (refusals.sceneStep config) (⟨.empty, []⟩, tree)

variable {refusals config} {tree : FileTree} {written scenes : List Path}
  {state : Run.SceneProgress × FileTree}

theorem keptExcept_sceneStep (refusals : Refusals) {path : Path} (hwritten : config.dumpPath path ∈ written)
    (hkept : tree.KeptExcept written state.2) :
    tree.KeptExcept written (refusals.sceneStep config state path).2 := by
  apply hkept.trans (refusals.keptExcept_dealt config path state.2)
  intro dump hdump
  rw [List.mem_singleton.mp hdump]
  exact hwritten

/-- Only dumps change. -/
theorem keptExcept_foldl_sceneStep (hwritten : ∀ scene ∈ scenes, config.dumpPath scene ∈ written)
    (hkept : tree.KeptExcept written state.2) :
    tree.KeptExcept written (scenes.foldl (refusals.sceneStep config) state).2 := by
  induction scenes generalizing state with
  | nil => exact hkept
  | cons scene scenes ih =>
      rw [List.forall_mem_cons] at hwritten
      exact ih hwritten.2 (refusals.keptExcept_sceneStep hwritten.1 hkept)

/-- As long as the scenes are read as in the beginning, their scripts are registered. -/
theorem registry_foldl_sceneStep (hwritten : ∀ scene ∈ scenes, config.dumpPath scene ∈ written)
    (hread : ∀ scene ∈ scenes, ∀ later, tree.KeptExcept written later →
      refusals.read later scene = refusals.read tree scene)
    (hkept : tree.KeptExcept written state.2) :
    (scenes.foldl (refusals.sceneStep config) state).1.registry =
      (refusals.readable tree scenes).foldl
        (fun registry scene => (registry.extend scene.path (Scene.ofDocument scene.text).scripts).1)
        state.1.registry := by
  induction scenes generalizing state with
  | nil => rfl
  | cons scene scenes ih =>
      rw [List.forall_mem_cons] at hwritten hread
      have hstep := refusals.keptExcept_sceneStep hwritten.1 hkept
      have hoption := refusals.toOption_sceneText tree scene
      rw [List.foldl_cons, ih hwritten.2 hread.2 hstep]
      unfold sceneStep registered readable
      rw [sceneText_congr (hread.1 _ hkept)]
      cases htext : refusals.sceneText tree scene with
      | error error =>
          rw [htext] at hoption
          rw [List.filterMap_cons, ← hoption]
          simp only [Except.toOption, Option.map_none]
      | ok document =>
          rw [htext] at hoption
          rw [List.filterMap_cons, ← hoption]
          simp only [Except.toOption, Option.map_some, List.foldl_cons]

/-! ## Scenes with dumps of their own -/

/-- The dump of each scene has a place, which it shares with no other. -/
structure OwnDumps (config : Config) (tree : FileTree) (scenes : List Path) (place : Path → Place) :
    Prop where
  located : ∀ scene ∈ scenes, tree.locateFile (config.dumpPath scene) = .ok (place scene)
  distinct : scenes.Pairwise fun first second => place first ≠ place second

/-- What becomes of a scene with this text when its dump has this place, and the entry there
afterwards. -/
def dealtAt (refusals : Refusals) (config : Config) (path : Path) (text : Except SceneError String)
    (place : Place) (entry : Option Entry) : Except SceneError SceneSummary × Option Entry :=
  match text with
  | .error error => (.error error, entry)
  | .ok document =>
    let scene := Scene.ofDocument document
    let written := refusals.put true place entry scene.hierarchy.dump.toUTF8
    (match written.1.bind id with
      | .error cause => .error (.unwritable (config.dumpPath path) cause)
      | .ok () => .ok (scene.summary config path), written.2)

variable {path : Path} {place : Place} {later : FileTree}

theorem dealt_of_located (refusals : Refusals) (hlocated : tree.locateFile (config.dumpPath path) = .ok place) :
    (refusals.dealt config path tree).1 =
        (refusals.dealtAt config path (refusals.sceneText tree path) place (tree.entry? place)).1 ∧
      FileTree.entry? (refusals.dealt config path tree).2 place =
        (refusals.dealtAt config path (refusals.sceneText tree path) place (tree.entry? place)).2 := by
  unfold dealt dealtAt
  cases refusals.sceneText tree path with
  | error error => exact ⟨rfl, rfl⟩
  | ok document =>
      obtain ⟨after, hwritten, hupdate⟩ := refusals.rewritten_of_located true
        (Scene.ofDocument document).hierarchy.dump.toUTF8 hlocated
      simp only [hwritten, hupdate.at_place]
      exact ⟨trivial, trivial⟩

/-- Dealing with a scene again makes no difference. -/
theorem dealtAt_dealtAt (refusals : Refusals) (config : Config) (path : Path)
    (text : Except SceneError String) (place : Place) (entry : Option Entry) :
    refusals.dealtAt config path text place (refusals.dealtAt config path text place entry).2 =
      refusals.dealtAt config path text place entry := by
  cases text with
  | error error => rfl
  | ok document => simp only [dealtAt, refusals.put_put]

/-- What becomes of a scene depends on its own bytes and on what they make of the entry in the place
of its dump. -/
theorem dealt_of_dealtAt (hlocated : tree.locateFile (config.dumpPath path) = .ok place)
    (hkept : tree.KeptExcept written later) (hread : refusals.read later path = refusals.read tree path)
    (hentry : refusals.dealtAt config path (refusals.sceneText tree path) place (later.entry? place) =
      refusals.dealtAt config path (refusals.sceneText tree path) place (tree.entry? place)) :
    (refusals.dealt config path later).1 = (refusals.dealt config path tree).1 ∧
      FileTree.entry? (refusals.dealt config path later).2 place =
        FileTree.entry? (refusals.dealt config path tree).2 place := by
  obtain ⟨houtcome, hheld⟩ := refusals.dealt_of_located hlocated
  obtain ⟨houtcomeLater, hheldLater⟩ :=
    refusals.dealt_of_located (hkept.directories.locateFile_eq_ok_iff.mpr hlocated)
  rw [sceneText_congr hread, hentry] at houtcomeLater hheldLater
  exact ⟨houtcomeLater.trans houtcome.symm, hheldLater.trans hheld.symm⟩

/-- Where a scene was dealt with before, the same becomes of it again. -/
theorem dealt_again (hlocated : tree.locateFile (config.dumpPath path) = .ok place)
    (hkept : tree.KeptExcept written later) (hread : refusals.read later path = refusals.read tree path)
    (hentry : later.entry? place = FileTree.entry? (refusals.dealt config path tree).2 place) :
    (refusals.dealt config path later).1 = (refusals.dealt config path tree).1 ∧
      FileTree.entry? (refusals.dealt config path later).2 place =
        FileTree.entry? (refusals.dealt config path tree).2 place := by
  refine dealt_of_dealtAt hlocated hkept hread ?_
  rw [hentry, (refusals.dealt_of_located hlocated).2, dealtAt_dealtAt]

/-- What a run through scenes with dumps of their own leaves behind, when it starts from
what others have left. -/
structure DealtAlone (refusals : Refusals) (config : Config) (tree : FileTree) (scenes : List Path) (place : Path → Place)
    (before after : Run.SceneProgress × FileTree) : Prop where
  outcomes : after.1.reversedOutcomes.reverse =
    before.1.reversedOutcomes.reverse ++
      scenes.map fun scene => (scene, (refusals.dealt config scene tree).1)
  dump : ∀ scene ∈ scenes,
    FileTree.entry? after.2 (place scene) = FileTree.entry? (refusals.dealt config scene tree).2 (place scene)
  elsewhere : ∀ other, (∀ scene ∈ scenes, other ≠ place scene) →
    FileTree.entry? after.2 other = FileTree.entry? before.2 other

theorem foldl_sceneStep_alone {place : Path → Place} (hown : OwnDumps config tree scenes place)
    (hwritten : ∀ scene ∈ scenes, config.dumpPath scene ∈ written)
    (hread : ∀ scene ∈ scenes, ∀ later, tree.KeptExcept written later →
      refusals.read later scene = refusals.read tree scene)
    (hkept : tree.KeptExcept written state.2)
    (hentry : ∀ scene ∈ scenes, FileTree.entry? state.2 (place scene) = tree.entry? (place scene)) :
    refusals.DealtAlone config tree scenes place state
      (scenes.foldl (refusals.sceneStep config) state) := by
  induction scenes generalizing state with
  | nil => exact ⟨by simp, by simp, fun _ _ => rfl⟩
  | cons scene scenes ih =>
      obtain ⟨hlocated, hdistinct⟩ := hown
      rw [List.forall_mem_cons] at hwritten hread hentry hlocated
      rw [List.pairwise_cons] at hdistinct
      have hdealt := refusals.keptExcept_dealt config scene state.2
      have hlocatedNow := hkept.directories.locateFile_eq_ok_iff.mpr hlocated.1
      -- the scene changes no place but that of its own dump
      have hother : ∀ other, other ≠ place scene →
          FileTree.entry? (refusals.sceneStep config state scene).2 other = FileTree.entry? state.2 other := by
        intro other hne
        apply hdealt.entry?_eq
        intro path hpath hfound
        rw [List.mem_singleton.mp hpath, hlocatedNow] at hfound
        exact hne (Except.ok.inj hfound).symm
      have hstep := refusals.keptExcept_sceneStep hwritten.1 hkept
      obtain ⟨houtcome, hdump⟩ :=
        dealt_of_dealtAt hlocated.1 hkept (hread.1 _ hkept) (by rw [hentry.1])
      -- the scenes to come find the places of their dumps as they were, so `ih` applies to them
      have hrest := ih ⟨hlocated.2, hdistinct.2⟩ hwritten.2 hread.2 hstep (by
          intro later hlater
          rw [hother _ (hdistinct.1 later hlater).symm]
          exact hentry.2 later hlater)
      refine ⟨?_, ?_, ?_⟩
      · rw [List.foldl_cons, hrest.outcomes, List.map_cons, ← houtcome]
        simp [sceneStep]
      · refine List.forall_mem_cons.mpr ⟨?_, hrest.dump⟩
        rw [List.foldl_cons, hrest.elsewhere _ hdistinct.1]
        exact hdump
      · intro other hne
        rw [List.forall_mem_cons] at hne
        rw [List.foldl_cons, hrest.elsewhere other hne.2]
        exact hother other hne.1

end Refusals

theorem Restricted.run_scenePhase {refusals : Refusals} (config : Config) (scenes : List Path)
    (tree : FileTree) :
    (Run.scenePhase config scenes : Restricted refusals _).run tree =
      refusals.scenesDealt config scenes tree := by
  unfold Run.scenePhase Refusals.scenesDealt
  rw [run_foldlM]
  congr 1
  funext state path
  rw [run_bind, run_sceneTask]
  rfl

end SceneAudit
