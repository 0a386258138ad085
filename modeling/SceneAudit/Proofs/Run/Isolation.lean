import SceneAudit.Proofs.Run.Course
import SceneAudit.Proofs.Run.Outcome

/-!
# Failures stay where they are

Where each scene has a dump of its own, a run says of a scene what the scene's task says
of it alone (`entry?_eq`, `failure?_eq`), and leaves in the place of the dump what that
task leaves (`read_dumpPath`).  So neither a failure nor a success of one scene shows in
what becomes of another, and two runs in different states agree on a scene that both
read alike and can dump alike (`failures_isolated`).  What they need not agree on is why
a dump could not be written, and an earlier dump of a scene that is no text, which stays.
-/

namespace SceneAudit

open Restricted

/-! ## Looking up what a summary says -/

namespace RunSummary

/-- What is said of a scene that was dumped. -/
def entry? (summary : RunSummary) (scene : Path) : Option SceneSummary :=
  summary.scenes.find? fun entry => entry.scene = scene

/-- What is said of a scene that was not. -/
def failure? (summary : RunSummary) (scene : Path) : Option TaskFailure :=
  summary.sceneFailures.find? fun failure => failure.path = scene

end RunSummary

/-! ## One scene among the others -/

section

variable {refusals : Refusals} {config : Config} {judge : Path → Except DiskError String → OracleAnswer}
  {tree final : FileTree} {summary : RunSummary}

/-- What is assumed of a project and its configuration. -/
structure Config.KeepsApart (config : Config) (refusals : Refusals) (tree : FileTree) : Prop where
  wellFormed : tree.WellFormed
  spares : config.Spares (fun tree => config.scenesIn tree ++ config.sidecarsIn tree) refusals tree
  report : ∀ dump ∈ config.dumpsIn (config.prepared refusals tree),
    ¬ (config.prepared refusals tree).SamePlace config.reportPath dump
  extension : '/' ∉ config.dumpExtension.toList

/-- What a run that gave a summary has made of the scenes and sidecars. -/
structure Config.Made (config : Config) (refusals : Refusals) (tree : FileTree) (summary : RunSummary)
    (final : FileTree) : Prop where
  wellFormed : tree.WellFormed
  scenes : summary.scenes = Run.achieved ((config.scenesIn tree).map fun scene =>
    (scene, (refusals.dealt config scene tree).1))
  sceneFailures : summary.sceneFailures = Run.failed (fun _ error => error.message)
    ((config.scenesIn tree).map fun scene => (scene, (refusals.dealt config scene tree).1))
  sidecarsScanned : summary.sidecarsScanned = (config.sidecarsIn tree).length
  sidecarFailures : summary.sidecarFailures = Run.failed Sidecar.unreadable
    (refusals.sidecarOutcomes tree (config.sidecarsIn tree))
  dumps : ∀ scene ∈ config.scenesIn tree,
    final.read (config.dumpPath scene) =
      (refusals.dealt config scene tree).2.read (config.dumpPath scene)

/-- The dump of a scene is what the scene's task alone leaves there. -/
theorem read_dumpPath {outer : Place} {state : Run.SceneProgress × FileTree} {scene : Path}
    (hown : Refusals.OwnDumps config tree (config.scenesIn tree) fun scene => config.dumpName scene :: outer)
    (hkept : tree.KeptExcept (config.dumpsIn tree) state.2)
    (halone : refusals.DealtAlone config tree (config.scenesIn tree)
      (fun scene => config.dumpName scene :: outer) (⟨.empty, []⟩, tree) state)
    (hreported : state.2.KeptExcept [config.reportPath] final)
    (hreport : ∀ dump ∈ config.dumpsIn tree, ¬ tree.SamePlace config.reportPath dump)
    (hscene : scene ∈ config.scenesIn tree) :
    final.read (config.dumpPath scene) =
      (refusals.dealt config scene tree).2.read (config.dumpPath scene) := by
  have hlocated := hown.located scene hscene
  have hstate := hkept.directories.locateFile_eq_ok_iff.mpr hlocated
  have hdealt := (refusals.keptExcept_dealt config scene
    tree).directories.locateFile_eq_ok_iff.mpr hlocated
  have hfind : final.find (config.dumpPath scene) = state.2.find (config.dumpPath scene) := by
    apply hreported.find_eq (FileTree.locate_of_locateFile hstate)
    intro path hpath hsame
    rw [List.mem_singleton.mp hpath, hkept.directories.samePlace_iff] at hsame
    exact hreport _ (List.mem_map_of_mem hscene) hsame
  rw [FileTree.read_congr hfind, Refusals.read_of_located hstate, Refusals.read_of_located hdealt,
    halone.dump scene hscene]

theorem made_of_run_audit (hkeeps : config.KeepsApart refusals tree)
    (hrun : (audit config (Oracle.reading judge) : Restricted refusals _).run tree =
      (.ok summary, final)) :
    config.Made refusals (config.prepared refusals tree) summary final := by
  obtain ⟨hwfBefore, hspares, hreport, hslash⟩ := hkeeps
  have hprepared := prepared_of_run_audit hrun
  have hwf := Config.wellFormed_prepared config refusals hwfBefore
  obtain ⟨outer, hinto⟩ := leadsInto_of_run_createDirectories hwfBefore hprepared
  rw [run_audit_of_prepared hprepared] at hrun
  unfold Config.Spares at hspares
  generalize config.prepared refusals tree = tree at *
  have hscenesApart : tree.Apart (config.dumpsIn tree) (config.scenesIn tree) :=
    fun path hpath input hinput => hspares path hpath input (List.mem_append_left _ hinput)
  obtain ⟨hkept, -, halone⟩ := refusals.scenesDealt_alone hwf hinto hslash
    hscenesApart (List.Perm.refl _)
  have houtcomes := halone.outcomes
  rw [List.reverse_nil, List.nil_append] at houtcomes
  -- the sidecars are read when the dumps have been written, and none of them is a dump
  have hsidecars : refusals.sidecarOutcomes (refusals.scenesDealt config (config.scenesIn tree) tree).2
      (config.sidecarsIn tree) = refusals.sidecarOutcomes tree (config.sidecarsIn tree) := by
    apply refusals.sidecarOutcomes_congr
    intro path hpath
    obtain ⟨place, hlocate⟩ := hwf.exists_locate_of_mem_discovered hpath
    exact Refusals.read_eq_of_keptExcept hspares hkept (List.mem_append_right _ hpath) hlocate
  simp only [houtcomes, hsidecars] at hrun
  obtain ⟨rfl, hreported, -⟩ := Refusals.of_reported_eq_ok hrun
  refine ⟨hwf, rfl, rfl, rfl, rfl, ?_⟩
  intro scene hscene
  exact read_dumpPath (Config.ownDumps hwf hinto hslash) hkept halone hreported hreport hscene

namespace Config.Made

variable (h : config.Made refusals tree summary final)

include h

theorem map_scene : summary.scenes.map SceneSummary.scene =
    (config.scenesIn tree).filter fun scene => (refusals.dealt config scene tree).1.isOk := by
  rw [h.scenes, Run.map_achieved fun _ _ => Refusals.scene_of_dealt]

theorem map_failedScene : summary.sceneFailures.map TaskFailure.path =
    (config.scenesIn tree).filter fun scene => !(refusals.dealt config scene tree).1.isOk := by
  rw [h.sceneFailures, Run.map_path_failed]

theorem map_failedSidecar : summary.sidecarFailures.map TaskFailure.path =
    (config.sidecarsIn tree).filter fun sidecar => !(refusals.readText tree sidecar).isOk := by
  rw [h.sidecarFailures, Refusals.sidecarOutcomes, Run.map_path_failed]
  apply List.filter_congr
  intro path _
  cases refusals.readText tree path <;> rfl

theorem entry?_eq {scene : Path} (hscene : scene ∈ config.scenesIn tree) :
    summary.entry? scene = (refusals.dealt config scene tree).1.toOption := by
  unfold RunSummary.entry?
  rw [h.scenes, Run.achieved_map, find?_filterMap_of_key SceneSummary.scene _ hscene]
  intro path entry hsome
  apply @Refusals.scene_of_dealt refusals config tree
  cases houtcome : (refusals.dealt config path tree).1 with
  | error error => simp [houtcome, Except.toOption] at hsome
  | ok found =>
      rw [houtcome] at hsome
      rw [Option.some.inj hsome]

theorem failure?_eq {scene : Path} (hscene : scene ∈ config.scenesIn tree) :
    summary.failure? scene =
      Run.failureOf (fun _ error => error.message) scene (refusals.dealt config scene tree).1 := by
  unfold RunSummary.failure?
  rw [h.sceneFailures, Run.failed_map, find?_filterMap_of_key TaskFailure.path _ hscene]
  intro path failure hsome
  cases houtcome : (refusals.dealt config path tree).1 with
  | error error =>
      rw [houtcome] at hsome
      rw [← Option.some.inj hsome]
  | ok entry => simp [houtcome, Run.failureOf] at hsome

end Config.Made

/-! ## All scenes and sidecars -/

/-- What a summary says of the scenes and sidecars that the tree has. -/
structure Config.AccountsForAll (config : Config) (refusals : Refusals) (tree : FileTree)
    (summary : RunSummary) : Prop where
  /-- No two scenes are equal in order. -/
  ascending : Ascending (config.scenesIn tree)
  once : (summary.scenes.map SceneSummary.scene ++ summary.sceneFailures.map TaskFailure.path).Perm
    (config.scenesIn tree)
  scenes : Ascending (summary.scenes.map SceneSummary.scene)
  sceneFailures : Ascending (summary.sceneFailures.map TaskFailure.path)
  fails_iff : ∀ scene ∈ config.scenesIn tree,
    scene ∈ summary.sceneFailures.map TaskFailure.path ↔ config.Fails refusals tree scene
  sidecarsScanned : summary.sidecarsScanned = (config.sidecarsIn tree).length
  sidecarFailures : Ascending (summary.sidecarFailures.map TaskFailure.path)
  sidecarFails_iff : ∀ sidecar, sidecar ∈ summary.sidecarFailures.map TaskFailure.path ↔
    sidecar ∈ config.sidecarsIn tree ∧ ∃ cause, refusals.readText tree sidecar = .error cause

theorem Config.Made.accountsForAll (h : config.Made refusals tree summary final) :
    config.AccountsForAll refusals tree summary where
  ascending := FileTree.ascending_discovered h.wellFormed _ _ _
  once := by
    rw [h.map_scene, h.map_failedScene]
    exact List.filter_append_perm _ _
  scenes := by
    rw [h.map_scene]
    exact (FileTree.ascending_discovered h.wellFormed _ _ _).filter _
  sceneFailures := by
    rw [h.map_failedScene]
    exact (FileTree.ascending_discovered h.wellFormed _ _ _).filter _
  fails_iff := by
    intro scene hscene
    rw [h.map_failedScene, List.mem_filter, Bool.not_eq_true', Refusals.dealt_isOk_eq_false_iff]
    exact and_iff_right hscene
  sidecarsScanned := h.sidecarsScanned
  sidecarFailures := by
    rw [h.map_failedSidecar]
    exact (FileTree.ascending_discovered h.wellFormed _ _ _).filter _
  sidecarFails_iff := by
    intro sidecar
    rw [h.map_failedSidecar, List.mem_filter]
    cases refusals.readText tree sidecar <;> simp [Except.isOk, Except.toBool]

/-! ## One scene in one run -/

/-- The dump of a scene with this document could not be written: what was in its place is
still there, or the first bytes of the dump are, of which there may be none. -/
def Config.LeavesUnwritten (config : Config) (tree : FileTree) (summary : RunSummary) (final : FileTree)
    (scene : Path) (document : String) : Prop :=
  ∃ cause,
    summary.failure? scene =
        some ⟨scene, (SceneError.unwritable (config.dumpPath scene) cause).message⟩ ∧
      (final.read (config.dumpPath scene) = tree.read (config.dumpPath scene) ∨
        ∃ taken, final.read (config.dumpPath scene) =
          .ok ((Scene.ofDocument document).hierarchy.dump.toUTF8.extract 0 taken))

namespace Config.Made

variable {scene : Path} {document : String}

theorem of_notText (h : config.Made refusals tree summary final) {error : SceneError}
    (hscene : scene ∈ config.scenesIn tree) (htext : refusals.sceneText tree scene = .error error) :
    summary.entry? scene = none ∧ summary.failure? scene = some ⟨scene, error.message⟩ ∧
      final.read (config.dumpPath scene) = tree.read (config.dumpPath scene) := by
  rw [h.entry?_eq hscene, h.failure?_eq hscene, h.dumps scene hscene, Refusals.dealt_of_error config htext]
  exact ⟨rfl, rfl, rfl⟩

theorem of_canDump (h : config.Made refusals tree summary final) (hscene : scene ∈ config.scenesIn tree)
    (htext : refusals.sceneText tree scene = .ok document)
    (hcan : config.CanDump refusals tree scene document) :
    summary.entry? scene = some ((Scene.ofDocument document).summary config scene) ∧
      summary.failure? scene = none ∧
        final.read (config.dumpPath scene) = .ok (Scene.ofDocument document).hierarchy.dump.toUTF8 := by
  obtain ⟨hdealt, hheld⟩ := Refusals.dealt_of_canDump htext hcan
  rw [h.entry?_eq hscene, h.failure?_eq hscene, h.dumps scene hscene, hdealt]
  exact ⟨rfl, rfl, hheld⟩

theorem of_not_canDump (h : config.Made refusals tree summary final)
    (hscene : scene ∈ config.scenesIn tree) (htext : refusals.sceneText tree scene = .ok document)
    (hcan : ¬ config.CanDump refusals tree scene document) :
    summary.entry? scene = none ∧ config.LeavesUnwritten tree summary final scene document := by
  obtain ⟨⟨cause, hdealt⟩, hheld⟩ := Refusals.dealt_of_not_canDump htext hcan
  rw [← h.dumps scene hscene] at hheld
  have hentry := h.entry?_eq hscene
  have hfailure := h.failure?_eq hscene
  rw [hdealt] at hentry hfailure
  exact ⟨hentry, cause, hfailure, hheld⟩

end Config.Made

/-! ## One scene in two runs -/

variable {other : Refusals} {otherTree otherFinal : FileTree} {otherSummary : RunSummary}

/-- What two runs that read a scene alike say of it, and what they leave in the place of
its dump. -/
structure Config.SaysAlike (config : Config) (refusals : Refusals) (tree : FileTree)
    (summary : RunSummary) (final : FileTree) (otherTree : FileTree) (otherSummary : RunSummary)
    (otherFinal : FileTree) (scene : Path) : Prop where
  entry : otherSummary.entry? scene = summary.entry? scene
  /-- Of a scene that is no text both say the same, and both leave what was there. -/
  notText : ∀ error, refusals.sceneText tree scene = .error error →
    otherSummary.failure? scene = summary.failure? scene ∧
      final.read (config.dumpPath scene) = tree.read (config.dumpPath scene) ∧
        otherFinal.read (config.dumpPath scene) = otherTree.read (config.dumpPath scene)
  dumped : summary.entry? scene ≠ none →
    otherSummary.failure? scene = none ∧ summary.failure? scene = none ∧
      otherFinal.read (config.dumpPath scene) = final.read (config.dumpPath scene)
  /-- Otherwise each gives the reason that its own disk had. -/
  unwritable : ∀ document, refusals.sceneText tree scene = .ok document → summary.entry? scene = none →
    config.LeavesUnwritten tree summary final scene document ∧
      config.LeavesUnwritten otherTree otherSummary otherFinal scene document

theorem saysAlike_of_made (h : config.Made refusals tree summary final)
    (hother : config.Made other otherTree otherSummary otherFinal) {scene : Path}
    (hscene : scene ∈ config.scenesIn tree) (hotherScene : scene ∈ config.scenesIn otherTree)
    (hread : other.read otherTree scene = refusals.read tree scene)
    (hcan : ∀ document, refusals.sceneText tree scene = .ok document →
      (config.CanDump other otherTree scene document ↔ config.CanDump refusals tree scene document)) :
    config.SaysAlike refusals tree summary final otherTree otherSummary otherFinal scene := by
  have hsame : other.sceneText otherTree scene = refusals.sceneText tree scene := by
    rw [Refusals.sceneText, Refusals.sceneText, hread]
  cases htext : refusals.sceneText tree scene with
  | error error =>
      obtain ⟨hentry, hfailure, hleft⟩ := h.of_notText hscene htext
      obtain ⟨hentryOther, hfailureOther, hleftOther⟩ := hother.of_notText hotherScene (hsame.trans htext)
      constructor
      · rw [hentry, hentryOther]
      · intro _ _
        exact ⟨hfailureOther.trans hfailure.symm, hleft, hleftOther⟩
      · intro hne
        exact absurd hentry hne
      · intro document hok
        exact absurd (htext.symm.trans hok) (by simp)
  | ok document =>
      by_cases hwrite : config.CanDump refusals tree scene document
      · obtain ⟨hentry, hfailure, hheld⟩ := h.of_canDump hscene htext hwrite
        obtain ⟨hentryOther, hfailureOther, hheldOther⟩ :=
          hother.of_canDump hotherScene (hsame.trans htext) ((hcan document htext).mpr hwrite)
        constructor
        · rw [hentry, hentryOther]
        · intro error herror
          exact absurd (htext.symm.trans herror) (by simp)
        · intro _
          exact ⟨hfailureOther, hfailure, hheldOther.trans hheld.symm⟩
        · intro _ _ hnone
          exact absurd (hentry.symm.trans hnone) (by simp)
      · obtain ⟨hentry, hleft⟩ := h.of_not_canDump hscene htext hwrite
        obtain ⟨hentryOther, hleftOther⟩ :=
          hother.of_not_canDump hotherScene (hsame.trans htext) (mt (hcan document htext).mp hwrite)
        constructor
        · rw [hentry, hentryOther]
        · intro error herror
          exact absurd (htext.symm.trans herror) (by simp)
        · intro hne
          exact absurd hentry hne
        · intro document' hdocument _
          obtain rfl : document = document' := Except.ok.inj (htext.symm.trans hdocument)
          exact ⟨hleft, hleftOther⟩

/-- **Failures stay isolated.**  A run that gives a summary accounts for every scene and
every sidecar once and in order, and what it says of one scene and leaves in the place of
its dump depends on that scene's bytes and on whether its dump can be written, but not on
the others. -/
theorem failures_isolated (hkeeps : config.KeepsApart refusals tree)
    (hrun : (audit config (Oracle.reading judge) : Restricted refusals _).run tree =
      (.ok summary, final)) :
    config.AccountsForAll refusals (config.prepared refusals tree) summary ∧
      ∀ (other : Refusals) (otherTree otherFinal : FileTree) (otherSummary : RunSummary),
        config.KeepsApart other otherTree →
        (audit config (Oracle.reading judge) : Restricted other _).run otherTree =
          (.ok otherSummary, otherFinal) →
        ∀ scene ∈ config.scenesIn (config.prepared refusals tree),
          scene ∈ config.scenesIn (config.prepared other otherTree) →
          other.read (config.prepared other otherTree) scene =
            refusals.read (config.prepared refusals tree) scene →
          (∀ document, refusals.sceneText (config.prepared refusals tree) scene = .ok document →
            (config.CanDump other (config.prepared other otherTree) scene document ↔
              config.CanDump refusals (config.prepared refusals tree) scene document)) →
          config.SaysAlike refusals (config.prepared refusals tree) summary final
            (config.prepared other otherTree) otherSummary otherFinal scene := by
  have hmade := made_of_run_audit hkeeps hrun
  refine ⟨hmade.accountsForAll, ?_⟩
  intro other otherTree otherFinal otherSummary hkeepsOther hrunOther scene hscene hotherScene hread hcan
  exact saysAlike_of_made hmade (made_of_run_audit hkeepsOther hrunOther) hscene hotherScene hread hcan

end

namespace BrokenScene

/-- The scene that is no text. -/
def broken : Path := ⟨"./Scenes/Broken.unity"⟩

/-- The scene that is text. -/
def hall : Path := ⟨"./Scenes/Hall.unity"⟩

theorem join_broken : config.scenesPath.join "Broken.unity" = broken := by decide

theorem join_hall : config.scenesPath.join "Hall.unity" = hall := by decide

/-- The project with a dump that an earlier run has left of the scene that is no text. -/
def projectWithDump : FileTree :=
  project.insert ["Broken.unity.dump", "out"] (.file "Hall\n".toUTF8)

theorem isLaidOut_projectWithDump : IsLaidOut projectWithDump where
  wellFormed := by
    refine isLaidOut_project.wellFormed.insert _ (by decide) isLaidOut_project.output ?_
    simp [project, FileTree.IsDirectory, FileTree.entry?_insert, FileTree.entry?_empty]
  here := rfl
  output := by simp [projectWithDump, project, FileTree.IsDirectory, FileTree.entry?_insert]
  scenes := by simp [projectWithDump, project, FileTree.IsDirectory, FileTree.entry?_insert]
  scripts := by simp [projectWithDump, project, FileTree.IsDirectory, FileTree.entry?_insert]
  report := by
    simp [projectWithDump, project, FileTree.entry?_insert, FileTree.entry?_empty]

theorem broken_project : project.entry? ["Broken.unity", "Scenes"] = some (.file ⟨#[0xff]⟩) := by
  simp [project, FileTree.entry?_insert]

theorem broken_projectWithDump :
    projectWithDump.entry? ["Broken.unity", "Scenes"] = some (.file ⟨#[0xff]⟩) := by
  simp [projectWithDump, project, FileTree.entry?_insert]

theorem brokenDump_project : project.entry? ["Broken.unity.dump", "out"] = none := by
  simp [project, FileTree.entry?_insert, FileTree.entry?_empty]

theorem brokenDump_projectWithDump :
    projectWithDump.entry? ["Broken.unity.dump", "out"] = some (.file "Hall\n".toUTF8) := by
  rw [projectWithDump, FileTree.entry?_insert, if_pos rfl]

theorem hall_project : project.entry? ["Hall.unity", "Scenes"] = some (.file hallText.toUTF8) := by
  simp [project, FileTree.entry?_insert]

theorem exists_sceneText_broken {tree : FileTree}
    (hread : Refusals.nothing.read tree broken = .ok ⟨#[0xff]⟩) :
    ∃ error, Refusals.nothing.sceneText tree broken = .error error := by
  have hdecode : String.fromUTF8? ⟨#[0xff]⟩ = none := by decide
  refine Refusals.sceneText_eq_error_iff.mpr (.inr ⟨_, Text.validUpTo ⟨#[0xff]⟩ 0, hread, ?_⟩)
  rw [Text.decode, hdecode]

namespace IsLaidOut

variable {tree : FileTree} (h : IsLaidOut tree)

include h

theorem keepsApart (refusals : Refusals) : config.KeepsApart refusals tree where
  wellFormed := h.wellFormed
  spares := by
    intro path hpath input hinput
    exact h.spares refusals path hpath input (List.mem_append_left _ hinput)
  report := by
    rw [h.prepared_eq]
    rintro dump hdump ⟨place, hreport, hplace⟩
    apply h.locateFile_dump_ne dump hdump
    obtain ⟨scene, hscene, rfl⟩ := List.mem_map.mp hdump
    have hown := Config.ownDumps h.wellFormed h.leadsInto_output (by decide)
    have hlocated := hown.located scene hscene
    rw [hlocated, ← hplace.symm.trans (FileTree.locate_of_locateFile hlocated)]
    exact hreport.symm.trans (FileTree.locate_of_locateFile h.locateFile_report)
  extension := by decide

theorem mem_scenesIn {name : String} {contents : ByteArray}
    (hentry : tree.entry? [name, "Scenes"] = some (.file contents))
    (hextension : Path.extension? (config.scenesPath.join name) = some config.sceneExtension) :
    config.scenesPath.join name ∈ config.scenesIn tree := by
  have hfind : tree.find config.scenesPath = .ok (["Scenes"], .directory) := by
    unfold FileTree.find
    rw [h.leadsInto_scenes.locate_self (by decide)]
    simp [bind, Except.bind, show tree.entry? ["Scenes"] = some .directory from h.scenes]
  refine FileTree.mem_discovered_iff.mpr ⟨FileTree.mem_files_iff.mpr ?_, hextension⟩
  exact ⟨["Scenes"], [name], contents, hfind, by simp, .inr rfl, hentry, rfl⟩

theorem read_scene {name : String} {contents : ByteArray} (hname : Path.IsName name)
    (hentry : tree.entry? [name, "Scenes"] = some (.file contents)) :
    Refusals.nothing.read tree (config.scenesPath.join name) = .ok contents := by
  rw [read_nothing, Refusals.read_of_located (h.leadsInto_scenes.locateFile_join hname), hentry]
  rfl

theorem broken_mem_scenesIn (hbroken : tree.entry? ["Broken.unity", "Scenes"] = some (.file ⟨#[0xff]⟩)) :
    broken ∈ config.scenesIn tree := by
  have hmem := h.mem_scenesIn hbroken (by decide)
  rwa [join_broken] at hmem

theorem read_broken (hbroken : tree.entry? ["Broken.unity", "Scenes"] = some (.file ⟨#[0xff]⟩)) :
    Refusals.nothing.read tree broken = .ok ⟨#[0xff]⟩ := by
  have hread := h.read_scene (by decide) hbroken
  rwa [join_broken] at hread

theorem locateFile_brokenDump :
    tree.locateFile (config.dumpPath broken) = .ok ["Broken.unity.dump", "out"] := by
  have hname : Path.IsName "Broken.unity.dump" := by decide
  exact h.leadsInto_output.locateFile_join hname

theorem locateFile_hallDump :
    tree.locateFile (config.dumpPath hall) = .ok ["Hall.unity.dump", "out"] := by
  have hname : Path.IsName "Hall.unity.dump" := by decide
  exact h.leadsInto_output.locateFile_join hname

/-- Any text can be written in the place of the dump if there is a file or nothing. -/
theorem run_writeText_brokenDump (hdirectory : ¬ tree.IsDirectory ["Broken.unity.dump", "out"])
    (hfull : tree.entry? ["Broken.unity.dump", "out"] ≠ some .full) (text : String) :
    ((Run.writeText (config.dumpPath broken) text : Restricted .nothing _).run tree).1 = .ok () := by
  rw [Run.run_writeText, Refusals.nothing.rewritten_of_writable true text.toUTF8 h.locateFile_brokenDump
    hdirectory hfull rfl rfl]
  rfl

/-- A run keeps what was in the place of the dump. -/
theorem read_brokenDump (hbroken : tree.entry? ["Broken.unity", "Scenes"] = some (.file ⟨#[0xff]⟩))
    {judge : Path → Except DiskError String → OracleAnswer} {summary : RunSummary} {final : FileTree}
    (hrun : (audit config (Oracle.reading judge) : Restricted .nothing _).run tree =
      (.ok summary, final)) :
    final.read (config.dumpPath broken) =
      Refusals.bytesOf (tree.entry? ["Broken.unity.dump", "out"]) := by
  have hmade := made_of_run_audit (h.keepsApart .nothing) hrun
  rw [h.prepared_eq] at hmade
  obtain ⟨error, htext⟩ := exists_sceneText_broken (h.read_broken hbroken)
  obtain ⟨-, -, hleft⟩ := hmade.of_notText (h.broken_mem_scenesIn hbroken) htext
  rw [hleft, Refusals.read_of_located h.locateFile_brokenDump]

end IsLaidOut

theorem hall_mem_scenesIn : hall ∈ config.scenesIn project := by
  have hmem := isLaidOut_project.mem_scenesIn hall_project (by decide)
  rwa [join_hall] at hmem

/-! ### What two runs need not share -/

/-- What is found and read of a scene in two states is the same, and the same texts can be
written in the place of its dump. -/
structure MeetAlike (scene : Path) (refusals : Refusals) (tree : FileTree) (other : Refusals)
    (otherTree : FileTree) : Prop where
  keepsApart : config.KeepsApart refusals tree
  otherKeepsApart : config.KeepsApart other otherTree
  found : scene ∈ config.scenesIn (config.prepared refusals tree)
  otherFound : scene ∈ config.scenesIn (config.prepared other otherTree)
  read : other.read (config.prepared other otherTree) scene =
    refusals.read (config.prepared refusals tree) scene
  write : ∀ text,
    ((Run.writeText (config.dumpPath scene) text : Restricted other _).run
        (config.prepared other otherTree)).1 = .ok () ↔
      ((Run.writeText (config.dumpPath scene) text : Restricted refusals _).run
        (config.prepared refusals tree)).1 = .ok ()

theorem meetAlike_broken : MeetAlike broken .nothing project .nothing projectWithDump := by
  have hlaid := isLaidOut_project
  have hlaidWithDump := isLaidOut_projectWithDump
  refine ⟨hlaid.keepsApart .nothing, hlaidWithDump.keepsApart .nothing, ?_, ?_, ?_, ?_⟩
  · rw [hlaid.prepared_eq]
    exact hlaid.broken_mem_scenesIn broken_project
  · rw [hlaidWithDump.prepared_eq]
    exact hlaidWithDump.broken_mem_scenesIn broken_projectWithDump
  · rw [hlaid.prepared_eq, hlaidWithDump.prepared_eq, hlaid.read_broken broken_project,
      hlaidWithDump.read_broken broken_projectWithDump]
  · intro text
    rw [hlaid.prepared_eq, hlaidWithDump.prepared_eq,
      hlaid.run_writeText_brokenDump (by simp [FileTree.IsDirectory, brokenDump_project])
        (by simp [brokenDump_project]),
      hlaidWithDump.run_writeText_brokenDump (by simp [FileTree.IsDirectory, brokenDump_projectWithDump])
        (by simp [brokenDump_projectWithDump])]

theorem meetAlike_hall (error other : DiskError) :
    MeetAlike hall (hallRefused error) project (hallRefused other) project := by
  have hlaid := isLaidOut_project
  have hwrite : ∀ error text, ((Run.writeText (config.dumpPath hall) text :
      Restricted (hallRefused error) _).run project).1 = .error error := by
    intro error text
    rw [Run.run_writeText, Refusals.rewritten_of_refused hlaid.locateFile_hallDump
      (opening_hallDump error)]
    rfl
  refine ⟨hlaid.keepsApart _, hlaid.keepsApart _, ?_, ?_, ?_, ?_⟩
  · rw [hlaid.prepared_eq]
    exact hall_mem_scenesIn
  · rw [hlaid.prepared_eq]
    exact hall_mem_scenesIn
  · rw [hlaid.prepared_eq, hlaid.prepared_eq]
    rfl
  · intro text
    rw [hlaid.prepared_eq, hlaid.prepared_eq, hwrite, hwrite]
    simp

theorem failure?_hall {error : DiskError} {judge : Path → Except DiskError String → OracleAnswer}
    {summary : RunSummary} {final : FileTree}
    (hrun : (audit config (Oracle.reading judge) : Restricted (hallRefused error) _).run project =
      (.ok summary, final)) :
    summary.failure? hall =
      some ⟨hall, (SceneError.unwritable (config.dumpPath hall) error).message⟩ := by
  have hlaid := isLaidOut_project
  have hmade := made_of_run_audit (hlaid.keepsApart _) hrun
  rw [hlaid.prepared_eq] at hmade
  have hread : (hallRefused error).read project hall = .ok hallText.toUTF8 := by
    have hplain := hlaid.read_scene (by decide) hall_project
    rwa [join_hall] at hplain
  have htext : (hallRefused error).sceneText project hall = .ok hallText := by
    rw [Refusals.sceneText, hread]
    simp only [Text.decode_toUTF8, Except.mapError]
  rw [hmade.failure?_eq hall_mem_scenesIn,
    Refusals.dealt_of_refused htext hlaid.locateFile_hallDump (opening_hallDump error)]
  rfl

/-- Runs that find and read a scene alike, and of which neither or both can write its dump,
need not give one reason if they cannot, and need not leave the same in the place of the
dump: a scene that is no text keeps the dump that an earlier run has left. -/
theorem not_said_alike :
    (MeetAlike hall (hallRefused .permissionDenied) project (hallRefused .noSpace) project ∧
      ∃ summary final otherSummary otherFinal,
        (audit config Oracle.ofDisk : Restricted (hallRefused .permissionDenied) _).run project =
            (.ok summary, final) ∧
          (audit config Oracle.ofDisk : Restricted (hallRefused .noSpace) _).run project =
              (.ok otherSummary, otherFinal) ∧
            otherSummary.failure? hall ≠ summary.failure? hall) ∧
      MeetAlike broken .nothing project .nothing projectWithDump ∧
        ∃ summary final otherSummary otherFinal,
          (audit config Oracle.ofDisk : Restricted .nothing _).run project = (.ok summary, final) ∧
            (audit config Oracle.ofDisk : Restricted .nothing _).run projectWithDump =
                (.ok otherSummary, otherFinal) ∧
              otherFinal.read (config.dumpPath broken) ≠ final.read (config.dumpPath broken) := by
  have hlaid := isLaidOut_project
  have hlaidWithDump := isLaidOut_projectWithDump
  refine ⟨⟨meetAlike_hall _ _, ?_⟩, meetAlike_broken, ?_⟩
  · obtain ⟨summary, final, hrun⟩ :=
      hlaid.exists_summary (hallRefused .permissionDenied) Oracle.judgeOutline (by decide) fun _ => rfl
    obtain ⟨otherSummary, otherFinal, hrunOther⟩ :=
      hlaid.exists_summary (hallRefused .noSpace) Oracle.judgeOutline (by decide) fun _ => rfl
    have hne : otherSummary.failure? hall ≠ summary.failure? hall := by
      rw [failure?_hall hrun, failure?_hall hrunOther]
      decide
    rw [← Oracle.ofDisk_eq_reading] at hrun hrunOther
    exact ⟨summary, final, otherSummary, otherFinal, hrun, hrunOther, hne⟩
  · obtain ⟨summary, final, hrun⟩ := hlaid.exists_summary .nothing Oracle.judgeOutline rfl fun _ => rfl
    obtain ⟨otherSummary, otherFinal, hrunOther⟩ :=
      hlaidWithDump.exists_summary .nothing Oracle.judgeOutline rfl fun _ => rfl
    have hne : otherFinal.read (config.dumpPath broken) ≠ final.read (config.dumpPath broken) := by
      rw [hlaid.read_brokenDump broken_project hrun, brokenDump_project,
        hlaidWithDump.read_brokenDump broken_projectWithDump hrunOther, brokenDump_projectWithDump]
      simp [Refusals.bytesOf]
    rw [← Oracle.ofDisk_eq_reading] at hrun hrunOther
    exact ⟨summary, final, otherSummary, otherFinal, hrun, hrunOther, hne⟩

theorem failure_isolated :
    config.KeepsApart .nothing project ∧ config.KeepsApart .nothing projectWithDump ∧
      ∃ summary final otherSummary otherFinal,
        (audit config (Oracle.reading Oracle.judgeOutline) : Restricted .nothing _).run project =
            (.ok summary, final) ∧
          (audit config (Oracle.reading Oracle.judgeOutline) : Restricted .nothing _).run projectWithDump =
              (.ok otherSummary, otherFinal) ∧
            config.AccountsForAll .nothing (config.prepared .nothing project) summary ∧
              config.SaysAlike .nothing (config.prepared .nothing project) summary final
                (config.prepared .nothing projectWithDump) otherSummary otherFinal broken := by
  have hlaid := isLaidOut_project
  have hlaidWithDump := isLaidOut_projectWithDump
  obtain ⟨summary, final, hrun⟩ := hlaid.exists_summary .nothing Oracle.judgeOutline rfl fun _ => rfl
  obtain ⟨otherSummary, otherFinal, hrunOther⟩ :=
    hlaidWithDump.exists_summary .nothing Oracle.judgeOutline rfl fun _ => rfl
  obtain ⟨haccounts, hothers⟩ := failures_isolated (hlaid.keepsApart .nothing) hrun
  obtain ⟨hkeeps, hkeepsOther, hfound, hfoundOther, hread, hwrite⟩ := meetAlike_broken
  exact ⟨hkeeps, hkeepsOther, summary, final, otherSummary, otherFinal, hrun, hrunOther, haccounts,
    hothers .nothing projectWithDump otherFinal otherSummary hkeepsOther hrunOther broken hfound hfoundOther
      hread fun _ _ => hwrite _⟩

end BrokenScene

end SceneAudit
