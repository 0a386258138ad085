import SceneAudit.Proofs.Run.Inputs

/-!
# The course of a run

Once the output directory is there, a run deals with the scenes, reads the sidecars, asks the
oracle and writes the report (`run_audit_asking`); where the oracle only reads, what it answers
is a function of the tree (`run_audit_of_prepared`).  A run that gives a summary has written its
report, and the summary is put together from what came of the scenes and the sidecars
(`Refusals.of_reported_eq_ok`).
-/

namespace SceneAudit

/-- The summary of what came of the scenes and the sidecars. -/
def Config.summary (config : Config) (sceneOutcomes : List (Path × Except SceneError SceneSummary))
    (sidecars : List Path) (sidecarOutcomes : List (Path × Except DiskError Sidecar))
    (findings : List Finding) : RunSummary where
  scenes := Run.achieved sceneOutcomes
  sceneFailures := Run.failed (fun _ error => error.message) sceneOutcomes
  sidecarsScanned := sidecars.length
  sidecarFailures := Run.failed Sidecar.unreadable sidecarOutcomes
  findings := .tally findings
  outputDir := config.outputDir
  report := config.reportPath

namespace Refusals

variable (refusals : Refusals) (config : Config) (judge : Path → Except DiskError String → OracleAnswer)

/-- The findings on some sidecars, with the sources as the tree has them. -/
def findingsWith (registry : Registry) (sidecars : List (Path × Except DiskError Sidecar))
    (tree : FileTree) : List Finding :=
  crossReference (m := Id) registry.freeze (fun path => judge path (refusals.readText tree path))
    (Run.achieved sidecars)

/-- The end of a run that found this, and the tree afterwards. -/
def reported {α : Type} (findings : List Finding) (result : α) (tree : FileTree) :
    Except RunError α × FileTree :=
  let written := refusals.rewritten (Run.truncates config.reportMode) config.reportPath
    (reportText findings).toUTF8 tree
  ((Run.reportOutcome config.reportPath written.1).map fun _ => result, written.2)

variable {refusals config} {tree after : FileTree}

/-- The end of a run gives a result only if the report was written. -/
theorem rewritten_of_reported_eq_ok {α : Type} {findings : List Finding} {result outcome : α}
    (h : refusals.reported config findings result tree = (.ok outcome, after)) :
    (refusals.rewritten (Run.truncates config.reportMode) config.reportPath
      (reportText findings).toUTF8 tree).1 = .ok (.ok ()) := by
  have houtcome := (Prod.mk.inj h).1
  cases hwritten : Run.reportOutcome config.reportPath
      (refusals.rewritten (Run.truncates config.reportMode) config.reportPath
        (reportText findings).toUTF8 tree).1 with
  | error error =>
      rw [hwritten] at houtcome
      exact absurd houtcome (by simp [Except.map])
  | ok _ => exact Run.reportOutcome_eq_ok_iff.mp hwritten

/-- A report that was written holds the rows behind what the mode kept of it. -/
theorem of_reported_eq_ok {α : Type} {findings : List Finding} {result outcome : α}
    (h : refusals.reported config findings result tree = (.ok outcome, after)) :
    outcome = result ∧ tree.KeptExcept [config.reportPath] after ∧
      after.read config.reportPath =
        .ok (kept (Run.truncates config.reportMode) (tree.read config.reportPath) ++
          (reportText findings).toUTF8) := by
  have hwritten := rewritten_of_reported_eq_ok h
  obtain ⟨houtcome, rfl⟩ := Prod.mk.inj h
  rw [Run.reportOutcome_eq_ok_iff.mpr hwritten] at houtcome
  exact ⟨(Except.ok.inj houtcome).symm, refusals.keptExcept_rewritten _ _ _ tree, read_of_rewritten hwritten⟩

end Refusals

namespace Restricted

variable {refusals : Refusals} {config : Config} {oracle : Path → Restricted refusals OracleAnswer}
  {judge : Path → Except DiskError String → OracleAnswer} {tree after : FileTree}

theorem run_reported {α : Type} (findings : List Finding) (result : α) (tree : FileTree) :
    (Run.writeReport config.reportPath config.reportMode findings >>= fun outcome =>
        match outcome with
        | .error error => pure (.error error)
        | .ok () => pure (.ok result) : Restricted refusals (Except RunError α)).run tree =
      refusals.reported config findings result tree := by
  unfold Refusals.reported
  rw [run_bind, Run.run_writeReport]
  simp only
  cases Run.reportOutcome config.reportPath
    (refusals.rewritten (Run.truncates config.reportMode) config.reportPath
      (reportText findings).toUTF8 tree).1 <;> rfl

theorem run_audit_of_not_prepared {error : DiskError}
    (h : (Disk.createDirectories config.outputDir : Restricted refusals _).run tree =
      (.error error, after)) :
    (audit config oracle : Restricted refusals _).run tree =
      (.error (.disk config.outputDir error), after) := by
  unfold audit
  rw [run_bind, h]
  rfl

/-- The course of a run, with whatever the oracle does when it is asked. -/
theorem run_audit_asking
    (h : (Disk.createDirectories config.outputDir : Restricted refusals _).run tree = (.ok (), after)) :
    (audit config oracle : Restricted refusals _).run tree =
      let dealt := refusals.scenesDealt config (config.scenesIn after) after
      let sidecarOutcomes := refusals.sidecarOutcomes dealt.2 (config.sidecarsIn after)
      let asked := (crossReference dealt.1.registry.freeze oracle (Run.achieved sidecarOutcomes) :
        Restricted refusals _).run dealt.2
      refusals.reported config asked.1
        (config.summary dealt.1.reversedOutcomes.reverse (config.sidecarsIn after) sidecarOutcomes
          asked.1)
        asked.2 := by
  unfold audit sceneFiles metaFiles
  rw [run_bind, h]
  simp only
  rw [run_bind, run_discover, run_bind, run_discover, run_bind, run_scenePhase, run_bind,
    run_sidecarPhase, run_bind]
  exact run_reported _ _ _

theorem run_audit_of_prepared
    (h : (Disk.createDirectories config.outputDir : Restricted refusals _).run tree = (.ok (), after)) :
    (audit config (Oracle.reading judge) : Restricted refusals _).run tree =
      let dealt := refusals.scenesDealt config (config.scenesIn after) after
      let sidecarOutcomes := refusals.sidecarOutcomes dealt.2 (config.sidecarsIn after)
      let findings := refusals.findingsWith judge dealt.1.registry sidecarOutcomes dealt.2
      refusals.reported config findings
        (config.summary dealt.1.reversedOutcomes.reverse (config.sidecarsIn after) sidecarOutcomes
          findings)
        dealt.2 := by
  rw [run_audit_asking h]
  simp only [run_crossReference]
  rfl

/-- A run that gives a summary has made the output directory. -/
theorem prepared_of_run_audit {summary : RunSummary} {final : FileTree}
    (h : (audit config oracle : Restricted refusals _).run tree = (.ok summary, final)) :
    (Disk.createDirectories config.outputDir : Restricted refusals _).run tree =
      (.ok (), config.prepared refusals tree) := by
  rcases hcreate : (Disk.createDirectories config.outputDir : Restricted refusals _).run tree with
    ⟨error | _, after⟩
  · rw [run_audit_of_not_prepared hcreate] at h
    exact absurd (congrArg Prod.fst h) (by simp)
  · rw [Config.prepared, hcreate]

/-- A run that gives a summary has changed nothing but the dumps and the report. -/
theorem keptExcept_of_run_audit {summary : RunSummary} {final : FileTree}
    (h : (audit config (Oracle.reading judge) : Restricted refusals _).run tree = (.ok summary, final)) :
    (config.prepared refusals tree).KeptExcept (config.writtenIn (config.prepared refusals tree)) final := by
  rw [run_audit_of_prepared (prepared_of_run_audit h)] at h
  obtain ⟨-, hreported, -⟩ := Refusals.of_reported_eq_ok h
  have hdumps := Config.keptExcept_scenesDealt config refusals (config.prepared refusals tree)
  refine (hdumps.mono ?_).trans hreported ?_
  · exact fun dump hdump => List.mem_cons_of_mem _ hdump
  · intro path hpath
    rw [List.mem_singleton.mp hpath]
    exact List.mem_cons_self

end Restricted

namespace Config

/-- The tree when the run has been through the scenes. -/
def withDumps (config : Config) (refusals : Refusals) (tree : FileTree) : FileTree :=
  (refusals.scenesDealt config (config.scenesIn (config.prepared refusals tree))
    (config.prepared refusals tree)).2

end Config

/-- Nothing but the output directory and the report can stop a run. -/
theorem exists_summary {refusals : Refusals} {config : Config}
    {judge : Path → Except DiskError String → OracleAnswer} {tree : FileTree} {place : Place}
    (hcreate : (Disk.createDirectories config.outputDir : Restricted refusals _).run tree = (.ok (), tree))
    (hlocated : tree.locateFile config.reportPath = .ok place)
    (hdirectory : tree.entry? place ≠ some .directory) (hfull : tree.entry? place ≠ some .full)
    (hdumps : ∀ dump ∈ config.dumpsIn tree, tree.locateFile dump ≠ .ok place)
    (hopening : refusals.opening place = none) (hwriting : ∀ bytes, refusals.writing place bytes = none) :
    ∃ summary final, (audit config (Oracle.reading judge) : Restricted refusals _).run tree =
      (.ok summary, final) := by
  have hkept := Config.keptExcept_scenesDealt config refusals tree
  have hentry := hkept.entry?_eq place hdumps
  have hwritten := fun bytes => refusals.rewritten_of_writable
    (Run.truncates config.reportMode) bytes (hkept.directories.locateFile_eq_ok_iff.mpr hlocated)
    (hentry ▸ hdirectory) (hentry ▸ hfull) hopening (hwriting bytes)
  rw [Restricted.run_audit_of_prepared hcreate]
  unfold Refusals.reported
  simp only [hwritten]
  exact ⟨_, _, rfl⟩

/-! ## A project with a broken scene -/

namespace BrokenScene

def config : Config where
  outputDir := ⟨"out"⟩
  scenesDir := ⟨"Scenes"⟩
  scriptsDir := ⟨"Scripts"⟩

/-- The tree has the directories of the project, and no report. -/
structure IsLaidOut (tree : FileTree) : Prop where
  wellFormed : tree.WellFormed
  here : tree.here = []
  output : tree.IsDirectory ["out"]
  scenes : tree.IsDirectory ["Scenes"]
  scripts : tree.IsDirectory ["Scripts"]
  report : tree.entry? ["UnusedScripts.csv", "out"] = none

def hallText : String :=
  "--- !u!114 &30\n  m_Script: \x7bfileID: 11500000, guid: 0fe9, type: 3\x7d\n"

/-- A scene that runs the script of a sidecar, and one that is no text. -/
def project : FileTree :=
  ((((((⟨∅, []⟩ : FileTree).insert ["out"] .directory).insert ["Scenes"] .directory).insert
    ["Scripts"] .directory).insert ["Broken.unity", "Scenes"] (.file ⟨#[0xff]⟩)).insert
    ["Hall.unity", "Scenes"] (.file hallText.toUTF8)).insert
    ["Door.cs.meta", "Scripts"] (.file "guid: 0fe9\nMonoImporter:\n".toUTF8)

/-- The dump of the scene that is text cannot be created. -/
def hallRefused (error : DiskError) : Refusals :=
  { Refusals.nothing with
    opening := fun place => if place = ["Hall.unity.dump", "out"] then some error else none }

theorem opening_hallDump (error : DiskError) :
    (hallRefused error).opening ["Hall.unity.dump", "out"] = some error := by
  simp [hallRefused]

theorem isLaidOut_project : IsLaidOut project where
  wellFormed := by
    unfold project
    refine ((((((FileTree.WellFormed.empty.insert _ ?_ ?_ ?_).insert _ ?_ ?_ ?_).insert _ ?_ ?_ ?_).insert
      _ ?_ ?_ ?_).insert _ ?_ ?_ ?_).insert _ ?_ ?_ ?_)
    all_goals first
      | decide
      | exact FileTree.isDirectory_root _
      | simp [FileTree.IsDirectory, FileTree.entry?_insert, FileTree.entry?_empty]
  here := rfl
  output := by simp [project, FileTree.IsDirectory, FileTree.entry?_insert]
  scenes := by simp [project, FileTree.IsDirectory, FileTree.entry?_insert]
  scripts := by simp [project, FileTree.IsDirectory, FileTree.entry?_insert]
  report := by simp [project, FileTree.entry?_insert, FileTree.entry?_empty]

namespace IsLaidOut

variable {refusals : Refusals} {tree : FileTree} (h : IsLaidOut tree)

include h

theorem leadsInto_output : tree.LeadsInto config.outputDir ["out"] := by
  have hnames : FileTree.names config.outputDir = ["out"] := by decide
  have hstart : tree.startOf config.outputDir = [] := h.here
  refine ⟨?_, h.output⟩
  rw [hnames, hstart, FileTree.follow_cons_eq_ok_iff]
  exact ⟨tree.isDirectory_root, rfl⟩

theorem leadsInto_scenes : tree.LeadsInto config.scenesPath ["Scenes"] := by
  have hnames : FileTree.names config.scenesPath = [".", "Scenes"] := by decide
  have hstart : tree.startOf config.scenesPath = [] := h.here
  refine ⟨?_, h.scenes⟩
  rw [hnames, hstart, FileTree.follow_cons_eq_ok_iff, FileTree.follow_cons_eq_ok_iff]
  exact ⟨tree.isDirectory_root, tree.isDirectory_root, rfl⟩

theorem leadsInto_scripts : tree.LeadsInto config.scriptsPath ["Scripts"] := by
  have hnames : FileTree.names config.scriptsPath = [".", "Scripts"] := by decide
  have hstart : tree.startOf config.scriptsPath = [] := h.here
  refine ⟨?_, h.scripts⟩
  rw [hnames, hstart, FileTree.follow_cons_eq_ok_iff, FileTree.follow_cons_eq_ok_iff]
  exact ⟨tree.isDirectory_root, tree.isDirectory_root, rfl⟩

theorem run_createDirectories :
    (Disk.createDirectories config.outputDir : Restricted refusals _).run tree = (.ok (), tree) := by
  apply Restricted.run_createDirectories_of_isDirectory
  exact FileTree.isDirectory_eq_true_iff.mpr
    ⟨["out"], h.leadsInto_output.locate_self (by decide), h.output⟩

theorem prepared_eq : config.prepared refusals tree = tree := by
  rw [Config.prepared, h.run_createDirectories]

/-- No dump goes in the place of the report. -/
theorem locateFile_dump_ne :
    ∀ dump ∈ config.dumpsIn tree, tree.locateFile dump ≠ .ok ["UnusedScripts.csv", "out"] := by
  intro dump hdump hlocated
  obtain ⟨scene, hscene, rfl⟩ := List.mem_map.mp hdump
  have hown := Config.ownDumps h.wellFormed h.leadsInto_output (by decide)
  rw [hown.located scene hscene] at hlocated
  have hname : config.dumpName scene = "UnusedScripts.csv" := (List.cons.inj (Except.ok.inj hlocated)).1
  have hlast := congrArg (fun name => name.toList.getLast?) hname
  simp [Config.dumpName, config] at hlast

theorem locateFile_report : tree.locateFile config.reportPath = .ok ["UnusedScripts.csv", "out"] :=
  h.leadsInto_output.locateFile_join (by decide)

theorem spares (refusals : Refusals) : config.Spares (config.inputsIn refusals) refusals tree := by
  unfold Config.Spares
  rw [h.prepared_eq]
  exact Config.apart_of_outside h.wellFormed h.leadsInto_output (by decide) h.leadsInto_scenes
    h.leadsInto_scripts (by decide) (by decide) (by decide)

theorem exists_summary (refusals : Refusals) (judge : Path → Except DiskError String → OracleAnswer)
    (hopening : refusals.opening ["UnusedScripts.csv", "out"] = none)
    (hwriting : ∀ bytes, refusals.writing ["UnusedScripts.csv", "out"] bytes = none) :
    ∃ summary final, (audit config (Oracle.reading judge) : Restricted refusals _).run tree =
      (.ok summary, final) :=
  SceneAudit.exists_summary h.run_createDirectories h.locateFile_report (by simp [h.report])
    (by simp [h.report]) h.locateFile_dump_ne hopening hwriting

end IsLaidOut

end BrokenScene

end SceneAudit
